import BifrostCore.Callbacks

/-!
# The built-in server does not show payloads

The bodies of the tunnels are captured in the records the built-in server shows. Two runs of
callbacks that differ in the bytes of the data, but not in their number, give the same replies:
what the records have besides the bodies depends on the lengths of the chunks only, and the bodies
are taken out of what is shown.

* `FieldEncoding` — a serializer that gives a record one key per field.
* `payloads` — the coupling of the two runs: records are alike if they are the same without their
  bodies.
* `Plugin.PayloadBlind` — the callbacks of a plugin do not tell payloads of one length apart.
* `payload_noninterference` — the two runs have given the same replies.
-/

namespace Bifrost

open Concurrency Prog

/-! ## The serializer -/

/-- How `serde` encodes the fields of a record, type by type. Only a time stamp can be rejected. -/
structure FieldEncoding where
  number : ℕ → Json
  string : Str → Json
  headers : List (Str × Str) → Json
  body : Option (List UInt8) → Json
  time : SystemTime → Result Json
  endTime : Option SystemTime → Result Json
  duration : Option Duration → Json
  statusCode : Option UInt16 → Json
  statusMessage : Option Str → Json
  state : RequestState → Json

namespace FieldEncoding

/-- `serde_json::to_value` of a record: an object with one key per field. -/
def record (enc : FieldEncoding) (r : NetworkRecord) : Result Json := do
  let startTime ← enc.time r.startTime
  let endTime ← enc.endTime r.endTime
  return .obj [("id", enc.number r.id.toNat), ("client_ip", enc.string r.clientIp),
    ("client_port", enc.number r.clientPort.toNat), ("server_ip", enc.string r.serverIp),
    ("server_port", enc.number r.serverPort.toNat), ("host", enc.string r.host),
    ("url", enc.string r.url), ("path", enc.string r.path),
    ("protocol", enc.string r.protocol), ("method", enc.string r.method),
    ("request_headers", enc.headers r.requestHeaders),
    ("response_headers", enc.headers r.responseHeaders),
    ("request_body", enc.body r.requestBody), ("response_body", enc.body r.responseBody),
    ("request_size", enc.number r.requestSize), ("response_size", enc.number r.responseSize),
    ("start_time", startTime), ("end_time", endTime),
    ("dns_duration", enc.duration r.dnsDuration),
    ("tcp_connect_duration", enc.duration r.tcpConnectDuration),
    ("ttfb_duration", enc.duration r.ttfbDuration),
    ("download_duration", enc.duration r.downloadDuration),
    ("status_code", enc.statusCode r.statusCode),
    ("status_message", enc.statusMessage r.statusMessage), ("state", enc.state r.state)]

end FieldEncoding

/-- The serializer encodes a record field by field. -/
def Externals.OneKeyPerField (X : Externals) : Prop :=
  ∃ enc : FieldEncoding, ∀ r, X.toValue r = enc.record r

/-- A record without the bodies captured in it. -/
def NetworkRecord.redact (r : NetworkRecord) : NetworkRecord :=
  { r with requestBody := none, responseBody := none }

/-- What is shown of a record does not depend on its bodies. -/
theorem showRecord_redact {X : Externals} (hX : X.OneKeyPerField) (r : NetworkRecord) :
    BifrostServerPlugin.showRecord X r = BifrostServerPlugin.showRecord X r.redact := by
  obtain ⟨enc, henc⟩ := hX
  unfold BifrostServerPlugin.showRecord
  rw [henc, henc, FieldEncoding.record, FieldEncoding.record]
  show ((enc.time r.startTime >>= _) >>= _ : Result Json) = ((enc.time r.startTime >>= _) >>= _)
  cases enc.time r.startTime with
  | error e => rfl
  | ok startTime =>
    show ((enc.endTime r.endTime >>= _) >>= _ : Result Json) = ((enc.endTime r.endTime >>= _) >>= _)
    cases enc.endTime r.endTime with
    | error e => rfl
    | ok endTime => rfl

/-! ## The coupling -/

/-- Operations of the two runs on the store: the same one, or updates of the same record that
take records alike to records alike. -/
inductive StoreOp.Alike : StoreOp → StoreOp → Prop
  | same (o : StoreOp) (h : ∀ id f, o ≠ .updateNetworkRecordById id f) : Alike o o
  | update (id : UInt64) {f f' : NetworkRecord → NetworkRecord}
      (h : ∀ r r', r.redact = r'.redact → (f r).redact = (f' r').redact) :
      Alike (.updateNetworkRecordById id f) (.updateNetworkRecordById id f')

/-- The answers to them: the same one, or records alike. -/
inductive StoreOp.AlikeRes : ∀ o o' : StoreOp, o.Res → o'.Res → Prop
  | same {o : StoreOp} (r : o.Res) : AlikeRes o o r r
  | update {id : UInt64} {f f' : NetworkRecord → NetworkRecord} (r : Result Unit) :
      AlikeRes (.updateNetworkRecordById id f) (.updateNetworkRecordById id f') r r
  | records {l l' : List NetworkRecord}
      (h : l.map NetworkRecord.redact = l'.map NetworkRecord.redact) :
      AlikeRes .getNetworkRecords .getNetworkRecords l l'

/-- The operations of a task in the two runs. -/
inductive TaskOp.Alike : TaskOp StoreSig → TaskOp StoreSig → Prop
  | callback (cb : Callback) {o o' : StoreOp} (h : o.Alike o') :
      Alike (.callback cb o) (.callback cb o')
  | store {o o' : StoreOp} (h : o.Alike o') : Alike (.store o) (.store o')
  | other (o : TaskOp StoreSig) (h : o.storeOp = none) : Alike o o

/-- The answers to them. -/
inductive TaskOp.AlikeRes : ∀ o o' : TaskOp StoreSig, o.Res → o'.Res → Prop
  | callback {cb : Callback} {o o' : StoreOp} {r : o.Res} {r' : o'.Res}
      (h : StoreOp.AlikeRes o o' r r') : AlikeRes (.callback cb o) (.callback cb o') r r'
  | store {o o' : StoreOp} {r : o.Res} {r' : o'.Res} (h : StoreOp.AlikeRes o o' r r') :
      AlikeRes (.store o) (.store o') r r'
  | other {o : TaskOp StoreSig} (r : o.Res) (h : o.storeOp = none) : AlikeRes o o r r

/-- The coupling of two runs of plugin code. -/
def payloads : Coupling StoreSig := ⟨StoreOp.Alike, StoreOp.AlikeRes⟩

/-- The coupling of two runs of tasks. -/
def taskPayloads : Coupling (TaskSig StoreSig) := ⟨TaskOp.Alike, TaskOp.AlikeRes⟩

/-- Stores that are the same without the captured bodies. -/
structure Store.Alike (s s' : Store) : Prop where
  /-- The configuration is the same. -/
  config : s.config = s'.config
  /-- The records are the same without their bodies. -/
  networkRecords :
    s.networkRecords.map NetworkRecord.redact = s'.networkRecords.map NetworkRecord.redact
  /-- The statistics are the same. -/
  trafficStats : s.trafficStats = s'.trafficStats

/-- Shared states that are the same without the captured bodies. -/
structure Globals.Alike (g g' : Globals) : Prop where
  /-- The stores are alike. -/
  store : g.store.Alike g'.store
  /-- The ids drawn are the same. -/
  requestIdCounter : g.requestIdCounter = g'.requestIdCounter
  /-- The DNS cache is the same. -/
  dnsCache : g.dnsCache = g'.dnsCache
  /-- The certificate cache is the same. -/
  certCache : g.certCache = g'.certCache

/-- Records alike have the same id. -/
theorem NetworkRecord.id_eq_of_redact {r r' : NetworkRecord} (h : r.redact = r'.redact) :
    r.id = r'.id := by
  have hid := congrArg NetworkRecord.id h
  exact hid

theorem Store.Alike.refl (s : Store) : s.Alike s := ⟨rfl, rfl, rfl⟩

theorem Globals.Alike.refl (g : Globals) : g.Alike g := ⟨.refl _, rfl, rfl, rfl⟩

section Perform

variable {s s' : Store}

/-- Adding one record to stores alike. -/
theorem Store.Alike.addNetworkRecord (h : s.Alike s') (record : NetworkRecord) :
    (s.addNetworkRecord record).Alike (s'.addNetworkRecord record) := by
  -- The eviction depends on the number of records only.
  have hlen : s.networkRecords.length = s'.networkRecords.length := by
    simpa using congrArg List.length h.networkRecords
  refine ⟨h.config, ?_, h.trafficStats⟩
  unfold Store.addNetworkRecord
  rw [hlen, h.config]
  split
  · simp [List.map_tail, h.networkRecords]
  · simp [h.networkRecords]

/-- Updating the same record of stores alike. -/
theorem Store.Alike.update (h : s.Alike s') (id : UInt64) {f f' : NetworkRecord → NetworkRecord}
    (hf : ∀ r r', r.redact = r'.redact → (f r).redact = (f' r').redact) :
    (s.updateNetworkRecordById id f).1 = (s'.updateNetworkRecordById id f').1 ∧
      (s.updateNetworkRecordById id f).2.Alike (s'.updateNetworkRecordById id f').2 := by
  have hmodify := BoundedLog.map_modifyFirst_congr
    (p := fun r : NetworkRecord => decide (r.id = id))
    (fun r r' hr => by rw [NetworkRecord.id_eq_of_redact hr]) hf h.networkRecords
  unfold Store.updateNetworkRecordById
  -- Either both runs have such a record, or neither has.
  cases hx : BoundedLog.modifyFirst (fun r => r.id = id) f s.networkRecords with
  | none =>
    rw [hx, Option.map_none, eq_comm, Option.map_eq_none_iff] at hmodify
    rw [hmodify]
    exact ⟨rfl, h⟩
  | some records =>
    rw [hx, Option.map_some, eq_comm, Option.map_eq_some_iff] at hmodify
    obtain ⟨records', hx', hrecords⟩ := hmodify
    rw [hx']
    exact ⟨rfl, h.config, hrecords.symm, h.trafficStats⟩

/-- Operations alike on stores alike have answers alike, and leave stores alike. -/
theorem Store.Alike.perform (h : s.Alike s') (clock : SystemTime) {o o' : StoreOp}
    (ho : o.Alike o') :
    StoreOp.AlikeRes o o' (s.perform clock o).1 (s'.perform clock o').1 ∧
      (s.perform clock o).2.Alike (s'.perform clock o').2 := by
  cases ho with
  | update id hf =>
    obtain ⟨hres, hstore⟩ := h.update id hf
    refine ⟨?_, hstore⟩
    simp only [Store.perform, hres]
    exact .update _
  | same o hne =>
    -- Of the other operations only `get_network_records` reads something that may differ.
    have hstats : ∀ c, s.trafficStats.value c = s'.trafficStats.value c := by simp [h.trafficStats]
    cases o with
    | updateNetworkRecordById id f => exact absurd rfl (hne id f)
    | getNetworkRecords => exact ⟨.records h.networkRecords, h⟩
    | addNetworkRecord record =>
      exact ⟨.same (o := .addNetworkRecord record) (), h.addNetworkRecord record⟩
    | getConfig =>
      simp only [Store.perform, h.config]
      exact ⟨.same _, h⟩
    | load c =>
      simp only [Store.perform, hstats]
      exact ⟨.same _, h⟩
    | now => exact ⟨.same _, h⟩
    | store c v =>
      simp only [Store.perform, h.trafficStats]
      exact ⟨.same _, h.config, h.networkRecords, rfl⟩
    | fetchAdd c n =>
      simp only [Store.perform, h.trafficStats]
      exact ⟨.same _, h.config, h.networkRecords, rfl⟩
    | fetchSub c n =>
      simp only [Store.perform, h.trafficStats]
      exact ⟨.same _, h.config, h.networkRecords, rfl⟩

/-- The same for the operations of tasks, under the same choice of the environment. -/
theorem Globals.Alike.perform {g g' : Globals} (h : g.Alike g') (ω : Oracle)
    {o o' : TaskOp StoreSig} (ho : o.Alike o') :
    Option.Rel (fun x x' => TaskOp.AlikeRes o o' x.1 x'.1 ∧ x.2.Alike x'.2)
      (Bifrost.perform ω o g) (Bifrost.perform ω o' g') := by
  cases ho with
  | callback cb ho =>
    obtain ⟨hres, hstore⟩ := h.store.perform ω.storeClock ho
    exact .some ⟨.callback hres, hstore, h.requestIdCounter, h.dnsCache, h.certCache⟩
  | store ho =>
    obtain ⟨hres, hstore⟩ := h.store.perform ω.storeClock ho
    exact .some ⟨.store hres, hstore, h.requestIdCounter, h.dnsCache, h.certCache⟩
  | other o hnone =>
    -- Such an operation reads and writes what is the same in both runs.
    obtain ⟨store, counter, dns, certs⟩ := g
    obtain ⟨store', counter', dns', certs'⟩ := g'
    obtain ⟨hstore, hcounter, hdns, hcerts⟩ := h
    obtain rfl : counter = counter' := hcounter
    obtain rfl : dns = dns' := hdns
    obtain rfl : certs = certs' := hcerts
    cases o with
    | callback | store => cases hnone
    | panic | outOfFuel => exact .none
    | _ => exact .some ⟨.other _ rfl, hstore, rfl, rfl, rfl⟩

end Perform

/-! ## The plugins -/

/-- A program coupled with itself: it does not tell payloads apart. -/
def Blind {α : Type} (p : Prog StoreSig α) : Prop := Coupled payloads Eq p p

section Blind

variable {α β : Type}

theorem blind_ret (a : α) : Blind (.ret a) := rfl

/-- Sequencing, for the values the first program returns. -/
theorem Coupled.bind_eq {γ δ : Type} {post : γ → δ → Prop} {p p' : Prog StoreSig α}
    {f : α → Prog StoreSig γ} {f' : α → Prog StoreSig δ} (h : Coupled payloads Eq p p')
    (hf : ∀ a, Coupled payloads post (f a) (f' a)) :
    Coupled payloads post (p.bind f) (p'.bind f') := by
  apply h.bind
  rintro a _ rfl
  exact hf a

theorem Blind.bind {p : Prog StoreSig α} {f : α → Prog StoreSig β} (h : Blind p)
    (hf : ∀ a, Blind (f a)) : Blind (p.bind f) :=
  Coupled.bind_eq h hf

/-- The operation neither shows nor updates records, so it is answered alike in both runs. -/
def StoreOp.IsPlain : StoreOp → Prop
  | .getNetworkRecords | .updateNetworkRecordById _ _ => False
  | _ => True

theorem blind_of_plain {p : Prog StoreSig α} (h : p.Only StoreOp.IsPlain fun _ => True) :
    Blind p := by
  refine (h.coupled_self (R := payloads) (fun o ho => ?_) ?_).mono fun _ _ h => h.1
  · refine .same o ?_
    rintro id f rfl
    exact ho
  · intro o r r' ho hr
    cases hr with
    | same => rfl
    | update => rfl
    | records => exact absurd ho id

/-- One operation that neither shows nor updates records. -/
theorem Blind.call {o : StoreOp} (ho : o.IsPlain) : Blind (.call (S := StoreSig) o) :=
  blind_of_plain ⟨ho, fun _ => trivial⟩

/-- Such an operation, and what comes after it. -/
theorem Blind.act {o : StoreOp} {k : o.Res → Prog StoreSig α} (ho : o.IsPlain)
    (hk : ∀ r, Blind (k r)) : Blind (.act (S := StoreSig) o k) :=
  (Blind.call ho).bind hk

/-- Updates alike of the same record. -/
theorem update_coupled (id : UInt64) {f f' : NetworkRecord → NetworkRecord}
    (hf : ∀ r r', r.redact = r'.redact → (f r).redact = (f' r').redact) :
    Coupled payloads Eq (Global.updateNetworkRecordById id f)
      (Global.updateNetworkRecordById id f') := by
  refine ⟨.update id hf, fun r r' hr => ?_⟩
  cases hr <;> rfl

end Blind

/-- The callbacks of a plugin do not tell payloads of one length apart. -/
structure Plugin.PayloadBlind (plugin : Plugin StoreSig) : Prop where
  handleRequest : ∀ id req, Blind (plugin.handleRequest id req)
  handleResponse : ∀ id req resp, Blind (plugin.handleResponse id req resp)
  handleConnect : ∀ id req, Blind (plugin.handleConnect id req)
  handleConnectClose : ∀ id target, Blind (plugin.handleConnectClose id target)
  /-- The data only counts by its length. -/
  handleData : ∀ id direction data data', data.length = data'.length →
    Coupled payloads Eq (plugin.handleData id direction data)
      (plugin.handleData id direction data')

namespace TrafficStatsPlugin

theorem countRequest_blind : Blind countRequest :=
  .act trivial fun _ => .act trivial fun _ => .act trivial fun _ => blind_ret _

theorem plugin_blind : plugin.PayloadBlind where
  handleRequest _ _ := countRequest_blind.bind fun _ => blind_ret _
  handleResponse _ _ _ := .act trivial fun _ => blind_ret _
  handleConnect _ _ := countRequest_blind.bind fun _ => blind_ret _
  handleConnectClose _ _ := .act trivial fun _ => blind_ret _
  handleData id direction data data' hlen := by
    simp only [plugin, handleData, hlen]
    exact Blind.act trivial fun _ => blind_ret _

end TrafficStatsPlugin

namespace NetStorage

theorem markSending_redact {r r' : NetworkRecord} (h : r.redact = r'.redact) :
    (markSending r).redact = (markSending r').redact := by
  have : ∀ r, (markSending r).redact = markSending r.redact := fun _ => rfl
  rw [this, this, h]

theorem markClosed_redact {r r' : NetworkRecord} (h : r.redact = r'.redact) :
    (markClosed r).redact = (markClosed r').redact := by
  have : ∀ r, (markClosed r).redact = markClosed r.redact := fun r => by
    have hstate : r.redact.state = r.state := rfl
    unfold markClosed
    rw [hstate]
    split <;> rfl
  rw [this, this, h]

theorem recordResponse_redact (X : Externals) (resp : Response) (endTime : SystemTime)
    {r r' : NetworkRecord} (h : r.redact = r'.redact) :
    (recordResponse X resp endTime r).redact = (recordResponse X resp endTime r').redact := by
  have : ∀ r, (recordResponse X resp endTime r).redact =
      recordResponse X resp endTime r.redact := fun _ => rfl
  rw [this, this, h]

/-- Without the bodies, what is recorded of a chunk is its length. -/
theorem recordData_redact (direction : DataDirection) {data data' : List UInt8}
    (hlen : data.length = data'.length) {r r' : NetworkRecord} (h : r.redact = r'.redact) :
    (recordData direction data r).redact = (recordData direction data' r').redact := by
  have : ∀ r data, (recordData direction data r).redact =
      (recordData direction (.replicate data.length 0) r.redact).redact := fun r data => by
    cases direction <;> simp [recordData, NetworkRecord.redact]
  rw [this r, this r', h, hlen]

theorem plugin_blind (X : Externals) : (plugin X).PayloadBlind where
  handleRequest id req := by
    refine (Blind.call (o := .now) trivial).bind fun startTime => ?_
    refine (Blind.call (o := .addNetworkRecord _) trivial).bind fun _ => ?_
    exact Coupled.bind_eq (update_coupled id fun _ _ => markSending_redact) fun _ => rfl
  handleResponse id req resp := by
    refine (Blind.call (o := .now) trivial).bind fun endTime => ?_
    exact Coupled.bind_eq (update_coupled id fun _ _ => recordResponse_redact X resp endTime)
      fun _ => rfl
  handleConnect _ _ := rfl
  handleConnectClose id _ :=
    Coupled.bind_eq (update_coupled id fun _ _ => markClosed_redact) fun _ => rfl
  handleData id direction _ _ hlen :=
    Coupled.bind_eq (update_coupled id fun _ _ => recordData_redact direction hlen) fun _ => rfl

end NetStorage

namespace BifrostServerPlugin

theorem handleTrafficStats_blind (X : Externals) : Blind (handleTrafficStats X) := by
  refine blind_of_plain ?_
  -- Ten counters, and six of them a second time.
  iterate 16 refine ⟨trivial, fun _ => ?_⟩
  trivial

variable {X : Externals} (hX : X.OneKeyPerField)

include hX

/-- Records alike are shown alike. -/
theorem mapM_showRecord {l l' : List NetworkRecord}
    (h : l.map NetworkRecord.redact = l'.map NetworkRecord.redact) :
    l.mapM (showRecord X) = l'.mapM (showRecord X) := by
  have : ∀ l : List NetworkRecord,
      l.mapM (showRecord X) = (l.map NetworkRecord.redact).mapM (showRecord X) := fun l => by
    rw [List.mapM_map]
    exact congrArg (l.mapM ·) (funext (showRecord_redact hX))
  rw [this, h, ← this]

/-- The latest records of stores alike are shown alike. -/
theorem handleGetRecord_blind : Blind (handleGetRecord X) := by
  refine ⟨.same _ (by simp), fun l l' h => ?_⟩
  have hmap : l.map NetworkRecord.redact = l'.map NetworkRecord.redact := by
    cases h with
    | same => rfl
    | records h => exact h
  have hlatest : (l.reverse.take 10).map NetworkRecord.redact =
      (l'.reverse.take 10).map NetworkRecord.redact := by
    simp only [List.map_take, List.map_reverse, hmap]
  exact congrArg (·.map Json.arr) (mapM_showRecord hX hlatest)

theorem hostServer_blind (req : Request) : Blind (hostServer X req) := by
  unfold hostServer
  split_ifs
  · exact blind_ret _
  · exact blind_ret _
  · exact .act trivial fun _ => blind_ret _
  · exact (handleGetRecord_blind hX).bind fun _ => blind_ret _
  · exact (handleTrafficStats_blind X).bind fun _ => blind_ret _
  · exact blind_ret _

theorem plugin_blind : (plugin X).PayloadBlind where
  handleRequest id req := by
    refine (Blind.call (o := .getConfig) trivial).bind fun config => ?_
    split
    · refine (hostServer_blind hX req).bind fun result => ?_
      cases result <;> exact blind_ret _
    · exact blind_ret _
  handleResponse id req resp := by
    refine (Blind.call (o := .getConfig) trivial).bind fun config => ?_
    split <;> exact blind_ret _
  handleConnect _ _ := blind_ret _
  handleConnectClose _ _ := blind_ret _
  handleData _ _ _ _ _ := blind_ret _

end BifrostServerPlugin

/-! ## The manager -/

namespace PluginManager

variable {plugins : List (Plugin StoreSig)} (h : ∀ plugin ∈ plugins, plugin.PayloadBlind)

include h

theorem handleRequestLoop_blind (id : UInt64) (req : Request) :
    Blind (handleRequestLoop id req plugins) := by
  induction plugins generalizing req with
  | nil => exact blind_ret _
  | cons plugin rest ih =>
    obtain ⟨hplugin, hrest⟩ := List.forall_mem_cons.mp h
    refine (hplugin.handleRequest id req).bind ?_
    rintro ⟨e | ⟨_ | _, response⟩, req'⟩
    · exact blind_ret _
    · exact blind_ret _
    · exact ih hrest req'

theorem handleResponseLoop_blind (id : UInt64) (req : Request) (resp : Response) :
    Blind (handleResponseLoop id req resp plugins) := by
  induction plugins generalizing resp with
  | nil => exact blind_ret _
  | cons plugin rest ih =>
    obtain ⟨hplugin, hrest⟩ := List.forall_mem_cons.mp h
    refine (hplugin.handleResponse id req resp).bind ?_
    rintro ⟨e | _ | _, resp'⟩
    · exact blind_ret _
    · exact blind_ret _
    · exact ih hrest resp'

theorem handleConnectLoop_blind (id : UInt64) (req : Request) :
    Blind (handleConnectLoop id req plugins) := by
  induction plugins with
  | nil => exact blind_ret _
  | cons plugin rest ih =>
    obtain ⟨hplugin, hrest⟩ := List.forall_mem_cons.mp h
    refine (hplugin.handleConnect id req).bind ?_
    rintro (e | ⟨_ | _, response⟩)
    · exact blind_ret _
    · exact blind_ret _
    · exact ih hrest

theorem handleConnectCloseLoop_blind (id : UInt64) (target : Str) :
    Blind (handleConnectCloseLoop id target plugins) := by
  induction plugins with
  | nil => exact blind_ret _
  | cons plugin rest ih =>
    obtain ⟨hplugin, hrest⟩ := List.forall_mem_cons.mp h
    refine (hplugin.handleConnectClose id target).bind ?_
    rintro (e | _ | _)
    · exact blind_ret _
    · exact blind_ret _
    · exact ih hrest

theorem handleDataLoop_coupled (id : UInt64) (direction : DataDirection) {data data' : List UInt8}
    (hlen : data.length = data'.length) :
    Coupled payloads Eq (handleDataLoop id direction data plugins)
      (handleDataLoop id direction data' plugins) := by
  induction plugins with
  | nil => exact blind_ret _
  | cons plugin rest ih =>
    obtain ⟨hplugin, hrest⟩ := List.forall_mem_cons.mp h
    refine Coupled.bind_eq (hplugin.handleData id direction data data' hlen) ?_
    rintro (e | _)
    · exact blind_ret _
    · exact ih hrest

end PluginManager

theorem registeredPlugins_blind {X : Externals} (hX : X.OneKeyPerField) :
    ∀ plugin ∈ (registeredPlugins X).plugins, plugin.PayloadBlind := by
  intro plugin hplugin
  have hmem : plugin = BifrostServerPlugin.plugin X ∨ plugin = TrafficStatsPlugin.plugin ∨
      plugin = NetStorage.plugin X := by
    simpa [registeredPlugins, PluginManager.registerPlugin, PluginManager.empty] using hplugin
  rcases hmem with rfl | rfl | rfl
  · exact BifrostServerPlugin.plugin_blind hX
  · exact TrafficStatsPlugin.plugin_blind
  · exact NetStorage.plugin_blind X

/-! ## Two runs -/

/-- Invocations of the two runs: the same one, or `handle_data` with data of the same length. -/
inductive Invocation.SameShape : Invocation → Invocation → Prop
  | same (call : Invocation) : SameShape call call
  | handleData (requestId : UInt64) (direction : DataDirection) {data data' : List UInt8}
      (h : data.length = data'.length) :
      SameShape (.handleData requestId direction data) (.handleData requestId direction data')

/-- Plugin code of the two runs, inside a callback. -/
theorem callback_coupled {α β : Type} {post : α → β → Prop} (cb : Callback) {p : Prog StoreSig α}
    {p' : Prog StoreSig β} (h : Coupled payloads post p p') :
    Coupled taskPayloads post (Task.callback cb p) (Task.callback cb p') := by
  refine h.embed _ _ (fun o o' ho => .callback cb ho) ?_
  intro o o' r r' _ hr
  cases hr with
  | callback h => exact h
  | other r hnone => cases hnone

/-- Code that uses the store outside any callback, in the two runs. -/
theorem direct_coupled {α β : Type} {post : α → β → Prop} {p : Prog StoreSig α}
    {p' : Prog StoreSig β} (h : Coupled payloads post p p') :
    Coupled taskPayloads post (Task.direct p) (Task.direct p') := by
  refine h.embed _ _ (fun o o' ho => .store ho) ?_
  intro o o' r r' _ hr
  cases hr with
  | store h => exact h
  | other r hnone => cases hnone

theorem raisePeak_blind (peak : Counter) (value : UInt64) :
    Blind (TrafficStatsPlugin.raisePeak peak value) := by
  refine (Blind.call (o := .load peak) trivial).bind fun currentMax => ?_
  split
  · exact .call trivial
  · exact blind_ret _

theorem sample_blind (lastBytesIn lastBytesOut : UInt64) :
    Blind (TrafficStatsPlugin.sample lastBytesIn lastBytesOut) := by
  refine .act trivial fun bytesIn => .act trivial fun bytesOut => ?_
  refine .act trivial fun _ => .act trivial fun _ => ?_
  refine (raisePeak_blind _ _).bind fun _ => (raisePeak_blind _ _).bind fun _ => ?_
  refine .act trivial fun qps => .act trivial fun _ => .act trivial fun _ => ?_
  exact (raisePeak_blind _ _).bind fun _ => blind_ret _

/-- The sampler does not look at records. -/
theorem samplerLoop_coupled (fuel : ℕ) (lastBytesIn lastBytesOut : UInt64) :
    Coupled taskPayloads Eq (samplerLoop fuel lastBytesIn lastBytesOut)
      (samplerLoop fuel lastBytesIn lastBytesOut) := by
  induction fuel generalizing lastBytesIn lastBytesOut with
  | zero => exact ⟨.other _ rfl, fun r => nomatch r⟩
  | succ fuel ih =>
    refine (direct_coupled (sample_blind lastBytesIn lastBytesOut)).bind ?_
    rintro ⟨bytesIn, bytesOut⟩ _ rfl
    exact ⟨.other _ rfl, fun _ _ _ => ih bytesIn bytesOut⟩

/-- A callback whose plugin code is coupled is answered in the same way in both runs. -/
theorem reply_coupled {α : Type} {cb : Callback} {p p' : Prog StoreSig α} (f : α → Reply)
    (h : Coupled payloads Eq p p') :
    Coupled taskPayloads Eq ((Task.callback cb p).bind fun a => .ret (f a))
      ((Task.callback cb p').bind fun a => .ret (f a)) := by
  apply (callback_coupled cb h).bind
  rintro a _ rfl
  rfl

theorem Invocation.program_coupled {X : Externals} (hX : X.OneKeyPerField)
    {call call' : Invocation} (h : call.SameShape call') :
    Coupled taskPayloads Eq (call.program X) (call'.program X) := by
  have hplugins := registeredPlugins_blind hX
  cases h with
  | handleData id direction hlen =>
    exact reply_coupled _ (PluginManager.handleDataLoop_coupled hplugins id direction hlen)
  | same =>
    -- The same call in both runs is coupled with itself.
    cases call with
    | handleRequest id req =>
      exact reply_coupled (fun x => .handleRequest x.1 x.2)
        (PluginManager.handleRequestLoop_blind hplugins id req)
    | handleResponse id req resp =>
      exact reply_coupled (fun x => .handleResponse x.1 x.2)
        (PluginManager.handleResponseLoop_blind hplugins id req resp)
    | handleConnect id req =>
      exact reply_coupled _ (PluginManager.handleConnectLoop_blind hplugins id req)
    | handleConnectClose id target =>
      exact reply_coupled _ (PluginManager.handleConnectCloseLoop_blind hplugins id target)
    | handleData id direction data =>
      exact reply_coupled _ (PluginManager.handleDataLoop_coupled hplugins id direction rfl)
    | sampler fuel =>
      apply (samplerLoop_coupled fuel 0 0).bind
      rintro _ _ rfl
      rfl

/-- The reply of a call, once it has come. -/
def CallbackTask.reply (t : CallbackTask) : Option Reply :=
  match t.prog with
  | .ret reply => some reply
  | .act _ _ => none

/-- Two runs of callbacks that differ only in the bytes of the chunks given to `handle_data`, and
not in their number, have given the same replies, call by call. -/
theorem payload_noninterference (X : Externals) (hX : X.OneKeyPerField) (config : Config)
    (now : UInt64) (moves moves' : List (Move Invocation Oracle))
    (hmoves : List.Forall₂ (Move.Coupled Invocation.SameShape Eq) moves moves') :
    (runCallbacks X config now moves).threads.map CallbackTask.reply =
      (runCallbacks X config now moves').threads.map CallbackTask.reply := by
  have h : Pool.Coupled taskPayloads Globals.Alike Invocation.SameShape Eq
      (runCallbacks X config now moves) (runCallbacks X config now moves') := by
    refine System.run_coupled (fun _ _ hcall => Invocation.program_coupled hX hcall) ?_
      (.refl _) hmoves
    rintro w _ o o' g g' rfl ho hg
    exact hg.perform w ho
  -- Of two coupled tasks either both have returned, with the same reply, or neither has.
  have hreply : ∀ t t' : CallbackTask, Thread.Coupled taskPayloads Invocation.SameShape Eq t t' →
      t.reply = t'.reply := by
    rintro ⟨_, _, p⟩ ⟨_, _, p'⟩ ⟨-, hp⟩
    cases p with
    | ret a =>
      obtain ⟨b, rfl, rfl⟩ := hp.ret_inv
      rfl
    | act o k =>
      obtain ⟨o', k', rfl, -⟩ := hp.act_inv
      rfl
  rw [← List.forall₂_eq_eq_eq, List.forall₂_map_left_iff, List.forall₂_map_right_iff]
  exact h.threads.imp hreply

namespace Concrete

/-- An encoding of the fields of a record. -/
def encoding : FieldEncoding where
  number := .num
  string := .str
  headers fields := .arr (fields.map fun field => .arr [.str field.1, .str field.2])
  body bytes := (bytes.map fun bytes => Json.arr (bytes.map fun b => .num b.toNat)).getD .null
  time t := if 0 ≤ t then .ok (.num t.toNat) else .error "SystemTime must be later than UNIX_EPOCH"
  endTime t := .ok ((t.map fun t => Json.num t.toNat).getD .null)
  duration d := (d.map Json.num).getD .null
  statusCode status := (status.map fun s => Json.num s.toNat).getD .null
  statusMessage message := (message.map Json.str).getD .null
  state _ := .str "state"

/-- Foreign functions with a serializer. -/
def serializing : Externals := { externals with toValue := encoding.record }

/-- `GET http://127.0.0.1:8080/get_record`. -/
def recordsRequest : Request :=
  { request with uri := { uri with
      rawAuthority := "127.0.0.1:8080"
      rawPath := "/get_record"
      authority_of_scheme := by decide
      authority_chars := by decide
      path_shape := by decide } }

/-- A request is recorded, a chunk of its data is handled, and then the records are asked for. -/
def chunkMoves (data : List UInt8) : List (Move Invocation Oracle) :=
  .spawn (.handleRequest 0 request) :: .spawn (.handleData 0 .upstream data) ::
    .spawn (.handleRequest 1 recordsRequest) ::
      (.replicate 7 (.step 0 (oracle .timeout)) ++ .replicate 2 (.step 1 (oracle .timeout)) ++
        .replicate 2 (.step 2 (oracle .timeout)))

theorem chunkMoves_coupled {data data' : List UInt8} (h : data.length = data'.length) :
    List.Forall₂ (Move.Coupled Invocation.SameShape Eq) (chunkMoves data) (chunkMoves data') := by
  refine .cons (.spawn (.same _)) (.cons (.spawn (.handleData 0 .upstream h))
    (.cons (.spawn (.same _)) (List.forall₂_same.mpr fun m _ => ?_)))
  cases m with
  | spawn call => exact .spawn (.same call)
  | step i w => exact .step i rfl

/-- The records after the run, as far as their request bodies go. -/
def chunkBodies (data : List UInt8) : List (Option (List UInt8)) :=
  (runCallbacks serializing config 0
    (chunkMoves data)).state.store.networkRecords.map (·.requestBody)

end Concrete

/-- Two different bytes are captured, and the records are shown alike. -/
theorem payload_noninterference_one_byte :
    (Concrete.chunkBodies [1] = [some [1]] ∧ Concrete.chunkBodies [2] = [some [2]]) ∧
      (runCallbacks Concrete.serializing Concrete.config 0
        (Concrete.chunkMoves [1])).threads.map CallbackTask.reply =
      (runCallbacks Concrete.serializing Concrete.config 0
        (Concrete.chunkMoves [2])).threads.map CallbackTask.reply :=
  ⟨by decide +kernel, payload_noninterference _ ⟨Concrete.encoding, fun _ => rfl⟩ _ _ _ _
    (Concrete.chunkMoves_coupled rfl)⟩

end Bifrost
