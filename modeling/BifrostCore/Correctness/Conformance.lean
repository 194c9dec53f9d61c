import BifrostCore.Correctness.Ledger

/-!
# The tasks of the proxy follow the ledger

The faithful programs of the interceptors and plugins conform to the `ledger` protocol, function by
function: one lemma says what a function performs, and its callers cite it.
-/

namespace Bifrost

open Concurrency Prog

/-! ## Code outside the accounts -/

section Quiet

variable (X : Externals)

theorem unwrap_quiet {α : Type} (x : Option α) :
    (Task.unwrap x : Prog (TaskSig StoreSig) α).Only TaskOp.Quiet fun _ => True := by
  cases x with
  | some a => trivial
  | none => exact ⟨trivial, fun r => nomatch r⟩

/-- The operations of a DNS lookup. -/
def TaskOp.IsLookup {π : Sig} : TaskOp π → Prop
  | .now | .dnsCacheGet _ | .dnsCacheInsert _ _ _ | .lookupHost _ _ | .panic => True
  | _ => False

theorem TaskOp.IsLookup.quiet {o : TaskOp StoreSig} (h : o.IsLookup) : o.Quiet := by
  cases o <;> trivial

theorem unwrap_isLookup {π : Sig} {α : Type} (x : Option α) :
    (Task.unwrap x : Prog (TaskSig π) α).Only TaskOp.IsLookup fun _ => True := by
  cases x with
  | some a => trivial
  | none => exact ⟨trivial, fun r => nomatch r⟩

theorem resolveHost_isLookup {π : Sig} (host : Str) (currentTime : UInt64) :
    (HttpInterceptor.resolveHost (π := π) host currentTime).Only TaskOp.IsLookup
      fun _ => True := by
  refine (unwrap_isLookup _).bind fun name _ => (unwrap_isLookup _).bind fun port _ => ?_
  refine ⟨trivial, fun r => ?_⟩
  cases r with
  | error e => trivial
  | ok addrs => exact ⟨trivial, fun _ => trivial⟩

theorem dnsLookup_isLookup {π : Sig} (host : Str) :
    (HttpInterceptor.dnsLookup (π := π) X host).Only TaskOp.IsLookup fun _ => True := by
  refine ⟨trivial, fun time =>
    (unwrap_isLookup _).bind fun currentTime _ => ⟨trivial, fun r => ?_⟩⟩
  cases r with
  | none => exact resolveHost_isLookup host currentTime
  | some entry =>
    refine (unwrap_isLookup _).bind fun age _ => ?_
    show Only _ (if _ then _ else _) _
    split
    · trivial
    · exact resolveHost_isLookup host currentTime

theorem handleWebsocket_quiet (req : Request) :
    (Websocket.handleWebsocket (π := StoreSig) X req).Only TaskOp.Quiet fun _ => True := by
  refine (unwrap_quiet _).bind fun request _ => ⟨trivial, fun r => ?_⟩
  cases r <;> trivial

theorem generateCert_quiet (domain : Str) :
    (HttpsInterceptor.generateCert (π := StoreSig) domain).Only TaskOp.Quiet fun _ => True := by
  refine ⟨trivial, fun config => ⟨trivial, fun certPem => ?_⟩⟩
  cases certPem with
  | error e => trivial
  | ok certPem =>
    refine ⟨trivial, fun keyPem => ?_⟩
    cases keyPem with
    | error e => trivial
    | ok keyPem =>
      refine (unwrap_quiet _).bind fun cnValue _ => ⟨trivial, fun cert => ?_⟩
      cases cert with
      | error e => trivial
      | ok cert => exact ⟨trivial, fun _ => trivial⟩

theorem generateAndInsert_quiet (domain : Str) :
    (HttpsInterceptor.generateAndInsert (π := StoreSig) domain).Only TaskOp.Quiet
      fun _ => True := by
  refine (generateCert_quiet domain).bind fun cert _ => ?_
  cases cert with
  | error e => trivial
  | ok cert => exact ⟨trivial, fun _ => trivial⟩

theorem getOrGenerateCert_quiet (domain : Str) :
    (HttpsInterceptor.getOrGenerateCert (π := StoreSig) domain).Only TaskOp.Quiet
      fun _ => True := by
  refine ⟨trivial, fun cached => ?_⟩
  cases cached with
  | none => exact generateAndInsert_quiet domain
  | some cached =>
    refine ⟨trivial, fun time => ?_⟩
    show Only _ (if _ then _ else _) _
    split
    · trivial
    · exact generateAndInsert_quiet domain

end Quiet

namespace Ledger

/-- Where a task may stand when it has returned. -/
def Ended : Phase → Prop
  | .idle _ | .drawn _ _ | .answered _ | .closed _ | .sampling => True
  | _ => False

theorem quiet_at_idle {α : Type} {p : Prog (TaskSig StoreSig) α} {post : α → Prop}
    {flow : Flow} (h : p.Only TaskOp.Quiet post) :
    p.Follows ledger (.idle flow) fun q a => q = .idle flow ∧ post a :=
  h.follows (fun _ ho => .quiet_idle ho) fun _ r ho => next_quiet_idle ho r

theorem quiet_at_drawn {α : Type} {p : Prog (TaskSig StoreSig) α} {post : α → Prop}
    {flow : Flow} {id : UInt64} (h : p.Only TaskOp.Quiet post) :
    p.Follows ledger (.drawn flow id) fun q a => q = .drawn flow id ∧ post a :=
  h.follows (fun _ ho => .quiet_drawn ho) fun _ r ho => next_quiet_drawn ho r

/-! ## The plugins -/

variable (X : Externals)

theorem hostServer_readOnly (req : Request) :
    (BifrostServerPlugin.hostServer X req).Only StoreOp.ReadOnly
      fun r => ∃ response, r = .ok response := by
  unfold BifrostServerPlugin.hostServer
  split_ifs
  · exact ⟨_, rfl⟩
  · exact ⟨_, rfl⟩
  · exact ⟨trivial, fun _ => ⟨_, rfl⟩⟩
  · exact ⟨trivial, fun _ => ⟨_, rfl⟩⟩
  · -- Ten counters, and six of them a second time.
    iterate 16 refine ⟨trivial, fun _ => ?_⟩
    exact ⟨_, rfl⟩
  · exact ⟨_, rfl⟩

/-- The built-in server either lets a request pass or answers it, and only reads the store. -/
theorem bifrostServer_readOnly (id : UInt64) (req : Request) :
    (BifrostServerPlugin.handleRequest X id req).Only StoreOp.ReadOnly fun r =>
      r = (.ok (true, none), req) ∨ ∃ response, r = (.ok (false, some response), req) := by
  refine ⟨trivial, fun config => ?_⟩
  show Only _ (if _ then _ else _) _
  split
  · refine (hostServer_readOnly X req).bind fun r hr => ?_
    obtain ⟨response, rfl⟩ := hr
    exact .inr ⟨response, rfl⟩
  · exact .inl rfl

/-- What the plugins do with a request: the built-in server keeps it and nothing is counted, or it
is counted, recorded and let through as it is. -/
theorem handleRequest_follows (id : UInt64) (req : Request) :
    (Task.callback .handleRequest ((registeredPlugins X).handleRequest id req)).Follows ledger
      (.drawn .request id) fun q r =>
        q = .upstream id ∧ r = (.ok (true, none), req) ∨
          q = .drawn .request id ∧ ∃ response, r = (.ok (false, some response), req) := by
  have hserver : (Task.callback .handleRequest (BifrostServerPlugin.handleRequest X id req)).Only
      TaskOp.Quiet _ :=
    (bifrostServer_readOnly X id req).embed _ _ fun _ h => ⟨rfl, h⟩
  show ((Prog.bind _ _).embed _ _).Follows _ _ _
  rw [embed_bind]
  refine (quiet_at_drawn hserver).bind ?_
  rintro q r ⟨rfl, rfl | ⟨response, rfl⟩⟩
  · -- Three counters, then the clock, the record, and its mark.
    refine ⟨.request_total, fun _ => ⟨.request_current, fun _ => ⟨.request_second, fun _ => ?_⟩⟩⟩
    exact ⟨.clock, fun _ => ⟨.add rfl rfl, fun _ => ⟨.mark, fun _ => .inl ⟨rfl, rfl⟩⟩⟩⟩
  · exact .inr ⟨rfl, response, rfl⟩

/-- What the plugins do with a CONNECT request: it is counted and let through. -/
theorem handleConnect_follows (id : UInt64) (req : Request) :
    (Task.callback .handleConnect ((registeredPlugins X).handleConnect id req)).Follows ledger
      (.drawn .tunnel id) fun q r => q = .relaying id ∧ r = .ok (true, none) :=
  ⟨.tunnel_total, fun _ => ⟨.tunnel_current, fun _ => ⟨.tunnel_second, fun _ => ⟨rfl, rfl⟩⟩⟩⟩

/-- What the plugins do with a chunk: it is metered and noted. -/
theorem handleData_follows (id : UInt64) (direction : DataDirection) (data : List UInt8) :
    (Task.callback .handleData ((registeredPlugins X).handleData id direction data)).Follows
      ledger (.metering id direction data.length) fun q r => q = .relaying id ∧ r = .ok () :=
  ⟨.meter, fun _ => ⟨.note (NetStorage.recordData_keepsId direction data), fun _ => ⟨rfl, rfl⟩⟩⟩

/-- What the plugins do when a tunnel closes: it is taken off the gauge, and its record is
cancelled. -/
theorem handleConnectClose_follows (id : UInt64) (host : Str) :
    (Task.callback .handleConnectClose ((registeredPlugins X).handleConnectClose id host)).Follows
      ledger (.relaying id) fun q r => q = .closed id ∧ r = .ok true :=
  ⟨.release, fun _ => ⟨.cancel, fun _ => ⟨rfl, rfl⟩⟩⟩

/-! ## The interceptors -/

/-- Where a task may stand when `http_request` has returned. -/
def RequestEnded : Phase → Prop
  | .drawn .request _ | .answered _ => True
  | _ => False

theorem httpRequest_follows (req : Request) :
    (HttpInterceptor.httpRequest X (registeredPlugins X) req).Follows ledger (.idle .request)
      fun q _ => RequestEnded q := by
  refine ⟨.draw, fun id => ?_⟩
  simp only [ret_bind]
  cases X.parseUri (HttpInterceptor.uriString req) with
  | error e => trivial
  | ok uri =>
    -- Either the plugins let the request through, or the built-in server has answered it.
    refine (handleRequest_follows X id _).bind ?_
    rintro q r (⟨rfl, rfl⟩ | ⟨rfl, response, rfl⟩)
    · refine ⟨.forward, fun answer => ?_⟩
      cases answer <;> trivial
    · trivial

/-- Where a task may stand when `handle_http` has returned. -/
def HttpEnded (q : Phase) : Prop := q = .idle .request ∨ RequestEnded q

theorem handleHttp_follows (req : Request) :
    (HttpInterceptor.handleHttp X (registeredPlugins X) req).Follows ledger (.idle .request)
      fun q _ => HttpEnded q := by
  -- The lookup and an upgrade stay outside the accounts; only `http_request` draws an id.
  refine (quiet_at_idle ((dnsLookup_isLookup X _).mono fun _ h => h.quiet)).bind ?_
  rintro q r ⟨rfl, -⟩
  cases r with
  | error e => exact .inl rfl
  | ok addrs =>
    show Follows ledger (.idle .request) (if _ then _ else _) _
    split
    · refine (quiet_at_idle (handleWebsocket_quiet X req)).bind ?_
      rintro q r ⟨rfl, -⟩
      cases r <;> exact .inl rfl
    · refine (httpRequest_follows X req).bind fun q r hq => ?_
      cases r <;> exact .inr hq

theorem onRead_follows (id : UInt64) (side : Side) (errorCount : ℕ) (result : Result Chunk) :
    (TunnelInterceptor.onRead (registeredPlugins X) id side errorCount result).Follows ledger
      (afterRead id side.direction result) fun q _ => q = .relaying id := by
  cases result with
  | error e => rfl
  | ok chunk =>
    show Follows ledger (if _ then _ else _) (if _ then _ else _) _
    split
    · rfl
    · refine (handleData_follows X id side.direction chunk.bytes).bind ?_
      rintro q r ⟨rfl, rfl⟩
      refine ⟨.write, fun written => ?_⟩
      cases written <;> rfl

theorem relay_follows (id : UInt64) (fuel errorCount : ℕ) :
    (TunnelInterceptor.relay (registeredPlugins X) id fuel errorCount).Follows ledger
      (.relaying id) fun q _ => q = .relaying id := by
  -- Every iteration starts and ends with an open tunnel, whatever the error count.
  induction fuel generalizing errorCount with
  | zero => exact ⟨.unobserved, fun r => nomatch r⟩
  | succ fuel ih =>
    refine ⟨.select, fun outcome => ?_⟩
    have hselect : (TunnelInterceptor.onSelect (registeredPlugins X) id errorCount
        outcome).Follows ledger (afterSelect id outcome) fun q _ => q = .relaying id := by
      cases outcome with
      | clientRead result => exact onRead_follows X id .client errorCount result
      | targetRead result => exact onRead_follows X id .target errorCount result
      | timeout => rfl
    refine hselect.bind ?_
    rintro q r rfl
    cases r with
    | none => rfl
    | some errorCount => exact ih errorCount

theorem handleTunnel_follows (fuel : ℕ) (id : UInt64) (req : Request) (host : Str) :
    (TunnelInterceptor.handleTunnel X (registeredPlugins X) fuel id req host).Follows ledger
      (.drawn .tunnel id) fun q _ => q = .closed id := by
  -- The registered plugins let every connection through, so the other branches are not taken.
  refine (handleConnect_follows X id req).bind ?_
  rintro q r ⟨rfl, rfl⟩
  refine (relay_follows X id fuel 0).bind ?_
  rintro q r rfl
  refine (handleConnectClose_follows X id host).bind ?_
  rintro q r ⟨rfl, -⟩
  rfl

/-- Where a task may stand when the future of a CONNECT request is done. -/
def TunnelEnded : Phase → Prop
  | .drawn .tunnel _ | .closed _ => True
  | _ => False

theorem tunnelTask_follows (fuel : ℕ) (id : UInt64) (host : Str) :
    (TunnelInterceptor.tunnelTask X (registeredPlugins X) fuel id host).Follows ledger
      (.drawn .tunnel id) fun q _ => TunnelEnded q := by
  refine ⟨.quiet_drawn trivial, fun upgraded => ?_⟩
  cases upgraded with
  | error e => trivial
  | ok _ =>
    refine (quiet_at_drawn (unwrap_quiet _)).bind ?_
    rintro q uri ⟨rfl, -⟩
    refine (handleTunnel_follows X fuel id _ host).mono ?_
    rintro q _ rfl
    trivial

theorem proxyConnect_follows (fuel : ℕ) (req : Request) :
    (ProxyServer.handleConnect X (registeredPlugins X) fuel req).Follows ledger (.idle .tunnel)
      fun q _ => TunnelEnded q := by
  -- What is left running conforms; the answer does not perform anything.
  suffices h : (HttpsInterceptor.handleConnect X (registeredPlugins X) fuel req).Follows ledger
      (.idle .tunnel) fun q r => r.2.Follows ledger q fun q _ => TunnelEnded q by
    refine h.bind ?_
    rintro q ⟨result, spawned⟩ hspawned
    refine hspawned.bind fun q' _ hq' => ?_
    cases result <;> exact hq'
  refine ⟨.draw, fun id => ⟨.quiet_drawn trivial, fun config => ?_⟩⟩
  simp only [ret_bind]
  cases req.uri.authority with
  | none => trivial
  | some authStr =>
    show Follows ledger (.drawn .tunnel id) (if _ then _ else _) _
    split
    -- With `enable_https` the connection is terminated here and no tunnel is opened.
    · refine (quiet_at_drawn (getOrGenerateCert_quiet _)).bind ?_
      rintro q cert ⟨rfl, -⟩
      cases cert with
      | error e => trivial
      | ok cert =>
        refine ⟨.quiet_drawn trivial, fun acceptor => ?_⟩
        cases acceptor <;> trivial
    · refine ⟨.quiet_drawn trivial, fun connected => ?_⟩
      cases connected with
      | error e => trivial
      | ok _ => exact tunnelTask_follows X fuel id _

theorem raisePeak_sampling {α : Type} {peak : Counter} (hpeak : peak.Sampled) (value : UInt64)
    (f : Unit → Prog StoreSig α) {post : Phase → α → Prop}
    (h : (Task.direct (π := StoreSig) (f ())).Follows ledger .sampling post) :
    (Task.direct (π := StoreSig) ((TrafficStatsPlugin.raisePeak peak value).bind f)).Follows
      ledger .sampling post := by
  refine ⟨.sample_load, fun currentMax => ?_⟩
  show Follows ledger .sampling (Prog.embed _ _ (Prog.bind (if _ then _ else _) f)) post
  split
  · exact ⟨.sample_store hpeak, fun _ => h⟩
  · exact h

theorem sample_follows (lastBytesIn lastBytesOut : UInt64) :
    (Task.direct (π := StoreSig) (TrafficStatsPlugin.sample lastBytesIn lastBytesOut)).Follows
      ledger .sampling fun q _ => q = .sampling := by
  refine ⟨.sample_load, fun bytesIn => ⟨.sample_load, fun bytesOut => ?_⟩⟩
  refine ⟨.sample_store (by decide), fun _ => ⟨.sample_store (by decide), fun _ => ?_⟩⟩
  refine raisePeak_sampling (by decide) _ _ (raisePeak_sampling (by decide) _ _ ?_)
  refine ⟨.sample_load, fun qps => ?_⟩
  refine ⟨.sample_store (by decide), fun _ => ⟨.sample_store (by decide), fun _ => ?_⟩⟩
  exact raisePeak_sampling (by decide) _ _ rfl

theorem samplerLoop_follows (fuel : ℕ) (lastBytesIn lastBytesOut : UInt64) :
    (samplerLoop (π := StoreSig) fuel lastBytesIn lastBytesOut).Follows ledger .sampling
      fun q _ => q = .sampling := by
  induction fuel generalizing lastBytesIn lastBytesOut with
  | zero => exact ⟨.sample_unobserved, fun r => nomatch r⟩
  | succ fuel ih =>
    refine (sample_follows lastBytesIn lastBytesOut).bind ?_
    rintro q r rfl
    exact ⟨.sample_sleep, fun _ => ih r.1 r.2⟩

/-- Where a job starts. -/
def start : Job → Phase
  | .proxied req _ => if req.method = .connect then .idle .tunnel else .idle .request
  | .intercepted _ => .idle .request
  | .sampler _ => .sampling

/-- The program of every job follows the ledger. -/
theorem program_follows (job : Job) :
    ((system X).program job).Follows ledger (start job) fun q _ => Ended q := by
  have hhttp : ∀ req, (HttpInterceptor.handleHttp X (registeredPlugins X) req).Follows ledger
      (.idle .request) fun q _ => Ended q := fun req =>
    (handleHttp_follows X req).mono fun q _ hq => by
      rcases hq with rfl | hq
      · trivial
      · cases q <;> trivial
  cases job with
  | proxied req fuel =>
    refine Follows.bind (M := fun q _ => Ended q) ?_ fun q _ hq => hq
    show Follows ledger (if _ then _ else _) (ProxyServer.proxyHandler _ _ _ _) _
    by_cases h : req.method = .connect
    · rw [if_pos h, ProxyServer.proxyHandler_of_connect _ _ _ h]
      refine (proxyConnect_follows X fuel req).mono fun q _ hq => ?_
      cases q <;> trivial
    · rw [if_neg h, ProxyServer.proxyHandler_of_ne_connect _ _ _ h]
      exact hhttp req
  | intercepted req => exact (hhttp req).bind fun q _ hq => hq
  | sampler fuel =>
    refine (samplerLoop_follows fuel 0 0).bind ?_
    rintro q _ rfl
    trivial

end Ledger

end Bifrost
