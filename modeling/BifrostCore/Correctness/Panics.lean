import BifrostCore.Correctness.Custody

/-!
# When a task panics

A panic ends a task where it stands: the connection of its client breaks, whatever the client was
answered before. `unwrap` is called on what is looked up, parsed and cut in a few places, and this
file says of each what must have happened before for it to fail. Nothing else panics, as long as the
sizes that are added up stay below `2 ^ 64`.

* `perils` — the protocol of a task that panics where it is said to, and nowhere else.
* `Resolving` — requests: the lookup of their name, and the target of an upgrade.
* `Opening` — CONNECT requests: the name in a certificate, and the URI a tunnel is opened with.
* `panics_iff` — in every run, exactly when the next thing a task does is to panic, and what becomes
  of a tunnel that gets no URI.
-/

namespace Bifrost

open Concurrency Prog

/-- The protocol of a task that panics exactly in the states that are failing. -/
@[reducible]
def perils {Q : Type} (next : Q → (o : TaskOp StoreSig) → o.Res → Q) (Failing : Q → Prop) :
    Protocol (TaskSig StoreSig) where
  State := Q
  Allows q o := o = .panic ↔ Failing q
  next := next

namespace Perils

variable {Q α β : Type} {next : Q → (o : TaskOp StoreSig) → o.Res → Q} {Failing : Q → Prop} {q : Q}

/-- An `unwrap` fails only in a failing state. -/
theorem unwrap_follows {x : Option α} {f : α → Prog (TaskSig StoreSig) β} {post : Q → β → Prop}
    (hfail : x = none → Failing q)
    (hf : ∀ a, x = some a → (f a).Follows (perils next Failing) q post) :
    ((Task.unwrap x).bind f).Follows (perils next Failing) q post := by
  cases x with
  | none => exact ⟨⟨fun _ => hfail rfl, fun _ => rfl⟩, fun r => Empty.elim r⟩
  | some a => exact hf a rfl

/-- Any other operation comes in a state that is safe. -/
theorem act_follows {o : TaskOp StoreSig} {k : o.Res → Prog (TaskSig StoreSig) α}
    {post : Q → α → Prop} (hne : o ≠ .panic) (hsafe : ¬ Failing q)
    (hk : ∀ r, (k r).Follows (perils next Failing) (next q o r) post) :
    (Prog.act (S := TaskSig StoreSig) o k).Follows (perils next Failing) q post :=
  ⟨iff_of_false hne hsafe, hk⟩

/-- A program that neither panics nor moves the protocol runs where the state is safe. -/
theorem only_follows {good : TaskOp StoreSig → Prop} {p : Prog (TaskSig StoreSig) α}
    {post : α → Prop} (h : p.Only good post) (hgood : ¬ good .panic)
    (hstay : ∀ o r, good o → next q o r = q) (hsafe : ¬ Failing q) :
    p.Follows (perils next Failing) q fun q' a => q' = q ∧ post a := by
  refine h.follows (fun o ho => iff_of_false ?_ hsafe) hstay
  rintro rfl
  exact hgood ho

/-- The next operation of a program that follows the protocol is a panic exactly in a failing state,
and it does not return in one. -/
theorem panics_of_follows {κ : Type} {t : Thread (TaskSig StoreSig) κ α}
    {p : Prog (TaskSig StoreSig) α} (h : p.Follows (perils next Failing) q fun q _ => ¬ Failing q)
    (hsteps : Steps p t.trace t.prog) :
    t.nextOp = some .panic ↔ Failing ((perils next Failing).after q t.trace) := by
  have hfollows := h.steps hsteps
  rw [Thread.nextOp]
  cases hprog : t.prog with
  | ret a =>
    rw [hprog] at hfollows
    exact iff_of_false (by simp) hfollows
  | act o k =>
    rw [hprog] at hfollows
    exact Option.some_inj.trans hfollows.1

end Perils

/-! ## Requests -/

/-- How far the name of a request is resolved, with what was found on the way. -/
inductive Resolving where
  | start
  /-- The clock is read. -/
  | timed (time : SystemTime)
  /-- The DNS cache is read. -/
  | asked (time : SystemTime) (entry : Option (List SocketAddr × UInt64))
  /-- The name is resolved. -/
  | found
  /-- It is in the cache now. -/
  | stored
  /-- The name could not be resolved. -/
  | failed

/-- The operations of a request once its name is resolved. -/
def TaskOp.Exchanges : TaskOp StoreSig → Prop
  | .callback _ _ | .nextRequestId | .clientRequest _ | .connectAsync _ => True
  | _ => False

namespace Resolving

/-- What an operation adds. -/
def next : Resolving → (o : TaskOp StoreSig) → o.Res → Resolving
  | .start, .now, time => .timed time
  | .timed time, .dnsCacheGet _, entry => .asked time entry
  | .asked _ _, .lookupHost _ _, .ok _ => .found
  | .asked _ _, .lookupHost _ _, .error _ => .failed
  | .found, .dnsCacheInsert _ _ _, _ => .stored
  | q, _, _ => q

/-- The cache had an entry, young enough to be used. -/
def Fresh (X : Externals) (time : SystemTime) (entry : Option (List SocketAddr × UInt64)) : Prop :=
  ∃ now ∈ SystemTime.unixSeconds time, ∃ found ∈ entry, ∃ age ∈ X.subU64 now found.2,
    age < HttpInterceptor.cacheDuration

/-- The request asks for an upgrade, and the target URI that is made for it is none. -/
def Untargeted (X : Externals) (req : Request) : Prop :=
  Websocket.isWebsocketUpgrade req = true ∧ Websocket.targetRequest X req = none

/-- The `unwrap` that comes next fails: of a clock before the epoch, of the age of a cache entry
that is from the future, of a port that is none, or of a target URI that is none. -/
def Failing (X : Externals) (req : Request) : Resolving → Prop
  | .timed time => SystemTime.unixSeconds time = none
  -- The age of the entry is taken first. What may fail after that depends on whether it is used.
  | .asked time entry =>
    (∃ now ∈ SystemTime.unixSeconds time, ∃ found ∈ entry, X.subU64 now found.2 = none) ∨
    (¬ Fresh X time entry ∧ HttpInterceptor.lookupPort (HttpInterceptor.getHost req) = none) ∨
    (Fresh X time entry ∧ Untargeted X req)
  | .stored => Untargeted X req
  | .start | .found | .failed => False

/-- How far a trace has come. -/
def reached (tr : Trace (TaskSig StoreSig)) : Resolving :=
  tr.foldl (fun q e => next q e.op e.res) .start

variable {X : Externals} {req : Request} {q : Resolving}

theorem exchanges_follows {α : Type} {p : Prog (TaskSig StoreSig) α} {post : α → Prop}
    (h : p.Only TaskOp.Exchanges post) (hsafe : ¬ q.Failing X req) :
    p.Follows (perils next (Failing X req)) q fun q' a => q' = q ∧ post a := by
  refine Perils.only_follows h id (fun o r ho => ?_) hsafe
  cases o with
  | callback | nextRequestId | clientRequest | connectAsync => cases q <;> rfl
  | _ => cases ho

/-- The lookup has failed, or what may fail from here on is only the target of an upgrade. -/
def Looked (X : Externals) (req : Request) (q : Resolving) (r : Result (List SocketAddr)) : Prop :=
  ((∃ e, r = .error e) ∧ q = .failed) ∨
    ((∃ addrs, r = .ok addrs) ∧ (q.Failing X req ↔ Untargeted X req))

theorem resolveHost_follows {time : SystemTime} {entry : Option (List SocketAddr × UInt64)}
    (currentTime : UInt64) (hstale : ¬ Fresh X time entry)
    (hpast : ∀ now ∈ SystemTime.unixSeconds time, ∀ found ∈ entry, X.subU64 now found.2 ≠ none) :
    (HttpInterceptor.resolveHost (HttpInterceptor.getHost req) currentTime).Follows
      (perils next (Failing X req)) (.asked time entry) (Looked X req) := by
  -- Splitting gives at least one piece, so the first `unwrap` does not fail.
  have hname := List.head?_eq_some_head (List.splitOn_ne_nil ':' (HttpInterceptor.getHost req))
  refine Perils.unwrap_follows (fun hnone => ?_) fun name _ => ?_
  · rw [Text.split, hname] at hnone
    cases hnone
  refine Perils.unwrap_follows (fun hnone => .inr (.inl ⟨hstale, hnone⟩)) fun port hport => ?_
  -- The lookup itself comes in a safe state: each of the three ways to fail is ruled out by now.
  refine Perils.act_follows (by simp) ?_ fun r => ?_
  · rintro (⟨now, hnow, found, hfound, hnone⟩ | ⟨-, hnone⟩ | ⟨hfresh, -⟩)
    · exact hpast now hnow found hfound hnone
    · cases hport.symm.trans hnone
    · exact hstale hfresh
  · cases r with
    | error e => exact .inl ⟨⟨e, rfl⟩, rfl⟩
    | ok addrs => exact Perils.act_follows (by simp) id fun _ => .inr ⟨⟨addrs, rfl⟩, Iff.rfl⟩

theorem dnsLookup_follows :
    (HttpInterceptor.dnsLookup X (HttpInterceptor.getHost req)).Follows
      (perils next (Failing X req)) .start (Looked X req) := by
  refine Perils.act_follows (by simp) id fun time => ?_
  refine Perils.unwrap_follows id fun now hnow => ?_
  have hsafe : ¬ Failing X req (.timed time) := by
    intro hnone
    cases hnow.symm.trans hnone
  refine Perils.act_follows (by simp) hsafe fun entry => ?_
  cases entry with
  | none =>
    refine resolveHost_follows now ?_ (by simp)
    rintro ⟨_, _, found, hfound, -⟩
    cases hfound
  | some found =>
    refine Perils.unwrap_follows (fun hnone => .inl ⟨now, hnow, found, rfl, hnone⟩)
      fun age hage => ?_
    -- The clock and the entry that are looked at are the ones that were read.
    have hpast : ∀ now ∈ SystemTime.unixSeconds time, ∀ found' ∈ some found,
        X.subU64 now found'.2 ≠ none := by
      intro now' hnow' found' hfound'
      obtain rfl := Option.some.inj (hnow.symm.trans hnow')
      obtain rfl := Option.some.inj hfound'
      simp [hage]
    have hfresh : Fresh X time (some found) ↔ age < HttpInterceptor.cacheDuration := by
      constructor
      · rintro ⟨now', hnow', found', hfound', age', hage', hyoung⟩
        obtain rfl := Option.some.inj (hnow.symm.trans hnow')
        obtain rfl := Option.some.inj hfound'
        obtain rfl := Option.some.inj (hage.symm.trans hage')
        exact hyoung
      · exact fun hyoung => ⟨now, hnow, found, rfl, age, hage, hyoung⟩
    show Follows _ _ (if _ then _ else _) _
    split
    next hyoung =>
      -- A cache hit: of the three ways to fail, only the one of the upgrade is left.
      refine .inr ⟨⟨found.1, rfl⟩, ?_, fun h => .inr (.inr ⟨hfresh.mpr hyoung, h⟩)⟩
      rintro (⟨now', hnow', found', hfound', hnone⟩ | ⟨hstale, -⟩ | ⟨-, h⟩)
      · exact absurd hnone (hpast now' hnow' found' hfound')
      · exact absurd (hfresh.mpr hyoung) hstale
      · exact h
    next hold => exact resolveHost_follows now (fun h => hold (hfresh.mp h)) hpast

theorem handleWebsocket_follows (hupgrade : Websocket.isWebsocketUpgrade req = true)
    (hq : q.Failing X req ↔ Untargeted X req) :
    (Websocket.handleWebsocket X req).Follows (perils next (Failing X req)) q
      fun q _ => ¬ q.Failing X req := by
  refine Perils.unwrap_follows (fun hnone => hq.mpr ⟨hupgrade, hnone⟩) fun target htarget => ?_
  have hsafe : ¬ q.Failing X req := by
    intro hfail
    cases htarget.symm.trans (hq.mp hfail).2
  have hconnect : (Task.connectAsync target : Prog (TaskSig StoreSig) _).Only TaskOp.Exchanges
      fun _ => True := ⟨trivial, fun _ => trivial⟩
  refine (exchanges_follows hconnect hsafe).bind ?_
  rintro q answer ⟨rfl, -⟩
  cases answer <;> exact hsafe

theorem httpRequest_exchanges (pm : PluginManager StoreSig) :
    (HttpInterceptor.httpRequest X pm req).Only TaskOp.Exchanges fun _ => True := by
  refine ⟨trivial, fun id => ?_⟩
  simp only [ret_bind]
  cases X.parseUri (HttpInterceptor.uriString req) with
  | error e => trivial
  | ok uri =>
    refine ((Task.callback_only _ _).mono (by rintro _ ⟨o, rfl⟩; trivial)).bind ?_
    rintro ⟨result, newReq⟩ -
    -- Whatever the plugins return, a branch of the `match` answers it.
    rcases result with e | ⟨_ | _, response⟩
    · trivial
    · cases response <;> trivial
    · refine ⟨trivial, fun answer => ?_⟩
      cases answer <;> trivial

theorem handleHttp_follows (pm : PluginManager StoreSig) :
    (HttpInterceptor.handleHttp X pm req).Follows (perils next (Failing X req)) .start
      fun q _ => ¬ q.Failing X req := by
  refine dnsLookup_follows.bind ?_
  rintro q r (⟨⟨e, rfl⟩, rfl⟩ | ⟨⟨addrs, rfl⟩, hq⟩)
  -- A failed lookup is answered, whatever the request asks for.
  · exact id
  · show Follows _ _ (if _ then _ else _) _
    split
    next hupgrade =>
      refine (handleWebsocket_follows hupgrade hq).bind fun q r hsafe => ?_
      cases r <;> exact hsafe
    next hupgrade =>
      have hsafe : ¬ q.Failing X req := fun hfail => hupgrade (hq.mp hfail).1
      refine (exchanges_follows (httpRequest_exchanges pm) hsafe).bind ?_
      rintro q r ⟨rfl, -⟩
      cases r <;> exact hsafe

/-- The program of a request panics exactly where an `unwrap` of it fails. -/
theorem program_follows {job : Job} (h : job.request = some req) :
    ((system X).program job).Follows (perils next (Failing X req)) .start
      fun q _ => ¬ q.Failing X req := by
  cases job with
  | proxied req' fuel =>
    obtain ⟨hconnect, rfl⟩ : req'.method ≠ .connect ∧ req' = req := by
      simpa [Job.request] using h
    refine Follows.bind (M := fun q _ => ¬ q.Failing X req') ?_ fun _ _ hq => hq
    rw [ProxyServer.proxyHandler_of_ne_connect _ _ _ hconnect]
    exact handleHttp_follows _
  | intercepted req' =>
    cases h
    exact (handleHttp_follows _).bind fun _ _ hq => hq
  | sampler fuel => cases h

end Resolving

/-! ## CONNECT requests -/

/-- How far the connection of a CONNECT request is opened. -/
inductive Opening where
  | start
  /-- The root certificate is read. -/
  | certRead
  /-- The root key is read, too. -/
  | keyRead
  /-- The client is handed over. -/
  | over

/-- The operations that neither open a connection nor panic. -/
def TaskOp.Idles : TaskOp StoreSig → Prop
  | .readFile _ | .upgrade | .panic => False
  | _ => True

theorem TaskOp.Relays.idles {o : TaskOp StoreSig} (h : o.Relays) : o.Idles := by
  cases o with
  | callback | select | writeAll | outOfFuel => trivial
  | _ => cases h

namespace Opening

/-- What an operation adds. -/
def next : Opening → (o : TaskOp StoreSig) → o.Res → Opening
  | .start, .readFile _, .ok _ => .certRead
  | .certRead, .readFile _, .ok _ => .keyRead
  | _, .upgrade, .ok _ => .over
  | q, _, _ => q

/-- The `unwrap` that comes next fails: of a name that is cut inside a character, or of a URI that
is none. -/
def Failing (X : Externals) (host : Option Str) : Opening → Prop
  | .keyRead => ∃ name ∈ host, HttpsInterceptor.commonName name = none
  | .over => ∃ name ∈ host, ∀ uri, X.parseUri ("https://".toList ++ name) ≠ .ok uri
  | .start | .certRead => False

/-- How far a trace has come. -/
def reached (tr : Trace (TaskSig StoreSig)) : Opening :=
  tr.foldl (fun q e => next q e.op e.res) .start

variable {X : Externals} {host : Str} {q : Opening}

theorem next_idles {o : TaskOp StoreSig} (h : o.Idles) (r : o.Res) : next q o r = q := by
  cases o with
  | readFile | upgrade => cases h
  | _ => cases q <;> rfl

theorem idles_follows {α : Type} {p : Prog (TaskSig StoreSig) α} {post : α → Prop}
    {host : Option Str} (h : p.Only TaskOp.Idles post) (hsafe : ¬ q.Failing X host) :
    p.Follows (perils next (Failing X host)) q fun q' a => q' = q ∧ post a :=
  Perils.only_follows h id (fun _ r ho => next_idles ho r) hsafe

/-- An operation that opens nothing comes in a state that is safe, and leaves it as it is. -/
theorem idle_follows {α : Type} {o : TaskOp StoreSig} {k : o.Res → Prog (TaskSig StoreSig) α}
    {host : Option Str} {post : Opening → α → Prop} (ho : o.Idles) (hsafe : ¬ q.Failing X host)
    (hk : ∀ r, (k r).Follows (perils next (Failing X host)) q post) :
    (Prog.act (S := TaskSig StoreSig) o k).Follows (perils next (Failing X host)) q post := by
  refine Perils.act_follows ?_ hsafe fun r => ?_
  · rintro rfl
    exact ho
  · rw [next_idles ho r]
    exact hk r

theorem generateCert_follows :
    (HttpsInterceptor.generateCert host).Follows (perils next (Failing X (some host))) .start
      fun q _ => ¬ q.Failing X (some host) := by
  -- The two readings of the root files count the way to the cut of the common name.
  refine idle_follows trivial id fun config => Perils.act_follows (by simp) id fun certPem => ?_
  cases certPem with
  | error e => exact id
  | ok certPem =>
    refine Perils.act_follows (by simp) id fun keyPem => ?_
    cases keyPem with
    | error e => exact id
    | ok keyPem =>
      refine Perils.unwrap_follows (fun hnone => ⟨host, rfl, hnone⟩) fun cnValue hcn => ?_
      have hsafe : ¬ Failing X (some host) .keyRead := by
        rintro ⟨name, hname, hnone⟩
        obtain rfl := Option.some.inj hname
        cases hcn.symm.trans hnone
      refine idle_follows trivial hsafe fun cert => ?_
      cases cert with
      | error e => exact hsafe
      | ok cert => exact idle_follows trivial hsafe fun _ => hsafe

theorem generateAndInsert_follows :
    (HttpsInterceptor.generateAndInsert host).Follows (perils next (Failing X (some host))) .start
      fun q _ => ¬ q.Failing X (some host) := by
  refine generateCert_follows.bind fun q cert hsafe => ?_
  cases cert with
  | error e => exact hsafe
  | ok cert => exact idle_follows trivial hsafe fun _ => hsafe

theorem getOrGenerateCert_follows :
    (HttpsInterceptor.getOrGenerateCert host).Follows (perils next (Failing X (some host))) .start
      fun q _ => ¬ q.Failing X (some host) := by
  refine idle_follows trivial id fun cached => ?_
  cases cached with
  | none => exact generateAndInsert_follows
  | some cached =>
    refine idle_follows trivial id fun time => ?_
    show Follows _ _ (if _ then _ else _) _
    -- An entry that is expired is made anew, and so is the cut.
    split
    · exact id
    · exact generateAndInsert_follows

theorem callback_idles {α : Type} (cb : Callback) (p : Prog StoreSig α) :
    (Task.callback cb p).Only TaskOp.Idles fun _ => True :=
  (Task.callback_only cb p).mono (by rintro _ ⟨o, rfl⟩; trivial)

/-- The registered plugins let every tunnel through, so no write that is unwrapped is made. -/
theorem handleTunnel_idles (fuel : ℕ) (id : UInt64) (req : Request) (host : Str) :
    (TunnelInterceptor.handleTunnel X (registeredPlugins X) fuel id req host).Only TaskOp.Idles
      fun _ => True := by
  -- Only the statistics plugin does anything, and it counts in three counters.
  have hadmitted : (Task.callback .handleConnect ((registeredPlugins X).handleConnect id req)).Only
      TaskOp.Idles fun r => r = .ok (true, none) :=
    ⟨trivial, fun _ => ⟨trivial, fun _ => ⟨trivial, fun _ => rfl⟩⟩⟩
  refine hadmitted.bind ?_
  rintro _ rfl
  refine Only.bind ((Connection.relay_relays id fuel 0).mono fun _ ho => ho.idles) fun _ _ => ?_
  exact (callback_idles _ _).bind fun _ _ => trivial

theorem tunnelTask_follows (fuel : ℕ) (id : UInt64) :
    (TunnelInterceptor.tunnelTask X (registeredPlugins X) fuel id host).Follows
      (perils next (Failing X (some host))) .start fun q _ => ¬ q.Failing X (some host) := by
  refine Perils.act_follows (by simp) (fun h => h) fun upgraded => ?_
  cases upgraded with
  | error e => exact fun h => h
  | ok _ =>
    refine Perils.unwrap_follows (fun hnone => ⟨host, rfl, fun uri hparse => ?_⟩)
      fun uri huri => ?_
    · rw [hparse] at hnone
      cases hnone
    -- The URI was made, so nothing fails from here on.
    have hsafe : ¬ Failing X (some host) .over := by
      rintro ⟨name, hname, hnone⟩
      obtain rfl := Option.some.inj hname
      refine hnone uri ?_
      cases hparse : X.parseUri ("https://".toList ++ host) with
      | error e => rw [hparse] at huri; cases huri
      | ok uri' => rw [hparse] at huri; exact congrArg _ (Option.some.inj huri)
    refine (idles_follows (handleTunnel_idles fuel id _ host) hsafe).mono ?_
    rintro q _ ⟨rfl, -⟩
    exact hsafe

theorem handleConnect_follows {req : Request} (fuel : ℕ) :
    (HttpsInterceptor.handleConnect X (registeredPlugins X) fuel req).Follows
      (perils next (Failing X (req.uri.authority.map HttpsInterceptor.targetHost))) .start
      fun q r => r.2.Follows
        (perils next (Failing X (req.uri.authority.map HttpsInterceptor.targetHost))) q
        fun q _ => ¬ q.Failing X (req.uri.authority.map HttpsInterceptor.targetHost) := by
  refine idle_follows trivial (fun h => h) fun id =>
    idle_follows trivial (fun h => h) fun config => ?_
  simp only [ret_bind]
  cases req.uri.authority with
  | none => exact fun h => h
  | some authStr =>
    show Follows _ _ (if _ then _ else _) _
    split
    · refine getOrGenerateCert_follows.bind fun q cert hsafe => ?_
      cases cert with
      | error e => exact hsafe
      | ok cert =>
        refine idle_follows trivial hsafe fun acceptor => ?_
        cases acceptor <;> exact hsafe
    · refine idle_follows trivial (fun h => h) fun connected => ?_
      cases connected with
      | error e => exact fun h => h
      | ok _ => exact tunnelTask_follows fuel id

/-- The program of a CONNECT request panics exactly where an `unwrap` of it fails. -/
theorem program_follows {job : Job} {req : Request} (h : job.connectRequest = some req) :
    ((system X).program job).Follows (perils next (Failing X job.connectHost)) .start
      fun q _ => ¬ q.Failing X job.connectHost := by
  have hhost : job.connectHost = req.uri.authority.map HttpsInterceptor.targetHost := by
    rw [Job.connectHost, h]
    rfl
  rw [hhost]
  cases job with
  | proxied req' fuel =>
    obtain ⟨hconnect, rfl⟩ : req'.method = .connect ∧ req' = req := by
      simpa [Job.connectRequest] using h
    refine Follows.bind (M := fun q _ =>
      ¬ q.Failing X (req'.uri.authority.map HttpsInterceptor.targetHost)) ?_ fun _ _ hq => hq
    rw [ProxyServer.proxyHandler_of_connect _ _ _ hconnect]
    refine (handleConnect_follows fuel).bind ?_
    rintro q ⟨result, spawned⟩ hspawned
    refine hspawned.bind fun q' _ hq' => ?_
    cases result <;> exact hq'
  | intercepted req' => cases h
  | sampler fuel => cases h

theorem next_over {o : TaskOp StoreSig} (r : o.Res) : next .over o r = .over := by
  cases o with
  | upgrade => cases r <;> rfl
  | _ => rfl

/-- A client that was handed over stays so. -/
theorem reached_of_handedOver {tr : Trace (TaskSig StoreSig)} (h : HandedOver tr) :
    reached tr = .over := by
  -- The client is handed over in the last event, or was before.
  induction tr using List.reverseRecOn with
  | nil => cases h
  | append_singleton tr e ih =>
    have hsnoc : reached (tr ++ [e]) = next (reached tr) e.op e.res := by simp [reached]
    rw [hsnoc]
    rcases List.mem_append.mp h with h | h
    · rw [ih h]
      exact next_over e.res
    · obtain rfl := List.mem_singleton.mp h
      cases reached tr <;> rfl

end Opening

/-! ## The running proxy -/

/-- The sampler does not panic. -/
theorem samplerLoop_idles (fuel : ℕ) (lastBytesIn lastBytesOut : UInt64) :
    (samplerLoop fuel lastBytesIn lastBytesOut : Prog (TaskSig StoreSig) Unit).Only TaskOp.Idles
      fun _ => True := by
  induction fuel generalizing lastBytesIn lastBytesOut with
  | zero => exact ⟨trivial, fun r => Empty.elim r⟩
  | succ fuel ih =>
    have hsample : (Task.direct (TrafficStatsPlugin.sample lastBytesIn lastBytesOut) :
        Prog (TaskSig StoreSig) _).Only TaskOp.Idles fun _ => True :=
      (Prog.only_true _).embed _ _ fun _ _ => trivial
    exact hsample.bind fun sums _ => ⟨trivial, fun _ => ih sums.1 sums.2⟩

/-- What is started neither for a request nor for a CONNECT request does not panic. -/
theorem program_idles {X : Externals} {job : Job} (hconnect : job.connectRequest = none)
    (hrequest : job.request = none) :
    ((system X).program job).Only TaskOp.Idles fun _ => True := by
  cases job with
  | proxied req fuel =>
    by_cases h : req.method = .connect
    · simp [Job.connectRequest, h] at hconnect
    · simp [Job.request, h] at hrequest
  | intercepted req => cases hrequest
  | sampler fuel => exact (samplerLoop_idles fuel 0 0).bind fun _ _ => trivial

/-- A CONNECT request is no other request. -/
theorem Job.request_eq_none {job : Job} {req : Request} (h : job.connectRequest = some req) :
    job.request = none := by
  cases job with
  | proxied req' fuel =>
    obtain ⟨hconnect, -⟩ : req'.method = .connect ∧ req' = req := by
      simpa [Job.connectRequest] using h
    simp [Job.request, hconnect]
  | intercepted req' => cases h
  | sampler fuel => cases h

/-- An `unwrap` fails that comes next in a task. -/
def Panicking (X : Externals) (t : ProxyTask) : Prop :=
  (∃ req, t.tag.request = some req ∧ (Resolving.reached t.trace).Failing X req) ∨
    (Opening.reached t.trace).Failing X t.tag.connectHost

section Reachable

variable {X : Externals} {config : Config} {now : UInt64} {moves : List (Move Job Oracle)}
  {t : ProxyTask} (ht : t ∈ (runProxy X config now moves).threads)

include ht

theorem nextOp_iff_panicking : t.nextOp = some .panic ↔ Panicking X t := by
  have hsteps := System.steps_of_run _ moves t ht
  -- A task is started for a CONNECT request, for another request, or for neither.
  cases hconnect : t.tag.connectRequest with
  | some req =>
    refine (Perils.panics_of_follows (Opening.program_follows hconnect) hsteps).trans
      ⟨.inr, fun h => h.resolve_left ?_⟩
    rintro ⟨req', hreq', -⟩
    cases (Job.request_eq_none hconnect).symm.trans hreq'
  | none =>
    have hopen : ¬ (Opening.reached t.trace).Failing X t.tag.connectHost := by
      rw [Job.connectHost, hconnect]
      generalize Opening.reached t.trace = q
      cases q <;> rintro ⟨_, h, -⟩ <;> cases h
    refine Iff.trans ?_ (or_iff_left hopen).symm
    cases hrequest : t.tag.request with
    | some req =>
      refine (Perils.panics_of_follows (Resolving.program_follows hrequest) hsteps).trans
        ⟨fun h => ⟨req, rfl, h⟩, ?_⟩
      rintro ⟨req', hreq', h⟩
      obtain rfl := Option.some.inj hreq'
      exact h
    | none =>
      have hidles := ((program_idles hconnect hrequest).steps hsteps).2
      refine iff_of_false (fun hpanic => ?_) (by simp)
      rw [Thread.nextOp] at hpanic
      cases hprog : t.prog with
      | ret a => simp [hprog] at hpanic
      | act o k =>
        rw [hprog] at hidles hpanic
        obtain rfl := Option.some.inj hpanic
        exact hidles.1

/-- Once its client is handed over, a task that gets no URI for its tunnel only panics: no plugin
hears of the tunnel. -/
theorem panics_of_handedOver {host : Str} (hhost : t.tag.connectHost = some host)
    (huri : ∀ uri, X.parseUri ("https://".toList ++ host) ≠ .ok uri) :
    (HandedOver t.trace → t.nextOp = some .panic) ∧ ∀ e ∈ t.trace, e.op.callbackOf = none := by
  have hfails : Opening.over.Failing X t.tag.connectHost := ⟨host, hhost, huri⟩
  refine ⟨fun hover => (nextOp_iff_panicking ht).mpr (.inr ?_), fun e he => ?_⟩
  · rw [Opening.reached_of_handedOver hover]
    exact hfails
  · obtain ⟨_, hauthority, -⟩ := Option.map_eq_some_iff.mp hhost
    obtain ⟨req, hreq, -⟩ := Option.bind_eq_some_iff.mp hauthority
    obtain ⟨tr, tr', htrace⟩ := List.append_of_mem he
    by_contra hcallback
    -- A callback comes after the client was handed over, where only a panic is allowed.
    have hover := (opened_of_callback ht hreq htrace (Option.isSome_iff_ne_none.mpr hcallback)).2
    have hpermits := (Opening.program_follows hreq).permits (System.steps_of_run _ moves t ht)
    rw [htrace] at hpermits
    have hallows : e.op = .panic ↔ (Opening.reached tr).Failing X t.tag.connectHost :=
      hpermits.split.2
    rw [Opening.reached_of_handedOver hover] at hallows
    rw [hallows.mpr hfails] at hcallback
    exact hcallback rfl

end Reachable

/-- In every run, the next thing a task does is to panic exactly if one of the `unwrap`s fails that
`Resolving.Failing` and `Opening.Failing` name, in the state the task has read. A tunnel for which
no URI can be made panics as soon as its client is handed over, and no plugin ever hears of it:
neither that it opened nor that it closed. -/
theorem panics_iff (X : Externals) (config : Config) (now : UInt64)
    (moves : List (Move Job Oracle)) :
    ∀ t ∈ (runProxy X config now moves).threads,
      (t.nextOp = some .panic ↔ Panicking X t) ∧
      ∀ host, t.tag.connectHost = some host →
        (∀ uri, X.parseUri ("https://".toList ++ host) ≠ .ok uri) →
        (HandedOver t.trace → t.nextOp = some .panic) ∧ ∀ e ∈ t.trace, e.op.callbackOf = none :=
  fun _ ht => ⟨nextOp_iff_panicking ht, fun _ hhost huri => panics_of_handedOver ht hhost huri⟩

namespace Concrete

/-- `CONNECT [::1]:443`. -/
def bracketedRequest : Request :=
  { connectRequest with
    uri :=
      { connectRequest.uri with
        rawAuthority := "[::1]:443"
        authority_of_scheme := by decide
        authority_chars := by decide } }

/-- The target is connected to and the client handed over. -/
def bracketedRun : ProxyPool := run (.proxied bracketedRequest 1) (.replicate 4 .timeout)

/-- What stands before the first colon of the authority is no host. -/
theorem parseUri_bracket (uri : Uri) :
    externals.parseUri ("https://".toList ++ "[".toList) ≠ .ok uri := by
  have herror : externals.parseUri ("https://".toList ++ "[".toList) = .error "invalid uri" := by
    rfl
  rw [herror]
  simp

end Concrete

/-- The tunnel of a client that names its target by an IPv6 address panics before it is opened. -/
theorem panics_iff_bracketed :
    ∃ t ∈ Concrete.bracketedRun.threads,
      t.nextOp = some .panic ∧ ∀ e ∈ t.trace, e.op.callbackOf = none := by
  have ht := List.mem_of_getElem? (l := Concrete.bracketedRun.threads) (i := 0) rfl
  obtain ⟨hpanics, hsilent⟩ := (panics_iff _ _ _ _ _ ht).2 "[" rfl Concrete.parseUri_bracket
  exact ⟨_, ht, hpanics (List.mem_of_getElem? (i := 3) rfl), hsilent⟩

end Bifrost
