import BifrostCore.Correctness.Records

/-!
# The exchange of a request

What a request that is not a CONNECT request says to the outside, with the data it says it with: the
target it upgrades to, the port the built-in server judges it by, the record it adds and the request
it sends. `exchange X req` is the protocol of it. It adds to the request flow of the ledger the data
the ledger leaves out.

* `KeptAs`, `PassedAs` — the request as it is rebuilt, and what the built-in server does with it.
* `Exchange.handleHttp_follows`, `Exchange.program_follows` — the code follows the protocol, and the
  stage it ends at determines its answer.
-/

namespace Bifrost

open Concurrency Prog

/-! ## What a request is rebuilt as -/

section Rebuilt

variable (X : Externals) (req newReq : Request)

/-- `http_request` rebuilds `req` as `newReq` and hands it to the plugins. -/
def RebuiltAs : Prop :=
  ∃ uri, X.parseUri (HttpInterceptor.uriString req) = .ok uri ∧
    newReq = HttpInterceptor.newRequest req uri

/-- The request is rebuilt as one that a built-in server on `port` keeps. -/
structure KeptAs (port : UInt16) : Prop where
  rebuilt : RebuiltAs X req newReq
  isBifrost : BifrostServerPlugin.isBifrostHost (BifrostServerPlugin.getHost newReq) port = true

/-- The request is rebuilt as one that a built-in server on `port` lets pass. -/
structure PassedAs (port : UInt16) : Prop where
  rebuilt : RebuiltAs X req newReq
  notBifrost :
    BifrostServerPlugin.isBifrostHost (BifrostServerPlugin.getHost newReq) port = false

end Rebuilt

section

variable {X : Externals} {req newReq newReq' : Request} {port : UInt16}

/-- There is at most one request to rebuild it as. -/
theorem RebuiltAs.unique (h : RebuiltAs X req newReq) (h' : RebuiltAs X req newReq') :
    newReq = newReq' := by
  obtain ⟨uri, hparse, rfl⟩ := h
  obtain ⟨uri', hparse', rfl⟩ := h'
  cases hparse.symm.trans hparse'
  rfl

/-- A request that is kept does not pass. -/
theorem KeptAs.not_passed (h : KeptAs X req newReq port) : ¬ PassedAs X req newReq' port := by
  intro hpass
  obtain rfl := h.rebuilt.unique hpass.rebuilt
  exact absurd (h.isBifrost.symm.trans hpass.notBifrost) (by decide)

end

/-- The request a job is started for, unless it is a CONNECT request on the listening port. -/
def Job.request : Job → Option Request
  | .proxied req _ => if req.method = .connect then none else some req
  | .intercepted req => some req
  | .sampler _ => none

/-! ## The protocol -/

/-- How far a request has come. -/
inductive Stage where
  /-- Before the id is drawn and before any contact. -/
  | waiting
  /-- The name could not be resolved. -/
  | unresolved
  /-- The target of an upgrade has answered. -/
  | upgraded (target : Request) (answer : Result Response)
  /-- The id is drawn. -/
  | drawn (id : UInt64)
  /-- The built-in server has read the port it listens on. What it reads from then on makes up its
  answer. -/
  | asked (id : UInt64) (port : UInt16) (shown : Trace StoreSig)
  /-- The clock of the record is read. -/
  | stamped (id : UInt64) (port : UInt16) (time : SystemTime)
  /-- The upstream server has answered. -/
  | sent (newReq : Request) (port : UInt16) (answer : Except UpstreamError Response)

/-- The operations by which the built-in server makes up an answer. -/
def StoreOp.Shows : StoreOp → Prop
  | .getConfig | .getNetworkRecords | .load _ => True
  | _ => False

theorem StoreOp.Shows.readOnly {o : StoreOp} (h : o.Shows) : o.ReadOnly := by
  cases o <;> trivial

/-- The counters of requests. -/
def Counter.OfRequests (c : Counter) : Prop :=
  c ∈ [.totalRequests, .currentRequests, .requestsThisSecond]

instance (c : Counter) : Decidable c.OfRequests := by unfold Counter.OfRequests; infer_instance

namespace Exchange

variable (X : Externals) (req : Request)

/-- The stage after an operation. -/
def next : Stage → (o : TaskOp StoreSig) → o.Res → Stage
  | .waiting, .lookupHost _ _, .error _ => .unresolved
  | .waiting, .connectAsync target, answer => .upgraded target answer
  | .waiting, .nextRequestId, id => .drawn id
  | .drawn id, .callback _ .getConfig, config => .asked id config.port []
  | .asked id port _, .callback _ .now, time => .stamped id port time
  | .asked id port shown, .callback _ (.fetchAdd _ _), _ => .asked id port shown
  | .asked id port shown, .callback _ o, r => .asked id port (shown ++ [⟨o, r⟩])
  | .stamped _ port _, .clientRequest newReq, answer => .sent newReq port answer
  | q, _, _ => q

/-- The operations a request may perform at a stage. -/
inductive Allows : Stage → TaskOp StoreSig → Prop
  | lookup {o : TaskOp StoreSig} : o.IsLookup → Allows .waiting o
  | upgrade {target : Request} : Websocket.isWebsocketUpgrade req = true →
      Websocket.targetRequest X req = some target → Allows .waiting (.connectAsync target)
  | draw : Websocket.isWebsocketUpgrade req = false → Allows .waiting .nextRequestId
  | ask {id : UInt64} : Allows (.drawn id) (.callback .handleRequest .getConfig)
  | read {id : UInt64} {port : UInt16} {shown : Trace StoreSig} {newReq : Request} {o : StoreOp}
      {k : o.Res → Prog StoreSig (Result Response)} : o.Shows → KeptAs X req newReq port →
      Steps (BifrostServerPlugin.hostServer X newReq) shown (.act (S := StoreSig) o k) →
      Allows (.asked id port shown) (.callback .handleRequest o)
  | count {id : UInt64} {port : UInt16} {newReq : Request} {c : Counter} : c.OfRequests →
      PassedAs X req newReq port →
      Allows (.asked id port []) (.callback .handleRequest (.fetchAdd c 1))
  | clock {id : UInt64} {port : UInt16} {newReq : Request} : PassedAs X req newReq port →
      Allows (.asked id port []) (.callback .handleRequest .now)
  | add {id : UInt64} {port : UInt16} {time : SystemTime} {newReq : Request} :
      PassedAs X req newReq port → Allows (.stamped id port time)
        (.callback .handleRequest (.addNetworkRecord (NetStorage.newRecord id newReq time)))
  | mark {id : UInt64} {port : UInt16} {time : SystemTime} : Allows (.stamped id port time)
      (.callback .handleRequest (.updateNetworkRecordById id NetStorage.markSending))
  | send {id : UInt64} {port : UInt16} {time : SystemTime} {newReq : Request} :
      PassedAs X req newReq port → Allows (.stamped id port time) (.clientRequest newReq)

/-- The answer of a request, by the stage it ends at. -/
def Answers : Stage → Response → Prop
  | .unresolved, response =>
    response = HttpInterceptor.build502Error
      ("DNS Lookup Failed: [".toList ++ HttpInterceptor.getHost req ++ "]".toList)
  -- The headers of the target's answer are handed on, its body is not.
  | .upgraded _ (.ok answer), response => response = .build answer.status answer.headers .empty
  | .upgraded _ (.error e), response =>
    response = .build 502 [] (.text ("Bad Gateway: ".toList ++ e))
  | .drawn _, response =>
    (∀ newReq, ¬ RebuiltAs X req newReq) ∧
      response = .build 500 [] (.text "Internal Server Error")
  | .asked _ port shown, response => ∃ newReq, KeptAs X req newReq port ∧
      Steps (BifrostServerPlugin.hostServer X newReq) shown (.ret (.ok response))
  | .sent _ _ (.ok answer), response => response = answer
  | .sent _ _ (.error e), response =>
    response = HttpInterceptor.build502Error
      ("Service Unavailable. Can't Connect to Target Server [".toList ++
        HttpInterceptor.getHost req ++ "], [Time: ".toList ++ e.elapsed ++ "]".toList)
  | .waiting, _ | .stamped _ _ _, _ => False

end Exchange

/-- The protocol of a request. -/
@[reducible]
def exchange (X : Externals) (req : Request) : Protocol (TaskSig StoreSig) where
  State := Stage
  Allows := Exchange.Allows X req
  next := Exchange.next

/-! ## The code follows it -/

namespace Exchange

variable {X : Externals} {req newReq : Request} {id : UInt64} {port : UInt16}

theorem unwrap_waiting {α : Type} (x : Option α) :
    (Task.unwrap x).Follows (exchange X req) .waiting fun q a => q = .waiting ∧ x = some a := by
  cases x with
  | some a => exact ⟨rfl, rfl⟩
  | none => exact ⟨.lookup trivial, fun r => nomatch r⟩

/-- Where a request stands after a lookup. -/
def Resolved (q : Stage) (r : Result (List SocketAddr)) : Prop :=
  (q = .waiting ∧ ∃ addrs, r = .ok addrs) ∨ (q = .unresolved ∧ ∃ e, r = .error e)

theorem resolveHost_follows (host : Str) (currentTime : UInt64) :
    (HttpInterceptor.resolveHost host currentTime).Follows (exchange X req) .waiting
      Resolved := by
  refine (unwrap_waiting _).bind ?_
  rintro q name ⟨rfl, -⟩
  refine (unwrap_waiting _).bind ?_
  rintro q port ⟨rfl, -⟩
  refine ⟨.lookup trivial, fun r => ?_⟩
  cases r with
  | error e => exact .inr ⟨rfl, e, rfl⟩
  | ok addrs => exact ⟨.lookup trivial, fun _ => .inl ⟨rfl, addrs, rfl⟩⟩

theorem dnsLookup_follows (host : Str) :
    (HttpInterceptor.dnsLookup X host).Follows (exchange X req) .waiting Resolved := by
  refine ⟨.lookup trivial, fun time => (unwrap_waiting _).bind ?_⟩
  rintro q currentTime ⟨rfl, -⟩
  refine ⟨.lookup trivial, fun entry => ?_⟩
  cases entry with
  | none => exact resolveHost_follows host currentTime
  | some entry =>
    refine (unwrap_waiting _).bind ?_
    rintro q age ⟨rfl, -⟩
    show Follows _ _ (if _ then _ else _) _
    split
    · exact .inl ⟨rfl, entry.1, rfl⟩
    · exact resolveHost_follows host currentTime

theorem handleWebsocket_follows (hupgrade : Websocket.isWebsocketUpgrade req = true) :
    (Websocket.handleWebsocket X req).Follows (exchange X req) .waiting
      fun q r => ∃ response, r = .ok response ∧ Answers X req q response := by
  refine (unwrap_waiting _).bind ?_
  rintro q target ⟨rfl, htarget⟩
  refine ⟨.upgrade hupgrade htarget, fun answer => ?_⟩
  cases answer with
  | ok answer => exact ⟨_, rfl, rfl⟩
  | error e => exact ⟨_, rfl, rfl⟩

/-- What the built-in server reads to make up its answer stays on record. -/
theorem show_follows (hkept : KeptAs X req newReq port) {p : Prog StoreSig (Result Response)}
    {shown : Trace StoreSig} {post : Result Response → Prop} (hp : p.Only StoreOp.Shows post)
    (hsteps : Steps (BifrostServerPlugin.hostServer X newReq) shown p) :
    (Task.callback .handleRequest p).Follows (exchange X req) (.asked id port shown)
      fun q r => post r ∧ ∃ shown', q = .asked id port shown' ∧
        Steps (BifrostServerPlugin.hostServer X newReq) shown' (.ret r) := by
  induction p generalizing shown with
  | ret r => exact ⟨hp, shown, rfl, hsteps⟩
  | act o k ih =>
    refine ⟨.read hp.1 hkept hsteps, fun r => ?_⟩
    have hnext : next (.asked id port shown) (.callback .handleRequest o) r =
        .asked id port (shown ++ [⟨o, r⟩]) := by
      have hshows := hp.1
      cases o with
      | getConfig | getNetworkRecords | load => rfl
      | _ => cases hshows
    show Follows (exchange X req) (next _ _ _) _ _
    rw [hnext]
    exact ih r (hp.2 r) (hsteps.snoc r)

theorem hostServer_shows (X : Externals) (req : Request) :
    (BifrostServerPlugin.hostServer X req).Only StoreOp.Shows
      fun r => ∃ response, r = .ok response := by
  unfold BifrostServerPlugin.hostServer
  split_ifs
  · exact ⟨_, rfl⟩
  · exact ⟨_, rfl⟩
  · exact ⟨trivial, fun _ => ⟨_, rfl⟩⟩
  · exact ⟨trivial, fun _ => ⟨_, rfl⟩⟩
  · iterate 16 refine ⟨trivial, fun _ => ?_⟩
    exact ⟨_, rfl⟩
  · exact ⟨_, rfl⟩

/-- The built-in server lets a request pass, or answers it from what it reads. -/
theorem bifrostServer_follows (hrebuilt : RebuiltAs X req newReq) :
    (Task.callback .handleRequest (BifrostServerPlugin.handleRequest X id newReq)).Follows
      (exchange X req) (.drawn id) fun q r =>
        (∃ port, PassedAs X req newReq port ∧ q = .asked id port [] ∧
          r = (.ok (true, none), newReq)) ∨
        ∃ response, Answers X req q response ∧ r = (.ok (false, some response), newReq) := by
  refine ⟨.ask, fun config => ?_⟩
  show Follows (exchange X req) (.asked id config.port [])
    ((if _ then _ else _ : Prog StoreSig _).embed _ _) _
  split
  next hself =>
    have hkept : KeptAs X req newReq config.port := ⟨hrebuilt, hself⟩
    show Follows _ _ ((Prog.bind _ _).embed _ _) _
    rw [embed_bind]
    refine (show_follows hkept (hostServer_shows X newReq) (.refl _)).bind ?_
    rintro q r ⟨⟨response, rfl⟩, shown, rfl, hsteps⟩
    exact .inr ⟨response, ⟨newReq, hkept, hsteps⟩, rfl⟩
  next hself => exact .inl ⟨config.port, ⟨hrebuilt, Bool.eq_false_iff.mpr hself⟩, rfl, rfl⟩

/-- What the plugins do with a request: the built-in server answers it, or it is counted, recorded
and let through as it is. -/
theorem handleRequest_follows (hrebuilt : RebuiltAs X req newReq) :
    (Task.callback .handleRequest ((registeredPlugins X).handleRequest id newReq)).Follows
      (exchange X req) (.drawn id) fun q r =>
        (∃ port time, PassedAs X req newReq port ∧ q = .stamped id port time ∧
          r = (.ok (true, none), newReq)) ∨
        ∃ response, Answers X req q response ∧ r = (.ok (false, some response), newReq) := by
  show ((Prog.bind _ _).embed _ _).Follows _ _ _
  rw [embed_bind]
  refine (bifrostServer_follows hrebuilt).bind ?_
  rintro q r (⟨port, hpass, rfl, rfl⟩ | ⟨response, hanswer, rfl⟩)
  · -- Three counters, then the clock, the record, and its mark.
    refine ⟨.count (by decide) hpass, fun _ => ⟨.count (by decide) hpass, fun _ =>
      ⟨.count (by decide) hpass, fun _ => ⟨.clock hpass, fun time => ?_⟩⟩⟩⟩
    exact ⟨.add hpass, fun _ => ⟨.mark, fun _ => .inl ⟨port, time, hpass, rfl, rfl⟩⟩⟩
  · exact .inr ⟨response, hanswer, rfl⟩

/-- What `handle_http` makes of the result of `http_request`. -/
def orInternalError (r : Result Response) : Response :=
  r.toOption.getD (.build 500 [] (.text "Internal Server Error"))

theorem httpRequest_follows (hupgrade : Websocket.isWebsocketUpgrade req = false) :
    (HttpInterceptor.httpRequest X (registeredPlugins X) req).Follows (exchange X req) .waiting
      fun q r => Answers X req q (orInternalError r) := by
  refine ⟨.draw hupgrade, fun id => ?_⟩
  simp only [ret_bind]
  cases huri : X.parseUri (HttpInterceptor.uriString req) with
  | error e =>
    have hnot : ∀ newReq, ¬ RebuiltAs X req newReq := by
      rintro newReq ⟨uri, hparse, -⟩
      cases huri.symm.trans hparse
    exact ⟨hnot, rfl⟩
  | ok uri =>
    refine (handleRequest_follows ⟨uri, huri, rfl⟩).bind ?_
    rintro q r (⟨port, time, hpass, rfl, rfl⟩ | ⟨response, hanswer, rfl⟩)
    · refine ⟨.send hpass, fun answer => ?_⟩
      cases answer <;> rfl
    · exact hanswer

theorem handleHttp_follows (X : Externals) (req : Request) :
    (HttpInterceptor.handleHttp X (registeredPlugins X) req).Follows (exchange X req) .waiting
      (Answers X req) := by
  refine (dnsLookup_follows _).bind ?_
  rintro q r (⟨rfl, addrs, rfl⟩ | ⟨rfl, e, rfl⟩)
  · show Follows _ _ (if _ then _ else _) _
    split
    next hupgrade =>
      refine (handleWebsocket_follows hupgrade).bind ?_
      rintro q r ⟨response, rfl, hanswer⟩
      exact hanswer
    next hupgrade =>
      refine (httpRequest_follows (Bool.eq_false_iff.mpr hupgrade)).bind fun q r hq => ?_
      cases r <;> exact hq
  · rfl

/-- The program of a request follows the protocol of the request. -/
theorem program_follows (X : Externals) {job : Job} {req : Request} (h : job.request = some req) :
    ((system X).program job).Follows (exchange X req) .waiting
      fun q r => ∃ response, r = some response ∧ Answers X req q response := by
  have hhttp := handleHttp_follows X req
  cases job with
  | proxied req' fuel =>
    obtain ⟨hconnect, rfl⟩ : req'.method ≠ .connect ∧ req' = req := by
      simpa [Job.request] using h
    refine Follows.bind (M := Answers X req') ?_ fun q response hq => ⟨response, rfl, hq⟩
    rw [ProxyServer.proxyHandler_of_ne_connect _ _ _ hconnect]
    exact hhttp
  | intercepted req' =>
    cases h
    exact hhttp.bind fun q response hq => ⟨response, rfl, hq⟩
  | sampler fuel => cases h

end Exchange

end Bifrost
