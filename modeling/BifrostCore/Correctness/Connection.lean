import BifrostCore.Correctness.Accounts
import BifrostCore.Correctness.Outcomes

/-!
# The connection of a CONNECT request

What a CONNECT request on the listening port says to the outside. With `enable_https` its connection
is terminated at the proxy, under a certificate that is looked up or made; without it, the proxy
connects to the target and opens a tunnel. `connection req` is the protocol of both.

* `Connection.program_follows` — the code follows it, and the leg it ends on determines the answer.
* `connected_of_returned` — in every run, which way a CONNECT request went and how it is answered.
* `modes_separate` — in every run, the tunnels and the certificates exclude each other.
-/

namespace Bifrost

open Concurrency Prog

/-- The CONNECT request a job is started for. -/
def Job.connectRequest : Job → Option Request
  | .proxied req _ => if req.method = .connect then some req else none
  | _ => none

/-- The answer to a CONNECT request whose target is connected. -/
def tunnelResponse : Response :=
  .build 200
    [(.connection, HeaderValue.ofStr "keep-alive"),
      (.proxyConnection, HeaderValue.ofStr "keep-alive"),
      (.proxyAgent, HeaderValue.ofStr "bifrost")] .empty

/-! ## The protocol -/

/-- How far a CONNECT request has come. -/
inductive Leg where
  /-- Nothing is drawn yet. -/
  | start
  /-- The id is drawn. -/
  | drawn
  /-- With `enable_https`: a certificate is looked for. -/
  | certifying
  /-- The certificate serves. -/
  | terminated
  /-- The certificate does not serve. -/
  | refused
  /-- Without `enable_https`: the target is about to be connected. -/
  | dialing
  /-- The target does not answer. -/
  | unreachable
  /-- The target is connected, the client is about to be handed over. -/
  | connected
  /-- The client was not handed over. -/
  | dropped
  /-- The tunnel. -/
  | tunneling

/-- The operations of the certificate cache, and of making a certificate for a domain. -/
def TaskOp.OfCertificate (domain : Str) : TaskOp StoreSig → Prop
  | .certCacheGet domain' | .certCacheInsert domain' _ => domain' = domain
  | .issueCertificate _ _ _ subjectAltName _ => subjectAltName = domain
  | .store .getConfig | .readFile _ | .now | .panic => True
  | _ => False

/-- The operations of a tunnel. -/
def TaskOp.OfTunnel : TaskOp StoreSig → Prop
  | .callback cb _ => cb = .handleConnect ∨ cb = .handleData ∨ cb = .handleConnectClose
  | .select | .writeAll _ _ | .panic | .outOfFuel => True
  | _ => False

/-- The operations of the loop of a tunnel. -/
def TaskOp.Relays : TaskOp StoreSig → Prop
  | .callback cb _ => cb = .handleData
  | .select | .writeAll _ _ | .outOfFuel => True
  | _ => False

theorem TaskOp.Relays.ofTunnel {o : TaskOp StoreSig} (h : o.Relays) : o.OfTunnel := by
  cases o with
  | callback cb o => exact .inr (.inl h)
  | _ => trivial

namespace Connection

/-- The leg after an operation. -/
def next : Leg → (o : TaskOp StoreSig) → o.Res → Leg
  | .start, .nextRequestId, _ => .drawn
  | .drawn, .store .getConfig, config => if config.enableHttps then .certifying else .dialing
  | .certifying, .tlsAcceptor _, .ok _ => .terminated
  | .certifying, .tlsAcceptor _, .error _ => .refused
  | .dialing, .tcpConnect _, .ok _ => .connected
  | .dialing, .tcpConnect _, .error _ => .unreachable
  | .connected, .upgrade, .ok _ => .tunneling
  | .connected, .upgrade, .error _ => .dropped
  | q, _, _ => q

/-- The operations a CONNECT request may perform on a leg. -/
inductive Allows (req : Request) : Leg → TaskOp StoreSig → Prop
  | draw : Allows req .start .nextRequestId
  | configure : Allows req .drawn (.store .getConfig)
  | certify {authStr : Str} {o : TaskOp StoreSig} : req.uri.authority = some authStr →
      o.OfCertificate (HttpsInterceptor.targetHost authStr) → Allows req .certifying o
  | serve {cert : CachedCert} : Allows req .certifying (.tlsAcceptor cert)
  | dial {authStr : Str} : req.uri.authority = some authStr →
      Allows req .dialing (.tcpConnect (HttpsInterceptor.targetAddr authStr))
  | upgrade : Allows req .connected .upgrade
  | tunnel {o : TaskOp StoreSig} : o.OfTunnel → Allows req .tunneling o

/-- The answer of a CONNECT request, by the leg it ends on. -/
def Answers (req : Request) : Leg → Response → Prop
  | .certifying, response => response = .build 500 [] .empty
  | .terminated, response => response = HttpsInterceptor.interceptedResponse
  | .refused, response => response = .build 500 [] .empty
  | .dialing, response => req.uri.authority = none ∧ response = .build 500 [] .empty
  | .unreachable, response => response = .build 502 [] .empty
  | .dropped, response | .tunneling, response => response = tunnelResponse
  | .start, _ | .drawn, _ | .connected, _ => False

end Connection

/-- The protocol of a CONNECT request. -/
@[reducible]
def connection (req : Request) : Protocol (TaskSig StoreSig) where
  State := Leg
  Allows := Connection.Allows req
  next := Connection.next

/-! ## The code follows it -/

namespace Connection

variable {X : Externals} {pm : PluginManager StoreSig} {req : Request}

theorem unwrap_ofTunnel {α : Type} (x : Option α) :
    (Task.unwrap x).Only TaskOp.OfTunnel fun _ => True := by
  cases x with
  | some a => trivial
  | none => exact ⟨trivial, fun r => nomatch r⟩

theorem callback_ofTunnel {α : Type} {cb : Callback}
    (hcb : cb = .handleConnect ∨ cb = .handleData ∨ cb = .handleConnectClose)
    (p : Prog StoreSig α) : (Task.callback cb p).Only TaskOp.OfTunnel fun _ => True :=
  (Task.callback_only cb p).mono (by rintro _ ⟨o, rfl⟩; exact hcb)

theorem onRead_relays (id : UInt64) (side : Side) (errorCount : ℕ) (result : Result Chunk) :
    (TunnelInterceptor.onRead pm id side errorCount result).Only TaskOp.Relays fun _ => True := by
  cases result with
  | error e => trivial
  | ok chunk =>
    show Only _ (if _ then _ else _) _
    split
    · trivial
    · refine ((Task.callback_only _ _).mono (by rintro _ ⟨o, rfl⟩; rfl)).bind fun _ _ => ?_
      refine ⟨trivial, fun written => ?_⟩
      cases written <;> trivial

theorem relay_relays (id : UInt64) (fuel errorCount : ℕ) :
    (TunnelInterceptor.relay pm id fuel errorCount).Only TaskOp.Relays fun _ => True := by
  induction fuel generalizing errorCount with
  | zero => exact ⟨trivial, fun r => nomatch r⟩
  | succ fuel ih =>
    refine ⟨trivial, fun outcome => ?_⟩
    have hselect : (TunnelInterceptor.onSelect pm id errorCount outcome).Only TaskOp.Relays
        fun _ => True := by
      cases outcome with
      | clientRead result => exact onRead_relays id .client errorCount result
      | targetRead result => exact onRead_relays id .target errorCount result
      | timeout => trivial
    refine hselect.bind fun r _ => ?_
    cases r with
    | none => trivial
    | some errorCount => exact ih errorCount

theorem onConnect_ofTunnel (fuel : ℕ) (id : UInt64) (r : Result (Bool × Option Response)) :
    (TunnelInterceptor.onConnect X pm fuel id r).Only TaskOp.OfTunnel fun _ => True := by
  unfold TunnelInterceptor.onConnect
  split
  · exact (relay_relays id fuel 0).mono fun _ ho => ho.ofTunnel
  · refine ⟨trivial, fun written => ?_⟩
    cases written with
    | ok => trivial
    | err written e => exact ⟨trivial, fun r => nomatch r⟩
  · trivial
  · trivial

theorem handleTunnel_ofTunnel (fuel : ℕ) (id : UInt64) (req : Request) (host : Str) :
    (TunnelInterceptor.handleTunnel X pm fuel id req host).Only TaskOp.OfTunnel
      fun _ => True := by
  refine (callback_ofTunnel (by simp) _).bind fun r _ => ?_
  refine (onConnect_ofTunnel fuel id r).bind fun _ _ => ?_
  exact (callback_ofTunnel (by simp) _).bind fun _ _ => trivial

theorem tunnel_follows {α : Type} {p : Prog (TaskSig StoreSig) α} {post : α → Prop}
    (h : p.Only TaskOp.OfTunnel post) :
    p.Follows (connection req) .tunneling fun q a => q = .tunneling ∧ post a :=
  h.follows (fun _ ho => .tunnel ho) fun _ _ _ => rfl

theorem unwrap_ofCertificate {α : Type} (domain : Str) (x : Option α) :
    (Task.unwrap x).Only (TaskOp.OfCertificate domain) fun _ => True := by
  cases x with
  | some a => trivial
  | none => exact ⟨trivial, fun r => nomatch r⟩

theorem generateCert_ofCertificate (domain : Str) :
    (HttpsInterceptor.generateCert domain).Only (TaskOp.OfCertificate domain)
      fun _ => True := by
  refine ⟨trivial, fun config => ⟨trivial, fun certPem => ?_⟩⟩
  cases certPem with
  | error e => trivial
  | ok certPem =>
    refine ⟨trivial, fun keyPem => ?_⟩
    cases keyPem with
    | error e => trivial
    | ok keyPem =>
      refine (unwrap_ofCertificate domain _).bind fun cnValue _ => ⟨rfl, fun cert => ?_⟩
      cases cert with
      | error e => trivial
      | ok cert => exact ⟨trivial, fun _ => trivial⟩

theorem generateAndInsert_ofCertificate (domain : Str) :
    (HttpsInterceptor.generateAndInsert domain).Only (TaskOp.OfCertificate domain)
      fun _ => True := by
  refine (generateCert_ofCertificate domain).bind fun cert _ => ?_
  cases cert with
  | error e => trivial
  | ok cert => exact ⟨rfl, fun _ => trivial⟩

theorem getOrGenerateCert_ofCertificate (domain : Str) :
    (HttpsInterceptor.getOrGenerateCert domain).Only (TaskOp.OfCertificate domain)
      fun _ => True := by
  refine ⟨rfl, fun cached => ?_⟩
  cases cached with
  | none => exact generateAndInsert_ofCertificate domain
  | some cached =>
    refine ⟨trivial, fun time => ?_⟩
    show Only _ (if _ then _ else _) _
    split
    · trivial
    · exact generateAndInsert_ofCertificate domain

theorem next_ofCertificate {domain : Str} {o : TaskOp StoreSig} (h : o.OfCertificate domain)
    (r : o.Res) : next .certifying o r = .certifying := by
  cases o with
  | tlsAcceptor cert => cases h
  | _ => rfl

theorem certificate_follows {authStr : Str} (hauth : req.uri.authority = some authStr) :
    (HttpsInterceptor.getOrGenerateCert (HttpsInterceptor.targetHost authStr)).Follows
      (connection req) .certifying fun q _ => q = .certifying ∧ True :=
  (getOrGenerateCert_ofCertificate _).follows (fun _ ho => .certify hauth ho)
    fun _ r ho => next_ofCertificate ho r

/-- The future that is spawned behind a connected target. -/
theorem tunnelTask_follows (fuel : ℕ) (id : UInt64) (host : Str) :
    (TunnelInterceptor.tunnelTask X pm fuel id host).Follows (connection req) .connected
      fun q _ => q = .dropped ∨ q = .tunneling := by
  refine ⟨.upgrade, fun upgraded => ?_⟩
  cases upgraded with
  | error e => exact .inl rfl
  | ok _ =>
    refine (tunnel_follows (unwrap_ofTunnel _)).bind ?_
    rintro q uri ⟨rfl, -⟩
    exact (tunnel_follows (handleTunnel_ofTunnel fuel id _ host)).mono fun q _ h => .inr h.1

/-- The answer `ProxyServer::handle_connect` gives. -/
def orError (result : Result (Option Response)) : Response :=
  match result with
  | .ok response => response.getD (.build 500 [] .empty)
  | .error _ => .build 500 [] .empty

theorem handleConnect_follows (fuel : ℕ) :
    (HttpsInterceptor.handleConnect X pm fuel req).Follows (connection req) .start
      fun q r => r.2.Follows (connection req) q fun q' _ => Answers req q' (orError r.1) := by
  refine ⟨.draw, fun id => ⟨.configure, fun config => ?_⟩⟩
  show Follows (connection req) (if config.enableHttps then .certifying else .dialing) _ _
  simp only [ret_bind]
  cases hauth : req.uri.authority with
  | none =>
    show Answers req _ _
    split
    · rfl
    · exact ⟨hauth, rfl⟩
  | some authStr =>
    show Follows (connection req) _ (if config.enableHttps then _ else _) _
    split
    · refine (certificate_follows hauth).bind ?_
      rintro q cert ⟨rfl, -⟩
      cases cert with
      | error e => rfl
      | ok cert =>
        refine ⟨.serve, fun acceptor => ?_⟩
        cases acceptor <;> rfl
    · refine ⟨.dial hauth, fun connected => ?_⟩
      cases connected with
      | error e => rfl
      | ok _ =>
        refine (tunnelTask_follows fuel id _).mono ?_
        rintro q _ (rfl | rfl) <;> rfl

/-- The program of a CONNECT request follows the protocol of the request. -/
theorem program_follows (X : Externals) {job : Job} {req : Request}
    (h : job.connectRequest = some req) :
    ((system X).program job).Follows (connection req) .start
      fun q r => ∃ response, r = some response ∧ Answers req q response := by
  cases job with
  | proxied req' fuel =>
    obtain ⟨hconnect, rfl⟩ : req'.method = .connect ∧ req' = req := by
      simpa [Job.connectRequest] using h
    refine Follows.bind (M := Answers req') ?_ fun q response hq => ⟨response, rfl, hq⟩
    rw [ProxyServer.proxyHandler_of_connect _ _ _ hconnect]
    refine (handleConnect_follows fuel).bind ?_
    rintro q ⟨result, spawned⟩ hspawned
    refine hspawned.bind fun q' _ hq' => ?_
    cases result <;> exact hq'
  | intercepted req' => cases h
  | sampler fuel => cases h

end Connection

/-! ## Observations -/

/-- The target an operation connects to, with what comes of it. -/
def dialOf : Event (TaskSig StoreSig) → Option (Str × Result Unit)
  | ⟨.tcpConnect addr, r⟩ => some (addr, r)
  | _ => none

/-- What comes of setting up TLS with a certificate. -/
def serveOf : Event (TaskSig StoreSig) → Option (Result Unit)
  | ⟨.tlsAcceptor _, r⟩ => some r
  | _ => none

/-- The operation is one of opening or running a tunnel. -/
def TaskOp.Tunnels : TaskOp StoreSig → Prop
  | .callback cb _ => cb ≠ .handleRequest ∧ cb ≠ .handleResponse
  | .tcpConnect _ | .upgrade | .select | .writeAll _ _ => True
  | _ => False

/-- The operation is one of making or using a certificate. -/
def TaskOp.Certifies : TaskOp StoreSig → Prop
  | .certCacheGet _ | .certCacheInsert _ _ | .readFile _ | .issueCertificate _ _ _ _ _
  | .tlsAcceptor _ => True
  | _ => False

theorem TaskOp.OfCertificate.not_tunnels {domain : Str} {o : TaskOp StoreSig}
    (h : o.OfCertificate domain) : ¬ o.Tunnels := by
  intro h'
  cases o with
  | callback | tcpConnect | upgrade | select | writeAll => exact h
  | _ => exact h'

theorem TaskOp.OfTunnel.not_certifies {o : TaskOp StoreSig} (h : o.OfTunnel) :
    ¬ o.Certifies := by
  intro h'
  cases o with
  | certCacheGet | certCacheInsert | readFile | issueCertificate | tlsAcceptor => exact h
  | _ => exact h'

section Trace

variable (tr : Trace (TaskSig StoreSig))

/-- The targets a task has connected to. -/
def dials : List (Str × Result Unit) := tr.filterMap dialOf

/-- The certificates a task has tried to serve. -/
def serves : List (Result Unit) := tr.filterMap serveOf

/-- The task has read a configuration with this `enable_https`. -/
def ReadMode (enableHttps : Bool) : Prop :=
  ∃ config : Config, (⟨.store .getConfig, config⟩ : Event (TaskSig StoreSig)) ∈ tr ∧
    config.enableHttps = enableHttps

/-- The client was handed over to the task. -/
def HandedOver : Prop := (⟨.upgrade, .ok ()⟩ : Event (TaskSig StoreSig)) ∈ tr

/-- The task has connected to the target of the request, once. -/
def Dialed (req : Request) (r : Result Unit) : Prop :=
  ∃ authStr, req.uri.authority = some authStr ∧
    dials tr = [(HttpsInterceptor.targetAddr authStr, r)]

end Trace

/-- Which way a CONNECT request went, and how it is answered. -/
inductive Connected (req : Request) (config : Config) (tr : Trace (TaskSig StoreSig)) :
    Response → Prop
  | invalid : req.uri.authority = none → dials tr = [] → serves tr = [] →
      Connected req config tr (.build 500 [] .empty)
  | uncertified : config.enableHttps = true → dials tr = [] → .ok () ∉ serves tr →
      Connected req config tr (.build 500 [] .empty)
  | terminated : config.enableHttps = true → dials tr = [] → serves tr = [.ok ()] →
      Connected req config tr HttpsInterceptor.interceptedResponse
  | unreachable {e : Str} : config.enableHttps = false → Dialed tr req (.error e) →
      serves tr = [] → Connected req config tr (.build 502 [] .empty)
  | tunneled : config.enableHttps = false → Dialed tr req (.ok ()) → serves tr = [] →
      Connected req config tr tunnelResponse

namespace Connection

/-- What the leg of a CONNECT request says about its trace. -/
def At (req : Request) : Leg → Trace (TaskSig StoreSig) → Prop
  | .start, tr | .drawn, tr => dials tr = [] ∧ serves tr = []
  | .certifying, tr => ReadMode tr true ∧ dials tr = [] ∧ serves tr = []
  | .terminated, tr => ReadMode tr true ∧ dials tr = [] ∧ serves tr = [.ok ()]
  | .refused, tr => ReadMode tr true ∧ dials tr = [] ∧ ∃ e, serves tr = [.error e]
  | .dialing, tr => ReadMode tr false ∧ dials tr = [] ∧ serves tr = []
  | .unreachable, tr => ReadMode tr false ∧ (∃ e, Dialed tr req (.error e)) ∧ serves tr = []
  | .connected, tr | .dropped, tr => ReadMode tr false ∧ Dialed tr req (.ok ()) ∧ serves tr = []
  | .tunneling, tr =>
    ReadMode tr false ∧ Dialed tr req (.ok ()) ∧ serves tr = [] ∧ HandedOver tr

section Snoc

variable {tr : Trace (TaskSig StoreSig)} {e : Event (TaskSig StoreSig)}

theorem dials_snoc : dials (tr ++ [e]) = dials tr ++ (dialOf e).toList := by
  cases h : dialOf e <;> simp [dials, h]

theorem serves_snoc : serves (tr ++ [e]) = serves tr ++ (serveOf e).toList := by
  cases h : serveOf e <;> simp [serves, h]

theorem readMode_snoc {enableHttps : Bool} (h : ReadMode tr enableHttps) :
    ReadMode (tr ++ [e]) enableHttps := by
  obtain ⟨config, hmem, hmode⟩ := h
  exact ⟨config, List.mem_append_left _ hmem, hmode⟩

end Snoc

variable {req : Request}

/-- An operation that neither connects nor sets up TLS keeps what is known. -/
theorem At.silent {q : Leg} {tr : Trace (TaskSig StoreSig)} {e : Event (TaskSig StoreSig)}
    (h : At req q tr) (hdial : dialOf e = none) (hserve : serveOf e = none) :
    At req q (tr ++ [e]) := by
  have hdials : dials (tr ++ [e]) = dials tr := by simp [dials_snoc, hdial]
  have hserves : serves (tr ++ [e]) = serves tr := by simp [serves_snoc, hserve]
  cases q with
  | start => simpa only [At, hdials, hserves] using h
  | drawn => simpa only [At, hdials, hserves] using h
  | tunneling =>
    obtain ⟨hmode, hdialed, hserved, hover⟩ := h
    exact ⟨readMode_snoc hmode, by simpa only [Dialed, hdials] using hdialed,
      hserves.trans hserved, List.mem_append_left _ hover⟩
  | _ =>
    obtain ⟨hmode, hrest⟩ := h
    exact ⟨readMode_snoc hmode, by simpa only [Dialed, hdials, hserves] using hrest⟩

/-- An operation the protocol allows keeps the agreement of leg and trace. -/
theorem At.step {q : Leg} {tr : Trace (TaskSig StoreSig)} {o : TaskOp StoreSig} (r : o.Res)
    (ho : Allows req q o) (h : At req q tr) : At req (next q o r) (tr ++ [⟨o, r⟩]) := by
  cases ho with
  | draw => exact At.silent h rfl rfl
  | configure =>
    have hread : ReadMode (tr ++ [⟨.store .getConfig, r⟩]) (r : Config).enableHttps :=
      ⟨r, by simp, rfl⟩
    have hdials : dials (tr ++ [⟨.store .getConfig, r⟩]) = [] := by
      simp [dials_snoc, dialOf, h.1]
    have hserves : serves (tr ++ [⟨.store .getConfig, r⟩]) = [] := by
      simp [serves_snoc, serveOf, h.2]
    show At req (if _ then _ else _) _
    split
    next hmode => exact ⟨hmode ▸ hread, hdials, hserves⟩
    next hmode => exact ⟨Bool.eq_false_iff.mpr hmode ▸ hread, hdials, hserves⟩
  | certify _ ho =>
    rw [next_ofCertificate ho]
    -- The two operations that show are not those of a certificate.
    cases o with
    | tcpConnect | tlsAcceptor => cases ho
    | _ => exact At.silent h rfl rfl
  | serve =>
    obtain ⟨hmode, hdials, hserves⟩ := h
    cases r with
    | ok _ =>
      exact ⟨readMode_snoc hmode, by simp [dials_snoc, dialOf, hdials],
        by simp [serves_snoc, serveOf, hserves]⟩
    | error e =>
      exact ⟨readMode_snoc hmode, by simp [dials_snoc, dialOf, hdials],
        e, by simp [serves_snoc, serveOf, hserves]⟩
  | dial hauth =>
    obtain ⟨hmode, hdials, hserves⟩ := h
    have hserves' : ∀ e', serveOf e' = none → serves (tr ++ [e']) = [] := by
      intro e' he'
      simp [serves_snoc, he', hserves]
    cases r with
    | ok _ =>
      exact ⟨readMode_snoc hmode, ⟨_, hauth, by simp [dials_snoc, dialOf, hdials]⟩,
        hserves' _ rfl⟩
    | error e =>
      exact ⟨readMode_snoc hmode, ⟨e, _, hauth, by simp [dials_snoc, dialOf, hdials]⟩,
        hserves' _ rfl⟩
  | upgrade =>
    cases r with
    | ok _ =>
      obtain ⟨hmode, hdialed, hserved⟩ := At.silent (q := .connected) h
        (show dialOf ⟨.upgrade, .ok ()⟩ = none from rfl) rfl
      exact ⟨hmode, hdialed, hserved, List.mem_append_right _ (List.mem_singleton_self _)⟩
    | error e => exact At.silent (q := .dropped) h rfl rfl
  | tunnel ho =>
    -- Nor are they those of an open tunnel.
    cases o with
    | tcpConnect | tlsAcceptor => cases ho
    | _ => exact At.silent (q := .tunneling) h rfl rfl

/-- The leg and the trace agree along any run of the request. -/
theorem at_of_permits {tr : Trace (TaskSig StoreSig)} (h : (connection req).Permits .start tr) :
    At req ((connection req).after .start tr) tr :=
  h.induction (R := At req) ⟨rfl, rfl⟩ fun _ _ _ r ho h => h.step r ho

end Connection

/-! ## The running proxy -/

section Reachable

variable {X : Externals} {config : Config} {now : UInt64} {moves : List (Move Job Oracle)}
  {t : ProxyTask} (ht : t ∈ (runProxy X config now moves).threads)

include ht

/-- The mode a task reads is that of the configuration the proxy was started with. -/
theorem mode_of_read {enableHttps : Bool} (h : ReadMode t.trace enableHttps) :
    config.enableHttps = enableHttps := by
  obtain ⟨c, hmem, rfl⟩ := h
  obtain ⟨moves', ω, g, -, hperf⟩ := performed_in_run ht hmem
  cases hperf
  exact congrArg Config.enableHttps (books X config now moves').config_eq.symm

/-- What a CONNECT request does on the way, in the mode it is in. -/
theorem connection_mode {req : Request} (hreq : t.tag.connectRequest = some req)
    {e : Event (TaskSig StoreSig)} (he : e ∈ t.trace) :
    (e.op.Tunnels → config.enableHttps = false) ∧
      (e.op.Certifies → config.enableHttps = true) := by
  obtain ⟨tr, tr', htrace⟩ := List.append_of_mem he
  have hpermits := (Connection.program_follows X hreq).permits (System.steps_of_run _ moves t ht)
  rw [htrace] at hpermits
  obtain ⟨hbefore, hallows⟩ := hpermits.split
  have hat := Connection.at_of_permits hbefore
  have hmode : ∀ {enableHttps : Bool}, ReadMode tr enableHttps →
      config.enableHttps = enableHttps := by
    rintro enableHttps ⟨c, hmem, hc⟩
    exact mode_of_read ht ⟨c, by rw [htrace]; exact List.mem_append_left _ hmem, hc⟩
  generalize (connection req).after .start tr = q at hallows hat
  generalize e.op = o at hallows
  cases hallows with
  | draw => exact ⟨False.elim, False.elim⟩
  | configure => exact ⟨False.elim, False.elim⟩
  | certify _ ho => exact ⟨fun h => absurd h ho.not_tunnels, fun _ => hmode hat.1⟩
  | serve => exact ⟨False.elim, fun _ => hmode hat.1⟩
  | dial _ => exact ⟨fun _ => hmode hat.1, False.elim⟩
  | upgrade => exact ⟨fun _ => hmode hat.1, False.elim⟩
  | tunnel ho => exact ⟨fun _ => hmode hat.1, fun h => absurd h ho.not_certifies⟩

/-- A request that is not a CONNECT request neither tunnels nor makes certificates. -/
theorem exchange_mode {req : Request} (hreq : t.tag.request = some req)
    {e : Event (TaskSig StoreSig)} (he : e ∈ t.trace) : ¬ e.op.Tunnels ∧ ¬ e.op.Certifies := by
  obtain ⟨q, hallows⟩ := ((Exchange.program_follows X hreq).permits
    (System.steps_of_run _ moves t ht)).allows _ e he
  generalize e.op = o at hallows
  cases hallows with
  | lookup ho =>
    cases o with
    | now | dnsCacheGet | dnsCacheInsert | lookupHost | panic => exact ⟨id, id⟩
    | _ => exact ho.elim
  | upgrade | draw | send => exact ⟨id, id⟩
  -- The others are operations of a callback, and of one that is not a tunnel's.
  | _ => exact ⟨fun h => h.1 rfl, id⟩

/-- A task that is not there for a CONNECT request neither tunnels nor makes certificates. -/
theorem other_mode (hreq : t.tag.connectRequest = none) {e : Event (TaskSig StoreSig)}
    (he : e ∈ t.trace) : ¬ e.op.Tunnels ∧ ¬ e.op.Certifies := by
  rcases hjob : t.tag with ⟨req, fuel⟩ | req | fuel
  · have hconnect : req.method ≠ .connect := by
      intro hconnect
      rw [hjob, Job.connectRequest, if_pos hconnect] at hreq
      cases hreq
    exact exchange_mode ht (by rw [hjob]; exact if_neg hconnect) he
  · exact exchange_mode ht (by rw [hjob]; rfl) he
  · -- The sampler uses the counters only.
    have hledger := System.permits ledger (Ledger.program_follows X) _ moves t ht
    obtain ⟨tr, tr', htrace⟩ := List.append_of_mem he
    rw [htrace] at hledger
    obtain ⟨hbefore, hallows⟩ := hledger.split
    have hflow : (phaseOf (t.tag, tr)).flow = (Ledger.start t.tag).flow :=
      Ledger.flow_after hbefore
    rw [hjob] at hflow hallows
    change Ledger.Allows (phaseOf (.sampler fuel, tr)) e.op at hallows
    generalize phaseOf (.sampler fuel, tr) = q at hflow hallows
    generalize e.op = o at hallows
    cases hallows with
    | sample_load => exact ⟨id, id⟩
    | sample_store _ => exact ⟨id, id⟩
    | sample_sleep => exact ⟨id, id⟩
    | sample_unobserved => exact ⟨id, id⟩
    | _ => cases hflow

/-- In every task, tunneling and certificates belong to the two modes. -/
theorem task_mode {e : Event (TaskSig StoreSig)} (he : e ∈ t.trace) :
    (e.op.Tunnels → config.enableHttps = false) ∧
      (e.op.Certifies → config.enableHttps = true) := by
  cases hreq : t.tag.connectRequest with
  | some req => exact connection_mode ht hreq he
  | none =>
    obtain ⟨htunnels, hcertifies⟩ := other_mode ht hreq he
    exact ⟨fun h => absurd h htunnels, fun h => absurd h hcertifies⟩

end Reachable

/-- Only a tunnel writes the byte counters. -/
theorem Ledger.not_writes_bytes {q : Phase} {o : TaskOp StoreSig} (h : Allows q o)
    (hnot : ¬ o.Tunnels) (direction : DataDirection) :
    o.storeOp.filter (·.writes (TrafficStatsPlugin.byteCounter direction)) = none := by
  cases h with
  | quiet_idle ho => exact ho.not_writes _
  | quiet_drawn ho => exact ho.not_writes _
  | @sample_store c v hs =>
    -- The sampler owns neither of the byte counters.
    have hne : c ≠ TrafficStatsPlugin.byteCounter direction := by
      rintro rfl
      cases direction <;> exact absurd hs (by decide)
    simp [TaskOp.storeOp, StoreOp.writes, hne]
  | request_total => cases direction <;> rfl
  | request_current => cases direction <;> rfl
  | request_second => cases direction <;> rfl
  | tunnel_total | tunnel_current | tunnel_second | meter | release =>
    exact absurd ⟨by decide, by decide⟩ hnot
  | _ => rfl

/-- An operation that is not one of certificates leaves the certificate cache alone. -/
theorem certCache_perform {ω : Oracle} {o : TaskOp StoreSig} {r : o.Res} {g g' : Globals}
    (h : perform ω o g = some (r, g')) (ho : ¬ o.Certifies) : g'.certCache = g.certCache := by
  cases o with
  | certCacheInsert => exact absurd trivial ho
  | _ => cases h <;> rfl

section Reachable

variable (X : Externals) (config : Config) (now : UInt64) (moves : List (Move Job Oracle))

/-- Without `enable_https` no certificate is ever cached. -/
theorem certCache_eq_empty (hmode : config.enableHttps = false) :
    (runProxy X config now moves).state.certCache = fun _ => none := by
  induction moves using List.reverseRecOn with
  | nil => rfl
  | append_singleton moves m ih =>
    have htasks := fun t (ht : t ∈ (runProxy X config now (moves ++ [m])).threads) e he =>
      (task_mode ht (e := e) he).2
    rw [runProxy, System.run_snoc, ← runProxy] at htasks ⊢
    cases m with
    | spawn job => exact ih
    | step j ω =>
      obtain heq | ⟨l, t, r, o, k, a, g', hth, hlen, hprog, hperf, heq⟩ :=
        (system X).move_step_cases (runProxy X config now moves) j ω
      · rw [heq]
        exact ih
      · rw [heq] at htasks ⊢
        rw [← ih]
        refine certCache_perform hperf fun hcert => ?_
        -- What the acting task has done now it did in this mode.
        have htrue := htasks (t.advance ⟨o, a⟩ (k a)) (by simp) ⟨o, a⟩ (by simp) hcert
        exact Bool.false_ne_true (hmode.symm.trans htrue)

/-- With `enable_https` no byte is ever metered. -/
theorem byteCounter_eq_zero (hmode : config.enableHttps = true) (direction : DataDirection) :
    (runProxy X config now moves).state.store.trafficStats.value
      (TrafficStatsPlugin.byteCounter direction) = 0 := by
  have hsampled : ¬ (TrafficStatsPlugin.byteCounter direction).Sampled := by
    cases direction <;> decide
  have hnone : ∀ t ∈ (runProxy X config now moves).threads,
      writes t.trace (TrafficStatsPlugin.byteCounter direction) = [] := by
    intro t ht
    refine List.filterMap_eq_nil_iff.mpr fun e he => ?_
    obtain ⟨q, hallows⟩ := (System.permits ledger (Ledger.program_follows X) _ moves t ht).allows _
      e he
    refine Ledger.not_writes_bytes hallows (fun htunnel => ?_) direction
    exact Bool.false_ne_true (((task_mode ht he).1 htunnel).symm.trans hmode)
  rw [runProxy_counter X config now moves hsampled (by cases direction <;> rfl)]
  refine List.sum_eq_zero fun v hv => ?_
  obtain ⟨t, ht, rfl⟩ := List.mem_map.mp hv
  rw [net_eq_writes, hnone t ht]
  rfl

end Reachable

/-- Which way a CONNECT request has gone when it has returned. -/
theorem connected {t : ProxyTask} {X : Externals} {config : Config} {now : UInt64}
    {moves : List (Move Job Oracle)} (ht : t ∈ (runProxy X config now moves).threads)
    {req : Request} (hreq : t.tag.connectRequest = some req) {response : Response}
    (hret : t.prog = .ret (some response)) : Connected req config t.trace response := by
  have hsteps := System.steps_of_run _ moves t ht
  have hat := Connection.at_of_permits ((Connection.program_follows X hreq).permits hsteps)
  have hfollows := (Connection.program_follows X hreq).steps hsteps
  rw [hret] at hfollows
  obtain ⟨response', heq, hanswer⟩ := hfollows
  obtain rfl := Option.some.inj heq
  -- The leg it ends on says which way it went.
  generalize (connection req).after .start t.trace = q at hat hanswer
  cases q with
  | start => exact hanswer.elim
  | drawn => exact hanswer.elim
  | certifying =>
    obtain ⟨hmode, hdials, hserves⟩ := hat
    obtain rfl : response = _ := hanswer
    exact .uncertified (mode_of_read ht hmode) hdials (by simp [hserves])
  | terminated =>
    obtain ⟨hmode, hdials, hserves⟩ := hat
    obtain rfl : response = _ := hanswer
    exact .terminated (mode_of_read ht hmode) hdials hserves
  | refused =>
    obtain ⟨hmode, hdials, e, hserves⟩ := hat
    obtain rfl : response = _ := hanswer
    exact .uncertified (mode_of_read ht hmode) hdials (by simp [hserves])
  | dialing =>
    obtain ⟨-, hdials, hserves⟩ := hat
    obtain ⟨hauth, rfl⟩ := hanswer
    exact .invalid hauth hdials hserves
  | unreachable =>
    obtain ⟨hmode, ⟨e, hdial⟩, hserves⟩ := hat
    obtain rfl : response = _ := hanswer
    exact .unreachable (mode_of_read ht hmode) hdial hserves
  | connected => exact hanswer.elim
  | dropped =>
    obtain ⟨hmode, hdial, hserves⟩ := hat
    obtain rfl : response = _ := hanswer
    exact .tunneled (mode_of_read ht hmode) hdial hserves
  | tunneling =>
    obtain ⟨hmode, hdial, hserves, -⟩ := hat
    obtain rfl : response = _ := hanswer
    exact .tunneled (mode_of_read ht hmode) hdial hserves

/-- What a CONNECT request has done before its plugins hear of it. -/
theorem opened_of_callback {t : ProxyTask} {X : Externals} {config : Config} {now : UInt64}
    {moves : List (Move Job Oracle)} (ht : t ∈ (runProxy X config now moves).threads)
    {req : Request} (hreq : t.tag.connectRequest = some req) {tr tr' : Trace (TaskSig StoreSig)}
    {e : Event (TaskSig StoreSig)} (htrace : t.trace = tr ++ e :: tr')
    (hcallback : e.op.callbackOf.isSome) : Dialed tr req (.ok ()) ∧ HandedOver tr := by
  have hpermits := (Connection.program_follows X hreq).permits (System.steps_of_run _ moves t ht)
  rw [htrace] at hpermits
  obtain ⟨hbefore, hallows⟩ := hpermits.split
  have hat := Connection.at_of_permits hbefore
  generalize (connection req).after .start tr = q at hallows hat
  generalize e.op = o at hallows hcallback
  cases hallows with
  | tunnel _ => exact ⟨hat.2.1, hat.2.2.2⟩
  | certify _ ho =>
    have hnone : o.callbackOf = none := by
      cases o with
      | callback => cases ho
      | _ => rfl
    rw [hnone] at hcallback
    cases hcallback
  | _ => cases hcallback

/-- The two modes exclude each other, in every run. With `enable_https` nothing is ever tunneled: no
task connects to a target, selects, writes, or runs a callback of a tunnel, and the byte counters
stay at zero. Without it no task reads the root certificate, issues or serves a certificate, and the
certificate cache stays empty. -/
theorem modes_separate (X : Externals) (config : Config) (now : UInt64)
    (moves : List (Move Job Oracle)) :
    (config.enableHttps = true →
      (∀ t ∈ (runProxy X config now moves).threads, ∀ e ∈ t.trace, ¬ e.op.Tunnels) ∧
      ∀ direction, (runProxy X config now moves).state.store.trafficStats.value
        (TrafficStatsPlugin.byteCounter direction) = 0) ∧
    (config.enableHttps = false →
      (∀ t ∈ (runProxy X config now moves).threads, ∀ e ∈ t.trace, ¬ e.op.Certifies) ∧
      (runProxy X config now moves).state.certCache = fun _ => none) := by
  refine ⟨fun hmode => ⟨fun t ht e he htunnel => ?_,
      byteCounter_eq_zero X config now moves hmode⟩,
    fun hmode => ⟨fun t ht e he hcert => ?_, certCache_eq_empty X config now moves hmode⟩⟩
  · exact Bool.false_ne_true (((task_mode ht he).1 htunnel).symm.trans hmode)
  · exact Bool.false_ne_true (hmode.symm.trans ((task_mode ht he).2 hcert))

/-- In a tunnel no certificate is made. -/
theorem modes_separate_tunnel :
    ∀ t ∈ (Concrete.tunnelRun 14).threads, ∀ e ∈ t.trace, ¬ e.op.Certifies :=
  ((modes_separate Concrete.externals Concrete.config 0 _).2 rfl).1

end Bifrost
