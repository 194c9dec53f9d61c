import BifrostCore.Correctness.CertCache
import BifrostCore.Correctness.Connection

/-!
# The custody of the certificates

The certificate cache in the running proxy. The tasks of the CONNECT requests share it; a task may
serve what another one has made. A client trusts what it is served under the name it has asked for,
so nothing may come to it that was made under another one.

* `Terminating` — what a task has done for a certificate, and with it.
* `proxyCertCache` — the cache as a map that the tasks of the proxy share.
* `certificate_of_own_host` — in every run, a certificate is served for its own host only.
-/

namespace Bifrost

open Concurrency Prog

/-- The host of the CONNECT request a job is started for, as `handle_connect` cuts it out: what
stands before the first colon of the authority. -/
def Job.connectHost (job : Job) : Option Str :=
  (job.connectRequest.bind (·.uri.authority)).map HttpsInterceptor.targetHost

theorem Job.connectHost_eq {job : Job} {req : Request} {authStr : Str}
    (hreq : job.connectRequest = some req) (hauth : req.uri.authority = some authStr) :
    job.connectHost = some (HttpsInterceptor.targetHost authStr) := by
  simp [Job.connectHost, hreq, hauth]

/-- An operation that inserts a certificate is one of certificates. -/
theorem TaskOp.certifies_of_certEntry {o : TaskOp StoreSig} {x : Str × CachedCert}
    (h : o.certEntry = some x) : o.Certifies := by
  cases o with
  | certCacheInsert => trivial
  | _ => cases h

/-! ## The course of a request -/

/-- What a CONNECT request has done that is terminated at the proxy. -/
inductive Terminating (req : Request) : Trace (TaskSig StoreSig) → Prop
  /-- It has not come to the certificate. -/
  | opening {tr : Trace (TaskSig StoreSig)} : (∀ e ∈ tr, ¬ e.op.Certifies) → Terminating req tr
  /-- It looks for the certificate, or has not got one. -/
  | looking {tr call : Trace (TaskSig StoreSig)} {authStr : Str}
      {q : Prog (TaskSig StoreSig) (Result CachedCert)} : (∀ e ∈ tr, ¬ e.op.Certifies) →
      req.uri.authority = some authStr →
      Steps (HttpsInterceptor.getOrGenerateCert (HttpsInterceptor.targetHost authStr)) call q →
        Terminating req (tr ++ call)
  /-- It has tried to serve the certificate it has got. -/
  | serving {tr call : Trace (TaskSig StoreSig)} {authStr : Str} {cert : CachedCert}
      {r : Result Unit} : (∀ e ∈ tr, ¬ e.op.Certifies) → req.uri.authority = some authStr →
      Steps (HttpsInterceptor.getOrGenerateCert (HttpsInterceptor.targetHost authStr)) call
        (.ret (.ok cert)) → Terminating req (tr ++ (call ++ [⟨.tlsAcceptor cert, r⟩]))

section Steps

variable {X : Externals} {pm : PluginManager StoreSig} {req : Request} {fuel : ℕ}
  {tr : Trace (TaskSig StoreSig)}

/-- The course of `handle_connect` with `enable_https`; it leaves nothing running. -/
theorem handleConnect_terminating {q : Prog (TaskSig StoreSig) (Result (Option Response) × _)}
    (h : Steps (HttpsInterceptor.handleConnect X pm fuel req) tr q)
    (hmode : ∀ config : Config, ⟨.store .getConfig, config⟩ ∈ tr → config.enableHttps = true) :
    Terminating req tr ∧ ∀ result spawned, q = .ret (result, spawned) → spawned = .ret () := by
  obtain ⟨rfl, rfl⟩ | ⟨id, _, rfl, h₁⟩ := h.act_inv
  · exact ⟨.opening (by simp), fun _ _ => by simp⟩
  obtain ⟨rfl, rfl⟩ | ⟨config, _, rfl, h₂⟩ := Steps.act_inv h₁
  · exact ⟨.opening (by simp [TaskOp.Certifies]), fun _ _ => by simp⟩
  replace hmode : config.enableHttps = true := hmode config (by simp)
  have hopening : ∀ e ∈ ([⟨.nextRequestId, id⟩, ⟨.store .getConfig, config⟩] :
      Trace (TaskSig StoreSig)), ¬ e.op.Certifies := by
    simp [TaskOp.Certifies]
  cases hauth : req.uri.authority with
  | none =>
    simp only [hauth] at h₂
    obtain ⟨rfl, rfl⟩ := Steps.ret_inv h₂
    refine ⟨.opening hopening, ?_⟩
    rintro _ _ ⟨⟩
    rfl
  | some authStr =>
    simp only [bind_eq, ret_bind, hauth, hmode, if_true] at h₂
    obtain ⟨o, k, hcall, rfl⟩ | ⟨call, _, result, rfl, hcall, h₃⟩ := Steps.bind_inv h₂
    · exact ⟨.looking hopening hauth hcall, fun _ _ => by simp⟩
    cases result with
    | error e =>
      obtain ⟨rfl, rfl⟩ := Steps.ret_inv h₃
      refine ⟨?_, ?_⟩
      · rw [List.append_nil]
        exact .looking hopening hauth hcall
      · rintro _ _ ⟨⟩
        rfl
    | ok cert =>
      obtain ⟨rfl, rfl⟩ | ⟨r, _, rfl, h₄⟩ := Steps.act_inv h₃
      · refine ⟨?_, fun _ _ => by simp⟩
        rw [List.append_nil]
        exact .looking hopening hauth hcall
      cases r with
      | error e =>
        obtain ⟨rfl, rfl⟩ := Steps.ret_inv h₄
        refine ⟨.serving hopening hauth hcall, ?_⟩
        rintro _ _ ⟨⟩
        rfl
      | ok _ =>
        obtain ⟨rfl, rfl⟩ := Steps.ret_inv h₄
        refine ⟨.serving hopening hauth hcall, ?_⟩
        rintro _ _ ⟨⟩
        rfl

/-- The course of a CONNECT request with `enable_https`. -/
theorem program_terminating {job : Job} (hjob : job.connectRequest = some req)
    {q : Prog (TaskSig StoreSig) (Option Response)} (h : Steps ((system X).program job) tr q)
    (hmode : ∀ config : Config, ⟨.store .getConfig, config⟩ ∈ tr → config.enableHttps = true) :
    Terminating req tr := by
  cases job with
  | proxied req' fuel =>
    obtain ⟨hconnect, rfl⟩ : req'.method = .connect ∧ req' = req := by
      simpa [Job.connectRequest] using hjob
    replace h : Steps (Prog.bind (ProxyServer.proxyHandler X _ fuel req') _) tr q := h
    rw [ProxyServer.proxyHandler_of_connect _ _ _ hconnect, ProxyServer.handleConnect, bind_eq,
      bind_assoc] at h
    obtain ⟨o, k, hconnecting, -⟩ | ⟨tr, rest, ⟨result, spawned⟩, rfl, hconnecting, hrest⟩ :=
      Steps.bind_inv h
    · exact (handleConnect_terminating hconnecting hmode).1
    · obtain ⟨hterminating, hspawned⟩ := handleConnect_terminating hconnecting
        fun config hc => hmode config (List.mem_append_left _ hc)
      -- Nothing is left running, so nothing comes after the answer.
      obtain rfl := hspawned _ _ rfl
      cases result <;> obtain ⟨rfl, -⟩ := Steps.ret_inv hrest <;> rwa [List.append_nil]
  | intercepted req' => cases hjob
  | sampler fuel => cases hjob

/-- The call for the certificate neither serves it nor does anything for another host. -/
theorem getOrGenerateCert_ops {host : Str} {q : Prog (TaskSig StoreSig) (Result CachedCert)}
    (h : Steps (HttpsInterceptor.getOrGenerateCert host) tr q) :
    ∀ e ∈ tr, e.op.OfCertificate host :=
  ((Connection.getOrGenerateCert_ofCertificate host).steps h).1

/-- What is served was returned by the call for the certificate of the host of the request. -/
theorem Terminating.served (h : Terminating req tr) {cert : CachedCert} {r : Result Unit}
    (he : ⟨.tlsAcceptor cert, r⟩ ∈ tr) : ∃ authStr, req.uri.authority = some authStr ∧
      ∃ call, call <:+: tr ∧ CertCall (HttpsInterceptor.targetHost authStr) call
        (.ret (.ok cert)) := by
  cases h with
  | opening hopening => exact absurd trivial (hopening _ he)
  | looking hopening _ hcall =>
    rcases List.mem_append.mp he with he | he
    · exact absurd trivial (hopening _ he)
    · exact (getOrGenerateCert_ops hcall _ he).elim
  | @serving opening call authStr cert' r' hopening hauth hcall =>
    rcases List.mem_append.mp he with he | he
    · exact absurd trivial (hopening _ he)
    rcases List.mem_append.mp he with he | he
    · exact (getOrGenerateCert_ops hcall _ he).elim
    · obtain ⟨hop, -⟩ := Event.mk.inj (List.mem_singleton.mp he)
      obtain rfl := TaskOp.tlsAcceptor.inj hop
      exact ⟨authStr, hauth, call, ⟨opening, _, List.append_assoc _ _ _⟩,
        getOrGenerateCert_steps hcall⟩

/-- What is inserted into the cache was generated before, for the host of the request. -/
theorem Terminating.inserted (h : Terminating req tr) {e : Event (TaskSig StoreSig)}
    (he : e ∈ tr) {key : Str} {cert : CachedCert} (hentry : e.op.certEntry = some (key, cert)) :
    ∃ authStr, req.uri.authority = some authStr ∧ key = HttpsInterceptor.targetHost authStr ∧
      ∃ made, made <:+: tr ∧ Generated key cert made := by
  have hcertifies := TaskOp.certifies_of_certEntry hentry
  cases h with
  | opening hopening => exact absurd hcertifies (hopening e he)
  | @looking opening call authStr q hopening hauth hcall =>
    have hmem := (List.mem_append.mp he).resolve_left fun he => hopening e he hcertifies
    obtain ⟨rfl, -, made, hpart, hmade⟩ := (getOrGenerateCert_steps hcall).inserted hmem hentry
    exact ⟨authStr, hauth, rfl, made, hpart.trans (List.suffix_append _ _).isInfix, hmade⟩
  | @serving opening call authStr cert' r' hopening hauth hcall =>
    have hmem := (List.mem_append.mp he).resolve_left fun he => hopening e he hcertifies
    rcases List.mem_append.mp hmem with hmem | hmem
    · obtain ⟨rfl, -, made, hpart, hmade⟩ := (getOrGenerateCert_steps hcall).inserted hmem hentry
      exact ⟨authStr, hauth, rfl, made,
        hpart.trans ⟨opening, _, List.append_assoc _ _ _⟩, hmade⟩
    · obtain rfl := List.mem_singleton.mp hmem
      cases hentry

end Steps

/-! ## The running proxy -/

/-- The certificate cache, shared by the tasks of the proxy. -/
def proxyCertCache (X : Externals) : SharedMap (system X) Str CachedCert where
  read g := g.certCache
  write := TaskOp.certEntry
  read_perform w o g a g' hp := by cases o <;> cases hp <;> rfl

/-- Before a point of a run, a task of a CONNECT request for the host had generated `cert`. -/
def MadeBefore (p : ProxyPool) (before : List (ℕ × Event (TaskSig StoreSig))) (host : Str)
    (cert : CachedCert) : Prop :=
  ∃ j u made, p.threads[j]? = some u ∧ u.tag.connectHost = some host ∧ Generated host cert made ∧
    made <:+: System.logOf j before

/-- A task has made a certificate for the host itself, or has found it in the cache under the host,
not expired by its own clock, after a task of a request for the same host had made it. -/
def Held (p : ProxyPool) (i : ℕ) (t : ProxyTask) (host : Str) (cert : CachedCert) : Prop :=
  (∃ made, Generated host cert made ∧ made <:+: t.trace) ∨
  ∃ before after time, p.log = before ++ (i, ⟨.certCacheGet host, some cert⟩) :: after ∧
    MadeBefore p before host cert ∧ ⟨.now, time⟩ ∈ t.trace ∧ time < cert.expiry

section Reachable

variable {X : Externals} {config : Config} {now : UInt64} {moves : List (Move Job Oracle)}

/-- A task that does anything about certificates is that of a CONNECT request that is terminated. -/
theorem terminating_of_certifies {t : ProxyTask} (ht : t ∈ (runProxy X config now moves).threads)
    {e : Event (TaskSig StoreSig)} (he : e ∈ t.trace) (hcertifies : e.op.Certifies) :
    ∃ req, t.tag.connectRequest = some req ∧ Terminating req t.trace := by
  cases hreq : t.tag.connectRequest with
  | none => exact absurd hcertifies (other_mode ht hreq he).2
  | some req =>
    refine ⟨req, rfl, program_terminating hreq (System.steps_of_run _ moves t ht) fun c hc => ?_⟩
    exact (mode_of_read ht ⟨c, hc, rfl⟩).symm.trans ((task_mode ht he).2 hcertifies)

/-- A task inserts into the cache what it has generated itself, for the host of its own request. -/
theorem made_of_inserted {t : ProxyTask} (ht : t ∈ (runProxy X config now moves).threads)
    {e : Event (TaskSig StoreSig)} (he : e ∈ t.trace) {host : Str} {cert : CachedCert}
    (hentry : e.op.certEntry = some (host, cert)) :
    t.tag.connectHost = some host ∧ ∃ made, made <:+: t.trace ∧ Generated host cert made := by
  obtain ⟨req, hreq, hterminating⟩ :=
    terminating_of_certifies ht he (TaskOp.certifies_of_certEntry hentry)
  obtain ⟨authStr, hauth, rfl, hmade⟩ := hterminating.inserted he hentry
  exact ⟨Job.connectHost_eq hreq hauth, hmade⟩

/-- What was in the cache at some time of a run was made for its host before. -/
theorem madeBefore_of_cached {moves' : List (Move Job Oracle)} (hpre : moves' <+: moves)
    {host : Str} {cert : CachedCert}
    (h : (runProxy X config now moves').state.certCache host = some cert) :
    MadeBefore (runProxy X config now moves) (runProxy X config now moves').log host cert := by
  obtain ⟨j, e, hmem, hentry⟩ := (proxyCertCache X).exists_write rfl moves' h
  obtain ⟨u, hu, he⟩ := (System.mem_log_iff _ _ j e).mp hmem
  obtain ⟨hhost, made, hpart, hmade⟩ := made_of_inserted (List.mem_of_getElem? hu) he hentry
  obtain ⟨u', hu', htag, -⟩ := System.thread_mono _ hpre hu
  have htrace : u.trace = System.logOf j (runProxy X config now moves').log := System.trace_eq hu
  exact ⟨j, u', made, hu', htag ▸ hhost, hmade, htrace ▸ hpart⟩

/-- What a task finds in the cache was made for its host before. -/
theorem madeBefore_of_get {before after : List (ℕ × Event (TaskSig StoreSig))} {i : ℕ}
    {host : Str} {cert : CachedCert} (hlog : (runProxy X config now moves).log =
      before ++ (i, ⟨.certCacheGet host, some cert⟩) :: after) :
    MadeBefore (runProxy X config now moves) before host cert := by
  obtain ⟨moves', w, t, k, g', hpre, rfl, -, -, hp⟩ := System.log_origin _ _ hlog
  exact madeBefore_of_cached hpre (Prod.mk.inj (Option.some.inj hp)).1

/-- What a call for a certificate has returned, the task has come to hold in one of two ways. -/
theorem held_of_returned {i : ℕ} {t : ProxyTask}
    (ht : (runProxy X config now moves).threads[i]? = some t) {host : Str} {cert : CachedCert}
    {call : Trace (TaskSig StoreSig)} (hcall : call <:+: t.trace)
    (h : CertCall host call (.ret (.ok cert))) :
    Held (runProxy X config now moves) i t host cert := by
  obtain ⟨time, rfl, hfresh⟩ | ⟨missed, made, rfl, hmade⟩ := h.returned rfl
  · right
    have hget : (⟨.certCacheGet host, some cert⟩ : Event (TaskSig StoreSig)) ∈ t.trace :=
      hcall.subset (by simp)
    obtain ⟨before, after, hlog⟩ :=
      List.append_of_mem ((System.mem_log_iff _ moves i _).mpr ⟨t, ht, hget⟩)
    exact ⟨before, after, time, hlog, madeBefore_of_get hlog, hcall.subset (by simp), hfresh⟩
  · exact .inl ⟨made, hmade, .trans ⟨missed, _, rfl⟩ hcall⟩

variable (hopenssl : ∀ x ∈ (runProxy X config now moves).log, putsNames x.2.op x.2.res = true)

include hopenssl

/-- What was generated carries the names of its host. -/
theorem namedFor_of_made {before : List (ℕ × Event (TaskSig StoreSig))}
    (hlog : before <+: (runProxy X config now moves).log) {j : ℕ} {host : Str} {cert : CachedCert}
    {made : Trace (TaskSig StoreSig)} (hmade : Generated host cert made)
    (hpart : made <:+: System.logOf j before) : NamedFor host cert.cert := by
  obtain ⟨certPem, keyPem, cnValue, hname, hissue⟩ := hmade.issue_mem
  have hmem := hlog.subset (System.mem_logOf.mp (hpart.subset hissue))
  exact namedFor_of_putsNames hname (hopenssl _ hmem)

/-- What a task holds carries the names of the host it holds it for. -/
theorem Held.namedFor {i : ℕ} {t : ProxyTask}
    (ht : (runProxy X config now moves).threads[i]? = some t) {host : Str} {cert : CachedCert}
    (h : Held (runProxy X config now moves) i t host cert) : NamedFor host cert.cert := by
  rcases h with ⟨made, hmade, hpart⟩ | ⟨before, after, _, hlog, ⟨j, _, made, _, _, hmade, hpart⟩, _⟩
  · exact namedFor_of_made hopenssl List.prefix_rfl hmade (System.trace_eq ht ▸ hpart)
  · exact namedFor_of_made hopenssl (hlog ▸ List.prefix_append _ _) hmade hpart

end Reachable

/-- In every run in which `openssl` puts the names it is given into a certificate:

* a certificate is served only by a task of a CONNECT request, and only one with the names of the
  host of that request, which the task has made itself or has found, not expired, in the cache,
  where a task of a request for the same host had put it;
* every certificate in the cache was made for the host it is found under, and carries its names;
* no task changes the entry of another host than that of its request.

Requests for other hosts may come at the same time, and in any order. -/
theorem certificate_of_own_host (X : Externals) (config : Config) (now : UInt64)
    (moves : List (Move Job Oracle))
    (hopenssl : ∀ x ∈ (runProxy X config now moves).log, putsNames x.2.op x.2.res = true) :
    (∀ i t, (runProxy X config now moves).threads[i]? = some t →
      (∀ cert r, ⟨.tlsAcceptor cert, r⟩ ∈ t.trace → ∃ host, t.tag.connectHost = some host ∧
        NamedFor host cert.cert ∧ Held (runProxy X config now moves) i t host cert) ∧
      ∀ moves' w host, moves' ++ [.step i w] <+: moves → t.tag.connectHost ≠ some host →
        (runProxy X config now (moves' ++ [.step i w])).state.certCache host =
          (runProxy X config now moves').state.certCache host) ∧
    ∀ host cert, (runProxy X config now moves).state.certCache host = some cert →
      MadeBefore (runProxy X config now moves) (runProxy X config now moves).log host cert ∧
        NamedFor host cert.cert := by
  refine ⟨fun i t ht => ⟨fun cert r hserved => ?_, fun moves' w host hpre hhost => ?_⟩,
    fun host cert hcached => ?_⟩
  · obtain ⟨req, hreq, hterminating⟩ :=
      terminating_of_certifies (List.mem_of_getElem? ht) hserved trivial
    obtain ⟨authStr, hauth, call, hpart, hcall⟩ := hterminating.served hserved
    have hheld := held_of_returned ht hpart hcall
    exact ⟨_, Job.connectHost_eq hreq hauth, hheld.namedFor hopenssl ht, hheld⟩
  · by_contra hchange
    obtain ⟨e, he, cert, hentry⟩ := (proxyCertCache X).write_of_ne hpre ht hchange
    exact hhost (made_of_inserted (List.mem_of_getElem? ht) he hentry).1
  · have hbefore := madeBefore_of_cached List.prefix_rfl hcached
    have ⟨j, u, made, _, _, hmade, hpart⟩ := hbefore
    exact ⟨hbefore, namedFor_of_made hopenssl List.prefix_rfl hmade hpart⟩

namespace Concrete

/-- Two CONNECT requests for one host that are terminated, one after the other. -/
def terminatedMoves : List (Move Job Oracle) :=
  [.spawn (.proxied connectRequest 0), .spawn (.proxied connectRequest 0)] ++
    .replicate 10 (.step 0 (signer 0)) ++ .replicate 5 (.step 1 (signer second))

def terminatedRun : ProxyPool :=
  runProxy externals { config with enableHttps := true } 0 terminatedMoves

theorem length_terminatedRun : 1 < terminatedRun.threads.length := by decide +kernel

/-- The task of the second request. -/
def terminatedTask : ProxyTask := terminatedRun.threads.get ⟨1, length_terminatedRun⟩

end Concrete

/-- The second request is served the certificate of the first. -/
theorem certificate_of_own_host_cached :
    NamedFor "example.com" (Concrete.foundCert 0).cert ∧
      Held Concrete.terminatedRun 1 Concrete.terminatedTask "example.com"
        (Concrete.foundCert 0) := by
  obtain ⟨host, hhost, hnamed, hheld⟩ := ((certificate_of_own_host Concrete.externals
    { Concrete.config with enableHttps := true } 0 Concrete.terminatedMoves (by decide +kernel)).1
      1 Concrete.terminatedTask (List.getElem?_eq_getElem Concrete.length_terminatedRun)).1
        (Concrete.foundCert 0) (.ok ()) (List.mem_of_getElem? (i := 4) (by rfl))
  obtain rfl : "example.com".toList = host := Option.some.inj hhost
  exact ⟨hnamed, hheld⟩

end Bifrost
