import BifrostCore.Concurrency.SharedMap
import BifrostCore.Proxy

/-!
# The certificate cache

Any number of calls of `get_or_generate_cert`, interleaved in any order. A call looks into the cache
and, if it finds no certificate that is fresh by its own clock reading, generates one outside any
lock and inserts it. Calls for one domain may generate side by side; the last insertion stays.

* `Generated`, `CertCall` — the traces of `generate_cert` and of a call.
* `certCache` — the cache as a map that the calls share.
* `cert_cache_coherent` — every certificate returned was generated for the same domain, and is still
  valid unless the clock has advanced by a year while it was generated.
* `cert_served_expired` — where the clock has, a certificate is served that is no longer valid.
-/

namespace Bifrost

open Concurrency Prog

/-! ## The calls -/

/-- The calls of `get_or_generate_cert` as a system of interleaved tasks; a call is started for a
domain. -/
def certCalls : System (TaskSig StoreSig) Globals Str (Result CachedCert) Oracle where
  program := HttpsInterceptor.getOrGenerateCert
  perform := perform

/-- The calls of a run, with the state they share. -/
abbrev CertPool := Pool (TaskSig StoreSig) Globals Str (Result CachedCert)

/-- A call in a run. -/
abbrev CertTask := Thread (TaskSig StoreSig) Str (Result CachedCert)

/-- The calls after a run, from the state in which the proxy starts. -/
def runCertCalls (store : Store) (moves : List (Move Str Oracle)) : CertPool :=
  certCalls.run (.init store) moves

/-- The operations of a run of calls, with the choices of the environment. -/
def certTimeline (store : Store) (moves : List (Move Str Oracle)) :
    List (ℕ × Oracle × Event (TaskSig StoreSig)) :=
  certCalls.timeline (.init store) moves

/-- `openssl` puts the names it is given into the certificate. -/
def putsNames : (o : TaskOp StoreSig) → o.Res → Bool
  | .issueCertificate _ _ commonName subjectAltName _, .ok cert =>
    cert.commonName = commonName ∧ cert.subjectAltName = subjectAltName
  | _, _ => true

/-- What `openssl` has done when it returns at the time `now`: it has put the names it is given into
the certificate, and has read the clock twice, for the start of the validity and, later, for its end
so many days ahead. -/
def signs (now : SystemTime) : (o : TaskOp StoreSig) → o.Res → Bool
  | .issueCertificate certPem keyPem commonName subjectAltName days, .ok cert =>
    putsNames (.issueCertificate certPem keyPem commonName subjectAltName days) (.ok cert) ∧
      cert.notBefore ≤ now ∧ cert.notBefore + days * 86400 * 1000000000 ≤ cert.notAfter
  | _, _ => true

/-- The entry an operation inserts into the certificate cache. -/
def TaskOp.certEntry : TaskOp StoreSig → Option (Str × CachedCert)
  | .certCacheInsert domain cert => some (domain, cert)
  | _ => none

/-! ## The course of a call -/

/-- The trace of a `generate_cert` that has generated `cert` for `domain`. -/
inductive Generated (domain : Str) (cert : CachedCert) : Trace (TaskSig StoreSig) → Prop
  | mk {config : Config} {certPem keyPem : List UInt8} {cnValue : Str} {time : SystemTime} :
      HttpsInterceptor.commonName domain = some cnValue →
        cert.expiry = time + HttpsInterceptor.cacheDuration →
          Generated domain cert [⟨.store .getConfig, config⟩,
            ⟨.readFile config.certPath, .ok certPem⟩, ⟨.readFile config.keyPath, .ok keyPem⟩,
            ⟨.issueCertificate certPem keyPem cnValue domain 365, .ok cert.cert⟩, ⟨.now, time⟩]

/-- How a call begins that finds no fresh certificate. -/
inductive Missed (domain : Str) : Trace (TaskSig StoreSig) → Prop
  | absent : Missed domain [⟨.certCacheGet domain, none⟩]
  | expired {cached : CachedCert} {time : SystemTime} : ¬ time < cached.expiry →
      Missed domain [⟨.certCacheGet domain, some cached⟩, ⟨.now, time⟩]

/-- What a call for `domain` has done, and what it has left. -/
inductive CertCall (domain : Str) :
    Trace (TaskSig StoreSig) → Prog (TaskSig StoreSig) (Result CachedCert) → Prop
  /-- It has not come so far as to insert a certificate, or has failed to generate one. -/
  | pending {tr : Trace (TaskSig StoreSig)} {q : Prog (TaskSig StoreSig) (Result CachedCert)} :
      (∀ e ∈ tr, e.op.certEntry = none) → (∀ cert, q ≠ .ret (.ok cert)) → CertCall domain tr q
  /-- It has found a fresh certificate. -/
  | hit {cached : CachedCert} {time : SystemTime} : time < cached.expiry →
      CertCall domain [⟨.certCacheGet domain, some cached⟩, ⟨.now, time⟩] (.ret (.ok cached))
  /-- It has generated a certificate and inserted it. -/
  | generated {missed tr : Trace (TaskSig StoreSig)} {cert : CachedCert} : Missed domain missed →
      Generated domain cert tr → CertCall domain
        (missed ++ tr ++ [⟨.certCacheInsert domain cert, ()⟩]) (.ret (.ok cert))

section Steps

variable {domain : Str} {tr : Trace (TaskSig StoreSig)}
  {q : Prog (TaskSig StoreSig) (Result CachedCert)}

/-- `generate_cert` inserts nothing. -/
theorem generateCert_only : (HttpsInterceptor.generateCert domain : Prog (TaskSig StoreSig) _).Only
    (fun o : TaskOp StoreSig => o.certEntry = none) fun _ => True := by
  refine ⟨rfl, fun config => ⟨rfl, fun certPem => ?_⟩⟩
  cases certPem with
  | error e => trivial
  | ok certPem =>
    refine ⟨rfl, fun keyPem => ?_⟩
    cases keyPem with
    | error e => trivial
    | ok keyPem =>
      show Only _ (Prog.bind (Task.unwrap (HttpsInterceptor.commonName domain)) _) _
      cases HttpsInterceptor.commonName domain with
      | none => exact ⟨rfl, fun r => nomatch r⟩
      | some cnValue =>
        refine ⟨rfl, fun issued => ?_⟩
        cases issued with
        | error e => trivial
        | ok issued => exact ⟨rfl, fun _ => trivial⟩

/-- What `generate_cert` returns it has generated: every step that can fail has succeeded. -/
theorem generated_of_steps {cert : CachedCert}
    (h : Steps (HttpsInterceptor.generateCert domain) tr (.ret (.ok cert))) :
    Generated domain cert tr := by
  obtain ⟨config, _, rfl, hread⟩ := h.act_ret_inv
  obtain ⟨_ | certPem, _, rfl, hcert⟩ := Steps.act_ret_inv hread
  · cases (Steps.ret_inv hcert).2
  obtain ⟨_ | keyPem, _, rfl, hkey⟩ := Steps.act_ret_inv hcert
  · cases (Steps.ret_inv hkey).2
  replace hkey : Steps (Prog.bind (Task.unwrap (HttpsInterceptor.commonName domain)) _) _ _ := hkey
  cases hname : HttpsInterceptor.commonName domain with
  | none =>
    rw [hname] at hkey
    obtain ⟨r, -⟩ := Steps.act_ret_inv hkey
    exact nomatch r
  | some cnValue =>
    rw [hname] at hkey
    obtain ⟨_ | issued, _, rfl, hissued⟩ := Steps.act_ret_inv hkey
    · cases (Steps.ret_inv hissued).2
    obtain ⟨time, _, rfl, hdone⟩ := Steps.act_ret_inv hissued
    obtain ⟨rfl, hret⟩ := Steps.ret_inv hdone
    obtain rfl : cert = _ := Except.ok.inj (Prog.ret.inj hret)
    exact .mk hname rfl

theorem Generated.certEntry {cert : CachedCert} (h : Generated domain cert tr) :
    ∀ e ∈ tr, e.op.certEntry = none := by
  cases h
  simp [TaskOp.certEntry]

/-- What is generated was issued by `openssl`. -/
theorem Generated.issue_mem {cert : CachedCert} (h : Generated domain cert tr) :
    ∃ certPem keyPem cnValue, HttpsInterceptor.commonName domain = some cnValue ∧
      ⟨.issueCertificate certPem keyPem cnValue domain 365, .ok cert.cert⟩ ∈ tr := by
  obtain @⟨config, certPem, keyPem, cnValue, time, hname, -⟩ := h
  exact ⟨certPem, keyPem, cnValue, hname, by simp⟩

theorem Missed.certEntry {missed : Trace (TaskSig StoreSig)} (h : Missed domain missed) :
    ∀ e ∈ missed, e.op.certEntry = none := by
  cases h <;> simp [TaskOp.certEntry]

/-- What a call does that finds no fresh certificate. -/
theorem generateAndInsert_steps {missed : Trace (TaskSig StoreSig)} (hmissed : Missed domain missed)
    (h : Steps (HttpsInterceptor.generateAndInsert domain) tr q) :
    CertCall domain (missed ++ tr) q := by
  have hpending : ∀ {tr}, (∀ e ∈ tr, e.op.certEntry = none) →
      ∀ e ∈ missed ++ tr, e.op.certEntry = none := fun htr e he =>
    (List.mem_append.mp he).elim (hmissed.certEntry e) (htr e)
  obtain ⟨o, k, hgen, rfl⟩ | ⟨tr₁, tr₂, result, rfl, hgen, hrest⟩ := Steps.bind_inv h
  · exact .pending (hpending (generateCert_only.steps hgen).1) fun _ hq => nomatch hq
  · -- `generate_cert` has returned.
    have hentry := (generateCert_only.steps hgen).1
    cases result with
    | error e =>
      obtain ⟨rfl, rfl⟩ := Steps.ret_inv hrest
      exact .pending (hpending (by simpa using hentry)) fun _ hq => nomatch hq
    | ok cert =>
      obtain ⟨rfl, rfl⟩ | ⟨_, _, rfl, hret⟩ := Steps.act_inv hrest
      · exact .pending (hpending (by simpa using hentry)) fun _ hq => nomatch hq
      · obtain ⟨rfl, rfl⟩ := Steps.ret_inv hret
        rw [← List.append_assoc]
        exact .generated hmissed (generated_of_steps hgen)

theorem getOrGenerateCert_steps (h : Steps (HttpsInterceptor.getOrGenerateCert domain) tr q) :
    CertCall domain tr q := by
  obtain ⟨rfl, rfl⟩ | ⟨entry, _, rfl, hentry⟩ := h.act_inv
  · exact .pending (by simp) fun _ hq => nomatch hq
  cases entry with
  | none => exact generateAndInsert_steps .absent hentry
  | some cached =>
    obtain ⟨rfl, rfl⟩ | ⟨time, tr, rfl, htime⟩ := Steps.act_inv hentry
    · exact .pending (by simp [TaskOp.certEntry]) fun _ hq => nomatch hq
    by_cases hfresh : time < cached.expiry
    · replace htime : Steps (if time < cached.expiry then _ else _) tr q := htime
      rw [if_pos hfresh] at htime
      obtain ⟨rfl, rfl⟩ := Steps.ret_inv htime
      exact .hit hfresh
    · replace htime : Steps (if time < cached.expiry then _ else _) tr q := htime
      rw [if_neg hfresh] at htime
      exact generateAndInsert_steps (.expired hfresh) htime

/-- A call that has inserted a certificate has inserted it for its own domain, and has generated
it. -/
theorem CertCall.inserted (h : CertCall domain tr q) {e : Event (TaskSig StoreSig)} (he : e ∈ tr)
    {key : Str} {cert : CachedCert} (hentry : e.op.certEntry = some (key, cert)) :
    key = domain ∧ q = .ret (.ok cert) ∧ ∃ made, made <:+: tr ∧ Generated domain cert made := by
  cases h with
  | pending hnone =>
    rw [hnone e he] at hentry
    cases hentry
  | hit =>
    obtain rfl | rfl : e = ⟨.certCacheGet domain, some _⟩ ∨ e = ⟨.now, _⟩ := by simpa using he
    all_goals cases hentry
  | @generated missed made cert' hmissed hmade =>
    -- Everything before the insertion inserts nothing.
    rw [List.mem_append, List.mem_append, List.mem_singleton] at he
    rcases he with (he | he) | rfl
    · rw [hmissed.certEntry e he] at hentry
      cases hentry
    · rw [hmade.certEntry e he] at hentry
      cases hentry
    · cases hentry
      exact ⟨rfl, rfl, made, ⟨missed, [_], rfl⟩, hmade⟩

/-- A call that has returned a certificate has generated it, or has found it fresh. -/
theorem CertCall.returned (h : CertCall domain tr q) {cert : CachedCert}
    (hret : q = .ret (.ok cert)) :
    (∃ time, tr = [⟨.certCacheGet domain, some cert⟩, ⟨.now, time⟩] ∧ time < cert.expiry) ∨
      ∃ missed made, tr = missed ++ made ++ [⟨.certCacheInsert domain cert, ()⟩] ∧
        Generated domain cert made := by
  cases h with
  | pending _ hnone => exact absurd hret (hnone cert)
  | @hit cached time hfresh =>
    cases hret
    exact .inl ⟨time, rfl, hfresh⟩
  | @generated missed made cert' hmissed hmade =>
    cases hret
    exact .inr ⟨missed, made, rfl, hmade⟩

end Steps

/-! ## The cache -/

/-- The certificate cache, shared by the calls. -/
def certCache : SharedMap certCalls Str CachedCert where
  read g := g.certCache
  write := TaskOp.certEntry
  read_perform w o g a g' hp := by cases o <;> cases hp <;> rfl

/-- A certificate carries the names of a domain. -/
structure NamedFor (domain : Str) (cert : Certificate) : Prop where
  commonName : HttpsInterceptor.commonName domain = some cert.commonName
  subjectAltName : cert.subjectAltName = domain

/-- A certificate as it is issued for a domain: with its names, and for no less than 365 days. -/
structure IssuedFor (domain : Str) (cert : Certificate) : Prop extends NamedFor domain cert where
  notAfter : cert.notBefore + 365 * 86400 * 1000000000 ≤ cert.notAfter

/-- Before a point of a run, a call for `domain` had generated `cert`. -/
def GeneratedBefore (p : CertPool) (before : List (ℕ × Event (TaskSig StoreSig))) (domain : Str)
    (cert : CachedCert) : Prop :=
  ∃ j t made, p.threads[j]? = some t ∧ t.tag = domain ∧ Generated domain cert made ∧
    made <:+: System.logOf j before

/-- A certificate of a call was generated by the call itself, or by a call for the same domain
before this one looked into the cache, and expires later than this one's clock reading. -/
def CoherentCert (p : CertPool) (i : ℕ) (t : CertTask) (cert : CachedCert) : Prop :=
  (∃ made, Generated t.tag cert made ∧ made <:+: t.trace) ∨
  ∃ before after time, p.log = before ++ (i, ⟨.certCacheGet t.tag, some cert⟩) :: after ∧
    GeneratedBefore p before t.tag cert ∧ ⟨.now, time⟩ ∈ t.trace ∧ time < cert.expiry

/-- What a call has read from the clock last. -/
def CertTask.lastReading (t : CertTask) : Option SystemTime :=
  (t.trace.filterMap fun e => clockReading e.op e.res).getLast?

/-- At the last clock reading of a call its certificate is valid, unless it was to be cached for
longer than it is valid. -/
def ValidAtReturn (t : CertTask) (cert : CachedCert) : Prop :=
  ∃ time, t.lastReading = some time ∧ cert.cert.notBefore ≤ time ∧
    (cert.expiry ≤ cert.cert.notAfter → time ≤ cert.cert.notAfter)

section Coherence

variable {store : Store} {moves : List (Move Str Oracle)}

theorem CertTask.known {t : CertTask} (ht : t ∈ (runCertCalls store moves).threads) :
    CertCall t.tag t.trace t.prog :=
  getOrGenerateCert_steps (System.steps_of_run _ moves t ht)

/-- What was in the cache at some time of a run was generated for its domain before. -/
theorem generatedBefore_of_cached {moves' : List (Move Str Oracle)} (hpre : moves' <+: moves)
    {domain : Str} {cert : CachedCert}
    (h : (runCertCalls store moves').state.certCache domain = some cert) :
    GeneratedBefore (runCertCalls store moves) (runCertCalls store moves').log domain cert := by
  obtain ⟨j, e, hmem, hentry⟩ := certCache.exists_write rfl moves' h
  obtain ⟨u, hu, he⟩ := (System.mem_log_iff _ _ j e).mp hmem
  obtain ⟨rfl, -, made, hpart, hmade⟩ :=
    (CertTask.known (List.mem_of_getElem? hu)).inserted he hentry
  obtain ⟨u', hu', htag, -⟩ := System.thread_mono _ hpre hu
  have htrace : u.trace = System.logOf j (runCertCalls store moves').log := System.trace_eq hu
  exact ⟨j, u', made, hu', htag, hmade, htrace ▸ hpart⟩

/-- What a call finds in the cache was generated for its domain before. -/
theorem generatedBefore_of_get {before after : List (ℕ × Event (TaskSig StoreSig))} {i : ℕ}
    {domain : Str} {cert : CachedCert}
    (hlog : (runCertCalls store moves).log =
      before ++ (i, ⟨.certCacheGet domain, some cert⟩) :: after) :
    GeneratedBefore (runCertCalls store moves) before domain cert := by
  obtain ⟨moves', w, t, k, g', hpre, rfl, -, -, hp⟩ := System.log_origin _ _ hlog
  exact generatedBefore_of_cached hpre (Prod.mk.inj (Option.some.inj hp)).1

/-- A certificate is issued with the names of the domain it is made for. -/
theorem namedFor_of_putsNames {certPem keyPem : List UInt8} {cnValue domain : Str} {days : ℕ}
    {cert : Certificate} (hname : HttpsInterceptor.commonName domain = some cnValue)
    (h : putsNames (.issueCertificate certPem keyPem cnValue domain days) (.ok cert) = true) :
    NamedFor domain cert := by
  obtain ⟨hcommon, halternative⟩ := of_decide_eq_true h
  exact ⟨hname.trans (congrArg some hcommon.symm), halternative⟩

/-- The validity has begun when a certificate is issued, and ends no earlier than 365 days after its
start. -/
theorem validity_of_signs {now : SystemTime} {certPem keyPem : List UInt8} {cnValue domain : Str}
    {cert : Certificate} (hname : HttpsInterceptor.commonName domain = some cnValue)
    (h : signs now (.issueCertificate certPem keyPem cnValue domain 365) (.ok cert) = true) :
    IssuedFor domain cert ∧ cert.notBefore ≤ now := by
  obtain ⟨hnames, hstart, hdays⟩ := of_decide_eq_true h
  exact ⟨⟨namedFor_of_putsNames hname hnames, hdays⟩, hstart⟩

variable (hopenssl : ∀ x ∈ certTimeline store moves, signs x.2.1.now x.2.2.op x.2.2.res = true)

include hopenssl

/-- What a call has generated was issued for its domain. -/
theorem issuedFor_of_generated {before : List (ℕ × Event (TaskSig StoreSig))}
    (hlog : before <+: (runCertCalls store moves).log) {j : ℕ} {domain : Str} {cert : CachedCert}
    {made : Trace (TaskSig StoreSig)} (hmade : Generated domain cert made)
    (hpart : made <:+: System.logOf j before) : IssuedFor domain cert.cert := by
  obtain ⟨certPem, keyPem, cnValue, hname, hissue⟩ := hmade.issue_mem
  have hmem := hlog.subset (System.mem_logOf.mp (hpart.subset hissue))
  rw [runCertCalls, ← System.map_timeline] at hmem
  obtain ⟨x, hx, heq⟩ := List.mem_map.mp hmem
  have hsigns := hopenssl x hx
  rw [(Prod.mk.inj heq).2] at hsigns
  exact (validity_of_signs hname hsigns).1

variable (hclock : (certTimeline store moves).Pairwise fun x y => x.2.1.now ≤ y.2.1.now)

include hclock

/-- A certificate is valid from a time on that is not later than any clock reading after it was
issued. -/
theorem notBefore_le_reading {before after : List (ℕ × Event (TaskSig StoreSig))}
    (hlog : (runCertCalls store moves).log = before ++ after) {j : ℕ} {domain : Str}
    {cert : Certificate} {certPem keyPem : List UInt8} {cnValue : Str}
    (hname : HttpsInterceptor.commonName domain = some cnValue)
    (hissue : (j, ⟨.issueCertificate certPem keyPem cnValue domain 365, .ok cert⟩) ∈ before)
    {i : ℕ} {time : SystemTime} (htime : (i, ⟨.now, time⟩) ∈ after) : cert.notBefore ≤ time := by
  obtain ⟨w, w', hx, hy, hle⟩ := System.timeline_pairwise hlog hissue htime hclock
  -- The clock reading is the clock of the environment then.
  obtain ⟨g, g', hp⟩ := System.perform_of_timeline _ _ _ hy
  obtain rfl : w'.now = time := (Prod.mk.inj (Option.some.inj hp)).1
  exact Int.le_trans (validity_of_signs hname (hopenssl _ hx)).2 hle

/-- What a call has found fresh in the cache. -/
theorem coherent_of_hit {i : ℕ} {t : CertTask}
    (ht : (runCertCalls store moves).threads[i]? = some t) {cert : CachedCert} {time : SystemTime}
    (htrace : t.trace = [⟨.certCacheGet t.tag, some cert⟩, ⟨.now, time⟩])
    (hfresh : time < cert.expiry) :
    CoherentCert (runCertCalls store moves) i t cert ∧ IssuedFor t.tag cert.cert ∧
      ValidAtReturn t cert := by
  obtain ⟨before, after, hlog, -, hafter⟩ := System.log_split ht
    (htrace.trans (List.nil_append _).symm)
  have hgenerated := generatedBefore_of_get hlog
  have ⟨j, u, made, _, _, hmade, hpart⟩ := hgenerated
  have hissued := issuedFor_of_generated hopenssl (hlog ▸ List.prefix_append _ _) hmade hpart
  -- It was issued before it was found, and the clock was read after that.
  obtain ⟨certPem, keyPem, cnValue, hname, hissue⟩ := hmade.issue_mem
  have hread : (i, ⟨.now, time⟩) ∈ (i, ⟨.certCacheGet t.tag, some cert⟩) :: after :=
    List.mem_cons_of_mem _ (System.mem_logOf.mp (by simp [hafter]))
  have hstart := notBefore_le_reading hopenssl hclock hlog hname
    (System.mem_logOf.mp (hpart.subset hissue)) hread
  refine ⟨.inr ⟨before, after, time, hlog, hgenerated, by simp [htrace], hfresh⟩, hissued, time,
    by simp [CertTask.lastReading, htrace, clockReading], hstart, fun hexpiry => ?_⟩
  exact Int.le_of_lt (Int.lt_of_lt_of_le hfresh hexpiry)

/-- What a call has generated itself. -/
theorem coherent_of_generated {i : ℕ} {t : CertTask}
    (ht : (runCertCalls store moves).threads[i]? = some t) {cert : CachedCert}
    {missed made : Trace (TaskSig StoreSig)}
    (htrace : t.trace = missed ++ made ++ [⟨.certCacheInsert t.tag cert, ()⟩])
    (hmade : Generated t.tag cert made) :
    CoherentCert (runCertCalls store moves) i t cert ∧ IssuedFor t.tag cert.cert ∧
      ValidAtReturn t cert := by
  have hpart : made <:+: t.trace := ⟨missed, _, htrace.symm⟩
  have hissued := issuedFor_of_generated hopenssl List.prefix_rfl hmade
    (System.trace_eq ht ▸ hpart)
  refine ⟨.inl ⟨made, hmade, hpart⟩, hissued, ?_⟩
  obtain @⟨config, certPem, keyPem, cnValue, time, hname, hexpiry⟩ := hmade
  -- The clock is read after the certificate is issued, in the same call.
  have hissue : t.trace = missed ++ [⟨.store .getConfig, config⟩,
      ⟨.readFile config.certPath, .ok certPem⟩, ⟨.readFile config.keyPath, .ok keyPem⟩] ++
        ⟨.issueCertificate certPem keyPem cnValue t.tag 365, .ok cert.cert⟩ ::
          [⟨.now, time⟩, ⟨.certCacheInsert t.tag cert, ()⟩] := by
    simp [htrace]
  obtain ⟨before, after, hlog, -, hafter⟩ := System.log_split ht hissue
  have hread : (i, ⟨.now, time⟩) ∈ after := System.mem_logOf.mp (by simp [hafter])
  have hstart := notBefore_le_reading hopenssl hclock (hlog.trans (List.append_cons _ _ _)) hname
    (List.mem_append_right _ (List.mem_singleton_self _)) hread
  refine ⟨time, by simp [CertTask.lastReading, htrace, clockReading], hstart, fun hle => ?_⟩
  have hearlier : ∀ n : ℤ, n ≤ n + 3600 * 1000000000 := by omega
  exact Int.le_trans (hearlier time) (hexpiry ▸ hle)

end Coherence

/-- In every run of `get_or_generate_cert` calls under a clock that does not step back, and with
`openssl` signing what it is given:

* every certificate returned is coherent and issued for the domain of the call, and is valid at the
  last clock reading of the call, unless at its generation the clock advanced so far that it was to
  be cached for longer than it is valid;
* every certificate cached was generated and issued for its domain;
* no step of a call changes the entry of another domain, and none changes the cache at all if the
  call does not come to return a certificate. -/
theorem cert_cache_coherent (store : Store) (moves : List (Move Str Oracle))
    (hclock : (certTimeline store moves).Pairwise fun x y => x.2.1.now ≤ y.2.1.now)
    (hopenssl : ∀ x ∈ certTimeline store moves, signs x.2.1.now x.2.2.op x.2.2.res = true)
    (i : ℕ) (t : CertTask) (ht : (runCertCalls store moves).threads[i]? = some t) :
    (∀ cert, t.prog = .ret (.ok cert) → CoherentCert (runCertCalls store moves) i t cert ∧
      IssuedFor t.tag cert.cert ∧ ValidAtReturn t cert) ∧
    (∀ domain cert, (runCertCalls store moves).state.certCache domain = some cert →
      GeneratedBefore (runCertCalls store moves) (runCertCalls store moves).log domain cert ∧
        IssuedFor domain cert.cert) ∧
    ∀ moves' w, moves' ++ [.step i w] <+: moves →
      (∀ domain, domain ≠ t.tag →
        (runCertCalls store (moves' ++ [.step i w])).state.certCache domain =
          (runCertCalls store moves').state.certCache domain) ∧
      ((∀ cert, t.prog ≠ .ret (.ok cert)) →
        (runCertCalls store (moves' ++ [.step i w])).state.certCache =
          (runCertCalls store moves').state.certCache) := by
  have hknown := CertTask.known (List.mem_of_getElem? ht)
  refine ⟨fun cert hret => ?_, fun domain cert hcached => ?_, fun moves' w hpre =>
    ⟨fun domain hne => ?_, fun hnone => ?_⟩⟩
  · obtain ⟨time, htrace, hfresh⟩ | ⟨missed, made, htrace, hmade⟩ := hknown.returned hret
    · exact coherent_of_hit hopenssl hclock ht htrace hfresh
    · exact coherent_of_generated hopenssl hclock ht htrace hmade
  · have hbefore := generatedBefore_of_cached List.prefix_rfl hcached
    have ⟨j, u, made, _, _, hmade, hpart⟩ := hbefore
    exact ⟨hbefore, issuedFor_of_generated hopenssl List.prefix_rfl hmade hpart⟩
  · by_contra hchange
    obtain ⟨e, he, v, hentry⟩ := certCache.write_of_ne hpre ht hchange
    exact hne (hknown.inserted he hentry).1
  · funext domain
    by_contra hchange
    obtain ⟨e, he, v, hentry⟩ := certCache.write_of_ne hpre ht hchange
    exact hnone v (hknown.inserted he hentry).2.1

namespace Concrete

/-- An environment in which `openssl` signs a certificate for `example.com`. -/
def signer (now : SystemTime) : Oracle :=
  { oracle .timeout with
    now
    issueCertificate := .ok
      { commonName := "example.com", subjectAltName := "example.com"
        notBefore := now / 1000000000 * 1000000000
        notAfter := (now / 1000000000 + 365 * 86400) * 1000000000 } }

/-- A call generates a certificate; the clock stands at `later` when it reads it, and when a second
call finds the certificate. -/
def certMoves (later : SystemTime) : List (Move Str Oracle) :=
  [.spawn "example.com", .spawn "example.com"] ++ .replicate 5 (.step 0 (signer 0)) ++
    .replicate 2 (.step 0 (signer later)) ++ .replicate 2 (.step 1 (signer later))

def certRun (later : SystemTime) : CertPool := runCertCalls (.fresh config 0) (certMoves later)

theorem length_certRun (later : SystemTime) : 1 < (certRun later).threads.length := by
  have hspawned : (certCalls.run (.init (.fresh config 0))
      [.spawn "example.com", .spawn "example.com"]).threads.length ≤
        (certRun later).threads.length := System.length_threads_le _ ⟨_, rfl⟩
  exact lt_of_lt_of_le (by decide) hspawned

/-- The second call. -/
def certCall (later : SystemTime) : CertTask :=
  (certRun later).threads.get ⟨1, length_certRun later⟩

/-- One second. -/
def second : SystemTime := 1000000000

/-- 400 days. -/
def days400 : SystemTime := 400 * 86400 * second

/-- The certificate the second call finds. -/
def foundCert (later : SystemTime) : CachedCert where
  cert :=
    { commonName := "example.com", subjectAltName := "example.com"
      notBefore := 0, notAfter := 365 * 86400 * second }
  expiry := later + 3600 * second

end Concrete

/-- The second call is served the certificate of the first, a second later. -/
theorem cert_cache_coherent_cached :
    CoherentCert (Concrete.certRun Concrete.second) 1 (Concrete.certCall Concrete.second)
        (Concrete.foundCert Concrete.second) ∧
      IssuedFor "example.com" (Concrete.foundCert Concrete.second).cert ∧
        ValidAtReturn (Concrete.certCall Concrete.second) (Concrete.foundCert Concrete.second) :=
  (cert_cache_coherent (.fresh Concrete.config 0) (Concrete.certMoves Concrete.second)
    (by decide +kernel) (by decide +kernel) 1 (Concrete.certCall Concrete.second)
    (List.getElem?_eq_getElem (Concrete.length_certRun _))).1 _ (by rfl)

/-- Where 400 days pass while a certificate is generated, the second call is served a certificate
whose validity has ended before the call reads the clock. -/
theorem cert_served_expired :
    (certTimeline (.fresh Concrete.config 0) (Concrete.certMoves Concrete.days400)).Pairwise
        (fun x y => x.2.1.now ≤ y.2.1.now) ∧
      (∀ x ∈ certTimeline (.fresh Concrete.config 0) (Concrete.certMoves Concrete.days400),
        signs x.2.1.now x.2.2.op x.2.2.res = true) ∧
      (Concrete.certCall Concrete.days400).prog =
        .ret (.ok (Concrete.foundCert Concrete.days400)) ∧
      (Concrete.certCall Concrete.days400).lastReading = some Concrete.days400 ∧
      (Concrete.foundCert Concrete.days400).cert.notAfter < Concrete.days400 :=
  ⟨by decide +kernel, by decide +kernel, by rfl, by rfl, by decide⟩

end Bifrost
