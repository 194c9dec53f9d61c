import BifrostCore.Correctness.Accounts
import BifrostCore.Correctness.Records

/-!
# The requests of the running proxy

What a forwarded request does to the counters and to its record.

* `unanswered_of_mem` — where only requests run, no record ever gets past `Sending`.
* `record_settled_iff` — when the records of returned requests are what they should be.
* `handleHttp_accounts` — the effect of one request: none at all, or one request counted and one
  record added, depending on whether it went upstream.
-/

namespace Bifrost

open Concurrency Prog

/-! ## The records of returned requests -/

/-- A record that shows no answer. -/
def Unanswered (r : NetworkRecord) : Prop := r.state = .connecting ∨ r.state = .sending

/-- A record that shows how its request ended: with the status of the answer, or as given up. -/
def Settled (tr : Trace (TaskSig StoreSig)) (r : NetworkRecord) : Prop :=
  ∃ req answer, (⟨.clientRequest req, answer⟩ : Event (TaskSig StoreSig)) ∈ tr ∧
    match (answer : Except UpstreamError Response) with
    | .ok response =>
      (r.state = .receiving ∨ r.state = .completed) ∧ r.statusCode = some response.status
    | .error _ => r.state = .completed ∨ r.state = .cancelled

theorem Unanswered.not_settled {r : NetworkRecord} (h : Unanswered r)
    (tr : Trace (TaskSig StoreSig)) : ¬ Settled tr r := by
  rintro ⟨req, answer, -, hanswer⟩
  unfold Unanswered at h
  cases answer with
  | ok response =>
    obtain ⟨hstate, -⟩ := hanswer
    rcases h with h | h <;> rcases hstate with hstate | hstate <;> cases h.symm.trans hstate
  | error e => rcases h with h | h <;> rcases hanswer with hs | hs <;> cases h.symm.trans hs

/-- Outside the tunnels, a call on the record store leaves every record unanswered. -/
theorem Ledger.keeps_unanswered {q : Phase} {o : TaskOp StoreSig} (h : Allows q o)
    (hflow : q.flow ≠ some .tunnel) :
    ∀ c ∈ o.recordCall.bind RecordCall.toLog, c.Keeps Unanswered := by
  have hquiet : ∀ {o : TaskOp StoreSig}, o.Quiet →
      ∀ c ∈ o.recordCall.bind RecordCall.toLog, c.Keeps Unanswered := by
    intro o ho c hc
    obtain hnone | hget := ho.recordCall_eq
    · rw [hnone] at hc; cases hc
    · rw [hget] at hc; cases hc
  cases h with
  | quiet_idle ho => exact hquiet ho
  | quiet_drawn ho => exact hquiet ho
  -- A request adds its record as `Connecting` and marks it as `Sending`; nothing else is called.
  | add _ hstate =>
    rintro c ⟨⟩
    exact .inl hstate
  | mark =>
    rintro c ⟨⟩
    exact fun _ _ => .inr rfl
  | note => exact absurd rfl hflow
  | cancel => exact absurd rfl hflow
  | _ => exact fun c hc => nomatch hc

section Reachable

variable (X : Externals) (config : Config) (now : UInt64) (moves : List (Move Job Oracle))

/-- Where only requests run, no record ever shows an answer. -/
theorem unanswered_of_mem
    (hhttp : ∀ t ∈ (runProxy X config now moves).threads, t.tag.isConnect = false) :
    ∀ r ∈ (runProxy X config now moves).state.store.networkRecords, Unanswered r := by
  -- The invariant is asked only of runs in which no task is a CONNECT request. An earlier state of
  -- such a run is one of such a run.
  have h := System.protocol_induction ledger (Ledger.program_follows X)
    (C := fun g vs _ => (vs.all fun v => ! v.1.isConnect) = true →
      ∀ r ∈ g.store.networkRecords, Unanswered r)
    (s := .init (.fresh config now)) (fun _ r hr => nomatch hr)
    (fun _ _ _ _ ih hvs => ih (by
      rw [List.all_append, Bool.and_eq_true] at hvs
      exact hvs.1))
    (fun g l job tr r log ω o a g' hpermits hall hperf ih hvs => by
      rw [List.all_append, List.all_cons] at hvs
      have hold := ih (by rw [List.all_append, List.all_cons]; exact hvs)
      have hjob : job.isConnect = false := by
        simp only [Bool.and_eq_true, Bool.not_eq_true'] at hvs
        exact hvs.2.1
      have hflow : (phaseOf (job, tr)).flow ≠ some .tunnel := by
        rw [Ledger.flow_after hpermits]
        exact Ledger.flow_start_of_not_connect hjob
      have hkeeps := Ledger.keeps_unanswered hall hflow
      rw [networkRecords_perform hperf]
      cases hc : o.recordCall.bind RecordCall.toLog with
      | none => exact hold
      | some c => exact BoundedLog.forall_step hold (hkeeps c hc)) moves
  refine h ?_
  rw [List.all_map, List.all_eq_true]
  intro t ht
  show (! t.tag.isConnect) = true
  rw [hhttp t ht]
  rfl

end Reachable

/-- Where only requests run, the record of a request that has returned shows how it ended exactly if
it is not there any more: no record ever gets past `Sending`. -/
theorem record_settled_iff (X : Externals) (config : Config) (now : UInt64)
    (moves : List (Move Job Oracle))
    (hhttp : ∀ t ∈ (runProxy X config now moves).threads, t.tag.isConnect = false) :
    ∀ t ∈ (runProxy X config now moves).threads, t.returned = true →
      ∀ cb record u, ⟨.callback cb (.addNetworkRecord record), u⟩ ∈ t.trace →
        ((∀ r ∈ (runProxy X config now moves).state.store.networkRecords, r.id = record.id →
            Settled t.trace r) ↔
          ∀ r ∈ (runProxy X config now moves).state.store.networkRecords, r.id ≠ record.id) := by
  intro t _ _ cb record u _
  constructor
  · intro h r hr hid
    exact (unanswered_of_mem X config now moves hhttp r hr).not_settled _ (h r hr hid)
  · exact fun h r hr hid => absurd hid (h r hr)

/-- Two requests in a store that keeps one record: the first one's record is gone. -/
theorem record_settled_evicted :
    ∃ t ∈ (Concrete.twoRequests 1).threads, t.returned = true ∧
      ∀ r ∈ (Concrete.twoRequests 1).state.store.networkRecords, r.id = 0 →
        Settled t.trace r := by
  have ht := List.mem_of_getElem? (l := (Concrete.twoRequests 1).threads) (i := 0) rfl
  refine ⟨_, ht, by decide, ?_⟩
  exact (record_settled_iff Concrete.externals _ 0 _
    (show ∀ t ∈ (Concrete.twoRequests 1).threads, t.tag.isConnect = false by decide) _ ht
    (by decide) .handleRequest _ () (List.mem_of_getElem? (i := 10) rfl)).mpr (by decide)

/-- Two requests in a store that keeps both records: the first one was answered and has returned,
and its record still says `Sending`. -/
theorem record_not_settled :
    ∃ t ∈ (Concrete.twoRequests 2).threads, t.returned = true ∧ forwarded t.trace = true ∧
      ∃ r ∈ (Concrete.twoRequests 2).state.store.networkRecords, r.id = 0 ∧ r.state = .sending ∧
        ¬ Settled t.trace r := by
  have ht := List.mem_of_getElem? (l := (Concrete.twoRequests 2).threads) (i := 0) rfl
  have hr := List.mem_of_getElem?
    (l := (Concrete.twoRequests 2).state.store.networkRecords) (i := 0) rfl
  refine ⟨_, ht, by decide, by decide, _, hr, by decide, by decide, ?_⟩
  exact Unanswered.not_settled (.inr (by decide)) _

/-! ## The effect of one request -/

/-- The state `g` differs from `g₀` in the counters `cs`, each of which has grown by one. -/
def Counted (g₀ : Globals) (cs : List Counter) (g : Globals) : Prop :=
  ∀ c, g.store.trafficStats.value c =
    g₀.store.trafficStats.value c + if c ∈ cs then 1 else 0

/-- The records that stay when one is added: all of them, but for the oldest one at the bound. -/
def keptRecords (s : Store) : List NetworkRecord :=
  if s.config.maxNetworkRecords ≤ s.networkRecords.length then s.networkRecords.tail
  else s.networkRecords

/-- The records of `g` are those of `g₀` with one more at the end, with the next id of `g₀`. -/
def Recorded (g₀ : Globals) (state : RequestState) (g : Globals) : Prop :=
  ∃ record : NetworkRecord, record.id = g₀.requestIdCounter ∧ record.state = state ∧
    g.store.networkRecords = keptRecords g₀.store ++ [record]

/-- What a request has done to the state `g₀` when it stands in a phase. -/
def Effect (g₀ : Globals) : Phase → Globals → Prop
  | .idle .request, g => g.store = g₀.store ∧ g.requestIdCounter = g₀.requestIdCounter
  | .drawn .request id, g => g.store = g₀.store ∧ id = g₀.requestIdCounter
  | .totalled .request id, g => id = g₀.requestIdCounter ∧ g.store.config = g₀.store.config ∧
      g.store.networkRecords = g₀.store.networkRecords ∧ Counted g₀ [.totalRequests] g
  | .admitted .request id, g => id = g₀.requestIdCounter ∧ g.store.config = g₀.store.config ∧
      g.store.networkRecords = g₀.store.networkRecords ∧
      Counted g₀ [.currentRequests, .totalRequests] g
  | .counted id, g => id = g₀.requestIdCounter ∧ g.store.config = g₀.store.config ∧
      g.store.networkRecords = g₀.store.networkRecords ∧
      Counted g₀ [.requestsThisSecond, .currentRequests, .totalRequests] g
  | .recorded id, g => id = g₀.requestIdCounter ∧ Recorded g₀ .connecting g ∧
      Counted g₀ [.requestsThisSecond, .currentRequests, .totalRequests] g
  | .upstream _, g | .answered _, g => Recorded g₀ .sending g ∧
      Counted g₀ [.requestsThisSecond, .currentRequests, .totalRequests] g
  | _, _ => False

section Effect

variable {g₀ g g' : Globals} {ω : Oracle}

/-- Counting once more. -/
theorem Counted.fetchAdd {cs : List Counter} (h : Counted g₀ cs g) {c : Counter} (hc : c ∉ cs)
    {cb : Callback} {v : UInt64}
    (hperf : perform ω (.callback cb (.fetchAdd c 1)) g = some (v, g')) :
    Counted g₀ (c :: cs) g' := by
  intro c'
  rw [store_perform hperf]
  show (g.store.perform ω.storeClock (.fetchAdd c 1)).2.trafficStats.value c' = _
  rw [Store.value_perform (by rintro v ⟨⟩), h c', add_assoc]
  congr 1
  by_cases heq : c' = c
  · subst heq
    simp [hc, StoreOp.delta]
  · simp [heq, Ne.symm heq, StoreOp.delta]

/-- Counting once more, and leaving the configuration and the records alone. -/
theorem Counted.next {cs : List Counter}
    (h : g.store.config = g₀.store.config ∧
      g.store.networkRecords = g₀.store.networkRecords ∧ Counted g₀ cs g) {c : Counter}
    (hc : c ∉ cs) {cb : Callback} {v : UInt64}
    (hperf : perform ω (.callback cb (.fetchAdd c 1)) g = some (v, g')) :
    g'.store.config = g₀.store.config ∧
      g'.store.networkRecords = g₀.store.networkRecords ∧ Counted g₀ (c :: cs) g' :=
  ⟨(config_perform hperf).trans h.1, (networkRecords_perform hperf).trans h.2.1,
    h.2.2.fetchAdd hc hperf⟩

/-- Marking the record that was just added marks no other, if its id is new. -/
theorem Recorded.mark (h : Recorded g₀ .connecting g)
    (hfresh : ∀ r ∈ g₀.store.networkRecords, r.id ≠ g₀.requestIdCounter)
    {cb : Callback} {u : Result Unit}
    (hperf : perform ω (.callback cb
      (.updateNetworkRecordById g₀.requestIdCounter NetStorage.markSending)) g = some (u, g')) :
    Recorded g₀ .sending g' := by
  obtain ⟨record, hid, -, hrecords⟩ := h
  refine ⟨NetStorage.markSending record, hid, rfl, ?_⟩
  have hkept : ∀ r ∈ keptRecords g₀.store, ¬ r.id = g₀.requestIdCounter := fun r hr =>
    hfresh r ((BoundedLog.evict_suffix _ _).subset hr)
  -- The update passes over the records that were there before.
  rw [networkRecords_perform hperf, hrecords]
  show (BoundedLog.modifyFirst _ _ _).getD _ = _
  rw [BoundedLog.modifyFirst_append (by simpa using hkept) (by simpa using hid)]
  rfl

/-- A quiet operation leaves the store as it is. -/
theorem TaskOp.Quiet.store_eq {o : TaskOp StoreSig} (ho : o.Quiet) {r : o.Res}
    (hperf : perform ω o g = some (r, g')) : g'.store = g.store := by
  rw [store_perform hperf]
  cases hs : o.storeOp with
  | none => rfl
  | some o' =>
    have hread := ho.readOnly o' hs
    cases o' with
    | getConfig | getNetworkRecords | load | now => rfl
    | _ => cases hread

/-- An operation of a request the ledger allows has the effect the next phase says. -/
theorem Effect.step (hfresh : ∀ r ∈ g₀.store.networkRecords, r.id ≠ g₀.requestIdCounter)
    {q : Phase} {o : TaskOp StoreSig} {r : o.Res} (hall : Ledger.Allows q o)
    (hperf : perform ω o g = some (r, g')) (h : Effect g₀ q g) :
    Effect g₀ (Ledger.next q o r) g' := by
  cases hall with
  | @quiet_idle flow _ ho =>
    rw [Ledger.next_quiet_idle ho]
    cases flow with
    | tunnel => exact h.elim
    | request =>
      refine ⟨(ho.store_eq hperf).trans h.1, ?_⟩
      rw [requestIdCounter_perform hperf, if_neg, h.2]
      cases o with
      | nextRequestId => cases ho
      | _ => exact Bool.false_ne_true
  | @quiet_drawn flow id _ ho =>
    rw [Ledger.next_quiet_drawn ho]
    cases flow with
    | tunnel => exact h.elim
    | request => exact ⟨(ho.store_eq hperf).trans h.1, h.2⟩
  | @draw flow =>
    cases flow with
    | tunnel => exact h.elim
    | request =>
      cases hperf
      exact h
  | request_total =>
    obtain ⟨hstore, hid⟩ := h
    -- Nothing has been counted before.
    have hzero : Counted g₀ [] g := fun c => by rw [hstore]; exact (add_zero _).symm
    exact ⟨hid, Counted.next ⟨by rw [hstore], by rw [hstore], hzero⟩ (by decide) hperf⟩
  | request_current => exact ⟨h.1, Counted.next h.2 (by decide) hperf⟩
  | request_second => exact ⟨h.1, Counted.next h.2 (by decide) hperf⟩
  | clock =>
    cases hperf
    exact h
  | @add _ record hrecord hstate =>
    obtain ⟨hid, hconfig, hrecords, hcounted⟩ := h
    cases hperf
    refine ⟨hid, ⟨record, hrecord.trans hid, hstate, ?_⟩, hcounted⟩
    show (g.store.addNetworkRecord record).networkRecords = _
    simp only [Store.addNetworkRecord, keptRecords, hconfig, hrecords]
  | mark =>
    obtain ⟨rfl, hrecord, hcounted⟩ := h
    refine ⟨hrecord.mark hfresh hperf, fun c => ?_⟩
    rw [← hcounted c, store_perform hperf]
    exact congrArg (·.value c) (Store.update_frame _ _ _).2
  | forward =>
    cases hperf
    exact h
  | _ => exact h.elim

end Effect

/-- What one request does to the counters and the records, run alone from any state in which no
record carries the id it is going to draw. If its answer is produced without asking the upstream
server, the store is as before. Otherwise the three request counters have grown by one, the other
counters are as before, and there is one more record at the end, with the id drawn and in the state
`Sending`; the other records are as before, without the oldest one if the store was full. -/
theorem handleHttp_accounts (X : Externals) (req : Request) (g : Globals)
    (hfresh : ∀ r ∈ g.store.networkRecords, r.id ≠ g.requestIdCounter)
    {tr : Trace (TaskSig StoreSig)} {response : Response} {g' : Globals}
    (h : Exec perform (HttpInterceptor.handleHttp X (registeredPlugins X) req) g tr
      (.ret response) g') :
    (forwarded tr = false → g'.store = g.store) ∧
      (forwarded tr = true →
        Counted g [.requestsThisSecond, .currentRequests, .totalRequests] g' ∧
          Recorded g .sending g') := by
  have hfollows := Ledger.handleHttp_follows X req
  -- The phase at the end says what the request has done, and whether it went upstream.
  have heffect : Effect g (ledger.after (.idle .request) tr) g' :=
    hfollows.exec (fun _ _ _ _ _ _ hall hperf heff => heff.step hfresh hall hperf) h ⟨rfl, rfl⟩
  have hstanding : Ledger.Standing (ledger.after (.idle .request) tr) tr :=
    (hfollows.permits h.steps).induction ⟨rfl, rfl, rfl, rfl, rfl⟩
      fun _ _ _ r hall hs => hs.step r hall
  have hended : Ledger.HttpEnded (ledger.after (.idle .request) tr) := hfollows.steps h.steps
  rw [hstanding.forwarded]
  generalize ledger.after (.idle .request) tr = q at heffect hended
  rcases hended with rfl | hended
  -- A failed lookup and a WebSocket upgrade end before an id is drawn, a rejected URI and an answer
  -- of the built-in server after it.
  · exact ⟨fun _ => heffect.1, fun hf => nomatch hf⟩
  · cases q with
    | drawn flow id =>
      cases flow with
      | tunnel => exact heffect.elim
      | request => exact ⟨fun _ => heffect.1, fun hf => nomatch hf⟩
    | answered id => exact ⟨fun hf => (nomatch hf), fun _ => heffect.symm⟩
    | _ => exact hended.elim

/-- A request to a proxy that has just started goes upstream and is recorded. -/
theorem handleHttp_accounts_started :
    ∃ tr response g', Exec perform Concrete.handled Concrete.started tr (.ret response) g' ∧
      Recorded Concrete.started .sending g' := by
  have hrun : ((Concrete.handled.eval (perform (Concrete.oracle .timeout))
      Concrete.started).map fun x => x.2.store.networkRecords.length) = some 1 := by decide
  obtain ⟨⟨response, g'⟩, heval, hlength⟩ := Option.map_eq_some_iff.mp hrun
  have h := Exec.of_eval heval
  have haccounts := handleHttp_accounts Concrete.externals Concrete.request Concrete.started
    (by decide) h
  refine ⟨_, response, g', h, ?_⟩
  cases hf : forwarded (Concrete.handled.evalTrace _ Concrete.started) with
  | true => exact (haccounts.2 hf).2
  | false =>
    have hstore := haccounts.1 hf
    rw [hstore] at hlength
    exact absurd hlength (by decide)

/-- Where a record already carries the id, the request marks that record instead of its own. -/
theorem handleHttp_accounts_wrapped :
    ¬ ∀ tr response g', Exec perform Concrete.handled Concrete.wrapped tr (.ret response) g' →
      (forwarded tr = false → g'.store = Concrete.wrapped.store) ∧
        (forwarded tr = true →
          Counted Concrete.wrapped [.requestsThisSecond, .currentRequests, .totalRequests] g' ∧
            Recorded Concrete.wrapped .sending g') := by
  intro hclaim
  -- The old record is marked as sending, the new one is not.
  have hrun : ((Concrete.handled.eval (perform (Concrete.oracle .timeout))
      Concrete.wrapped).map fun x => x.2.store.networkRecords.map fun r => (r.id, r.state)) =
        some [(0, .sending), (0, .connecting)] := by decide
  obtain ⟨⟨response, g'⟩, heval, hrecords⟩ := Option.map_eq_some_iff.mp hrun
  have h := Exec.of_eval heval
  have haccounts := hclaim _ response g' h
  cases hf : forwarded (Concrete.handled.evalTrace _ Concrete.wrapped) with
  | true =>
    obtain ⟨record, -, hstate, heq⟩ := (haccounts.2 hf).2
    rw [heq] at hrecords
    have hlast := congrArg List.getLast? hrecords
    simp [hstate] at hlast
  | false =>
    have hstore := haccounts.1 hf
    rw [hstore] at hrecords
    exact absurd hrecords (by decide)

end Bifrost
