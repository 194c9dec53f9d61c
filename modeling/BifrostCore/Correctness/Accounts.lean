import Mathlib.Data.UInt
import BifrostCore.Correctness.Observation

/-!
# The traffic counters

What the atomics of `TrafficStatsData` say about the tasks, in every reachable state of the proxy.
A counter the sampler does not own is the sum of what the tasks have added to it
(`counter_eq_sum`), and what a task has added follows from where it stands in the ledger.

* `currentRequests_eq` — the gauge of requests in flight, between callbacks: the requests that wait
  for an upstream server, the open tunnels, and the requests that came back from upstream.
* `byteCounter_eq` — the byte counters, between callbacks: the bytes read by all tunnels.
-/

namespace Bifrost

open Concurrency

/-! ## What a counter is made of -/

/-- What an operation on the store adds to a counter. -/
def StoreOp.delta (c : Counter) : StoreOp → UInt64
  | .fetchAdd c' n => if c' = c then n else 0
  | .fetchSub c' n => if c' = c then -n else 0
  | _ => 0

/-- What an operation adds to a counter. -/
def TaskOp.delta (c : Counter) (o : TaskOp StoreSig) : UInt64 := o.storeOp.elim 0 (·.delta c)

/-- What the operations of a trace add to a counter. -/
def net (c : Counter) (tr : Trace (TaskSig StoreSig)) : UInt64 :=
  (tr.map fun e => e.op.delta c).sum

/-- An operation on the store moves a counter by what it adds, unless it overwrites it. -/
theorem Store.value_perform {c : Counter} {o : StoreOp} (ho : ∀ v, o ≠ .store c v)
    (clock : SystemTime) (s : Store) :
    (s.perform clock o).2.trafficStats.value c = s.trafficStats.value c + o.delta c := by
  have hset : ∀ (c' : Counter) (v n : UInt64),
      (c' = c → v = s.trafficStats.value c + n) →
      (s.trafficStats.set c' v).value c = s.trafficStats.value c + if c' = c then n else 0 := by
    intro c' v n hv
    by_cases h : c' = c
    · subst h
      rw [TrafficStatsData.set_self, if_pos rfl, hv rfl]
    · rw [TrafficStatsData.set_ne _ (Ne.symm h), if_neg h, add_zero]
  cases o with
  | fetchAdd c' n => exact hset c' _ n fun h => by rw [h]
  | fetchSub c' n => exact hset c' _ (-n) fun h => by rw [h, sub_eq_add_neg]
  | store c' v =>
    have hne : c ≠ c' := fun h => ho v (by rw [h])
    show (s.trafficStats.set c' v).value c = _
    rw [TrafficStatsData.set_ne _ hne]
    exact (add_zero _).symm
  | updateNetworkRecordById requestId f =>
    show (s.updateNetworkRecordById requestId f).2.trafficStats.value c = _
    rw [(Store.update_frame s requestId f).2]
    exact (add_zero _).symm
  | _ => exact (add_zero _).symm

/-- The ledger lets nobody but the sampler overwrite a counter, and the sampler only its own. -/
theorem Ledger.Allows.not_store {q : Phase} {o : TaskOp StoreSig} (h : Ledger.Allows q o)
    {c : Counter} (hc : ¬ c.Sampled) : ∀ o' ∈ o.storeOp, ∀ v, o' ≠ .store c v := by
  rintro o' ho' v rfl
  cases h with
  | quiet_idle h => exact h.readOnly _ ho'
  | quiet_drawn h => exact h.readOnly _ ho'
  | sample_store hs => cases ho'; exact hc hs
  | _ => cases ho'

/-- A counter the sampler does not own is the sum of what the tasks have added to it. -/
theorem counter_eq_sum (X : Externals) (g : Globals) (moves : List (Move Job Oracle)) {c : Counter}
    (hc : ¬ c.Sampled) :
    ((system X).run g moves).state.store.trafficStats.value c =
      g.store.trafficStats.value c +
        (((system X).run g moves).threads.map fun t => net c t.trace).sum := by
  refine System.conservation ledger (Ledger.program_follows X)
    (fun g => g.store.trafficStats.value c) (fun e => e.op.delta c) ?_ g moves
  -- One step: every operation but a plain store moves the counter by its own amount.
  intro g q w o r g' hall hp
  rw [store_perform hp, TaskOp.delta]
  cases ho : o.storeOp with
  | none => exact (add_zero _).symm
  | some o' => exact Store.value_perform (hall.not_store hc o' ho) _ _

/-- An operation adds to a counter only where it writes the counter. -/
theorem TaskOp.delta_eq_writes (c : Counter) (o : TaskOp StoreSig) :
    o.delta c = (o.storeOp.filter (·.writes c)).elim 0 (·.delta c) := by
  unfold TaskOp.delta
  cases o.storeOp with
  | none => rfl
  | some o' =>
    by_cases h : o'.writes c = true
    · rw [Option.filter_some, if_pos h, Option.elim_some]
    · have hdelta : o'.delta c = 0 := by
        cases o' <;> simp_all [StoreOp.writes, StoreOp.delta]
      rw [Option.filter_some, if_neg h]
      exact hdelta

/-- What a trace adds to a counter is what its writes of the counter add. -/
theorem net_eq_writes (c : Counter) (tr : Trace (TaskSig StoreSig)) :
    net c tr = ((writes tr c).map (·.delta c)).sum := by
  induction tr with
  | nil => rfl
  | cons e tr ih =>
    have hnet : net c (e :: tr) = e.op.delta c + net c tr := List.sum_cons
    rw [hnet, ih, TaskOp.delta_eq_writes]
    cases ho : e.op.storeOp.filter (·.writes c) with
    | none =>
      have hw : writes (e :: tr) c = writes tr c := List.filterMap_cons_none ho
      rw [hw, Option.elim_none, zero_add]
    | some o =>
      have hw : writes (e :: tr) c = o :: writes tr c := List.filterMap_cons_some ho
      rw [hw, List.map_cons, List.sum_cons, Option.elim_some]

/-! ## The gauge of requests in flight -/

/-- A task in this phase counts in `current_requests`. -/
def Phase.inGauge : Phase → Bool
  | .admitted _ _ | .counted _ | .recorded _ | .upstream _ | .answered _ => true
  | .relaying _ | .metering _ _ _ | .noting _ => true
  | _ => false

/-- Adding up counters is adding up numbers. -/
theorem sum_ofNat {α : Type} (l : List α) (f : α → ℕ) :
    (l.map fun x => UInt64.ofNat (f x)).sum = UInt64.ofNat (l.map f).sum := by
  induction l with
  | nil => rfl
  | cons x l ih =>
    rw [List.map_cons, List.map_cons, List.sum_cons, List.sum_cons, ih, UInt64.ofNat_add]

/-- A count is a sum of indicators. -/
theorem countP_eq_sum {α : Type} (l : List α) (p : α → Bool) :
    l.countP p = (l.map fun x => (p x).toNat).sum := by
  induction l with
  | nil => rfl
  | cons x l ih =>
    rw [List.countP_cons, List.map_cons, List.sum_cons, ← ih, add_comm]
    cases p x <;> rfl

/-- A count splits into the counts of three exclusive cases. -/
theorem countP_split {α : Type} {l : List α} {p a b c : α → Bool}
    (h : ∀ x ∈ l, (p x).toNat = (a x).toNat + (b x).toNat + (c x).toNat) :
    l.countP p = l.countP a + l.countP b + l.countP c := by
  rw [countP_eq_sum, countP_eq_sum, countP_eq_sum, countP_eq_sum, List.map_congr_left h,
    List.sum_map_add, List.sum_map_add]

section Reachable

variable (X : Externals) (config : Config) (now : UInt64) (moves : List (Move Job Oracle))

/-- A counter that starts at zero and that the sampler does not own is the sum of what the tasks
have added to it. -/
theorem runProxy_counter {c : Counter} (hc : ¬ c.Sampled)
    (h0 : (TrafficStatsData.new now).value c = 0) :
    (runProxy X config now moves).state.store.trafficStats.value c =
      ((runProxy X config now moves).threads.map fun t => net c t.trace).sum := by
  rw [runProxy, counter_eq_sum X _ moves hc]
  show (TrafficStatsData.new now).value c + _ = _
  rw [h0, zero_add]

/-- The gauge counts the tasks in the phases it covers. -/
theorem currentRequests_eq_countP :
    (runProxy X config now moves).state.store.trafficStats.value .currentRequests =
      UInt64.ofNat ((runProxy X config now moves).threads.countP fun t =>
        (ProxyTask.phase t).inGauge) := by
  rw [runProxy_counter X config now moves (by decide) rfl, countP_eq_sum, ← sum_ofNat]
  refine congrArg List.sum (List.map_congr_left fun t ht => ?_)
  rw [net_eq_writes, (ProxyTask.standing ht).gauge]
  -- A closed tunnel has added one and subtracted it again.
  have hclosed : (1 : UInt64) + (-1 + 0) = 0 := by decide
  cases ProxyTask.phase t with
  | closing | closed => exact hclosed
  | _ => rfl

/-- Between callbacks, the gauge counts the requests that wait for an upstream server, the open
tunnels, and the requests that came back from upstream. -/
theorem currentRequests_eq (hq : Quiescent (runProxy X config now moves)) :
    (runProxy X config now moves).state.store.trafficStats.value .currentRequests =
      UInt64.ofNat ((runProxy X config now moves).threads.countP ProxyTask.awaitsUpstream +
        (runProxy X config now moves).threads.countP ProxyTask.openTunnel +
        (runProxy X config now moves).threads.countP ProxyTask.cameBack) := by
  rw [currentRequests_eq_countP]
  refine congrArg UInt64.ofNat (countP_split fun t ht => ?_)
  -- The phase of the task decides in which of the three counts it is. Between callbacks only the
  -- calm phases are left, and in these it is in at most one of them.
  have hcalm := ProxyTask.calm_of_not_inCallback ht (hq t ht)
  have hstanding := ProxyTask.standing ht
  have hawaits : ProxyTask.awaitsUpstream t = (ProxyTask.phase t matches .upstream _) := by
    have h := ProxyTask.awaitsUpstream_iff ht
    cases hphase : ProxyTask.phase t <;> simp [hphase] at h ⊢ <;> exact h
  rw [hawaits, ProxyTask.openTunnel, ProxyTask.cameBack, hstanding.connect, hstanding.close,
    hstanding.forwarded]
  generalize ProxyTask.phase t = q at hcalm ⊢
  cases q with
  | idle | drawn | upstream | answered | relaying | closed | sampling => rfl
  | _ => cases hcalm

/-- A subtraction from the gauge never takes it below zero. -/
theorem le_of_fetchSub (hlen : (runProxy X config now moves).threads.length < 2 ^ 64) {i : ℕ}
    {cb : Callback} {n v : UInt64}
    (h : (i, ⟨.callback cb (.fetchSub .currentRequests n), v⟩) ∈
      (runProxy X config now moves).log) : n ≤ v := by
  -- The state in which the subtraction was made is itself a reachable one.
  obtain ⟨before, after, hlog⟩ := List.append_of_mem h
  obtain ⟨moves', w, t, k, g', hpre, -, hget, hprog, hperf⟩ := System.log_origin _ _ hlog
  have ht := List.mem_of_getElem? hget
  have hall : Ledger.Allows (ProxyTask.phase t)
      (.callback cb (.fetchSub .currentRequests n)) :=
    ProxyTask.allows_nextOp ht (by rw [Thread.nextOp, hprog])
  -- The task is an open tunnel, so the gauge counts it.
  obtain ⟨rfl, id, hphase⟩ : n = 1 ∧ ∃ id, ProxyTask.phase t = .relaying id := by
    generalize ProxyTask.phase t = q at hall ⊢
    cases hall with
    | quiet_idle h => cases h.2
    | quiet_drawn h => cases h.2
    | release => exact ⟨rfl, _, rfl⟩
  have hv : v = UInt64.ofNat ((runProxy X config now moves').threads.countP fun t =>
      (ProxyTask.phase t).inGauge) := by
    rw [← currentRequests_eq_countP]
    cases hperf
    rfl
  have hpos : 0 < (runProxy X config now moves').threads.countP fun t =>
      (ProxyTask.phase t).inGauge :=
    List.countP_pos_iff.mpr ⟨t, ht, by rw [hphase]; rfl⟩
  have hle : (runProxy X config now moves').threads.countP (fun t =>
      (ProxyTask.phase t).inGauge) < 2 ^ 64 :=
    List.countP_le_length.trans_lt ((System.length_threads_le _ hpre).trans_lt hlen)
  rw [hv, UInt64.le_iff_toNat_le, UInt64.toNat_ofNat_of_lt' hle]
  exact hpos

end Reachable

/-- The requests and the tunnels in flight. -/
def inFlight (p : ProxyPool) : ℕ :=
  p.threads.countP ProxyTask.awaitsUpstream + p.threads.countP ProxyTask.openTunnel

/-- The requests that came back from an upstream server. -/
def answeredRequests (p : ProxyPool) : ℕ := p.threads.countP ProxyTask.cameBack

/-- In every reachable state between callbacks, the gauge is the number of requests and tunnels in
flight exactly if no request came back from upstream, counted as the gauge counts: nothing takes
an answered request off it. A subtraction from the gauge does not take it below zero. -/
theorem currentRequests_exact_iff (X : Externals) (config : Config) (now : UInt64)
    (moves : List (Move Job Oracle)) :
    (Quiescent (runProxy X config now moves) →
      (((runProxy X config now moves).state.store.trafficStats.value .currentRequests).toNat =
          inFlight (runProxy X config now moves) ↔
        inFlight (runProxy X config now moves) < 2 ^ 64 ∧
          2 ^ 64 ∣ answeredRequests (runProxy X config now moves))) ∧
    ((runProxy X config now moves).threads.length < 2 ^ 64 →
      ∀ i cb n v, (i, ⟨.callback cb (.fetchSub .currentRequests n), v⟩) ∈
        (runProxy X config now moves).log → n ≤ v) := by
  refine ⟨fun hq => ?_, fun hlen i cb n v h => le_of_fetchSub X config now moves hlen h⟩
  rw [currentRequests_eq X config now moves hq, inFlight, answeredRequests, UInt64.toNat_ofNat']
  omega

/-- A request that waits for the upstream server is in flight, and the gauge shows it. -/
theorem currentRequests_exact_awaiting :
    Quiescent (Concrete.run (.intercepted Concrete.request) (.replicate 12 .timeout)) ∧
      ((Concrete.run (.intercepted Concrete.request)
        (.replicate 12 .timeout)).state.store.trafficStats.value .currentRequests).toNat =
          inFlight (Concrete.run (.intercepted Concrete.request) (.replicate 12 .timeout)) := by
  have hq : Quiescent (Concrete.run (.intercepted Concrete.request) (.replicate 12 .timeout)) := by
    decide
  exact ⟨hq, ((currentRequests_exact_iff _ _ _ _).1 hq).mpr ⟨by decide, by decide⟩⟩

/-- Once the upstream server has answered it, nothing is in flight, and the gauge still shows it. -/
theorem currentRequests_stuck :
    Quiescent (Concrete.run (.intercepted Concrete.request) (.replicate 13 .timeout)) ∧
      inFlight (Concrete.run (.intercepted Concrete.request) (.replicate 13 .timeout)) = 0 ∧
      (Concrete.run (.intercepted Concrete.request)
        (.replicate 13 .timeout)).state.store.trafficStats.value .currentRequests = 1 := by
  decide

/-! ## The byte counters -/

/-- The bytes of a direction a task in this phase has read and not metered. -/
def Phase.pending (direction : DataDirection) : Phase → ℕ
  | .metering _ direction' n => if direction' = direction then n else 0
  | _ => 0

/-- What the bytes read by a task and the bytes it has metered have to do with each other. -/
def Metered (direction : DataDirection) (q : Phase) (tr : Trace (TaskSig StoreSig)) : Prop :=
  net (TrafficStatsPlugin.byteCounter direction) tr + UInt64.ofNat (q.pending direction) =
    UInt64.ofNat (bytesRead tr direction)

theorem Metered.snoc {direction : DataDirection} {q q' : Phase} {tr : Trace (TaskSig StoreSig)}
    (h : Metered direction q tr) {o : TaskOp StoreSig} {r : o.Res}
    (hstep : o.delta (TrafficStatsPlugin.byteCounter direction) +
      UInt64.ofNat (q'.pending direction) =
        UInt64.ofNat (q.pending direction) + UInt64.ofNat (o.bytesRead direction r)) :
    Metered direction q' (tr ++ [⟨o, r⟩]) := by
  have hnet : net (TrafficStatsPlugin.byteCounter direction) (tr ++ [⟨o, r⟩]) =
      net (TrafficStatsPlugin.byteCounter direction) tr +
        o.delta (TrafficStatsPlugin.byteCounter direction) := by
    simp [net]
  have hread : bytesRead (tr ++ [⟨o, r⟩]) direction =
      bytesRead tr direction + o.bytesRead direction r := by
    simp [bytesRead]
  unfold Metered at h ⊢
  rw [hnet, hread, UInt64.ofNat_add, ← h, add_assoc, add_assoc, hstep]

theorem Metered.quiet {direction : DataDirection} {q : Phase} {tr : Trace (TaskSig StoreSig)}
    (h : Metered direction q tr) {o : TaskOp StoreSig} {r : o.Res} (ho : o.Quiet) :
    Metered direction q (tr ++ [⟨o, r⟩]) := by
  have hdelta : o.delta (TrafficStatsPlugin.byteCounter direction) = 0 := by
    rw [TaskOp.delta_eq_writes, ho.not_writes]
    rfl
  have hread : o.bytesRead direction r = 0 := by
    cases o with
    | select => cases ho
    | _ => rfl
  refine h.snoc ?_
  rw [hdelta, hread, add_comm]
  rfl

theorem Metered.step {direction : DataDirection} {q : Phase} {tr : Trace (TaskSig StoreSig)}
    {o : TaskOp StoreSig} (r : o.Res) (ho : Ledger.Allows q o) (h : Metered direction q tr) :
    Metered direction (Ledger.next q o r) (tr ++ [⟨o, r⟩]) := by
  cases ho with
  | quiet_idle ho =>
    rw [Ledger.next_quiet_idle ho]
    exact h.quiet ho
  | quiet_drawn ho =>
    rw [Ledger.next_quiet_drawn ho]
    exact h.quiet ho
  | @select id =>
    -- A chunk that was read is pending until it is metered.
    show Metered direction (Ledger.afterSelect id r) _
    obtain ⟨hq, hread⟩ | ⟨direction', n, hq, hread⟩ := Ledger.afterSelect_cases id r
    · rw [hq]
      refine h.snoc ?_
      show _ = UInt64.ofNat 0 + UInt64.ofNat (r.bytesRead direction)
      rw [hread]
      rfl
    · rw [hq]
      refine h.snoc ?_
      show _ = UInt64.ofNat 0 + UInt64.ofNat (r.bytesRead direction)
      rw [hread]
      rfl
  | @meter id direction' n =>
    refine h.snoc ?_
    cases direction <;> cases direction' <;> rfl
  | _ => exact h.snoc (by cases direction <;> rfl)

theorem Metered.start (direction : DataDirection) (job : Job) :
    Metered direction (Ledger.start job) [] := by
  unfold Ledger.start
  split
  · split <;> rfl
  · rfl
  · rfl

section Reachable

variable (X : Externals) (config : Config) (now : UInt64) (moves : List (Move Job Oracle))

/-- Between callbacks, a byte counter is the number of bytes read by all tunnels in its
direction. -/
theorem byteCounter_eq (hq : Quiescent (runProxy X config now moves))
    (direction : DataDirection) :
    (runProxy X config now moves).state.store.trafficStats.value
        (TrafficStatsPlugin.byteCounter direction) =
      UInt64.ofNat ((runProxy X config now moves).threads.map fun t =>
        bytesRead t.trace direction).sum := by
  have hsampled : ¬ (TrafficStatsPlugin.byteCounter direction).Sampled := by
    cases direction <;> decide
  have hnet : ∀ t ∈ (runProxy X config now moves).threads,
      net (TrafficStatsPlugin.byteCounter direction) t.trace =
        UInt64.ofNat (bytesRead t.trace direction) := by
    intro t ht
    have h : Metered direction (ProxyTask.phase t) t.trace :=
      (System.permits ledger (Ledger.program_follows X) _ moves t ht).induction
        (Metered.start direction t.tag) fun _ _ _ r hall h => h.step r hall
    have hcalm := ProxyTask.calm_of_not_inCallback ht (hq t ht)
    -- Between callbacks no chunk is pending, so what was metered is what was read.
    have hpending : (ProxyTask.phase t).pending direction = 0 := by
      generalize ProxyTask.phase t = q at hcalm
      cases q with
      | metering => cases hcalm
      | _ => rfl
    rw [← h, hpending]
    exact (add_zero _).symm
  rw [runProxy_counter X config now moves hsampled (by cases direction <;> rfl), ← sum_ofNat,
    List.map_congr_left hnet]

end Reachable

end Bifrost
