import BifrostCore.Correctness.Accounts
import BifrostCore.Correctness.Sampler

/-!
# The accounts of the sampler

What is stored and what is added in a run, and how the protocols of the sampler account for it: for
every protocol an invariant between the shared state, the state of the protocol and the log of the
run, which every operation of the sampler and of the callbacks keeps.

* `Reading.Account` — the speeds add up to the byte count of the iteration before.
* `Crest.Account` — a peak is the greatest value stored, or about to be raised to it.
* `Swap.Account` — a request is in a sample, held for the next one, or lost.
-/

namespace Bifrost

open Concurrency Prog

/-! ## What a run did to a counter -/

/-- The operations of a run, with the tasks that performed them. -/
abbrev RunLog := List (ℕ × Event (TaskSig StoreSig))

/-- The value an operation stores into a counter. -/
def StoreOp.storedIn (c : Counter) : StoreOp → Option ℕ
  | .store c' v => if c' = c then some v.toNat else none
  | _ => none

/-- The amount a `fetch_add` adds to a counter. -/
def StoreOp.addedTo (c : Counter) : StoreOp → ℕ
  | .fetchAdd c' n => if c' = c then n.toNat else 0
  | _ => 0

/-- The amount an operation of a task adds to a counter. -/
def TaskOp.addedTo (c : Counter) (o : TaskOp StoreSig) : ℕ := o.storeOp.elim 0 (·.addedTo c)

/-- The values stored into a counter, oldest first. -/
def storedValues (c : Counter) (log : RunLog) : List ℕ :=
  log.filterMap fun entry => entry.2.op.storeOp.bind (·.storedIn c)

/-- The amounts added to a counter, in total. -/
def amountAdded (c : Counter) (log : RunLog) : ℕ := (log.map fun entry => entry.2.op.addedTo c).sum

/-- The value of a counter. -/
def Globals.value (g : Globals) (c : Counter) : UInt64 := g.store.trafficStats.value c

theorem storedValues_snoc (c : Counter) (log : RunLog) (i : ℕ)
    (e : Event (TaskSig StoreSig)) :
    storedValues c (log ++ [(i, e)]) =
      storedValues c log ++ (e.op.storeOp.bind (·.storedIn c)).toList := by
  rw [storedValues, List.filterMap_append]
  cases h : e.op.storeOp.bind (·.storedIn c) <;> simp [storedValues, h]

theorem amountAdded_snoc (c : Counter) (log : RunLog) (i : ℕ)
    (e : Event (TaskSig StoreSig)) :
    amountAdded c (log ++ [(i, e)]) = amountAdded c log + e.op.addedTo c := by
  simp [amountAdded]

@[simp] theorem storedValues_store (c : Counter) (log : RunLog) (i : ℕ) (v : UInt64) (r : Unit) :
    storedValues c (log ++ [(i, ⟨TaskOp.store (.store c v), r⟩)]) =
      storedValues c log ++ [v.toNat] := by
  simp [storedValues_snoc, TaskOp.storeOp, StoreOp.storedIn]

theorem storedValues_store_ne {c c' : Counter} (h : c' ≠ c) (log : RunLog) (i : ℕ) (v : UInt64)
    (r : Unit) :
    storedValues c (log ++ [(i, ⟨TaskOp.store (.store c' v), r⟩)]) = storedValues c log := by
  simp [storedValues_snoc, TaskOp.storeOp, StoreOp.storedIn, h]

@[simp] theorem storedValues_load (c c' : Counter) (log : RunLog) (i : ℕ) (v : UInt64) :
    storedValues c (log ++ [(i, ⟨TaskOp.store (.load c'), v⟩)]) = storedValues c log := by
  simp [storedValues_snoc, TaskOp.storeOp, StoreOp.storedIn]

@[simp] theorem amountAdded_store (c c' : Counter) (log : RunLog) (i : ℕ) (v : UInt64) (r : Unit) :
    amountAdded c (log ++ [(i, ⟨TaskOp.store (.store c' v), r⟩)]) = amountAdded c log :=
  amountAdded_snoc _ _ _ _

@[simp] theorem amountAdded_load (c c' : Counter) (log : RunLog) (i : ℕ) (v : UInt64) :
    amountAdded c (log ++ [(i, ⟨TaskOp.store (.load c'), v⟩)]) = amountAdded c log :=
  amountAdded_snoc _ _ _ _

/-! ## The accounts -/

section Effect

variable {ω : Oracle} {g g' : Globals} {c : Counter}

/-- A callback stores no counter. -/
theorem StoreOp.Tallies.storedIn {o : StoreOp} (h : o.Tallies) (c : Counter) :
    o.storedIn c = none := by
  cases o with
  | store c' v => cases h
  | _ => rfl

/-- An operation of a callback moves a counter, other than the gauge, by what it adds. -/
theorem StoreOp.Tallies.value {o : StoreOp} (h : o.Tallies) (hc : c ≠ .currentRequests)
    (clock : SystemTime) (s : Store) :
    (s.perform clock o).2.trafficStats.value c =
      s.trafficStats.value c + UInt64.ofNat (o.addedTo c) := by
  have hstore : ∀ v, o ≠ .store c v := by
    rintro v rfl
    exact h
  rw [Store.value_perform hstore]
  congr 1
  cases o with
  | fetchAdd c' n =>
    by_cases hc' : c' = c <;> simp [StoreOp.delta, StoreOp.addedTo, hc']
  | fetchSub c' n =>
    obtain rfl : c' = .currentRequests := h
    simp [StoreOp.delta, StoreOp.addedTo, hc.symm]
  | _ => rfl

/-- The log after an operation of a callback. -/
theorem TaskOp.Tallies.storedValues {o : TaskOp StoreSig} (h : o.Tallies) (c : Counter)
    (log : RunLog) (i : ℕ) (r : o.Res) :
    storedValues c (log ++ [(i, ⟨o, r⟩)]) = storedValues c log := by
  obtain ⟨cb, o', rfl, ho⟩ := h
  simp [storedValues_snoc, storeOp, ho.storedIn]

/-- A callback adds nothing to the counters only the sampler writes. -/
theorem TaskOp.Tallies.addedTo_eq_zero {o : TaskOp StoreSig} (h : o.Tallies)
    (hc : c ∉ [.totalRequests, .currentRequests, .requestsThisSecond, .bytesIn, .bytesOut]) :
    o.addedTo c = 0 := by
  obtain ⟨cb, o', rfl, ho⟩ := h
  cases o' with
  | fetchAdd c' n =>
    refine if_neg ?_
    rintro rfl
    exact hc ho
  | _ => rfl

/-- A counter, other than the gauge, after an operation of a callback. -/
theorem TaskOp.Tallies.value {o : TaskOp StoreSig} (h : o.Tallies) (hc : c ≠ .currentRequests)
    {r : o.Res} (hp : perform ω o g = some (r, g')) :
    g'.value c = g.value c + UInt64.ofNat (o.addedTo c) := by
  obtain ⟨cb, o', rfl, ho⟩ := h
  cases hp
  exact ho.value hc _ _

/-- A counter that is added to does not wrap around while the amounts stay below `2^64`. -/
theorem toNat_value_add {v : UInt64} {n total : ℕ} (hv : v.toNat = total)
    (hn : total + n < 2 ^ 64) : (v + UInt64.ofNat n).toNat = total + n := by
  rw [UInt64.toNat_add, hv, UInt64.toNat_ofNat']
  omega

theorem perform_load {v : UInt64} (hp : perform ω (.store (.load c)) g = some (v, g')) :
    v = g.value c ∧ g' = g := by
  cases hp
  exact ⟨rfl, rfl⟩

theorem perform_store {v : UInt64} {r : Unit}
    (hp : perform ω (.store (.store c v)) g = some (r, g')) :
    g'.value c = v ∧ ∀ c', c' ≠ c → g'.value c' = g.value c' := by
  cases hp
  exact ⟨TrafficStatsData.set_self _ c v, fun c' hne => TrafficStatsData.set_ne _ hne v⟩

/-- A pause leaves the state as it is, and the log but for itself. -/
theorem perform_pause {o : TaskOp StoreSig} (ho : o.isPause = true) {r : o.Res}
    (hp : perform ω o g = some (r, g')) (log : RunLog) (i : ℕ) :
    g' = g ∧ (∀ c, storedValues c (log ++ [(i, ⟨o, r⟩)]) = storedValues c log) ∧
      ∀ c, amountAdded c (log ++ [(i, ⟨o, r⟩)]) = amountAdded c log := by
  cases o <;> cases ho <;> cases hp
  exact ⟨rfl, by simp [storedValues_snoc, TaskOp.storeOp],
    by simp [amountAdded_snoc, TaskOp.addedTo, TaskOp.storeOp]⟩

/-- The sampler adds to no counter. -/
theorem addedTo_of_avoids {cs : List Counter} {o : StoreOp} (h : o.avoids cs = true) (c : Counter) :
    (TaskOp.store o).addedTo c = 0 := by
  cases o with
  | fetchAdd c' n => cases h
  | _ => rfl

theorem addedTo_of_pause {o : TaskOp StoreSig} (h : o.isPause = true) (c : Counter) :
    o.addedTo c = 0 := by
  cases o with
  | callback | store => cases h
  | _ => rfl

/-- What the sampler avoids stays as it is. -/
theorem value_of_avoids {cs : List Counter} {o : StoreOp} (h : o.avoids cs = true) (hc : c ∈ cs)
    {r : o.Res} (hp : perform ω (.store o) g = some (r, g')) (log : RunLog) (i : ℕ) :
    g'.value c = g.value c ∧
      storedValues c (log ++ [(i, ⟨.store o, r⟩)]) = storedValues c log ∧
        amountAdded c (log ++ [(i, ⟨.store o, r⟩)]) = amountAdded c log := by
  cases hp
  cases o with
  | load c' => exact ⟨rfl, storedValues_load c c' log i _, amountAdded_load c c' log i _⟩
  | store c' v =>
    have hne : c' ≠ c := by
      rintro rfl
      simp [StoreOp.avoids, hc] at h
    exact ⟨TrafficStatsData.set_ne _ hne.symm v, storedValues_store_ne hne log i v _,
      amountAdded_store c c' log i v _⟩
  | _ => cases h

end Effect

/-! ### Speeds -/

namespace Reading

/-- The byte count of the iteration before. -/
def last : Reading → UInt64
  | .resting last | .loaded last _ => last

/-- The byte count the sampler has loaded last. -/
def seen : Reading → UInt64
  | .resting last => last
  | .loaded _ current => current

/-- The speeds stored so far add up to the byte count of the iteration before. -/
structure Account (bytes speed : Counter) (g : Globals) (q : Reading) (log : RunLog) : Prop where
  /-- The byte counter has not wrapped around. -/
  counted : (g.value bytes).toNat = amountAdded bytes log
  /-- The speeds are the differences of the byte counts, so their sum telescopes. -/
  total : (storedValues speed log).sum = q.last.toNat
  /-- Byte counts do not fall. -/
  ordered : q.last ≤ q.seen
  /-- The present byte count is no smaller. -/
  bounded : q.seen ≤ g.value bytes

variable {bytes speed : Counter} {ω : Oracle} {g g' : Globals} {q : Reading} {log log' : RunLog}

/-- The account only depends on the two counters. -/
theorem Account.frame (h : Account bytes speed g q log) (hvalue : g'.value bytes = g.value bytes)
    (hstored : storedValues speed log' = storedValues speed log)
    (hadded : amountAdded bytes log' = amountAdded bytes log) :
    Account bytes speed g' q log' where
  counted := by rw [hvalue, hadded, h.counted]
  total := by rw [hstored, h.total]
  ordered := h.ordered
  bounded := hvalue ▸ h.bounded

/-- One operation of the sampler. -/
theorem Account.step (hne : speed ≠ bytes) (i : ℕ) {o : TaskOp StoreSig} {r : o.Res}
    (hallows : Allows bytes speed q o) (hp : perform ω o g = some (r, g'))
    (h : Account bytes speed g q log) :
    Account bytes speed g' (next bytes speed q o r) (log ++ [(i, ⟨o, r⟩)]) := by
  have ⟨hcounted, htotal, hordered, hbounded⟩ := h
  cases hallows with
  | @load last =>
    obtain ⟨rfl, rfl⟩ := perform_load hp
    have hnext : next bytes speed (.resting last) (.store (.load bytes)) (g'.value bytes) =
        .loaded last (g'.value bytes) := if_pos rfl
    rw [hnext]
    exact ⟨by rw [amountAdded_load, hcounted], by rw [storedValues_load]; exact htotal, hbounded,
      UInt64.le_refl _⟩
  | @store last current =>
    obtain ⟨-, hframe⟩ := perform_store hp
    have hnext : next bytes speed (.loaded last current)
        (.store (.store speed (TrafficStatsPlugin.saturatingSub current last))) r =
          .resting current := if_pos rfl
    -- The speed is exact, as the byte count has not fallen.
    have hspeed : (TrafficStatsPlugin.saturatingSub current last).toNat =
        current.toNat - last.toNat := by
      have hle : last ≤ current := hordered
      rw [TrafficStatsPlugin.saturatingSub, if_pos hle, UInt64.toNat_sub_of_le _ _ hle]
    have hle : last.toNat ≤ current.toNat := UInt64.le_iff_toNat_le.mp hordered
    rw [hnext]
    refine ⟨?_, ?_, UInt64.le_refl _, ?_⟩
    · rw [hframe _ hne.symm, amountAdded_store, hcounted]
    · have hsum : (storedValues speed log).sum = last.toNat := htotal
      simp only [storedValues_store, List.sum_append, List.sum_singleton, hsum, hspeed]
      exact Nat.add_sub_of_le hle
    · rw [hframe _ hne.symm]
      exact hbounded
  | other ho =>
    obtain ⟨hvalue, -, hadded⟩ := value_of_avoids ho (c := bytes) (by simp) hp log i
    obtain ⟨-, hstored, -⟩ := value_of_avoids ho (c := speed) (by simp) hp log i
    have hnext : next bytes speed q _ r = q := (speed_overlooks bytes speed).stays q _ r ho
    rw [hnext]
    exact h.frame hvalue hstored hadded
  | @pause last _ ho =>
    obtain ⟨rfl, hstored, hadded⟩ := perform_pause ho hp log i
    have hnext : next bytes speed (.resting last) o r = .resting last :=
      (speed_pauses bytes speed).stays _ o r ho
    rw [hnext]
    exact h.frame rfl (hstored speed) (hadded bytes)

/-- One operation of a callback. -/
theorem Account.pass (hbytes : bytes ≠ .currentRequests) (i : ℕ) {o : TaskOp StoreSig} {r : o.Res}
    (ho : o.Tallies) (hp : perform ω o g = some (r, g'))
    (hlt : amountAdded bytes (log ++ [(i, ⟨o, r⟩)]) < 2 ^ 64) (h : Account bytes speed g q log) :
    Account bytes speed g' q (log ++ [(i, ⟨o, r⟩)]) := by
  rw [amountAdded_snoc] at hlt
  have hvalue : (g'.value bytes).toNat = amountAdded bytes log + o.addedTo bytes := by
    rw [ho.value hbytes hp]
    exact toNat_value_add h.counted hlt
  refine ⟨?_, ?_, h.ordered, ?_⟩
  · rw [hvalue, amountAdded_snoc]
  · rw [ho.storedValues, h.total]
  · have hle := UInt64.le_iff_toNat_le.mp h.bounded
    rw [h.counted] at hle
    rw [UInt64.le_iff_toNat_le, hvalue]
    omega

end Reading

/-! ### Peaks -/

/-- The greatest of some values, or 0. -/
def greatest (values : List ℕ) : ℕ := values.foldl max 0

@[simp] theorem greatest_snoc (values : List ℕ) (v : ℕ) :
    greatest (values ++ [v]) = max (greatest values) v := by
  simp [greatest]

namespace Crest

/-- The value that is stored and may be above the peak. -/
def pending : Crest → ℕ
  | .level => 0
  | .shown v | .raising v => v.toNat

/-- The peak, or the value it is about to be raised to, is the greatest value stored so far. -/
structure Account (value peak : Counter) (g : Globals) (q : Crest) (log : RunLog) : Prop where
  /-- What has been stored last counts although the peak may not show it yet. -/
  greatest : max (g.value peak).toNat q.pending = greatest (storedValues value log)
  /-- The peak is only ever raised. -/
  above : ∀ v, q = .raising v → g.value peak < v

variable {value peak : Counter} {ω : Oracle} {g g' : Globals} {q : Crest} {log log' : RunLog}

/-- The account only depends on the two counters. -/
theorem Account.frame (h : Account value peak g q log) (hvalue : g'.value peak = g.value peak)
    (hstored : storedValues value log' = storedValues value log) :
    Account value peak g' q log' where
  greatest := by rw [hvalue, hstored, h.greatest]
  above v hv := hvalue ▸ h.above v hv

/-- One operation of the sampler. -/
theorem Account.step (hne : peak ≠ value) (i : ℕ) {o : TaskOp StoreSig} {r : o.Res}
    (hallows : Allows value peak q o) (hp : perform ω o g = some (r, g'))
    (h : Account value peak g q log) :
    Account value peak g' (next value peak q o r) (log ++ [(i, ⟨o, r⟩)]) := by
  have ⟨hgreatest, habove⟩ := h
  cases hallows with
  | @put v =>
    obtain ⟨-, hframe⟩ := perform_store hp
    have hnext : next value peak .level (.store (.store value v)) r = .shown v := if_pos rfl
    have hlevel : (g.value peak).toNat = Bifrost.greatest (storedValues value log) := by
      rw [← hgreatest, pending, Nat.max_zero]
    rw [hnext]
    refine ⟨?_, fun w hw => by cases hw⟩
    rw [hframe _ hne, storedValues_store, greatest_snoc, hlevel, pending]
  | @load v =>
    obtain ⟨rfl, rfl⟩ := perform_load hp
    have hnext : next value peak (.shown v) (.store (.load peak)) (g'.value peak) =
        if g'.value peak < v then .raising v else .level := if_pos rfl
    rw [hnext]
    split
    · next hlt =>
      refine ⟨by rw [storedValues_load]; exact hgreatest, ?_⟩
      rintro w hw
      cases hw
      exact hlt
    · next hge =>
      -- The value is not above the peak, so the peak is the greatest already.
      have hle : v.toNat ≤ (g'.value peak).toNat := by
        rw [UInt64.lt_iff_toNat_lt] at hge
        omega
      refine ⟨?_, fun w hw => by cases hw⟩
      rw [storedValues_load, ← hgreatest, pending, pending, Nat.max_zero, Nat.max_eq_left hle]
  | @raise v =>
    obtain ⟨hself, -⟩ := perform_store hp
    have hnext : next value peak (.raising v) (.store (.store peak v)) r = .level := if_pos rfl
    have hlt := UInt64.lt_iff_toNat_lt.mp (habove v rfl)
    rw [hnext]
    refine ⟨?_, fun w hw => by cases hw⟩
    rw [hself, storedValues_store_ne hne, ← hgreatest, pending, pending]
    omega
  | other ho =>
    obtain ⟨hvalue, -, -⟩ := value_of_avoids ho (c := peak) (by simp) hp log i
    obtain ⟨-, hstored, -⟩ := value_of_avoids ho (c := value) (by simp) hp log i
    have hnext : next value peak q _ r = q := (peak_overlooks value peak).stays q _ r ho
    rw [hnext]
    exact h.frame hvalue hstored
  | pause ho =>
    obtain ⟨rfl, hstored, -⟩ := perform_pause ho hp log i
    have hnext : next value peak .level o r = .level := (peak_pauses value peak).stays _ o r ho
    rw [hnext]
    exact h.frame rfl (hstored value)

/-- One operation of a callback. -/
theorem Account.pass
    (hpeak : peak ∉ [.totalRequests, .currentRequests, .requestsThisSecond, .bytesIn, .bytesOut])
    (i : ℕ) {o : TaskOp StoreSig} {r : o.Res} (ho : o.Tallies)
    (hp : perform ω o g = some (r, g')) (h : Account value peak g q log) :
    Account value peak g' q (log ++ [(i, ⟨o, r⟩)]) := by
  have hvalue : g'.value peak = g.value peak := by
    have hgauge : peak ≠ .currentRequests := by
      rintro rfl
      simp at hpeak
    rw [ho.value hgauge hp, ho.addedTo_eq_zero hpeak]
    exact add_zero _
  exact h.frame hvalue (ho.storedValues value log i r)

end Crest

/-! ### Samples -/

/-- After an operation: whether the sampler has loaded `requests_this_second` and not yet cleared
it, and how many requests have been counted there while it had. -/
def watch (acc : Bool × ℕ) (entry : ℕ × Event (TaskSig StoreSig)) : Bool × ℕ :=
  (match entry.2.op with
    | .store (.load c) => if c = .requestsThisSecond then true else acc.1
    | .store (.store c _) => if c = .requestsThisSecond then false else acc.1
    | _ => acc.1,
    acc.2 + if acc.1 then entry.2.op.addedTo .requestsThisSecond else 0)

/-- The sampler has loaded `requests_this_second` and not yet cleared it. -/
def swapping (log : RunLog) : Bool := (log.foldl watch (false, 0)).1

/-- The requests counted in `requests_this_second` between a load and the reset. -/
def lostRequests (log : RunLog) : ℕ := (log.foldl watch (false, 0)).2

/-- No request is counted in `requests_this_second` between a load and the reset. -/
def Undisturbed (log : RunLog) : Prop :=
  ∀ before entry after, log = before ++ entry :: after → swapping before = true →
    entry.2.op.addedTo .requestsThisSecond = 0

theorem swapping_snoc (log : RunLog) (entry : ℕ × Event (TaskSig StoreSig)) :
    swapping (log ++ [entry]) = (watch (swapping log, lostRequests log) entry).1 := by
  rw [swapping, List.foldl_append]
  rfl

/-- What the sampler does elsewhere does not move it. -/
theorem swapping_avoids {cs : List Counter} {o : StoreOp} (h : o.avoids cs = true)
    (hc : .requestsThisSecond ∈ cs) (log : RunLog) (i : ℕ) (r : o.Res) :
    swapping (log ++ [(i, ⟨TaskOp.store o, r⟩)]) = swapping log := by
  rw [swapping_snoc]
  cases o with
  | load c | store c =>
    have hne : c ≠ .requestsThisSecond := by
      rintro rfl
      simp [StoreOp.avoids, hc] at h
    exact if_neg hne
  | _ => cases h

theorem lostRequests_snoc (log : RunLog) (entry : ℕ × Event (TaskSig StoreSig)) :
    lostRequests (log ++ [entry]) =
      lostRequests log + if swapping log then entry.2.op.addedTo .requestsThisSecond else 0 := by
  rw [lostRequests, List.foldl_append]
  rfl

theorem undisturbed_snoc (log : RunLog) (entry : ℕ × Event (TaskSig StoreSig)) :
    Undisturbed (log ++ [entry]) ↔ Undisturbed log ∧
      (swapping log = true → entry.2.op.addedTo .requestsThisSecond = 0) :=
  atEach_snoc (P := fun before e => swapping before = true →
    e.2.op.addedTo .requestsThisSecond = 0)

/-- Requests are lost exactly if one is counted at the wrong moment. -/
theorem lostRequests_eq_zero_iff (log : RunLog) : lostRequests log = 0 ↔ Undisturbed log := by
  induction log using List.reverseRecOn with
  | nil => simp [lostRequests, Undisturbed]
  | append_singleton log entry ih =>
    rw [lostRequests_snoc, undisturbed_snoc, ← ih, Nat.add_eq_zero_iff]
    cases swapping log <;> simp

namespace Swap

/-- The requests counted in the present second and not yet stored as a sample. -/
def held (g : Globals) : Swap → ℕ
  | .idle => (g.value .requestsThisSecond).toNat
  | .loaded v => v.toNat
  | .stored => 0

/-- The sampler is between the load and the reset. -/
def isSwapping : Swap → Bool
  | .idle => false
  | .loaded _ | .stored => true

/-- Every request counted in `requests_this_second` is in a sample, held for the next one, or
lost. -/
structure Account (g : Globals) (q : Swap) (log : RunLog) : Prop where
  /-- `total_requests` is what was added to it. -/
  total : g.value .totalRequests = UInt64.ofNat (amountAdded .totalRequests log)
  /-- The log shows where the sampler stands. -/
  between : swapping log = q.isSwapping
  /-- As long as `requests_this_second` cannot have wrapped around. -/
  balance : amountAdded .requestsThisSecond log < 2 ^ 64 →
    (storedValues .lastQps log).sum + q.held g + lostRequests log =
      amountAdded .requestsThisSecond log

variable {ω : Oracle} {g g' : Globals} {q : Swap} {log log' : RunLog}

/-- The account only depends on the three counters and on where the sampler stands. -/
theorem Account.frame (h : Account g q log)
    (hvalue : ∀ c ∈ [.totalRequests, .requestsThisSecond], g'.value c = g.value c ∧
      amountAdded c log' = amountAdded c log)
    (hstored : storedValues .lastQps log' = storedValues .lastQps log)
    (hbetween : swapping log' = swapping log) (hlost : lostRequests log' = lostRequests log) :
    Account g' q log' := by
  obtain ⟨htotal, hadded⟩ := hvalue .totalRequests (by simp)
  obtain ⟨hpresent, hadded'⟩ := hvalue .requestsThisSecond (by simp)
  have hheld : held g' q = held g q := by cases q <;> simp [held, hpresent]
  refine ⟨by rw [htotal, hadded, h.total], hbetween.trans h.between, ?_⟩
  rw [hadded', hstored, hlost, hheld]
  exact h.balance

/-- An operation of the sampler adds to no counter, so it loses nothing. -/
theorem lostRequests_store (log : RunLog) (i : ℕ) {o : TaskOp StoreSig} (r : o.Res)
    (ho : o.addedTo .requestsThisSecond = 0) :
    lostRequests (log ++ [(i, ⟨o, r⟩)]) = lostRequests log := by
  rw [lostRequests_snoc, ho, ite_self, Nat.add_zero]

theorem Allows.addedTo_eq_zero {q : Swap} {o : TaskOp StoreSig} (h : Allows q o) (c : Counter) :
    o.addedTo c = 0 := by
  cases h with
  | other ho => exact addedTo_of_avoids ho c
  | pause ho => exact addedTo_of_pause ho c
  | _ => rfl

/-- One operation of the sampler. -/
theorem Account.step (i : ℕ) {o : TaskOp StoreSig} {r : o.Res} (hallows : Allows q o)
    (hp : perform ω o g = some (r, g')) (h : Account g q log) :
    Account g' (next q o r) (log ++ [(i, ⟨o, r⟩)]) := by
  have ⟨htotal, hbetween, hbalance⟩ := h
  cases hallows with
  | load =>
    obtain ⟨rfl, rfl⟩ := perform_load hp
    refine ⟨by rw [amountAdded_load, htotal], swapping_snoc _ _, ?_⟩
    rw [amountAdded_load, storedValues_load, lostRequests_store log i _ rfl]
    exact hbalance
  | @store v =>
    -- What was held becomes a sample.
    obtain ⟨-, hframe⟩ := perform_store hp
    refine ⟨by rw [hframe _ (by decide), amountAdded_store, htotal],
      (swapping_snoc _ _).trans hbetween, ?_⟩
    rw [amountAdded_store, storedValues_store, lostRequests_store log i _ rfl]
    intro hlt
    have hsum : (storedValues .lastQps log).sum + v.toNat + lostRequests log =
        amountAdded .requestsThisSecond log := hbalance hlt
    rw [← hsum, List.sum_append, List.sum_singleton]
    rfl
  | reset =>
    -- The counter is cleared, whatever it has come to.
    obtain ⟨hself, hframe⟩ := perform_store hp
    refine ⟨by rw [hframe _ (by decide), amountAdded_store, htotal], swapping_snoc _ _, ?_⟩
    rw [amountAdded_store, storedValues_store_ne (by decide), lostRequests_store log i _ rfl]
    intro hlt
    have hheld : held g' .idle = 0 := congrArg UInt64.toNat hself
    have hsum : (storedValues .lastQps log).sum + 0 + lostRequests log =
        amountAdded .requestsThisSecond log := hbalance hlt
    rw [← hsum]
    exact congrArg (_ + · + _) hheld
  | other ho =>
    obtain ⟨-, hstored, -⟩ := value_of_avoids ho (c := .lastQps) (by simp) hp log i
    have hnext : next q _ r = q := swap_overlooks.stays q _ r ho
    rw [hnext]
    refine h.frame (fun c hc => ?_) hstored (swapping_avoids ho (by simp) log i r)
      (lostRequests_store log i r (addedTo_of_avoids ho _))
    have hfar : c ∈ [.totalRequests, .requestsThisSecond, .lastQps] := by
      rcases List.mem_pair.mp hc with rfl | rfl <;> simp
    obtain ⟨hvalue, -, hadded⟩ := value_of_avoids ho hfar hp log i
    exact ⟨hvalue, hadded⟩
  | @pause _ ho =>
    obtain ⟨rfl, hstored, hadded⟩ := perform_pause ho hp log i
    have hnext : next .idle o r = .idle := swap_pauses.stays _ o r ho
    rw [hnext]
    refine h.frame (fun c _ => ⟨rfl, hadded c⟩) (hstored .lastQps) ?_
      (lostRequests_store log i r (addedTo_of_pause ho _))
    rw [swapping_snoc]
    cases o <;> cases ho <;> rfl

/-- One operation of a callback. -/
theorem Account.pass (i : ℕ) {o : TaskOp StoreSig} {r : o.Res} (ho : o.Tallies)
    (hp : perform ω o g = some (r, g')) (h : Account g q log) :
    Account g' q (log ++ [(i, ⟨o, r⟩)]) := by
  obtain ⟨htotal, hbetween, hbalance⟩ := h
  have htotal' := ho.value (c := .totalRequests) (by decide) hp
  have hvalue := ho.value (c := .requestsThisSecond) (by decide) hp
  refine ⟨?_, ?_, ?_⟩
  · rw [htotal', htotal, amountAdded_snoc, UInt64.ofNat_add]
  · obtain ⟨cb, o', rfl, -⟩ := ho
    exact (swapping_snoc _ _).trans hbetween
  · rw [amountAdded_snoc, ho.storedValues, lostRequests_snoc, hbetween]
    dsimp only
    intro hlt
    have hsum := hbalance (by omega)
    -- While the sampler idles the request is held, and while it swaps it is lost.
    cases q with
    | idle =>
      have hheld : held g' .idle = held g .idle + o.addedTo .requestsThisSecond := by
        have hle : (g.value .requestsThisSecond).toNat ≤ amountAdded .requestsThisSecond log := by
          have : held g .idle = (g.value .requestsThisSecond).toNat := rfl
          omega
        show (g'.value .requestsThisSecond).toNat = _
        rw [hvalue]
        exact toNat_value_add rfl (by omega)
      simp only [isSwapping, Bool.false_eq_true, if_false]
      omega
    | loaded v =>
      have hheld : held g' (.loaded v) = held g (.loaded v) := rfl
      simp only [isSwapping, if_true]
      omega
    | stored =>
      have hheld : held g' .stored = held g .stored := rfl
      simp only [isSwapping, if_true]
      omega

end Swap

end Bifrost
