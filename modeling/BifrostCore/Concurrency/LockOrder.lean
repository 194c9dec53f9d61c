import Mathlib.Algebra.Order.BigOperators.Group.List
import Mathlib.Data.Finset.Dedup
import Mathlib.Data.Finset.Max
import BifrostCore.Concurrency.RwLock

/-!
# Locks in their order

Tasks that take the locks by their rank, hold what their operations need, and hold nothing when they
end.

* `ordered rank needs` — their protocol; its state is what a task holds and waits for.
* `System.holders_eq`, `System.count_queue_eq` — a lock is held, and waited for, as the tasks say.
* `System.exclusive` — a task that holds a lock for writing is the only one that holds it.
* `System.waiting_moves` — no deadlock: where a task waits, one of those that wait or hold moves on.
-/

namespace Concurrency

/-! ## Locks in their order -/

/-- What a task holds and what it waits for. -/
@[ext]
structure Holding (L : Type) where
  /-- The lock it waits for, with its place in the queue. -/
  waiting : Option (L × ℕ × Mode)
  /-- The guards it holds, the newest first. -/
  held : List (L × Mode)

namespace Holding

variable {L : Type} [DecidableEq L] {S : Sig}

/-- No guard, and no wait. -/
def nothing : Holding L := ⟨none, []⟩

/-- What a task holds after an operation. -/
def next (q : Holding L) : (o : LockedOp L S) → o.Res → Holding L
  | .request l m, ticket => { q with waiting := some (l, ticket, m) }
  | .await l x, granted =>
    { waiting := none, held := if granted then (l, x.2) :: q.held else q.held }
  | .release l m, _ => { q with held := q.held.erase (l, m) }
  | .dropped, _ => q
  | .plain _, _ => q

/-- The operations of a task that takes locks by their rank, and holds what its operations need. -/
inductive Allows (rank : L → ℕ) (needs : S.Op → List (L × Mode) → Prop) :
    Holding L → LockedOp L S → Prop
  | request {held : List (L × Mode)} {l : L} {m : Mode} : (∀ x ∈ held, rank x.1 < rank l) →
      Allows rank needs ⟨none, held⟩ (.request l m)
  | await {held : List (L × Mode)} {l : L} {x : ℕ × Mode} :
      Allows rank needs ⟨some (l, x), held⟩ (.await l x)
  | release {held : List (L × Mode)} {l : L} {m : Mode} : (l, m) ∈ held →
      Allows rank needs ⟨none, held⟩ (.release l m)
  | dropped : Allows rank needs ⟨none, []⟩ .dropped
  | plain {held : List (L × Mode)} {o : S.Op} : needs o held →
      Allows rank needs ⟨none, held⟩ (.plain o)

/-- The lock a task waits for comes after those it holds. -/
def InOrder (rank : L → ℕ) (q : Holding L) : Prop :=
  ∀ l x, q.waiting = some (l, x) → ∀ y ∈ q.held, rank y.1 < rank l

end Holding

section Ordered

variable {L : Type} [DecidableEq L] {S : Sig}

/-- The protocol of a task that takes locks by their rank. -/
@[reducible]
def ordered (rank : L → ℕ) (needs : S.Op → List (L × Mode) → Prop) : Protocol (Locked L S) where
  State := Holding L
  Allows := Holding.Allows rank needs
  next := Holding.next

/-- What a task holds after its trace. -/
def Thread.holding {κ α : Type} (t : Thread (Locked L S) κ α) : Holding L :=
  t.trace.foldl (fun q e => q.next e.op e.res) .nothing

variable {rank : L → ℕ} {needs : S.Op → List (L × Mode) → Prop}

namespace Prog

variable {α : Type} {l : L} {m : Mode} {held : List (L × Mode)}

theorem drop_follows (post : Holding L → α → Prop) :
    (drop held : Prog (Locked L S) α).Follows (ordered rank needs) ⟨none, held⟩ post := by
  induction held with
  | nil => exact ⟨.dropped, fun r => nomatch r⟩
  | cons x held ih =>
    refine ⟨.release (by simp), fun _ => ?_⟩
    show Follows (ordered rank needs) ⟨none, (x :: held).erase x⟩ _ _
    rwa [List.erase_cons_head]

/-- A lock that comes after those that are held is taken. -/
theorem acquire_follows (h : ∀ x ∈ held, rank x.1 < rank l) :
    (acquire l m held : Prog (Locked L S) Unit).Follows (ordered rank needs) ⟨none, held⟩
      fun q _ => q = ⟨none, (l, m) :: held⟩ := by
  refine ⟨.request h, fun ticket => ⟨.await, fun granted => ?_⟩⟩
  cases granted with
  | false => exact drop_follows _
  | true => rfl

/-- The newest guard is dropped. -/
theorem release_follows : (release l m : Prog (Locked L S) Unit).Follows (ordered rank needs)
    ⟨none, (l, m) :: held⟩ fun q _ => q = ⟨none, held⟩ := by
  refine ⟨.release (by simp), fun _ => ?_⟩
  show Holding.mk none (((l, m) :: held).erase (l, m)) = _
  rw [List.erase_cons_head]

/-- An operation under the guards it needs. -/
theorem plain_follows {o : S.Op} (h : needs o held) :
    (plain o : Prog (Locked L S) (S.Res o)).Follows (ordered rank needs) ⟨none, held⟩
      fun q _ => q = ⟨none, held⟩ :=
  ⟨.plain h, fun _ => rfl⟩

end Prog

/-- Tasks that take locks by their rank wait in that order. -/
theorem inOrder_of_permits {tr : Trace (Locked L S)}
    (h : (ordered rank needs).Permits .nothing tr) :
    Holding.InOrder rank ((ordered rank needs).after .nothing tr) := by
  refine h.induction (R := fun q _ => Holding.InOrder rank q) (fun _ _ hnone => nomatch hnone) ?_
  intro q tr o r hallows hq
  cases hallows with
  | request hbefore =>
    intro l x hwait
    cases hwait
    exact hbefore
  | await => exact fun _ _ hnone => nomatch hnone
  | release _ => exact fun _ _ hnone => nomatch hnone
  | dropped => exact hq
  | plain _ => exact hq


theorem sum_guardWeight {tr : Trace (Locked L S)} (h : (ordered rank needs).Permits .nothing tr)
    (l : L) (m : Mode) : (tr.map (guardWeight l m)).sum =
      (((ordered rank needs).after .nothing tr).held.count (l, m) : ℤ) := by
  refine h.induction (R := fun (q : Holding L) tr => (tr.map (guardWeight l m)).sum =
    (q.held.count (l, m) : ℤ)) rfl ?_
  intro q tr o r hallows hq
  rw [List.map_append, List.sum_append, hq]
  cases hallows with
  | request _ => simp [guardWeight, Holding.next]
  | @await held l' x =>
    cases r with
    | false => simp [guardWeight, Holding.next]
    | true =>
      by_cases heq : (l', x.2) = (l, m)
      · simp [guardWeight, Holding.next, heq]
      · simp [guardWeight, Holding.next, heq, List.count_cons_of_ne heq]
  | @release held l' m' hmem =>
    show (held.count (l, m) : ℤ) + [if (l', m') = (l, m) then (-1 : ℤ) else 0].sum =
      ((held.erase (l', m')).count (l, m) : ℤ)
    by_cases heq : (l', m') = (l, m)
    · have hpos : 0 < held.count (l, m) := List.count_pos_iff.mpr (heq ▸ hmem)
      rw [heq, if_pos rfl, List.count_erase_self, List.sum_singleton]
      omega
    · rw [if_neg heq, List.count_erase_of_ne (Ne.symm heq), List.sum_singleton, add_zero]
  | dropped => exact r.elim
  | plain _ => simp [guardWeight, Holding.next]

theorem sum_queueWeight {tr : Trace (Locked L S)} (h : (ordered rank needs).Permits .nothing tr)
    (l : L) (x : ℕ × Mode) : (tr.map (queueWeight l x)).sum =
      if ((ordered rank needs).after .nothing tr).waiting = some (l, x) then 1 else 0 := by
  refine h.induction (R := fun (q : Holding L) tr => (tr.map (queueWeight l x)).sum =
    if q.waiting = some (l, x) then 1 else 0) rfl ?_
  intro q tr o r hallows hq
  rw [List.map_append, List.sum_append, hq]
  cases hallows with
  | request _ => simp [queueWeight, Holding.next]
  | @await held l' x' =>
    by_cases heq : (l', x') = (l, x) <;> simp [queueWeight, Holding.next, heq]
  | release _ => simp [queueWeight, Holding.next]
  | dropped => exact r.elim
  | plain _ => simp [queueWeight, Holding.next]

/-! ## Pools of tasks -/

namespace System

variable {σ κ α ω : Type}

variable {program : κ → Prog (Locked L S) α} {base : ω → Handler S σ} {data : σ}
  {moves : List (Move κ (Bool × ω))} {t : Thread (Locked L S) κ α} {l : L} {m : Mode}
  {x : ℕ × Mode}

variable (hprog : ∀ k, (program k).Follows (ordered rank needs) .nothing fun q _ => q = .nothing)

include hprog

/-- A lock is held as often as the tasks say. -/
theorem holders_eq (l : L) (m : Mode) :
    ((lockedRun program base data moves).state.locks l).holders m =
      ((lockedRun program base data moves).threads.map fun t =>
        (t.holding.held.count (l, m) : ℤ)).sum := by
  have hsys : ∀ k, ((locked program base).program k).Follows (ordered rank needs) .nothing
    fun q _ => q = .nothing := hprog
  have h := conservation (ordered rank needs) hsys
    (fun s => (s.locks l).holders m) (guardWeight l m)
    (fun s q w o a s' _ hperf => LockedState.read_perform (fun lock => lock.holders m)
      (fun l => guardWeight l m) (fun _ _ _ _ hchange => hchange.holders m)
      (fun _ _ _ _ _ hchange hne => hchange.guardWeight_of_ne hne m) (fun _ _ _ => rfl) hperf l)
    (.free data) moves
  have hfree : ((LockedState.free data : LockedState L σ).locks l).holders m = 0 := by
    cases m <;> rfl
  rw [h, hfree, zero_add]
  refine congrArg List.sum (List.map_congr_left fun t ht => ?_)
  exact sum_guardWeight (permits (ordered rank needs) hprog _ moves t ht) l m

/-- The queue of a lock consists of the tasks that wait for it. -/
theorem count_queue_eq (l : L) (x : ℕ × Mode) :
    (((lockedRun program base data moves).state.locks l).queue.count x : ℤ) =
      ((lockedRun program base data moves).threads.map fun t =>
        if t.holding.waiting = some (l, x) then 1 else 0).sum := by
  have hsys : ∀ k, ((locked program base).program k).Follows (ordered rank needs) .nothing
    fun q _ => q = .nothing := hprog
  have h := conservation (ordered rank needs) hsys
    (fun s => ((s.locks l).queue.count x : ℤ)) (queueWeight l x)
    (fun s q w o a s' _ hperf => LockedState.read_perform (fun lock => (lock.queue.count x : ℤ))
      (fun l => queueWeight l x) (fun _ _ _ _ hchange => hchange.count_queue x)
      (fun _ _ _ _ _ hchange hne => hchange.queueWeight_of_ne hne x) (fun _ _ _ => rfl) hperf l)
    (.free data) moves
  rw [h]
  refine (zero_add _).trans (congrArg List.sum (List.map_congr_left fun t ht => ?_))
  exact sum_queueWeight (permits (ordered rank needs) hprog _ moves t ht) l x

/-- A guard of a task counts at its lock. -/
theorem one_le_holders (ht : t ∈ (lockedRun program base data moves).threads)
    (hheld : (l, m) ∈ t.holding.held) :
    1 ≤ ((lockedRun program base data moves).state.locks l).holders m := by
  rw [holders_eq hprog]
  have hpos := List.count_pos_iff.mpr hheld
  refine le_trans (by omega) (List.single_le_sum ?_ _ (List.mem_map_of_mem ht))
  simp

/-- Where a lock is held, a task holds it. -/
theorem exists_holder (h : ((lockedRun program base data moves).state.locks l).holders m ≠ 0) :
    ∃ t ∈ (lockedRun program base data moves).threads, (l, m) ∈ t.holding.held := by
  rw [holders_eq hprog] at h
  obtain ⟨n, hn, hne⟩ := List.exists_mem_ne_zero_of_sum_ne_zero h
  obtain ⟨t, ht, rfl⟩ := List.mem_map.mp hn
  exact ⟨t, ht, List.count_pos_iff.mp (by omega)⟩

/-- A task that waits for a lock stands in its queue. -/
theorem mem_queue_of_waiting (ht : t ∈ (lockedRun program base data moves).threads)
    (hwait : t.holding.waiting = some (l, x)) :
    x ∈ ((lockedRun program base data moves).state.locks l).queue := by
  have hpos : (1 : ℤ) ≤ ((lockedRun program base data moves).state.locks l).queue.count x := by
    rw [count_queue_eq hprog]
    refine le_trans (by rw [if_pos hwait]) (List.single_le_sum ?_ _ (List.mem_map_of_mem ht))
    simp only [List.mem_map]
    rintro _ ⟨u, -, rfl⟩
    split_ifs <;> decide
  exact List.count_pos_iff.mp (by omega)

/-- Who stands in the queue of a lock waits for it. -/
theorem exists_waiting
    (h : x ∈ ((lockedRun program base data moves).state.locks l).queue) :
    ∃ t ∈ (lockedRun program base data moves).threads,
      t.holding.waiting = some (l, x) := by
  have hpos : (((lockedRun program base data moves).state.locks l).queue.count x : ℤ) ≠ 0 := by
    have := List.count_pos_iff.mpr h
    omega
  rw [count_queue_eq hprog] at hpos
  obtain ⟨n, hn, hne⟩ := List.exists_mem_ne_zero_of_sum_ne_zero hpos
  obtain ⟨t, ht, rfl⟩ := List.mem_map.mp hn
  refine ⟨t, ht, ?_⟩
  by_contra hwait
  exact hne (if_neg hwait)

/-- What a task has left is allowed where it stands. -/
theorem ordered_follows (ht : t ∈ (lockedRun program base data moves).threads) :
    t.prog.Follows (ordered rank needs) t.holding fun q _ => q = .nothing := by
  have hfollows := follows (ordered rank needs) hprog _ moves t ht
  exact hfollows

/-- A task that holds a lock for writing is the only one that holds it. -/
theorem exclusive {i j : ℕ} {u : Thread (Locked L S) κ α}
    (ht : (lockedRun program base data moves).threads[i]? = some t)
    (hu : (lockedRun program base data moves).threads[j]? = some u) (hne : i ≠ j)
    (hwrite : (l, .write) ∈ t.holding.held) : (l, m) ∉ u.holding.held := by
  intro hheld
  have hexcl : ((lockedRun program base data moves).state.locks l).Exclusive := locks_exclusive l
  have hwriter := one_le_holders hprog (List.mem_of_getElem? ht) hwrite
  have hholds := one_le_holders hprog (List.mem_of_getElem? hu) hheld
  cases m with
  | read =>
    rw [hexcl.holders_read hwriter] at hholds
    exact absurd hholds (by decide)
  | write =>
    -- Two guards would make two writers.
    have hone := RwLock.holders_write_le ((lockedRun program base data moves).state.locks l)
    obtain ⟨hlt, rfl⟩ := List.getElem?_eq_some_iff.mp ht
    have hmem := List.mem_eraseIdx_iff_getElem?.mpr ⟨j, Ne.symm hne, hu⟩
    rw [holders_eq hprog, ← ((List.getElem_cons_eraseIdx_perm hlt).map _).sum_eq, List.map_cons,
      List.sum_cons] at hone
    have hfirst := List.count_pos_iff.mpr hwrite
    have hsecond := List.count_pos_iff.mpr hheld
    have hle := List.single_le_sum
      (l := ((lockedRun program base data moves).threads.eraseIdx i).map fun t =>
        (t.holding.held.count (l, .write) : ℤ)) (by simp) _ (List.mem_map_of_mem hmem)
    omega

/-! ## No deadlock -/

/-- A task waits for a lock or holds one. -/
def Engaged (t : Thread (Locked L S) κ α) : Prop :=
  t.holding.waiting.isSome ∨ t.holding.held ≠ []

/-- The next operation of a task comes back for some choice of the environment that drops nobody. -/
def CanMove (base : ω → Handler S σ) (t : Thread (Locked L S) κ α) (s : LockedState L σ) : Prop :=
  ∃ o k w, t.prog = .act o k ∧ (LockedState.perform base (false, w) o s).isSome

/-- Where a task waits for a lock, the first of its queue takes the lock, or a task holds it. -/
theorem grant_or_holder (hqueue : x ∈ ((lockedRun program base data moves).state.locks l).queue) :
    (∃ y ∈ ((lockedRun program base data moves).state.locks l).queue,
      (((lockedRun program base data moves).state.locks l).grant y).isSome) ∨
    ∃ u ∈ (lockedRun program base data moves).threads, ∃ m, (l, m) ∈ u.holding.held := by
  generalize hlock : (lockedRun program base data moves).state.locks l = lock at hqueue ⊢
  obtain ⟨y, queue, hcons⟩ := List.exists_cons_of_ne_nil (List.ne_nil_of_mem hqueue)
  by_cases hadmits : lock.admits y.2 = true
  · exact .inl ⟨y, by simp [hcons], by simp [RwLock.grant, hcons, hadmits]⟩
  · -- A lock that does not admit the first of its queue is held.
    obtain ⟨m, hm⟩ : ∃ m, lock.holders m ≠ 0 := by
      by_contra hnone
      push Not at hnone
      have hread := hnone .read
      have hwrite := hnone .write
      simp only [RwLock.holders] at hread hwrite
      cases hy : y.2 <;> simp_all [RwLock.admits]
    rw [← hlock] at hm
    obtain ⟨u, hu, hheld⟩ := exists_holder hprog hm
    exact .inr ⟨u, hu, m, hheld⟩

/-- A task that waits for a lock goes on when the lock is granted to it. -/
theorem canMove_of_grant [Nonempty ω] (ht : t ∈ (lockedRun program base data moves).threads)
    (hwait : t.holding.waiting = some (l, x))
    (hgrant : (((lockedRun program base data moves).state.locks l).grant x).isSome) :
    CanMove base t (lockedRun program base data moves).state := by
  have hfollows := ordered_follows hprog ht
  cases hp : t.prog with
  | ret a =>
    rw [hp] at hfollows
    rw [show t.holding = .nothing from hfollows] at hwait
    cases hwait
  | act o k =>
    rw [hp] at hfollows
    obtain ⟨hallows, -⟩ := hfollows
    generalize t.holding = q at hwait hallows
    cases hallows with
    | await =>
      cases hwait
      obtain ⟨w⟩ := ‹Nonempty ω›
      refine ⟨_, k, w, hp, ?_⟩
      rw [LockedState.perform, if_neg Bool.false_ne_true, Option.isSome_map]
      exact hgrant
    | request _ => cases hwait
    | release _ => cases hwait
    | dropped => cases hwait
    | plain _ => cases hwait

/-- A task that holds a lock goes on, unless it waits for one that comes later. -/
theorem canMove_of_held [Nonempty ω]
    (hcomes : ∀ o held, held ≠ [] → needs o held → ∀ s, ∃ w, (base w o s).isSome)
    (ht : t ∈ (lockedRun program base data moves).threads) (hheld : (l, m) ∈ t.holding.held) :
    CanMove base t (lockedRun program base data moves).state ∨
      ∃ l' x, t.holding.waiting = some (l', x) ∧ rank l < rank l' := by
  have hfollows := ordered_follows hprog ht
  have hinOrder : t.holding.InOrder rank :=
    inOrder_of_permits (permits (ordered rank needs) hprog _ moves t ht)
  cases hp : t.prog with
  | ret a =>
    rw [hp] at hfollows
    rw [show t.holding = .nothing from hfollows] at hheld
    cases hheld
  | act o k =>
    rw [hp] at hfollows
    obtain ⟨hallows, -⟩ := hfollows
    have hholders := fun l' m' hmem => one_le_holders hprog ht (l := l') (m := m') hmem
    obtain ⟨w⟩ := ‹Nonempty ω›
    generalize t.holding = q at hheld hinOrder hallows hholders
    cases hallows with
    | request _ => exact .inl ⟨_, k, w, hp, rfl⟩
    | await => exact .inr ⟨_, _, rfl, hinOrder _ _ rfl _ hheld⟩
    | @release held l' m' hmem =>
      refine .inl ⟨_, k, w, hp, ?_⟩
      rw [LockedState.perform, Option.isSome_map]
      exact RwLock.isSome_leave (hholders l' m' hmem)
    | dropped => cases hheld
    | @plain held o hneeds =>
      obtain ⟨w, hw⟩ := hcomes o held (List.ne_nil_of_mem hheld) hneeds
        (lockedRun program base data moves).state.data
      refine .inl ⟨_, k, w, hp, ?_⟩
      rwa [LockedState.perform, Option.isSome_map]

/-- No deadlock: where a task waits for a lock, some task that waits for a lock or holds one can
perform its next operation. Operations that need a lock must not block otherwise. -/
theorem waiting_moves [Nonempty ω]
    (hcomes : ∀ o held, held ≠ [] → needs o held → ∀ s, ∃ w, (base w o s).isSome)
    (ht : t ∈ (lockedRun program base data moves).threads)
    (hwait : t.holding.waiting = some (l, x)) :
    ∃ u ∈ (lockedRun program base data moves).threads, Engaged u ∧
      CanMove base u (lockedRun program base data moves).state := by
  -- Look at a lock of the highest rank that a task waits for.
  let waits := (lockedRun program base data moves).threads.filterMap fun t =>
    t.holding.waiting.map Prod.fst
  have hmem : l ∈ waits := List.mem_filterMap.mpr ⟨t, ht, by rw [hwait]; rfl⟩
  obtain ⟨l', hl', hmax⟩ := waits.toFinset.exists_max_image rank ⟨l, List.mem_toFinset.mpr hmem⟩
  obtain ⟨t', ht', hmap⟩ := List.mem_filterMap.mp (List.mem_toFinset.mp hl')
  obtain ⟨⟨l', x'⟩, hwait', rfl⟩ := Option.map_eq_some_iff.mp hmap
  obtain ⟨y, hy, hgrant⟩ | ⟨u, hu, m, hheld⟩ :=
    grant_or_holder hprog (mem_queue_of_waiting hprog ht' hwait')
  · obtain ⟨u, hu, hwaits⟩ := exists_waiting hprog hy
    exact ⟨u, hu, .inl (by simp [hwaits]), canMove_of_grant hprog hu hwaits hgrant⟩
  · refine ⟨u, hu, .inr (List.ne_nil_of_mem hheld), ?_⟩
    refine (canMove_of_held hprog hcomes hu hheld).resolve_right ?_
    -- Its holder waits for no later lock, as there is none.
    rintro ⟨l₂, x₂, hwaits, hlt⟩
    have hmem₂ : l₂ ∈ waits := List.mem_filterMap.mpr ⟨u, hu, by rw [hwaits]; rfl⟩
    exact absurd (hmax l₂ (List.mem_toFinset.mpr hmem₂)) (by simpa using hlt)

end System

end Ordered

end Concurrency
