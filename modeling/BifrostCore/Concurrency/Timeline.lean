import BifrostCore.Concurrency.Pool

/-!
# Looking back at a run

What a run leaves behind: the log of its operations, the traces of the tasks, and, with the choices
of the environment, its timeline. All of them only grow.

* `System.trace_eq`, `System.mem_log_iff`, `System.log_split` — the log consists of the traces of
  the tasks.
* `System.thread_mono` — a task keeps what it has done.
* `System.timeline` — the operations of a run with the choices they were performed under, which are
  the entries of the log (`System.map_timeline`).
-/

namespace Concurrency

variable {S : Sig} {σ κ α ω : Type}

namespace System

/-- The tasks after one of them was replaced. -/
theorem getElem?_replace {β : Type} (l r : List β) (x y : β) (i : ℕ) :
    (l ++ y :: r)[i]? = if i = l.length then some y else (l ++ x :: r)[i]? := by
  have hset : l ++ y :: r = (l ++ x :: r).set l.length y := by simp
  rw [hset, List.getElem?_set]
  by_cases h : l.length = i
  · subst h
    simp
  · rw [if_neg h, if_neg (Ne.symm h)]

variable {sys : System S σ κ α ω}

/-- The part of the log one task has written. -/
def logOf (i : ℕ) (log : List (ℕ × Event S)) : Trace S :=
  log.filterMap fun x => if x.1 = i then some x.2 else none

theorem mem_logOf {i : ℕ} {log : List (ℕ × Event S)} {e : Event S} :
    e ∈ logOf i log ↔ (i, e) ∈ log := by
  simp [logOf]

/-- The trace of a task is its part of the log, which is empty before the task is started. -/
theorem trace_eq_logOf (s : σ) (moves : List (Move κ ω)) (i : ℕ) :
    (sys.run s moves).threads[i]?.elim [] Thread.trace = logOf i (sys.run s moves).log := by
  refine run_induction (C := fun p => p.threads[i]?.elim [] Thread.trace = logOf i p.log) rfl ?_ ?_
    moves
  · intro p k ih
    rw [← ih]
    -- An old task, the new one, or one that does not exist yet.
    rcases Nat.lt_trichotomy i p.threads.length with hlt | rfl | hgt
    · rw [List.getElem?_append_left hlt]
    · simp [fresh]
    · simp [List.getElem?_eq_none (Nat.le_of_lt hgt), List.getElem?_append_right (Nat.le_of_lt hgt),
        Nat.sub_ne_zero_of_lt hgt]
  · intro s l t r log w o k a s' _ _ ih
    rw [getElem?_replace l r t (t.advance ⟨o, a⟩ (k a)), logOf, List.filterMap_append, ← logOf,
      ← ih]
    by_cases hi : i = l.length
    · simp [hi]
    · simp [hi, Ne.symm hi]

theorem trace_eq {s : σ} {moves : List (Move κ ω)} {i : ℕ} {t : Thread S κ α}
    (ht : (sys.run s moves).threads[i]? = some t) : t.trace = logOf i (sys.run s moves).log := by
  rw [← trace_eq_logOf, ht]
  rfl

/-- The log consists of the traces of the tasks. -/
theorem mem_log_iff (s : σ) (moves : List (Move κ ω)) (i : ℕ) (e : Event S) :
    (i, e) ∈ (sys.run s moves).log ↔
      ∃ t, (sys.run s moves).threads[i]? = some t ∧ e ∈ t.trace := by
  rw [← mem_logOf, ← trace_eq_logOf]
  cases (sys.run s moves).threads[i]? <;> simp

/-- Where a task has done one thing after another, so has the run. -/
theorem log_split {s : σ} {moves : List (Move κ ω)} {i : ℕ} {t : Thread S κ α}
    (ht : (sys.run s moves).threads[i]? = some t) {tr tr' : Trace S} {e : Event S}
    (h : t.trace = tr ++ e :: tr') :
    ∃ before after, (sys.run s moves).log = before ++ (i, e) :: after ∧ logOf i before = tr ∧
      logOf i after = tr' := by
  rw [trace_eq ht, logOf, List.filterMap_eq_append_iff] at h
  obtain ⟨before, rest, hlog, hbefore, hrest⟩ := h
  obtain ⟨skipped, x, after, rfl, hskipped, hx, hafter⟩ := List.filterMap_eq_cons_iff.mp hrest
  obtain ⟨rfl, rfl⟩ : x.1 = i ∧ x.2 = e := by
    split at hx
    · next hi => exact ⟨hi, Option.some.inj hx⟩
    · cases hx
  -- What lies between the two parts was written by other tasks.
  refine ⟨before ++ skipped, after, by simp [hlog], ?_, hafter⟩
  rw [logOf, List.filterMap_append, hbefore, List.filterMap_eq_nil_iff.mpr hskipped,
    List.append_nil]

/-- What a task was started as does not change, and what it has done only grows. -/
theorem thread_mono (s : σ) {moves moves' : List (Move κ ω)} (h : moves' <+: moves) {i : ℕ}
    {t : Thread S κ α} (ht : (sys.run s moves').threads[i]? = some t) :
    ∃ t', (sys.run s moves).threads[i]? = some t' ∧ t'.tag = t.tag ∧ t.trace <+: t'.trace := by
  obtain ⟨more, rfl⟩ := h
  induction more using List.reverseRecOn with
  | nil => exact ⟨t, by simpa using ht, rfl, List.prefix_rfl⟩
  | append_singleton more m ih =>
    obtain ⟨u, hu, htag, htrace⟩ := ih
    rw [← List.append_assoc, run_snoc]
    cases m with
    | spawn k =>
      refine ⟨u, ?_, htag, htrace⟩
      show ((sys.run s (moves' ++ more)).threads ++ [sys.fresh k])[i]? = some u
      rw [List.getElem?_append_left (List.getElem?_eq_some_iff.mp hu).1, hu]
    | step j w =>
      obtain heq | ⟨l, v, r, o, k, a, s', hth, -, -, -, heq⟩ :=
        sys.move_step_cases (sys.run s (moves' ++ more)) j w
      · rw [heq]
        exact ⟨u, hu, htag, htrace⟩
      · rw [heq]
        by_cases hi : i = l.length
        · -- The acting task has one more operation in its trace.
          obtain rfl : v = u := by
            rw [hth, hi] at hu
            simpa using hu
          refine ⟨v.advance ⟨o, a⟩ (k a), ?_, htag, htrace.trans (List.prefix_append _ _)⟩
          rw [getElem?_replace l r v, if_pos hi]
        · refine ⟨u, ?_, htag, htrace⟩
          rw [getElem?_replace l r v, if_neg hi, ← hth, hu]

/-! ## Timelines -/

section Timeline

variable (sys)

/-- The operation a move performs, with the task and the choice of the environment. -/
def happening (p : Pool S σ κ α) : Move κ ω → Option (ℕ × ω × Event S)
  | .spawn _ => none
  | .step i w =>
    p.threads[i]?.bind fun t => t.nextOp.bind fun o =>
      (sys.perform w o p.state).map fun x => (i, w, ⟨o, x.1⟩)

/-- The operations of a run that starts in a pool. -/
def timelineFrom (p : Pool S σ κ α) : List (Move κ ω) → List (ℕ × ω × Event S)
  | [] => []
  | m :: moves => (sys.happening p m).toList ++ timelineFrom (sys.move p m) moves

/-- The operations of a run, with the tasks and the choices of the environment. -/
def timeline (s : σ) (moves : List (Move κ ω)) : List (ℕ × ω × Event S) :=
  sys.timelineFrom ⟨s, [], []⟩ moves

variable {sys}

/-- A move logs the operation it performs. -/
theorem log_move (p : Pool S σ κ α) (m : Move κ ω) :
    (sys.move p m).log = p.log ++ (sys.happening p m).toList.map fun x => (x.1, x.2.2) := by
  cases m with
  | spawn k => simp [move, happening]
  | step i w =>
    cases hget : p.threads[i]? with
    | none => simp [move, happening, hget]
    | some t =>
      cases hprog : t.prog with
      | ret a => simp [move, happening, hget, hprog, Thread.nextOp]
      | act o k =>
        cases hp : sys.perform w o p.state <;>
          simp [move, happening, hget, hprog, hp, Thread.nextOp]

/-- An operation of a run was performed under its choice. -/
theorem perform_of_happening {p : Pool S σ κ α} {m : Move κ ω} {x : ℕ × ω × Event S}
    (h : sys.happening p m = some x) :
    ∃ s s', sys.perform x.2.1 x.2.2.op s = some (x.2.2.res, s') := by
  cases m with
  | spawn k => cases h
  | step i w =>
    obtain ⟨t, -, ht⟩ := Option.bind_eq_some_iff.mp h
    obtain ⟨o, -, ho⟩ := Option.bind_eq_some_iff.mp ht
    obtain ⟨⟨a, s'⟩, hp, rfl⟩ := Option.map_eq_some_iff.mp ho
    exact ⟨p.state, s', hp⟩

/-- Without the choices, the timeline is the log. -/
theorem map_timeline (s : σ) (moves : List (Move κ ω)) :
    (sys.timeline s moves).map (fun x => (x.1, x.2.2)) = (sys.run s moves).log := by
  -- The timeline is made from the first move on, so the induction is over runs from any pool.
  suffices h : ∀ p : Pool S σ κ α, (moves.foldl sys.move p).log =
      p.log ++ (sys.timelineFrom p moves).map fun x => (x.1, x.2.2) by
    rw [run, h, timeline]
    rfl
  induction moves with
  | nil => simp [timelineFrom]
  | cons m moves ih =>
    intro p
    rw [List.foldl_cons, ih, log_move, timelineFrom, List.map_append, List.append_assoc]

/-- What has happened first in the log has happened first in the timeline. -/
theorem timeline_pairwise {s : σ} {moves : List (Move κ ω)} {before after : List (ℕ × Event S)}
    (h : (sys.run s moves).log = before ++ after) {x y : ℕ × Event S} (hx : x ∈ before)
    (hy : y ∈ after) {r : ℕ × ω × Event S → ℕ × ω × Event S → Prop}
    (hr : (sys.timeline s moves).Pairwise r) :
    ∃ w w', (x.1, w, x.2) ∈ sys.timeline s moves ∧ (y.1, w', y.2) ∈ sys.timeline s moves ∧
      r (x.1, w, x.2) (y.1, w', y.2) := by
  rw [← map_timeline, List.map_eq_append_iff] at h
  obtain ⟨before', after', heq, rfl, rfl⟩ := h
  obtain ⟨x', hx', rfl⟩ := List.mem_map.mp hx
  obtain ⟨y', hy', rfl⟩ := List.mem_map.mp hy
  rw [heq] at hr ⊢
  exact ⟨x'.2.1, y'.2.1, List.mem_append_left _ hx', List.mem_append_right _ hy',
    (List.pairwise_append.mp hr).2.2 x' hx' y' hy'⟩

theorem perform_of_timeline (s : σ) (moves : List (Move κ ω)) : ∀ x ∈ sys.timeline s moves,
    ∃ s' s'', sys.perform x.2.1 x.2.2.op s' = some (x.2.2.res, s'') := by
  suffices h : ∀ p : Pool S σ κ α, ∀ x ∈ sys.timelineFrom p moves,
      ∃ s' s'', sys.perform x.2.1 x.2.2.op s' = some (x.2.2.res, s'') from h _
  induction moves with
  | nil => simp [timelineFrom]
  | cons m moves ih =>
    intro p x hx
    rcases List.mem_append.mp hx with hx | hx
    · exact perform_of_happening (Option.mem_toList.mp hx)
    · exact ih _ x hx

end Timeline

end System

end Concurrency
