import Mathlib.Algebra.BigOperators.Group.List.Basic
import Mathlib.Data.List.Induction
import Mathlib.Tactic.Abel
import BifrostCore.Concurrency.Protocol

/-!
# Pools of interleaved tasks

A system is a family of programs over one shared state. A run is a list of moves: start one more
task, or let one task perform its next operation. Any list of moves is a run, so a statement about
all lists of moves is a statement about every number of tasks and every interleaving of their
operations.

* `System.run` — the pool a run leads to, with the trace of every task and the log of the run.
* `System.run_induction` — what holds at the start and is kept by each kind of move holds in every
  reachable pool.
* `System.follows` — tasks whose programs follow a protocol still follow it wherever they stand.
* `System.protocol_induction` — the induction over runs in which a step is known only through
  the protocol: the operation is allowed in the state the protocol has reached.
* `System.conservation` — a quantity of the shared state that every step moves by the weight of its
  event is the sum of the weights over the tasks.
-/

namespace Concurrency

variable {S : Sig} {σ κ α ω : Type}

/-- A task of a pool: what it was started as, what it has done, and what it has left to do. -/
structure Thread (S : Sig) (κ α : Type) where
  /-- What the task was started as. -/
  tag : κ
  /-- The operations it has performed. -/
  trace : Trace S
  /-- The program it has left. -/
  prog : Prog S α

/-- A pool of tasks over a shared state. -/
structure Pool (S : Sig) (σ κ α : Type) where
  /-- The shared state. -/
  state : σ
  /-- The tasks, in the order they were started. -/
  threads : List (Thread S κ α)
  /-- Every operation of the run, with the index of the task that performed it. -/
  log : List (ℕ × Event S)

/-- A family of programs over a shared state. `ω` is what the environment chooses at a step. -/
structure System (S : Sig) (σ κ α ω : Type) where
  /-- The program of a task. -/
  program : κ → Prog S α
  /-- The effect of an operation. -/
  perform : ω → Handler S σ

/-- A move of a pool. -/
inductive Move (κ ω : Type) where
  /-- Start a task. -/
  | spawn (k : κ)
  /-- The task with index `i` performs its next operation, if it has one that comes back. -/
  | step (i : ℕ) (w : ω)

namespace Thread

/-- The task after an operation. -/
def advance (t : Thread S κ α) (e : Event S) (p : Prog S α) : Thread S κ α :=
  { t with trace := t.trace ++ [e], prog := p }

@[simp] theorem advance_tag (t : Thread S κ α) (e : Event S) (p : Prog S α) :
    (t.advance e p).tag = t.tag := rfl

@[simp] theorem advance_trace (t : Thread S κ α) (e : Event S) (p : Prog S α) :
    (t.advance e p).trace = t.trace ++ [e] := rfl

/-- What a task was started as and what it has done, without what it has left. -/
def view (t : Thread S κ α) : κ × Trace S := (t.tag, t.trace)

/-- The operation the task performs next, if it has one. -/
def nextOp (t : Thread S κ α) : Option S.Op :=
  match t.prog with
  | .act o _ => some o
  | .ret _ => none

/-- The task has returned. -/
def returned (t : Thread S κ α) : Bool := t.nextOp.isNone

end Thread

namespace System

variable (sys : System S σ κ α ω)

/-- A task before its first operation. -/
def fresh (k : κ) : Thread S κ α := ⟨k, [], sys.program k⟩

/-- One move of a pool. A move of a task that does not exist, has returned, or whose operation
does not come back leaves the pool as it is. -/
def move (p : Pool S σ κ α) : Move κ ω → Pool S σ κ α
  | .spawn k => { p with threads := p.threads ++ [sys.fresh k] }
  | .step i w =>
    match p.threads[i]? with
    | none => p
    | some t =>
      match t.prog with
      | .ret _ => p
      | .act o k =>
        match sys.perform w o p.state with
        | none => p
        | some (r, s) =>
          ⟨s, p.threads.set i (t.advance ⟨o, r⟩ (k r)), p.log ++ [(i, ⟨o, r⟩)]⟩

/-- The pool a run leads to from the shared state `s`. -/
def run (s : σ) (moves : List (Move κ ω)) : Pool S σ κ α :=
  moves.foldl sys.move ⟨s, [], []⟩

@[simp] theorem run_nil (s : σ) : sys.run s [] = ⟨s, [], []⟩ := rfl

theorem run_snoc (s : σ) (moves : List (Move κ ω)) (m : Move κ ω) :
    sys.run s (moves ++ [m]) = sys.move (sys.run s moves) m := by
  simp [run]

/-- A step of a task that exists and whose next operation comes back. -/
theorem move_step_of_perform {p : Pool S σ κ α} {i : ℕ} {w : ω} {t : Thread S κ α} {o : S.Op}
    {k : S.Res o → Prog S α} {a : S.Res o} {s : σ} (hget : p.threads[i]? = some t)
    (hprog : t.prog = .act o k) (hperf : sys.perform w o p.state = some (a, s)) :
    sys.move p (.step i w) =
      ⟨s, p.threads.set i (t.advance ⟨o, a⟩ (k a)), p.log ++ [(i, ⟨o, a⟩)]⟩ := by
  simp only [move, hget, hprog, hperf]

/-- A step of a task whose next operation does not come back. -/
theorem move_step_of_none {p : Pool S σ κ α} {i : ℕ} {w : ω} {t : Thread S κ α} {o : S.Op}
    {k : S.Res o → Prog S α} (hget : p.threads[i]? = some t) (hprog : t.prog = .act o k)
    (hperf : sys.perform w o p.state = none) : sys.move p (.step i w) = p := by
  simp only [move, hget, hprog, hperf]

/-- A step of a task that does not exist, has returned, or does not come back. -/
theorem move_step_stuck {p : Pool S σ κ α} {i : ℕ} {w : ω}
    (h : ∀ t, p.threads[i]? = some t → ∀ o k, t.prog = .act o k →
      sys.perform w o p.state = none) : sys.move p (.step i w) = p := by
  cases hget : p.threads[i]? with
  | none => simp only [move, hget]
  | some t =>
    cases hprog : t.prog with
    | ret a => simp only [move, hget, hprog]
    | act o k => exact sys.move_step_of_none hget hprog (h t hget o k hprog)

/-- A step either leaves the pool as it is, or one task performs its next operation. -/
theorem move_step_cases (p : Pool S σ κ α) (i : ℕ) (w : ω) :
    sys.move p (.step i w) = p ∨
      ∃ l t r o k a s, p.threads = l ++ t :: r ∧ l.length = i ∧ t.prog = .act o k ∧
        sys.perform w o p.state = some (a, s) ∧
        sys.move p (.step i w) =
          ⟨s, l ++ t.advance ⟨o, a⟩ (k a) :: r, p.log ++ [(i, ⟨o, a⟩)]⟩ := by
  by_cases h : ∀ t, p.threads[i]? = some t → ∀ o k, t.prog = .act o k →
      sys.perform w o p.state = none
  · exact .inl (sys.move_step_stuck h)
  · push Not at h
    obtain ⟨t, hi, o, k, hp, hne⟩ := h
    obtain ⟨x, hw⟩ := Option.ne_none_iff_exists'.mp hne
    obtain ⟨hlt, ht⟩ := List.getElem?_eq_some_iff.mp hi
    have hsplit : p.threads = p.threads.take i ++ t :: p.threads.drop (i + 1) := by
      rw [← ht, List.getElem_cons_drop, List.take_append_drop]
    have hlen : (p.threads.take i).length = i := by simp; omega
    -- Only the acting task changes.
    have hset : p.threads.set i (t.advance ⟨o, x.1⟩ (k x.1)) =
        p.threads.take i ++ t.advance ⟨o, x.1⟩ (k x.1) :: p.threads.drop (i + 1) := by
      rw [List.set_eq_take_append_cons_drop, if_pos hlt]
    refine .inr ⟨_, t, _, o, k, x.1, x.2, hsplit, hlen, hp, hw, ?_⟩
    rw [sys.move_step_of_perform hi hp hw, hset]

/-- A step leaves alone what the tasks were started as. -/
theorem tags_move_step (p : Pool S σ κ α) (i : ℕ) (w : ω) :
    (sys.move p (.step i w)).threads.map Thread.tag = p.threads.map Thread.tag := by
  obtain heq | ⟨l, t, r, o, k, a, s, hth, -, -, -, heq⟩ := sys.move_step_cases p i w
  · rw [heq]
  · rw [heq, hth]
    simp

variable {sys}

/-- Induction over runs. -/
theorem run_induction {C : Pool S σ κ α → Prop} {s : σ} (h0 : C ⟨s, [], []⟩)
    (hspawn : ∀ p k, C p → C { p with threads := p.threads ++ [sys.fresh k] })
    (hstep : ∀ s l t r log w o k a s', t.prog = .act o k → sys.perform w o s = some (a, s') →
      C ⟨s, l ++ t :: r, log⟩ →
      C ⟨s', l ++ t.advance ⟨o, a⟩ (k a) :: r, log ++ [(l.length, ⟨o, a⟩)]⟩)
    (moves : List (Move κ ω)) : C (sys.run s moves) := by
  induction moves using List.reverseRecOn with
  | nil => exact h0
  | append_singleton moves m ih =>
    rw [run_snoc]
    cases m with
    | spawn k => exact hspawn _ k ih
    | step i w =>
      obtain heq | ⟨l, t, r, o, k, a, s', hth, hlen, hprog, hperf, heq⟩ :=
        sys.move_step_cases (sys.run s moves) i w
      · rwa [heq]
      · rw [heq, ← hlen]
        refine hstep _ l t r _ w o k a s' hprog hperf ?_
        rw [← hth]
        exact ih

/-- The trace of a task is a trace of its program. -/
theorem steps_of_run (s : σ) (moves : List (Move κ ω)) :
    ∀ t ∈ (sys.run s moves).threads, (sys.program t.tag).Steps t.trace t.prog := by
  refine run_induction (C := fun p => ∀ t ∈ p.threads, (sys.program t.tag).Steps t.trace t.prog)
    (by simp) ?_ ?_ moves
  · intro p k ih t ht
    obtain ht | rfl := by simpa using ht
    · exact ih t ht
    · exact .refl _
  · intro s l t r log w o k a s' hprog _ ih u hu
    -- Only the trace of the acting task has grown.
    have hin : u ∈ l ++ t :: r ∨ u = t.advance ⟨o, a⟩ (k a) := by
      simp only [List.mem_append, List.mem_cons] at hu ⊢
      tauto
    obtain hu | rfl := hin
    · exact ih u hu
    · have ht := ih t (by simp)
      rw [hprog] at ht
      exact ht.snoc a

/-- Induction over runs, in which the acting task is known to stand on a trace of its program. -/
theorem steps_induction {C : Pool S σ κ α → Prop} {s : σ} (h0 : C ⟨s, [], []⟩)
    (hspawn : ∀ p k, C p → C { p with threads := p.threads ++ [sys.fresh k] })
    (hstep : ∀ s l t r log w o k a s', t.prog = .act o k →
      (sys.program t.tag).Steps t.trace (.act o k) → sys.perform w o s = some (a, s') →
      C ⟨s, l ++ t :: r, log⟩ →
      C ⟨s', l ++ t.advance ⟨o, a⟩ (k a) :: r, log ++ [(l.length, ⟨o, a⟩)]⟩)
    (moves : List (Move κ ω)) : C (sys.run s moves) := by
  induction moves using List.reverseRecOn with
  | nil => exact h0
  | append_singleton moves m ih =>
    have hsteps := sys.steps_of_run s moves
    rw [run_snoc]
    cases m with
    | spawn k => exact hspawn _ k ih
    | step i w =>
      obtain heq | ⟨l, t, r, o, k, a, s', hth, hlen, hprog, hperf, heq⟩ :=
        sys.move_step_cases (sys.run s moves) i w
      · rwa [heq]
      · rw [heq, ← hlen]
        have ht := hsteps t (by simp [hth])
        rw [hprog] at ht
        refine hstep _ l t r _ w o k a s' hprog ht hperf ?_
        rw [← hth]
        exact ih

/-- A longer run has at least as many tasks. -/
theorem length_threads_le (s : σ) {moves moves' : List (Move κ ω)} (h : moves' <+: moves) :
    (sys.run s moves').threads.length ≤ (sys.run s moves).threads.length := by
  obtain ⟨more, rfl⟩ := h
  induction more using List.reverseRecOn with
  | nil => simp
  | append_singleton more m ih =>
    refine ih.trans ?_
    rw [← List.append_assoc, run_snoc]
    cases m with
    | spawn k => simp [move]
    | step i w =>
      obtain heq | ⟨l, t, r, o, k, a, s', hth, -, -, -, heq⟩ :=
        sys.move_step_cases (sys.run s (moves' ++ more)) i w
      · rw [heq]
      · simp [heq, hth]

/-- Every entry of the log was performed in a pool the run went through. -/
theorem log_origin (s : σ) (moves : List (Move κ ω)) {before after : List (ℕ × Event S)} {i : ℕ}
    {e : Event S} (h : (sys.run s moves).log = before ++ (i, e) :: after) :
    ∃ moves' w t k s', moves' <+: moves ∧ (sys.run s moves').log = before ∧
      (sys.run s moves').threads[i]? = some t ∧ t.prog = .act e.op k ∧
      sys.perform w e.op (sys.run s moves').state = some (e.res, s') := by
  induction moves using List.reverseRecOn generalizing after with
  | nil => simp at h
  | append_singleton moves m ih =>
    -- Either the entry is already there before the last move, or the last move wrote it.
    rw [run_snoc] at h
    cases m with
    | spawn k =>
      obtain ⟨moves', w, t, k', s', hpre, hrest⟩ := ih h
      exact ⟨moves', w, t, k', s', hpre.trans (List.prefix_append _ _), hrest⟩
    | step j w =>
      obtain heq | ⟨l, t, r, o, k, a, s', hth, hlen, hprog, hperf, heq⟩ :=
        sys.move_step_cases (sys.run s moves) j w
      · rw [heq] at h
        obtain ⟨moves', w, t, k', s', hpre, hrest⟩ := ih h
        exact ⟨moves', w, t, k', s', hpre.trans (List.prefix_append _ _), hrest⟩
      · rw [heq] at h
        rcases List.eq_nil_or_concat after with rfl | ⟨after', x, rfl⟩
        · -- The last move wrote the entry, so its pool is the one to be found.
          obtain ⟨hlog, hlast⟩ := List.append_inj' h rfl
          obtain ⟨rfl, rfl⟩ : j = i ∧ ⟨o, a⟩ = e := by simpa using hlast
          refine ⟨moves, w, t, k, s', List.prefix_append _ _, hlog, ?_, hprog, hperf⟩
          rw [hth, ← hlen]
          simp
        · rw [List.concat_eq_append, ← List.cons_append, ← List.append_assoc] at h
          obtain ⟨moves', w, t, k', s', hpre, hrest⟩ := ih (List.append_inj' h rfl).1
          exact ⟨moves', w, t, k', s', hpre.trans (List.prefix_append _ _), hrest⟩

section Protocol

variable (P : Protocol S) {start : κ → P.State} {post : κ → P.State → α → Prop}
  (hprog : ∀ k, (sys.program k).Follows P (start k) (post k))

include hprog

/-- In every reachable pool, what a task has left follows the protocol from the state the
protocol has reached on the task's trace. -/
theorem follows (s : σ) (moves : List (Move κ ω)) :
    ∀ t ∈ (sys.run s moves).threads,
      t.prog.Follows P (P.after (start t.tag) t.trace) (post t.tag) :=
  fun t ht => (hprog t.tag).steps (steps_of_run s moves t ht)

/-- In every reachable pool, every operation of a task's trace was allowed. -/
theorem permits (s : σ) (moves : List (Move κ ω)) :
    ∀ t ∈ (sys.run s moves).threads, P.Permits (start t.tag) t.trace :=
  fun t ht => (hprog t.tag).permits (steps_of_run s moves t ht)

/-- Induction over runs, in terms of what the tasks were started as and what they have done: the
operations of the acting task, and the next one, are those the protocol allows. -/
theorem protocol_induction {C : σ → List (κ × Trace S) → List (ℕ × Event S) → Prop} {s : σ}
    (h0 : C s [] [])
    (hspawn : ∀ s vs log k, C s vs log → C s (vs ++ [(k, [])]) log)
    (hstep : ∀ s l k tr r log w o a s', P.Permits (start k) tr → P.Allows (P.after (start k) tr) o →
      sys.perform w o s = some (a, s') → C s (l ++ (k, tr) :: r) log →
      C s' (l ++ (k, tr ++ [⟨o, a⟩]) :: r) (log ++ [(l.length, ⟨o, a⟩)]))
    (moves : List (Move κ ω)) :
    C (sys.run s moves).state ((sys.run s moves).threads.map Thread.view)
      (sys.run s moves).log := by
  refine steps_induction (C := fun p => C p.state (p.threads.map Thread.view) p.log) h0 ?_ ?_ moves
  · intro p k ih
    simpa [Thread.view, fresh] using hspawn _ _ _ k ih
  · intro s l t r log w o k a s' _ ht hperf ih
    have hpermits := (hprog t.tag).permits ht
    have hallows := ((hprog t.tag).steps ht).1
    have := hstep s (l.map Thread.view) t.tag t.trace (r.map Thread.view) log w o a s'
      hpermits hallows hperf (by simpa [Thread.view] using ih)
    simpa [Thread.view, Thread.advance] using this

/-- If every step moves the quantity `read` of the shared state by the weight of its event, then
`read` is its initial value plus the weights of all the events of all the tasks. -/
theorem conservation {G : Type} [AddCommMonoid G] (read : σ → G) (weight : Event S → G)
    (hstep : ∀ s q w o a s', P.Allows q o → sys.perform w o s = some (a, s') →
      read s' = read s + weight ⟨o, a⟩) (s : σ) (moves : List (Move κ ω)) :
    read (sys.run s moves).state =
      read s + ((sys.run s moves).threads.map fun t => (t.trace.map weight).sum).sum := by
  have h := protocol_induction P hprog (s := s)
    (C := fun s' vs _ => read s' = read s + (vs.map fun v => (v.2.map weight).sum).sum)
    (by simp) (fun s' vs log k ih => by simpa using ih)
    (fun s₁ l k tr r log w o a s₂ _ hall hperf ih => by
      rw [hstep _ _ w o a s₂ hall hperf, ih]
      simp only [List.map_append, List.map_cons, List.map_nil, List.sum_append, List.sum_cons,
        List.sum_nil]
      abel) moves
  simpa [Thread.view, Function.comp_def] using h

end Protocol

end System

end Concurrency
