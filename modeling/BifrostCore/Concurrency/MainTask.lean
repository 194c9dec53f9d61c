import BifrostCore.Concurrency.Pool

/-!
# One task among bystanders

Systems in which at most one task of a kind is started, and all other tasks perform operations that
need not be told apart. What a run does is then known from the shared state and the protocol state
of that one task.

* `Thread.midway` — a task that is neither before its first operation, nor at its end, nor pausing.
* `Thread.at_rest` — a task that is not midway stands in a resting state of its protocol.
* `MainAt` — where the main task stands in its protocol.
* `System.main_induction` — the induction over runs with one main task.
* `System.sum_log` — what the operations of a run add up to, task by task.
-/

namespace Concurrency

variable {S : Sig} {σ κ α ω : Type}

namespace Thread

/-- The task has begun to work and has neither ended nor come to a pause. -/
def midway (pause : S.Op → Bool) (t : Thread S κ α) : Bool :=
  (t.trace.getLast?.any fun e => ! pause e.op) && t.nextOp.any fun o => ! pause o

variable {P : Protocol S} {pause : S.Op → Bool} {q₀ : P.State} {t : Thread S κ α}

/-- Where tasks pause in resting states only, and start and end in them, a task that is not midway
is in one. -/
theorem at_rest (Rest : P.State → Prop) (h0 : Rest q₀)
    (hpause : ∀ q o, pause o = true → P.Allows q o → Rest q ∧ ∀ r, P.next q o r = q)
    (hpermits : P.Permits q₀ t.trace)
    (hfollows : t.prog.Follows P (P.after q₀ t.trace) fun q _ => Rest q)
    (hmidway : t.midway pause = false) : Rest (P.after q₀ t.trace) := by
  rcases Bool.and_eq_false_iff.mp hmidway with hlast | hnext
  · -- The last operation was a pause, or there was none.
    rcases List.eq_nil_or_concat t.trace with hnil | ⟨tr, e, hconcat⟩
    · rw [hnil]
      exact h0
    · rw [List.concat_eq_append] at hconcat
      rw [hconcat, List.getLast?_concat] at hlast
      rw [hconcat] at hpermits ⊢
      obtain ⟨hrest, hnext⟩ := hpause _ e.op (by simpa using hlast) hpermits.allows_last
      rwa [Protocol.after_snoc, hnext]
  · -- The next operation is a pause, or there is none.
    cases hprog : t.prog with
    | ret a =>
      rw [hprog] at hfollows
      exact hfollows
    | act o k =>
      rw [hprog] at hfollows
      rw [nextOp, hprog] at hnext
      exact (hpause _ o (by simpa using hnext) hfollows.1).1

end Thread

/-- Where the main task among some tasks stands. -/
structure MainAt (P : Protocol S) (q₀ : P.State) (main : κ → Bool) (threads : List (Thread S κ α))
    (q : P.State) : Prop where
  /-- A main task stands at `q`. -/
  stands : ∀ t ∈ threads, main t.tag = true → P.after q₀ t.trace = q
  /-- Without one, `q` is the start. -/
  absent : (∀ t ∈ threads, main t.tag = false) → q = q₀

namespace MainAt

variable {P : Protocol S} {q₀ q : P.State} {main : κ → Bool} {l r : List (Thread S κ α)}
  {t : Thread S κ α}

theorem nil : MainAt P q₀ main ([] : List (Thread S κ α)) q₀ := ⟨by simp, fun _ => rfl⟩

/-- Next to a main task there is no other one. -/
theorem lone (ht : main t.tag = true)
    (hone : ((l ++ t :: r).countP fun t => main t.tag) ≤ 1) : ∀ u ∈ l ++ r, main u.tag = false := by
  intro u hu
  rw [List.perm_middle.countP_eq, List.countP_cons, if_pos ht] at hone
  have hzero := List.countP_eq_zero.mp (Nat.le_zero.mp (Nat.le_of_succ_le_succ hone)) u hu
  simpa using hzero

/-- A task is started. -/
theorem start (h : MainAt P q₀ main l q) (ht : t.trace = [])
    (hone : ((l ++ [t]).countP fun t => main t.tag) ≤ 1) : MainAt P q₀ main (l ++ [t]) q := by
  refine ⟨fun u hu hmain => ?_, fun hall => h.absent fun u hu => hall u (by simp [hu])⟩
  obtain hu | rfl := by simpa using hu
  · exact h.stands u hu hmain
  · -- It is a main task, so there was none before.
    have hnone := lone hmain hone
    rw [List.append_nil] at hnone
    rw [ht, h.absent hnone]
    rfl

/-- The main task performs an operation. -/
theorem step (h : MainAt P q₀ main (l ++ t :: r) q) (ht : main t.tag = true)
    (hone : ((l ++ t :: r).countP fun t => main t.tag) ≤ 1) (e : Event S) (p : Prog S α) :
    MainAt P q₀ main (l ++ t.advance e p :: r) (P.next q e.op e.res) := by
  refine ⟨fun u hu hmain => ?_, fun hall => ?_⟩
  · obtain rfl | hu := List.mem_cons.mp (List.perm_middle.mem_iff.mp hu)
    · rw [Thread.advance_trace, Protocol.after_snoc, h.stands t (by simp) ht]
    · rw [lone ht hone u hu] at hmain
      cases hmain
  · have hfalse := hall (t.advance e p) (by simp)
    rw [Thread.advance_tag, ht] at hfalse
    cases hfalse

/-- Another task performs an operation. -/
theorem pass (h : MainAt P q₀ main (l ++ t :: r) q) (ht : main t.tag = false) (e : Event S)
    (p : Prog S α) : MainAt P q₀ main (l ++ t.advance e p :: r) q := by
  refine ⟨fun u hu hmain => ?_, fun hall => h.absent fun u hu => ?_⟩
  · obtain rfl | hu := List.mem_cons.mp (List.perm_middle.mem_iff.mp hu)
    · rw [Thread.advance_tag, ht] at hmain
      cases hmain
    · exact h.stands u (List.perm_middle.mem_iff.mpr (List.mem_cons_of_mem _ hu)) hmain
  · obtain rfl | hu := List.mem_cons.mp (List.perm_middle.mem_iff.mp hu)
    · exact ht
    · exact hall u (List.perm_middle.mem_iff.mpr (List.mem_cons_of_mem _ hu))

end MainAt

namespace System

variable {sys : System S σ κ α ω}

/-- Every program is started in one of two roles: a main task follows the protocol `P` from `q₀`,
any other task performs `good` operations only. What holds at the start, and is kept by the
operations of the main task and by those of the others, holds in every reachable pool with at most
one main task. -/
theorem main_induction {P : Protocol S} {q₀ : P.State} {post : P.State → α → Prop}
    {main : κ → Bool} {good : S.Op → Prop}
    (hmain : ∀ k, main k = true → (sys.program k).Follows P q₀ post)
    (hother : ∀ k, main k = false → (sys.program k).Only good fun _ => True)
    {C : σ → P.State → List (ℕ × Event S) → Prop} {s : σ} (h0 : C s q₀ [])
    (hstep : ∀ s q log i w o a s', P.Allows q o → sys.perform w o s = some (a, s') →
      C s q log → C s' (P.next q o a) (log ++ [(i, ⟨o, a⟩)]))
    (hpass : ∀ s q log i w o a s', good o → sys.perform w o s = some (a, s') →
      C s q log → C s' q (log ++ [(i, ⟨o, a⟩)])) (moves : List (Move κ ω))
    (hone : ((sys.run s moves).threads.countP fun t => main t.tag) ≤ 1) :
    ∃ q, C (sys.run s moves).state q (sys.run s moves).log ∧
      MainAt P q₀ main (sys.run s moves).threads q := by
  revert hone
  refine steps_induction (C := fun p => (p.threads.countP fun t => main t.tag) ≤ 1 →
    ∃ q, C p.state q p.log ∧ MainAt P q₀ main p.threads q) ?_ ?_ ?_ moves
  · exact fun _ => ⟨q₀, h0, .nil⟩
  · intro p k ih hone
    have hbefore : (p.threads.countP fun t => main t.tag) ≤ 1 := by
      rw [List.countP_append] at hone
      exact Nat.le_of_add_right_le hone
    obtain ⟨q, hC, hq⟩ := ih hbefore
    exact ⟨q, hC, hq.start rfl hone⟩
  · intro s l t r log w o k a s' _ ht hperf ih hone
    -- An operation starts no task.
    have hbefore : ((l ++ t :: r).countP fun t => main t.tag) ≤ 1 := by
      rw [List.perm_middle.countP_eq] at hone ⊢
      exact hone
    obtain ⟨q, hC, hq⟩ := ih hbefore
    cases hrole : main t.tag with
    | true =>
      have hallows := ((hmain t.tag hrole).steps ht).1
      rw [hq.stands t (by simp) hrole] at hallows
      exact ⟨_, hstep _ _ _ _ _ _ _ _ hallows hperf hC, hq.step hrole hbefore ⟨o, a⟩ (k a)⟩
    | false =>
      have hgood := (((hother t.tag hrole).steps ht).2).1
      exact ⟨q, hpass _ _ _ _ _ _ _ _ hgood hperf hC, hq.pass hrole ⟨o, a⟩ (k a)⟩

/-- What the events of a run add up to, task by task. -/
theorem sum_log {G : Type} [AddCommMonoid G] (weight : Event S → G) (s : σ)
    (moves : List (Move κ ω)) :
    ((sys.run s moves).log.map fun entry => weight entry.2).sum =
      ((sys.run s moves).threads.map fun t => (t.trace.map weight).sum).sum := by
  refine run_induction (C := fun p => (p.log.map fun entry => weight entry.2).sum =
    (p.threads.map fun t => (t.trace.map weight).sum).sum) rfl ?_ ?_ moves
  · intro p k ih
    simpa [fresh] using ih
  · intro s l t r log w o k a s' _ _ ih
    simp only [List.map_append, List.map_cons, List.map_nil, List.sum_append, List.sum_cons,
      List.sum_nil, Thread.advance_trace] at ih ⊢
    rw [ih]
    abel

end System

end Concurrency
