import Mathlib.Logic.Function.Basic
import BifrostCore.Concurrency.Timeline

/-!
# Maps that tasks share

A map in the shared state that tasks read and write entry by entry, as a cache is. Nothing is known
of an entry but that some task has written it, so what is to be said about entries is said about the
tasks that write them.

* `SharedMap` — a map in the shared state, with the writes of the operations.
* `SharedMap.exists_write` — an entry was written by an operation of the run.
* `SharedMap.write_of_ne` — an entry that a step changes was written by the task that took it.
-/

namespace Concurrency

variable {S : Sig} {σ κ α ω : Type}

/-- A map in the state a system shares. -/
structure SharedMap (sys : System S σ κ α ω) (K V : Type) [DecidableEq K] where
  /-- The map. -/
  read : σ → K → Option V
  /-- The entry an operation writes. -/
  write : S.Op → Option (K × V)
  /-- An operation writes its entry, and nothing else. -/
  read_perform : ∀ w o s a s', sys.perform w o s = some (a, s') →
    read s' = (write o).elim (read s) fun x => Function.update (read s) x.1 (some x.2)

namespace SharedMap

variable {sys : System S σ κ α ω} {K V : Type} [DecidableEq K] (m : SharedMap sys K V)

/-- An entry after an operation: the one before, or the one written. -/
theorem read_cases {w : ω} {o : S.Op} {s s' : σ} {a : S.Res o}
    (hp : sys.perform w o s = some (a, s')) (k : K) :
    m.read s' k = m.read s k ∨ ∃ v, m.write o = some (k, v) ∧ m.read s' k = some v := by
  rw [m.read_perform w o s a s' hp]
  cases hwrite : m.write o with
  | none => exact .inl rfl
  | some x =>
    obtain ⟨k', v⟩ := x
    by_cases hk : k = k'
    · subst hk
      exact .inr ⟨v, rfl, by simp⟩
    · exact .inl (by simp [hk])

/-- An entry of a map that was empty at the start was written in the run. -/
theorem exists_write {s : σ} {k : K} (hempty : m.read s k = none) (moves : List (Move κ ω)) {v : V}
    (h : m.read (sys.run s moves).state k = some v) :
    ∃ i e, (i, e) ∈ (sys.run s moves).log ∧ m.write e.op = some (k, v) := by
  revert v
  refine System.run_induction (C := fun p => ∀ {v}, m.read p.state k = some v →
    ∃ i e, (i, e) ∈ p.log ∧ m.write e.op = some (k, v)) (fun hv => ?_) (fun _ _ ih => ih) ?_ moves
  · rw [hempty] at hv
    cases hv
  · intro s l t r log w o k' a s' _ hp ih v hv
    rcases m.read_cases hp k with hsame | ⟨v', hwrite, hv'⟩
    · obtain ⟨i, e, hmem, he⟩ := ih (hsame.symm.trans hv)
      exact ⟨i, e, List.mem_append_left _ hmem, he⟩
    · obtain rfl : v' = v := Option.some.inj (hv'.symm.trans hv)
      exact ⟨l.length, ⟨o, a⟩, by simp, hwrite⟩

/-- Where a step of a run changes an entry, the task that took it has written the entry. -/
theorem write_of_ne {s : σ} {moves moves' : List (Move κ ω)} {i : ℕ} {w : ω}
    (h : moves' ++ [.step i w] <+: moves) {t : Thread S κ α}
    (ht : (sys.run s moves).threads[i]? = some t) {k : K}
    (hne : m.read (sys.run s (moves' ++ [.step i w])).state k ≠ m.read (sys.run s moves').state k) :
    ∃ e ∈ t.trace, ∃ v, m.write e.op = some (k, v) := by
  obtain heq | ⟨l, u, r, o, k', a, s', hth, hlen, -, hp, heq⟩ :=
    sys.move_step_cases (sys.run s moves') i w
  · rw [System.run_snoc, heq] at hne
    exact absurd rfl hne
  · have hnew : (sys.run s (moves' ++ [.step i w])).threads[i]? =
        some (u.advance ⟨o, a⟩ (k' a)) := by
      rw [System.run_snoc, heq, ← hlen]
      simp
    -- The task has the operation in its trace, and still has it at the end.
    obtain ⟨t', ht', -, htrace⟩ := System.thread_mono s h hnew
    obtain rfl : t = t' := Option.some.inj (ht.symm.trans ht')
    rw [System.run_snoc, heq] at hne
    rcases m.read_cases hp k with hsame | ⟨v, hwrite, -⟩
    · exact absurd hsame hne
    · exact ⟨⟨o, a⟩, htrace.subset (by simp), v, hwrite⟩

end SharedMap

end Concurrency
