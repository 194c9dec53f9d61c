import Mathlib.Data.List.Forall2
import Mathlib.Data.Option.Basic
import BifrostCore.Concurrency.Pool

/-!
# Two runs side by side

A coupling relates the operations of two runs and the answers they get. Two programs are coupled
if, as long as their operations are answered in a related way, they perform related operations and
return related values. Coupled systems stay coupled: two runs with related moves lead to related
shared states and to tasks that are coupled one by one.

* `Prog.Coupled` — coupled programs, with the rules for sequencing and embedding.
* `Prog.Only.coupled_self` — a program is coupled with itself if related answers to its operations
  are equal.
* `System.run_coupled` — coupled runs lead to coupled pools.
-/

namespace List

variable {α β : Type} {R : α → β → Prop} {l : List α} {l' : List β}

/-- Entries at the same place of related lists are related. -/
theorem Forall₂.exists_getElem? (h : Forall₂ R l l') {i : ℕ} {a : α} (ha : l[i]? = some a) :
    ∃ b, l'[i]? = some b ∧ R a b := by
  induction h generalizing i with
  | nil => cases ha
  | @cons x y l l' hxy _ ih =>
    cases i with
    | zero =>
      obtain rfl : x = a := Option.some.inj ha
      exact ⟨y, rfl, hxy⟩
    | succ i => exact ih ha

/-- Related lists stay related when related entries are put at the same place. -/
theorem Forall₂.set (h : Forall₂ R l l') (i : ℕ) {a : α} {b : β} (hab : R a b) :
    Forall₂ R (l.set i a) (l'.set i b) := by
  induction h generalizing i with
  | nil => exact .nil
  | cons hxy hrest ih =>
    cases i with
    | zero => exact .cons hab hrest
    | succ i => exact .cons hxy (ih i)

end List

namespace Concurrency

/-- A relation between operations, and one between their answers. -/
structure Coupling (S : Sig) where
  /-- Related operations. -/
  Op : S.Op → S.Op → Prop
  /-- Related answers. -/
  Res : ∀ o o', S.Res o → S.Res o' → Prop

namespace Prog

variable {S T : Sig} {α β γ δ : Type} {R : Coupling S}

/-- Asked step by step, `p` and `p'` perform related operations, as long as the answers are
related, and return values related by `post`. -/
def Coupled (R : Coupling S) (post : α → β → Prop) : Prog S α → Prog S β → Prop
  | .ret a, .ret b => post a b
  | .act o k, .act o' k' => R.Op o o' ∧ ∀ r r', R.Res o o' r r' → Coupled R post (k r) (k' r')
  | _, _ => False

@[simp] theorem coupled_ret {post : α → β → Prop} (a : α) (b : β) :
    Coupled R post (.ret a) (.ret b) ↔ post a b := Iff.rfl

@[simp] theorem coupled_act {post : α → β → Prop} (o o' : S.Op) (k : S.Res o → Prog S α)
    (k' : S.Res o' → Prog S β) :
    Coupled R post (.act o k) (.act o' k') ↔
      R.Op o o' ∧ ∀ r r', R.Res o o' r r' → Coupled R post (k r) (k' r') := Iff.rfl

/-- What a program that has returned is coupled with has returned. -/
theorem Coupled.ret_inv {post : α → β → Prop} {a : α} {p' : Prog S β}
    (h : Coupled R post (.ret a) p') : ∃ b, p' = .ret b ∧ post a b := by
  cases p' with
  | ret b => exact ⟨b, rfl, h⟩
  | act o k => cases h

/-- What a program that performs an operation is coupled with performs one. -/
theorem Coupled.act_inv {post : α → β → Prop} {o : S.Op} {k : S.Res o → Prog S α}
    {p' : Prog S β} (h : Coupled R post (.act o k) p') :
    ∃ o' k', p' = .act o' k' ∧ R.Op o o' ∧
      ∀ r r', R.Res o o' r r' → Coupled R post (k r) (k' r') := by
  cases p' with
  | ret b => cases h
  | act o' k' => exact ⟨o', k', rfl, h.1, h.2⟩

/-- Sequencing: coupled programs, followed by programs that are coupled on related values. -/
theorem Coupled.bind {mid : α → β → Prop} {post : γ → δ → Prop} {p : Prog S α} {p' : Prog S β}
    {f : α → Prog S γ} {f' : β → Prog S δ} (h : Coupled R mid p p')
    (hf : ∀ a b, mid a b → Coupled R post (f a) (f' b)) :
    Coupled R post (p.bind f) (p'.bind f') := by
  induction p generalizing p' with
  | ret a =>
    obtain ⟨b, rfl, hab⟩ := h.ret_inv
    exact hf a b hab
  | act o k ih =>
    obtain ⟨o', k', rfl, hop, hk⟩ := h.act_inv
    exact ⟨hop, fun r r' hr => ih r (hk r r' hr)⟩

theorem Coupled.mono {post post' : α → β → Prop} {p : Prog S α} {p' : Prog S β}
    (h : Coupled R post p p') (himp : ∀ a b, post a b → post' a b) : Coupled R post' p p' := by
  induction p generalizing p' with
  | ret a =>
    obtain ⟨b, rfl, hab⟩ := h.ret_inv
    exact himp a b hab
  | act o k ih =>
    obtain ⟨o', k', rfl, hop, hk⟩ := h.act_inv
    exact ⟨hop, fun r r' hr => ih r (hk r r' hr)⟩

/-- Embedded programs are coupled if the embedding keeps operations and answers related. -/
theorem Coupled.embed {R' : Coupling T} {post : α → β → Prop} {p : Prog S α} {p' : Prog S β}
    (h : Coupled R post p p') (f : S.Op → T.Op) (g : ∀ o, T.Res (f o) → S.Res o)
    (hop : ∀ o o', R.Op o o' → R'.Op (f o) (f o'))
    (hres : ∀ o o' r r', R.Op o o' → R'.Res (f o) (f o') r r' → R.Res o o' (g o r) (g o' r')) :
    Coupled R' post (p.embed f g) (p'.embed f g) := by
  induction p generalizing p' with
  | ret a =>
    obtain ⟨b, rfl, hab⟩ := h.ret_inv
    exact hab
  | act o k ih =>
    obtain ⟨o', k', rfl, hoo, hk⟩ := h.act_inv
    exact ⟨hop o o' hoo, fun r r' hr => ih _ (hk _ _ (hres o o' r r' hoo hr))⟩

/-- Where every operation is related to itself and related answers are equal, a program is coupled
with itself. -/
theorem Only.coupled_self {good : S.Op → Prop} {post : α → Prop} {p : Prog S α}
    (h : p.Only good post) (hop : ∀ o, good o → R.Op o o)
    (hres : ∀ o r r', good o → R.Res o o r r' → r = r') :
    Coupled R (fun a b => a = b ∧ post a) p p := by
  induction p with
  | ret a => exact ⟨rfl, h⟩
  | act o k ih =>
    refine ⟨hop o h.1, fun r r' hr => ?_⟩
    obtain rfl := hres o r r' h.1 hr
    exact ih r (h.2 r)

end Prog

section Runs

variable {S : Sig} {σ κ α ω : Type} (R : Coupling S) (Rel : σ → σ → Prop) (Like : κ → κ → Prop)
  (post : α → α → Prop)

/-- Two tasks that were started as related jobs and have coupled programs left. -/
def Thread.Coupled (t t' : Thread S κ α) : Prop :=
  Like t.tag t'.tag ∧ Prog.Coupled R post t.prog t'.prog

/-- Related shared states, and tasks that are coupled one by one. -/
structure Pool.Coupled (p p' : Pool S σ κ α) : Prop where
  /-- The shared states are related. -/
  state : Rel p.state p'.state
  /-- The tasks are coupled. -/
  threads : List.Forall₂ (Thread.Coupled R Like post) p.threads p'.threads

/-- Moves that do the same: related jobs are started, or the same task takes a step with related
choices of the environment. -/
inductive Move.Coupled (Choice : ω → ω → Prop) : Move κ ω → Move κ ω → Prop
  | spawn {k k' : κ} : Like k k' → Move.Coupled Choice (.spawn k) (.spawn k')
  | step (i : ℕ) {w w' : ω} : Choice w w' → Move.Coupled Choice (.step i w) (.step i w')

namespace System

variable {R Rel Like post} {sys : System S σ κ α ω} {Choice : ω → ω → Prop}
  (hprog : ∀ k k', Like k k' → Prog.Coupled R post (sys.program k) (sys.program k'))
  (hstep : ∀ w w' o o' s s', Choice w w' → R.Op o o' → Rel s s' →
    Option.Rel (fun x x' => R.Res o o' x.1 x'.1 ∧ Rel x.2 x'.2)
      (sys.perform w o s) (sys.perform w' o' s'))

include hprog hstep

/-- Coupled moves keep pools coupled. -/
theorem move_coupled {p p' : Pool S σ κ α} (h : Pool.Coupled R Rel Like post p p')
    {m m' : Move κ ω} (hm : Move.Coupled Like Choice m m') :
    Pool.Coupled R Rel Like post (sys.move p m) (sys.move p' m') := by
  cases hm with
  | @spawn k k' hk => exact ⟨h.state, List.rel_append h.threads (.cons ⟨hk, hprog k k' hk⟩ .nil)⟩
  | @step i w w' hw =>
    cases hget : p.threads[i]? with
    | none =>
      have hget' : p'.threads[i]? = none := by
        rwa [List.getElem?_eq_none_iff, ← h.threads.length_eq, ← List.getElem?_eq_none_iff]
      rw [sys.move_step_stuck (by simp [hget]), sys.move_step_stuck (by simp [hget'])]
      exact h
    | some t =>
      obtain ⟨t', hget', htag, ht⟩ := h.threads.exists_getElem? hget
      -- The two tasks have both returned, or perform related operations.
      cases hp : t.prog with
      | ret a =>
        obtain ⟨b, hp', -⟩ : ∃ b, t'.prog = .ret b ∧ post a b := by
          rw [hp] at ht
          exact ht.ret_inv
        rw [sys.move_step_stuck (by simp [hget, hp]), sys.move_step_stuck (by simp [hget', hp'])]
        exact h
      | act o k =>
        obtain ⟨o', k', hp', hop, hk⟩ : ∃ o' k', t'.prog = .act o' k' ∧ R.Op o o' ∧
            ∀ r r', R.Res o o' r r' → Prog.Coupled R post (k r) (k' r') := by
          rw [hp] at ht
          exact ht.act_inv
        have hperf := hstep w w' o o' p.state p'.state hw hop h.state
        generalize hx : sys.perform w o p.state = x at hperf
        generalize hx' : sys.perform w' o' p'.state = x' at hperf
        cases hperf with
        | none =>
          -- Neither operation comes back.
          rw [sys.move_step_of_none hget hp hx, sys.move_step_of_none hget' hp' hx']
          exact h
        | some hboth =>
          rw [sys.move_step_of_perform hget hp hx, sys.move_step_of_perform hget' hp' hx']
          exact ⟨hboth.2, h.threads.set i ⟨htag, hk _ _ hboth.1⟩⟩

/-- Coupled runs lead to coupled pools. -/
theorem run_coupled {s s' : σ} (hs : Rel s s') {moves moves' : List (Move κ ω)}
    (hmoves : List.Forall₂ (Move.Coupled Like Choice) moves moves') :
    Pool.Coupled R Rel Like post (sys.run s moves) (sys.run s' moves') := by
  suffices h : ∀ p p', Pool.Coupled R Rel Like post p p' →
      Pool.Coupled R Rel Like post (moves.foldl sys.move p) (moves'.foldl sys.move p') from
    h _ _ ⟨hs, .nil⟩
  induction hmoves with
  | nil => exact fun p p' h => h
  | cons hm _ ih => exact fun p p' h => ih _ _ (move_coupled hprog hstep h hm)

end System

end Runs

end Concurrency
