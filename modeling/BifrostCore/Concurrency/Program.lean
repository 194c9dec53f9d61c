import Mathlib.Tactic.Common

/-!
# Programs over atomic operations

A task is a tree of atomic operations: each node performs one operation and continues with the
answer it gets. Nothing in a program says what an operation does; that is the business of a
`Handler`, so the same program can be run alone, stepped in a pool of tasks, or checked against
a protocol without being run at all.

* `AtEach` — what holds at every element of a sequence.
* `Prog S α` — programs over the signature `S`, with their monad structure.
* `Prog.embed`, `Prog.expand` — running a program over one signature inside another, operation by
  operation or with a program for every operation.
* `Prog.Steps` — the finite traces of a program, whatever the operations answer.
* `Prog.Total` — a program that comes to its end, whatever admissible answers it gets
  (`Prog.total_iff_steps` reads it off the traces).
* `Prog.eval` — a program run alone to its end under a handler.
* `Prog.Exec` — a program run alone, with the environment's choice made anew at every step.
-/

namespace Concurrency

/-- A signature of atomic operations: the operations, and the type of each one's answer. -/
structure Sig where
  /-- The operations. -/
  Op : Type
  /-- The answer of an operation. An operation with an empty answer type never comes back. -/
  Res : Op → Type

/-- A program over `S` that returns an `α`. -/
inductive Prog (S : Sig) (α : Type) : Type
  | ret (a : α)
  | act (o : S.Op) (k : S.Res o → Prog S α)

/-- An operation together with the answer it got. -/
structure Event (S : Sig) where
  /-- The operation. -/
  op : S.Op
  /-- Its answer. -/
  res : S.Res op

/-- The operations a program has performed, oldest first. -/
abbrev Trace (S : Sig) := List (Event S)

/-- What an operation does to a state: its answer and the state after it, or `none` when the
operation does not come back. -/
abbrev Handler (S : Sig) (σ : Type) := (o : S.Op) → σ → Option (S.Res o × σ)

/-! ## Steps of a sequence -/

section AtEach

variable {α : Type} {P : List α → α → Prop} {l : List α} {a : α}

/-- `P` holds of every element of a list together with the elements before it. -/
def AtEach (P : List α → α → Prop) (l : List α) : Prop :=
  ∀ before a after, l = before ++ a :: after → P before a

theorem atEach_nil : AtEach P [] := by
  intro before a after h
  cases before <;> cases h

theorem atEach_snoc : AtEach P (l ++ [a]) ↔ AtEach P l ∧ P l a := by
  constructor
  · intro h
    refine ⟨?_, h l a [] rfl⟩
    rintro before b after rfl
    exact h before b (after ++ [a]) (by simp)
  · rintro ⟨h, ha⟩ before b after heq
    rcases List.eq_nil_or_concat after with rfl | ⟨after, c, rfl⟩
    · obtain ⟨rfl, hb⟩ := List.append_inj' heq rfl
      obtain rfl := List.singleton_inj.mp hb
      exact ha
    · rw [List.concat_eq_append, ← List.cons_append, ← List.append_assoc] at heq
      exact h before b after (List.append_inj' heq rfl).1

end AtEach

namespace Prog

variable {S T : Sig} {α β γ σ ω : Type}

/-- Sequencing of programs. -/
def bind : Prog S α → (α → Prog S β) → Prog S β
  | .ret a, f => f a
  | .act o k, f => .act o fun r => (k r).bind f

instance : Monad (Prog S) where
  pure := .ret
  bind := Prog.bind

/-- The program that performs one operation and returns its answer. -/
def call (o : S.Op) : Prog S (S.Res o) := .act o .ret

@[simp] theorem pure_eq (a : α) : (pure a : Prog S α) = .ret a := rfl

@[simp] theorem bind_eq (p : Prog S α) (f : α → Prog S β) : p >>= f = p.bind f := rfl

@[simp] theorem ret_bind (a : α) (f : α → Prog S β) : (ret a : Prog S α).bind f = f a := rfl

@[simp] theorem act_bind (o : S.Op) (k : S.Res o → Prog S α) (f : α → Prog S β) :
    (act o k).bind f = .act o fun r => (k r).bind f := rfl

@[simp] theorem call_bind (o : S.Op) (f : S.Res o → Prog S α) : (call o).bind f = .act o f := rfl

theorem bind_assoc (p : Prog S α) (f : α → Prog S β) (g : β → Prog S γ) :
    (p.bind f).bind g = p.bind fun a => (f a).bind g := by
  induction p with
  | ret a => rfl
  | act o k ih => simp only [act_bind, ih]

/-! ## Embedding one signature in another -/

/-- Run a program over `S` as part of a program over `T`: the operation `o` becomes `f o`, and
the answer to it is read back by `g`. -/
def embed (f : S.Op → T.Op) (g : ∀ o, T.Res (f o) → S.Res o) : Prog S α → Prog T α
  | .ret a => .ret a
  | .act o k => .act (f o) fun r => (k (g o r)).embed f g

section Embed

variable (f : S.Op → T.Op) (g : ∀ o, T.Res (f o) → S.Res o)

@[simp] theorem embed_ret (a : α) : (ret a : Prog S α).embed f g = .ret a := rfl

@[simp] theorem embed_act (o : S.Op) (k : S.Res o → Prog S α) :
    (act o k).embed f g = .act (f o) fun r => (k (g o r)).embed f g := rfl

@[simp] theorem embed_bind (p : Prog S α) (h : α → Prog S β) :
    (p.bind h).embed f g = (p.embed f g).bind fun a => (h a).embed f g := by
  induction p with
  | ret a => rfl
  | act o k ih => simp only [act_bind, embed_act, ih]

end Embed

/-- Run a program over `S` with every operation `o` carried out by the program `impl o` over `T`. -/
def expand (impl : (o : S.Op) → Prog T (S.Res o)) : Prog S α → Prog T α
  | .ret a => .ret a
  | .act o k => (impl o).bind fun r => (k r).expand impl

section Expand

variable (impl : (o : S.Op) → Prog T (S.Res o))

@[simp] theorem expand_ret (a : α) : (ret a : Prog S α).expand impl = .ret a := rfl

@[simp] theorem expand_act (o : S.Op) (k : S.Res o → Prog S α) :
    (act o k).expand impl = (impl o).bind fun r => (k r).expand impl := rfl

end Expand

/-! ## Traces -/

/-- `p.Steps tr q`: `p` performs the operations of `tr`, gets the answers recorded there, and has
`q` left to run. Every answer of the operation's type is possible. -/
inductive Steps : Prog S α → Trace S → Prog S α → Prop
  | refl (p : Prog S α) : Steps p [] p
  | act {o : S.Op} {k : S.Res o → Prog S α} {r : S.Res o} {tr : Trace S} {q : Prog S α} :
      Steps (k r) tr q → Steps (.act o k) (⟨o, r⟩ :: tr) q

namespace Steps

variable {p q : Prog S α} {tr : Trace S}

/-- One more operation at the end of a trace. -/
theorem snoc {o : S.Op} {k : S.Res o → Prog S α} (h : Steps p tr (.act o k)) (r : S.Res o) :
    Steps p (tr ++ [⟨o, r⟩]) (k r) := by
  generalize hq : Prog.act o k = q at h
  induction h with
  | refl p => subst hq; exact .act (.refl _)
  | act _ ih => exact .act (ih hq)

theorem nil_inv (h : Steps p [] q) : q = p := by
  cases h
  rfl

theorem ret_inv {a : α} (h : Steps (.ret a) tr q) : tr = [] ∧ q = .ret a := by
  cases h with
  | refl => exact ⟨rfl, rfl⟩

/-- A program that performs an operation has not begun, or has got an answer and gone on. -/
theorem act_inv {o : S.Op} {k : S.Res o → Prog S α} (h : Steps (.act o k) tr q) :
    (tr = [] ∧ q = .act o k) ∨ ∃ r tr', tr = ⟨o, r⟩ :: tr' ∧ Steps (k r) tr' q := by
  cases h with
  | refl => exact .inl ⟨rfl, rfl⟩
  | act h => exact .inr ⟨_, _, rfl, h⟩

/-- A program that performs an operation and has returned has got an answer and gone on. -/
theorem act_ret_inv {o : S.Op} {k : S.Res o → Prog S α} {a : α} (h : Steps (.act o k) tr (.ret a)) :
    ∃ r tr', tr = ⟨o, r⟩ :: tr' ∧ Steps (k r) tr' (.ret a) := by
  obtain ⟨-, hq⟩ | hgone := act_inv h
  · cases hq
  · exact hgone

/-- A trace in two parts. -/
theorem append_inv {tr' : Trace S} (h : Steps p (tr ++ tr') q) :
    ∃ p', Steps p tr p' ∧ Steps p' tr' q := by
  induction tr generalizing p with
  | nil => exact ⟨p, .refl p, h⟩
  | cons e tr ih =>
    cases h with
    | act h =>
      obtain ⟨p', hp, hq⟩ := ih h
      exact ⟨p', .act hp, hq⟩

/-- A program that has returned goes on with what follows it. -/
theorem bind {a : α} (h : Steps p tr (.ret a)) (f : α → Prog S β) : Steps (p.bind f) tr (f a) := by
  generalize hq : Prog.ret a = q at h
  induction h with
  | refl p => subst hq; exact .refl _
  | act _ ih => exact .act (ih hq)

/-- A trace of `p.bind f` either stops inside `p`, or runs `p` to its end and goes on in `f`. -/
theorem bind_inv {f : α → Prog S β} {q : Prog S β} (h : Steps (p.bind f) tr q) :
    (∃ o k, Steps p tr (.act o k) ∧ q = .act o fun r => (k r).bind f) ∨
      ∃ tr₁ tr₂ a, tr = tr₁ ++ tr₂ ∧ Steps p tr₁ (.ret a) ∧ Steps (f a) tr₂ q := by
  induction p generalizing tr with
  | ret a => exact .inr ⟨[], tr, a, rfl, .refl _, h⟩
  | act o k ih =>
    cases h with
    | refl => exact .inl ⟨o, k, .refl _, rfl⟩
    | @act _ _ r _ _ h =>
      obtain ⟨o', k', hp, rfl⟩ | ⟨tr₁, tr₂, a, rfl, hp, hf⟩ := ih r h
      · exact .inl ⟨o', k', .act hp, rfl⟩
      · exact .inr ⟨_ :: tr₁, tr₂, a, rfl, .act hp, hf⟩

end Steps

/-! ## Programs that come to their end -/

/-- As long as the operations are answered as `Ans` says, `p` never gets stuck, and the value it
returns satisfies `post`. -/
def Total (Ans : (o : S.Op) → S.Res o → Prop) : Prog S α → (α → Prop) → Prop
  | .ret a, post => post a
  | .act o k, post => (∃ r, Ans o r) ∧ ∀ r, Ans o r → (k r).Total Ans post

section Total

variable {Ans : (o : S.Op) → S.Res o → Prop} {post post' : α → Prop}

@[simp] theorem total_ret (a : α) : (ret a : Prog S α).Total Ans post ↔ post a := Iff.rfl

@[simp] theorem total_act (o : S.Op) (k : S.Res o → Prog S α) :
    (act o k).Total Ans post ↔ (∃ r, Ans o r) ∧ ∀ r, Ans o r → (k r).Total Ans post := Iff.rfl

/-- A call with one answer. -/
theorem total_call_eq {o : S.Op} {f : S.Res o → Prog S α} {v : S.Res o}
    (hv : ∀ r, Ans o r ↔ r = v) : (call o >>= f).Total Ans post ↔ (f v).Total Ans post := by
  simp [hv]

theorem total_bind (p : Prog S β) (f : β → Prog S α) :
    (p.bind f).Total Ans post ↔ p.Total Ans fun b => (f b).Total Ans post := by
  induction p with
  | ret b => rfl
  | act o k ih => simp only [act_bind, total_act, ih]

theorem Total.mono {p : Prog S α} (h : p.Total Ans post) (himp : ∀ a, post a → post' a) :
    p.Total Ans post' := by
  induction p with
  | ret a => exact himp a h
  | act o k ih => exact ⟨h.1, fun r hr => ih r (h.2 r hr)⟩

/-- Two postconditions of a program hold of a common result. -/
theorem Total.exists_both {p : Prog S α} (h : p.Total Ans post) (h' : p.Total Ans post') :
    ∃ a, post a ∧ post' a := by
  induction p with
  | ret a => exact ⟨a, h, h'⟩
  | act o k ih =>
    obtain ⟨r, hr⟩ := h.1
    exact ih r (h.2 r hr) (h'.2 r hr)

/-- A program is total exactly if every run of it can go on until it returns. -/
theorem total_iff_steps (p : Prog S α) :
    p.Total Ans post ↔ ∀ tr q, Steps p tr q → (∀ e ∈ tr, Ans e.op e.res) →
      (∃ a, q = .ret a ∧ post a) ∨ ∃ o k r, q = .act o k ∧ Ans o r := by
  constructor
  · intro h tr q hsteps hans
    -- Along the run the program stays total, and a total program can go on.
    induction hsteps with
    | refl p =>
      cases p with
      | ret a => exact .inl ⟨a, rfl, h⟩
      | act o k =>
        obtain ⟨r, hr⟩ := h.1
        exact .inr ⟨o, k, r, rfl, hr⟩
    | act _ ih =>
      obtain ⟨hr, hrest⟩ := List.forall_mem_cons.mp hans
      exact ih (h.2 _ hr) hrest
  · intro h
    induction p with
    | ret a =>
      obtain ⟨a', heq, ha⟩ | ⟨o, k, r, heq, -⟩ := h [] _ (.refl _) (by simp)
      · cases heq
        exact ha
      · cases heq
    | act o k ih =>
      -- The empty run shows that the operation has an answer, the longer ones that it may be any.
      refine ⟨?_, fun r hr => ih r fun tr q hsteps hans =>
        h _ q (.act hsteps) (List.forall_mem_cons.mpr ⟨hr, hans⟩)⟩
      obtain ⟨a, heq, -⟩ | ⟨o', k', r, heq, hr⟩ := h [] _ (.refl _) (by simp)
      · cases heq
      · cases heq
        exact ⟨r, hr⟩

end Total

/-! ## Running a program alone -/

/-- Run `p` to its end under the handler `h`; `none` when some operation does not come back. -/
def eval (h : Handler S σ) : Prog S α → σ → Option (α × σ)
  | .ret a, s => some (a, s)
  | .act o k, s => (h o s).bind fun x => (k x.1).eval h x.2

section Eval

variable (h : Handler S σ)

@[simp] theorem eval_ret (a : α) (s : σ) : (ret a : Prog S α).eval h s = some (a, s) := rfl

@[simp] theorem eval_act (o : S.Op) (k : S.Res o → Prog S α) (s : σ) :
    (act o k).eval h s = (h o s).bind fun x => (k x.1).eval h x.2 := rfl

end Eval

/-- `p.Exec perform s tr q s'`: run alone from the state `s`, `p` performs the operations of `tr`
and reaches `q` in the state `s'`. The environment picks a new choice `w` for every operation. -/
inductive Exec (perform : ω → Handler S σ) : Prog S α → σ → Trace S → Prog S α → σ → Prop
  | refl (p : Prog S α) (s : σ) : Exec perform p s [] p s
  | act {o : S.Op} {k : S.Res o → Prog S α} {s s₁ s₂ : σ} {r : S.Res o} {tr : Trace S}
      {q : Prog S α} (w : ω) : perform w o s = some (r, s₁) → Exec perform (k r) s₁ tr q s₂ →
      Exec perform (.act o k) s (⟨o, r⟩ :: tr) q s₂

/-- The operations a program performs when it is run alone under the handler `h`, until one does not
come back. -/
def evalTrace (h : Handler S σ) : Prog S α → σ → Trace S
  | .ret _, _ => []
  | .act o k, s =>
    match h o s with
    | some (r, s') => ⟨o, r⟩ :: (k r).evalTrace h s'
    | none => []

/-- Running to the end with one choice of the environment throughout. -/
theorem Exec.of_eval {perform : ω → Handler S σ} {w : ω} {p : Prog S α} {s s' : σ} {a : α}
    (h : p.eval (perform w) s = some (a, s')) :
    Exec perform p s (p.evalTrace (perform w) s) (.ret a) s' := by
  induction p generalizing s with
  | ret b =>
    obtain ⟨rfl, rfl⟩ := Prod.mk.inj (Option.some.inj h)
    exact .refl _ _
  | act o k ih =>
    obtain ⟨⟨r, s₁⟩, hr, hk⟩ := Option.bind_eq_some_iff.mp h
    rw [evalTrace, hr]
    exact .act w hr (ih r hk)

/-- Forgetting the states, a run is a trace. -/
theorem Exec.steps {perform : ω → Handler S σ} {p q : Prog S α} {s s' : σ} {tr : Trace S}
    (h : Exec perform p s tr q s') : Steps p tr q := by
  induction h with
  | refl p s => exact .refl p
  | act w _ _ ih => exact .act ih

end Prog

end Concurrency
