import BifrostCore.Concurrency.Program

/-!
# Protocols

A protocol is a small automaton over the operations of a signature: it says, state by state,
which operations a program may perform, and moves with each answer. It is the abstract model of a
flow of control: `p.Follows P q post` says that `p`, started in the protocol state `q`, performs
only operations the protocol allows, whatever is answered, and that `post` relates the protocol
state it ends in to the value it returns.

* `Prog.Follows` — conformance of a program to a protocol.
* `Prog.follows_bind`, `Prog.follows_mono` — the rules for sequencing and weakening.
* `Prog.Only` — a program that performs only operations of one kind; where a protocol allows these
  and stays where it is, so does the program (`Prog.Only.follows`).
* `Prog.Follows.steps`, `Prog.Follows.permits` — conformance along a trace: the protocol state of a
  half-run program is `Protocol.after`, the run of the automaton over its trace, and every operation
  of the trace was allowed.
* `Protocol.Permits.induction` — what a protocol state says about the trace that led to it.
-/

namespace Concurrency

/-- An automaton over the operations of `S`. -/
structure Protocol (S : Sig) where
  /-- The states of the automaton. -/
  State : Type
  /-- The operations a program may perform in a state. -/
  Allows : State → S.Op → Prop
  /-- The state after an operation and its answer. -/
  next : State → (o : S.Op) → S.Res o → State

namespace Protocol

variable {S : Sig} (P : Protocol S)

/-- The state of the automaton after the events of a trace. -/
def after (q : P.State) (tr : Trace S) : P.State :=
  tr.foldl (fun q e => P.next q e.op e.res) q

@[simp] theorem after_nil (q : P.State) : P.after q [] = q := rfl

@[simp] theorem after_cons (q : P.State) (e : Event S) (tr : Trace S) :
    P.after q (e :: tr) = P.after (P.next q e.op e.res) tr := rfl

@[simp] theorem after_snoc (q : P.State) (tr : Trace S) (e : Event S) :
    P.after q (tr ++ [e]) = P.next (P.after q tr) e.op e.res := by
  simp [after]

/-- Every operation of the trace is allowed in the state the automaton has then reached. -/
def Permits : P.State → Trace S → Prop
  | _, [] => True
  | q, e :: tr => P.Allows q e.op ∧ Permits (P.next q e.op e.res) tr

/-- The last operation of a permitted trace is allowed in the state before it. -/
theorem Permits.allows_last {q : P.State} {tr : Trace S} {e : Event S}
    (h : P.Permits q (tr ++ [e])) : P.Allows (P.after q tr) e.op := by
  induction tr generalizing q with
  | nil => exact h.1
  | cons d tr ih => exact ih h.2

/-- An operation of a permitted trace is allowed in the state the operations before it, themselves
permitted, have led to. -/
theorem Permits.split {q : P.State} {tr tr' : Trace S} {e : Event S}
    (h : P.Permits q (tr ++ e :: tr')) : P.Permits q tr ∧ P.Allows (P.after q tr) e.op := by
  induction tr generalizing q with
  | nil => exact ⟨trivial, h.1⟩
  | cons d tr ih =>
    obtain ⟨hd, hrest⟩ := h
    obtain ⟨htr, he⟩ := ih hrest
    exact ⟨⟨hd, htr⟩, he⟩

/-- Every operation of a permitted trace is allowed in some state. -/
theorem Permits.allows {q : P.State} {tr : Trace S} (h : P.Permits q tr) :
    ∀ e ∈ tr, ∃ q', P.Allows q' e.op := by
  induction tr generalizing q with
  | nil => simp
  | cons d tr ih =>
    intro e he
    rcases List.mem_cons.mp he with rfl | he
    · exact ⟨q, h.1⟩
    · exact ih h.2 e he

/-- What holds of the empty trace in the start state and is kept by every allowed operation holds of
a permitted trace and the state it leads to. -/
theorem Permits.induction {P : Protocol S} {R : P.State → Trace S → Prop} {q : P.State}
    {tr : Trace S} (h : P.Permits q tr) (h0 : R q [])
    (hstep : ∀ q' tr' o r, P.Allows q' o → R q' tr' → R (P.next q' o r) (tr' ++ [⟨o, r⟩])) :
    R (P.after q tr) tr := by
  -- The trace is read from its start, so the induction is on what is left of it, after any `tr₀`.
  suffices haux : ∀ tr₀ q', R q' tr₀ → P.Permits q' tr → R (P.after q' tr) (tr₀ ++ tr) from
    haux [] q h0 h
  clear h0 h
  induction tr with
  | nil => exact fun tr₀ q' hR _ => by simpa using hR
  | cons e tr ih =>
    intro tr₀ q' hR hp
    have := ih _ _ (hstep q' tr₀ e.op e.res hp.1 hR) hp.2
    simpa using this

end Protocol

namespace Prog

variable {S T : Sig} {α β : Type} (P : Protocol S)

/-- `p`, started in the protocol state `q`, performs only allowed operations, and whenever it
returns `a` in a state `q'` then `post q' a`. -/
def Follows : P.State → Prog S α → (P.State → α → Prop) → Prop
  | q, .ret a, post => post q a
  | q, .act o k, post => P.Allows q o ∧ ∀ r, (k r).Follows (P.next q o r) post

variable {P} {q : P.State} {post post' : P.State → α → Prop}

@[simp] theorem follows_ret (a : α) : (ret a : Prog S α).Follows P q post ↔ post q a := Iff.rfl

@[simp] theorem follows_act (o : S.Op) (k : S.Res o → Prog S α) :
    (act o k).Follows P q post ↔
      P.Allows q o ∧ ∀ r, (k r).Follows P (P.next q o r) post := Iff.rfl

/-- Conformance of a sequence: the first program leads to states from which the second one
conforms. -/
theorem follows_bind (p : Prog S β) (f : β → Prog S α) :
    (p.bind f).Follows P q post ↔ p.Follows P q fun q' b => (f b).Follows P q' post := by
  induction p generalizing q with
  | ret b => rfl
  | act o k ih => simp only [act_bind, follows_act, ih]

/-- Weakening of the postcondition. -/
theorem Follows.mono {p : Prog S α} (h : p.Follows P q post)
    (himp : ∀ q' a, post q' a → post' q' a) : p.Follows P q post' := by
  induction p generalizing q with
  | ret a => exact himp _ _ h
  | act o k ih => exact ⟨h.1, fun r => ih r (h.2 r)⟩

/-- To conform as a sequence, it is enough to conform up to an intermediate assertion. -/
theorem Follows.bind {p : Prog S β} {f : β → Prog S α} {M : P.State → β → Prop}
    (h : p.Follows P q M) (hf : ∀ q' b, M q' b → (f b).Follows P q' post) :
    (p.bind f).Follows P q post :=
  (follows_bind p f).mpr (h.mono hf)

/-- A program conforms from a state to itself if the programs for its operations do. -/
theorem follows_expand {impl : (o : T.Op) → Prog S (T.Res o)}
    (himpl : ∀ o, (impl o).Follows P q fun q' _ => q' = q) (p : Prog T α) :
    (p.expand impl).Follows P q fun q' _ => q' = q := by
  induction p with
  | ret a => rfl
  | act o k ih =>
    refine (himpl o).bind ?_
    rintro q' r rfl
    exact ih r

/-- `p` performs only operations that satisfy `good`, and returns only values that satisfy
`post`. -/
def Only (good : S.Op → Prop) : Prog S α → (α → Prop) → Prop
  | .ret a, post => post a
  | .act o k, post => good o ∧ ∀ r, (k r).Only good post

section Only

variable {good : S.Op → Prop}

@[simp] theorem only_ret (a : α) (post : α → Prop) :
    (ret a : Prog S α).Only good post ↔ post a := Iff.rfl

@[simp] theorem only_act (o : S.Op) (k : S.Res o → Prog S α) (post : α → Prop) :
    (act o k).Only good post ↔ good o ∧ ∀ r, (k r).Only good post := Iff.rfl

/-- Every program performs operations and returns values. -/
theorem only_true (p : Prog S α) : p.Only (fun _ => True) fun _ => True := by
  induction p with
  | ret a => trivial
  | act o k ih => exact ⟨trivial, ih⟩

theorem Only.mono {p : Prog S α} {good' : S.Op → Prop} {post : α → Prop} (h : p.Only good post)
    (hgood : ∀ o, good o → good' o) : p.Only good' post := by
  induction p with
  | ret a => exact h
  | act o k ih => exact ⟨hgood o h.1, fun r => ih r (h.2 r)⟩

theorem Only.bind {p : Prog S β} {f : β → Prog S α} {M : β → Prop} {post : α → Prop}
    (h : p.Only good M) (hf : ∀ b, M b → (f b).Only good post) :
    (p.bind f).Only good post := by
  induction p with
  | ret b => exact hf b h
  | act o k ih => exact ⟨h.1, fun r => ih r (h.2 r)⟩

/-- What a half-run program has performed and what it has left. -/
theorem Only.steps {p q : Prog S α} {post : α → Prop} {tr : Trace S} (h : p.Only good post)
    (hs : Steps p tr q) : (∀ e ∈ tr, good e.op) ∧ q.Only good post := by
  induction hs with
  | refl p => exact ⟨by simp, h⟩
  | act _ ih =>
    obtain ⟨htr, hq⟩ := ih (h.2 _)
    exact ⟨List.forall_mem_cons.mpr ⟨h.1, htr⟩, hq⟩

/-- An embedded program performs the embedded operations. -/
theorem Only.embed {p : Prog T α} {good' : T.Op → Prop} {post : α → Prop} (h : p.Only good' post)
    (f : T.Op → S.Op) (g : ∀ o, S.Res (f o) → T.Res o) (hgood : ∀ o, good' o → good (f o)) :
    (p.embed f g).Only good post := by
  induction p with
  | ret a => exact h
  | act o k ih => exact ⟨hgood o h.1, fun r => ih _ (h.2 _)⟩

/-- A program whose operations all have an answer comes to its end. -/
theorem Only.total {p : Prog S α} {post : α → Prop} (h : p.Only good post)
    {Ans : (o : S.Op) → S.Res o → Prop} (hans : ∀ o, good o → ∃ r, Ans o r) :
    p.Total Ans post := by
  induction p with
  | ret a => exact h
  | act o k ih => exact ⟨hans o h.1, fun r _ => ih r (h.2 r)⟩

/-- A program of operations the protocol allows without moving conforms, and stays. -/
theorem Only.follows {p : Prog S α} {post : α → Prop} (h : p.Only good post)
    (hallow : ∀ o, good o → P.Allows q o) (hstay : ∀ o r, good o → P.next q o r = q) :
    p.Follows P q fun q' a => q' = q ∧ post a := by
  induction p with
  | ret a => exact ⟨rfl, h⟩
  | act o k ih =>
    refine ⟨hallow o h.1, fun r => ?_⟩
    rw [hstay o r h.1]
    exact ih r (h.2 r)

/-- A conforming program stays in the states of an invariant, and performs operations the protocol
allows in them. -/
theorem Follows.only_of {p : Prog S α} (h : p.Follows P q post) (Inv : P.State → Prop) (hq : Inv q)
    (hnext : ∀ q o r, P.Allows q o → Inv q → Inv (P.next q o r))
    (hgood : ∀ q o, P.Allows q o → Inv q → good o) : p.Only good fun _ => True := by
  induction p generalizing q with
  | ret a => trivial
  | act o k ih => exact ⟨hgood q o h.1 hq, fun r => ih r (h.2 r) (hnext q o r h.1 hq)⟩

/-- A conforming program performs operations the protocol allows somewhere. -/
theorem Follows.only {p : Prog S α} (h : p.Follows P q post)
    (hgood : ∀ q o, P.Allows q o → good o) : p.Only good fun _ => True :=
  h.only_of (fun _ => True) trivial (fun _ _ _ _ _ => trivial)
    fun q o hallows _ => hgood q o hallows

end Only

/-- Conformance is kept along a trace. -/
theorem Follows.steps {p p' : Prog S α} {tr : Trace S} (h : p.Follows P q post)
    (hs : Steps p tr p') : p'.Follows P (P.after q tr) post := by
  induction hs generalizing q with
  | refl p => exact h
  | act _ ih => exact ih (h.2 _)

/-- The operations of a trace of a conforming program are allowed. -/
theorem Follows.permits {p p' : Prog S α} {tr : Trace S} (h : p.Follows P q post)
    (hs : Steps p tr p') : P.Permits q tr := by
  induction hs generalizing q with
  | refl p => trivial
  | act _ ih => exact ⟨h.1, ih (h.2 _)⟩

/-- A conforming program run alone: a relation between protocol states and shared states that
every allowed operation keeps relates the ends of the run. -/
theorem Follows.exec {σ ω : Type} {perform : ω → Handler S σ} {Rel : P.State → σ → Prop}
    (hstep : ∀ q s w o r s', P.Allows q o → perform w o s = some (r, s') → Rel q s →
      Rel (P.next q o r) s') {p p' : Prog S α} {tr : Trace S} {s s' : σ}
    (h : p.Follows P q post) (he : Exec perform p s tr p' s') (hrel : Rel q s) :
    Rel (P.after q tr) s' := by
  induction he generalizing q with
  | refl p s => exact hrel
  | act w hw _ ih => exact ih (h.2 _) (hstep _ _ w _ _ _ h.1 hw hrel)

end Prog

end Concurrency
