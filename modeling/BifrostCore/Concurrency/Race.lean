import BifrostCore.Concurrency.Program

/-!
# Racing two programs

Two programs that run side by side until one of them returns; what is left of the other is dropped
where it stands. Which of the two goes on next is the answer to an operation, so it is up to the
environment, as the scheduling of two futures is.

* `Prog.race` — the race.
* `Interleaved` — a trace of the race as the traces of the two programs, one within the other.
* `Prog.Steps.race_inv` — where the two programs stand after a trace of their race.
-/

namespace Concurrency

variable {S : Sig} {α β : Type}

namespace Prog

/-- A program performs another operation. -/
def Running (p : Prog S α) : Prop := ∃ o k, p = .act o k

theorem running_act (o : S.Op) (k : S.Res o → Prog S α) : (act o k).Running := ⟨o, k, rfl⟩

@[simp] theorem not_running_ret (a : α) : ¬ (ret a : Prog S α).Running := by
  rintro ⟨o, k, h⟩
  cases h

/-- A race whose left program performs `o` next and then goes on racing. -/
def raceWith (pick : S.Op) (left : S.Res pick → Bool) (o : S.Op)
    (race : S.Res o → Prog S β → Prog S (α ⊕ β)) : Prog S β → Prog S (α ⊕ β)
  | .ret b => .ret (.inr b)
  | .act o' k' => .act pick fun turn =>
    if left turn then .act o fun a => race a (.act o' k')
    else .act o' fun a => raceWith pick left o race (k' a)

/-- The race of two programs: the answer to `pick` is the turn of the left one or of the right
one. -/
def race (pick : S.Op) (left : S.Res pick → Bool) : Prog S α → Prog S β → Prog S (α ⊕ β)
  | .ret a, _ => .ret (.inl a)
  | .act o k, q => raceWith pick left o (fun a => race pick left (k a)) q

end Prog

/-- `Interleaved pick tr₁ tr₂ tr`: the events of `tr` are those of `tr₁` and `tr₂`, in their order,
and operations `pick`. -/
inductive Interleaved (pick : S.Op) : Trace S → Trace S → Trace S → Prop
  | nil : Interleaved pick [] [] []
  | pick {tr₁ tr₂ tr : Trace S} (turn : S.Res pick) : Interleaved pick tr₁ tr₂ tr →
      Interleaved pick tr₁ tr₂ (⟨pick, turn⟩ :: tr)
  | left {tr₁ tr₂ tr : Trace S} (e : Event S) : Interleaved pick tr₁ tr₂ tr →
      Interleaved pick (e :: tr₁) tr₂ (e :: tr)
  | right {tr₁ tr₂ tr : Trace S} (e : Event S) : Interleaved pick tr₁ tr₂ tr →
      Interleaved pick tr₁ (e :: tr₂) (e :: tr)

namespace Interleaved

variable {pick : S.Op} {tr₁ tr₂ tr : Trace S}

theorem symm (h : Interleaved pick tr₁ tr₂ tr) : Interleaved pick tr₂ tr₁ tr := by
  induction h with
  | nil => exact .nil
  | pick turn _ ih => exact .pick turn ih
  | left e _ ih => exact .right e ih
  | right e _ ih => exact .left e ih

/-- What holds of the operations `pick` holds throughout a race if it does throughout both
programs. -/
theorem forall_mem_iff {C : Event S → Prop} (h : Interleaved pick tr₁ tr₂ tr)
    (hpick : ∀ turn, C ⟨pick, turn⟩) :
    (∀ e ∈ tr, C e) ↔ (∀ e ∈ tr₁, C e) ∧ ∀ e ∈ tr₂, C e := by
  induction h with
  | nil => simp
  | pick turn _ ih => rw [List.forall_mem_cons, ih, and_iff_right (hpick turn)]
  | left e _ ih => rw [List.forall_mem_cons, List.forall_mem_cons, ih, and_assoc]
  | right e _ ih => rw [List.forall_mem_cons, List.forall_mem_cons, ih, and_left_comm]

/-- What only the left program does, seen in the race. -/
theorem filterMap_left {γ : Type} {f : Event S → Option γ} (h : Interleaved pick tr₁ tr₂ tr)
    (hpick : ∀ turn, f ⟨pick, turn⟩ = none) (hright : ∀ e ∈ tr₂, f e = none) :
    tr.filterMap f = tr₁.filterMap f := by
  induction h with
  | nil => rfl
  | pick turn _ ih => rw [List.filterMap_cons_none (hpick turn), ih hright]
  | left e _ ih => rw [List.filterMap_cons, List.filterMap_cons, ih hright]
  | right e _ ih =>
    -- The only case in which something is left out.
    obtain ⟨he, hrest⟩ := List.forall_mem_cons.mp hright
    rw [List.filterMap_cons_none he, ih hrest]

end Interleaved

namespace Prog

variable {pick : S.Op} {left : S.Res pick → Bool}

/-- After a trace of a race, the two programs stand at the ends of their own traces, and the race
goes on exactly if both of them do. -/
theorem Steps.race_inv {p : Prog S α} {q : Prog S β} {tr : Trace S} {r : Prog S (α ⊕ β)}
    (h : Steps (race pick left p q) tr r) :
    ∃ tr₁ tr₂ p' q', Interleaved pick tr₁ tr₂ tr ∧ Steps p tr₁ p' ∧ Steps q tr₂ q' ∧
      (r.Running ↔ p'.Running ∧ q'.Running) := by
  -- Either program may have the next turn, so the induction is on both.
  induction p generalizing q tr with
  | ret a =>
    obtain ⟨rfl, rfl⟩ := ret_inv h
    exact ⟨[], [], .ret a, q, .nil, .refl _, .refl _, by simp⟩
  | act o k ih =>
    induction q generalizing tr with
    | ret b =>
      obtain ⟨rfl, rfl⟩ := ret_inv h
      exact ⟨[], [], .act o k, .ret b, .nil, .refl _, .refl _, by simp⟩
    | act o' k' ih' =>
      obtain ⟨rfl, rfl⟩ | ⟨turn, tr, rfl, hturn⟩ := act_inv h
      · exact ⟨[], [], .act o k, .act o' k', .nil, .refl _, .refl _,
          iff_of_true (running_act _ _) ⟨running_act _ _, running_act _ _⟩⟩
      replace hturn : Steps (if left turn then _ else _) tr r := hturn
      split at hturn
      · -- The turn of the left program.
        obtain ⟨rfl, rfl⟩ | ⟨a, tr, rfl, hrest⟩ := act_inv hturn
        · exact ⟨[], [], .act o k, .act o' k', .pick turn .nil, .refl _, .refl _,
            iff_of_true (running_act _ _) ⟨running_act _ _, running_act _ _⟩⟩
        · obtain ⟨tr₁, tr₂, p', q', hinter, hp, hq, hr⟩ := ih a hrest
          exact ⟨⟨o, a⟩ :: tr₁, tr₂, p', q', .pick turn (.left _ hinter), .act hp, hq, hr⟩
      · obtain ⟨rfl, rfl⟩ | ⟨a, tr, rfl, hrest⟩ := act_inv hturn
        · exact ⟨[], [], .act o k, .act o' k', .pick turn .nil, .refl _, .refl _,
            iff_of_true (running_act _ _) ⟨running_act _ _, running_act _ _⟩⟩
        · obtain ⟨tr₁, tr₂, p', q', hinter, hp, hq, hr⟩ := ih' a hrest
          exact ⟨tr₁, ⟨o', a⟩ :: tr₂, p', q', .pick turn (.right _ hinter), hp, .act hq, hr⟩

end Prog

end Concurrency
