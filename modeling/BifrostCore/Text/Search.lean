import BifrostCore.Text

/-!
# Searching and cutting strings

What `contains`, `split` and `rfind` find, in terms of the parts of a string.

* `contains_iff`, `infix_append_cons_iff` — a pattern is found in a string if it stands somewhere in
  it, and not across a character it does not contain.
* `head_split_iff`, `lastPiece` — the first and the last piece of a split.
* `rfind_append_cons` — what stands behind the last occurrence of a character.
* `replace_eq_self_iff` — a replacement by something shorter changes every string that contains the
  pattern.
-/

namespace Bifrost

namespace Text

variable {p s a b : Str} {c : Char}

/-! ## Searching -/

theorem contains_iff : contains s p = true ↔ p <:+: s := by
  induction s with
  | nil => simp [contains]
  | cons x s ih =>
    rw [contains, Bool.or_eq_true, ih, List.isPrefixOf_iff_prefix, List.infix_cons_iff]

/-- A pattern without `c` is not found across a `c`. -/
theorem infix_append_cons_iff (hc : c ∉ p) : p <:+: a ++ c :: b ↔ p <:+: a ∨ p <:+: b := by
  have hfirst : ∀ a, p <+: a ++ c :: b ↔ p <+: a := fun a => by
    rw [← List.isPrefixOf_iff_prefix, ← List.isPrefixOf_iff_prefix, isPrefixOf_append_cons hc]
  -- A pattern that begins within `a` ends there, so only its start has to be found.
  induction a with
  | nil =>
    rw [List.nil_append, List.infix_cons_iff, show c :: b = [] ++ c :: b from rfl, hfirst []]
    simp
  | cons x a ih =>
    rw [List.cons_append, List.infix_cons_iff, List.infix_cons_iff, ← List.cons_append,
      hfirst (x :: a), or_assoc]
    exact or_congr_right ih

theorem infix_cons_iff_of_not_mem (hc : c ∉ p) : p <:+: c :: b ↔ p <:+: b := by
  rw [← List.nil_append (c :: b), infix_append_cons_iff hc, List.infix_nil]
  refine or_iff_right_of_imp ?_
  rintro rfl
  exact List.nil_infix

/-! ## Cutting -/

/-- The part of a string behind the last `c`, or the whole string. -/
def lastPiece (c : Char) (s : Str) : Str := (split c s).getLastD []

theorem lastPiece_of_not_mem (h : c ∉ s) : lastPiece c s = s := by
  rw [lastPiece, split, List.splitOn_eq_singleton h]
  rfl

theorem lastPiece_append_cons (a b : Str) : lastPiece c (a ++ c :: b) = lastPiece c b := by
  unfold lastPiece split
  rw [List.splitOn_append_cons_self, List.getLastD_eq_getLast?, List.getLastD_eq_getLast?,
    List.getLast?_append_of_ne_nil _ (List.splitOn_ne_nil c b)]

theorem lastPiece_of_last (hb : c ∉ b) (a : Str) : lastPiece c (a ++ c :: b) = b := by
  rw [lastPiece_append_cons, lastPiece_of_not_mem hb]

/-- A string that contains `c`, cut at the last one. -/
theorem exists_eq_append_cons (h : c ∈ s) : ∃ a b, s = a ++ c :: b ∧ c ∉ b := by
  obtain ⟨b, a, hrev, hb⟩ := List.eq_append_cons_of_mem (List.mem_reverse.mpr h)
  refine ⟨a.reverse, b.reverse, ?_, by simpa using hb⟩
  rw [← List.reverse_reverse s, hrev]
  simp

/-- The first piece of a split. -/
theorem head_split_iff : (split c s).head? = some a ↔ c ∉ a ∧ (s = a ∨ ∃ b, s = a ++ c :: b) := by
  unfold split
  constructor
  · intro h
    -- The first piece ends at the first `c`, if there is one.
    by_cases hc : c ∈ s
    · obtain ⟨a', b, rfl, ha'⟩ := List.eq_append_cons_of_mem hc
      rw [List.splitOn_append_cons_self_of_not_mem ha'] at h
      obtain rfl : a' = a := by simpa using h
      exact ⟨ha', .inr ⟨b, rfl⟩⟩
    · rw [List.splitOn_eq_singleton hc] at h
      obtain rfl : s = a := by simpa using h
      exact ⟨hc, .inl rfl⟩
  · rintro ⟨ha, rfl | ⟨b, rfl⟩⟩
    · rw [List.splitOn_eq_singleton ha]
      rfl
    · rw [List.splitOn_append_cons_self_of_not_mem ha]
      rfl

theorem rfind_of_not_mem (h : c ∉ s) : rfind c s = none := by
  induction s with
  | nil => rfl
  | cons x s ih =>
    obtain ⟨hx, hs⟩ := not_or.mp (mt List.mem_cons.mpr h)
    rw [rfind, ih hs]
    exact if_neg (Ne.symm hx)

/-- `rfind` finds the last occurrence. -/
theorem rfind_append_cons (hb : c ∉ b) (a : Str) :
    (rfind c (a ++ c :: b)).map Fin.val = some a.length := by
  induction a with
  | nil =>
    show (rfind c (c :: b)).map Fin.val = some 0
    rw [rfind, rfind_of_not_mem hb]
    simp
  | cons x a ih =>
    obtain ⟨i, hi, hlen⟩ := Option.map_eq_some_iff.mp ih
    -- The search finds the one behind `x` first.
    show (rfind c (x :: (a ++ c :: b))).map Fin.val = some (a.length + 1)
    rw [rfind, hi, ← hlen]
    rfl

/-- What stands behind the last occurrence. -/
theorem rfind_bind_drop {α : Type} (f : Str → Option α) (s : Str) :
    ((rfind c s).bind fun i => f (s.drop (i + 1))) = if c ∈ s then f (lastPiece c s) else none := by
  by_cases h : c ∈ s
  · obtain ⟨a, b, rfl, hb⟩ := exists_eq_append_cons h
    obtain ⟨i, hi, hlen⟩ := Option.map_eq_some_iff.mp (rfind_append_cons hb a)
    have hdrop : (a ++ c :: b).drop (i + 1) = b := by
      rw [hlen, List.append_cons]
      exact List.drop_left' (by simp)
    rw [if_pos h, lastPiece_of_last hb, hi]
    exact congrArg f hdrop
  · rw [rfind_of_not_mem h, if_neg h]
    rfl

/-! ## Replacing -/

section Replace

variable {t : Str}

theorem replace_of_absent (h : ¬ p <:+: s) : replace s p t = s := by
  induction s with
  | nil => rfl
  | cons x s ih =>
    obtain ⟨hfirst, hrest⟩ := not_or.mp (mt List.infix_cons_iff.mpr h)
    rw [← List.isPrefixOf_iff_prefix] at hfirst
    show (if _ then _ else x :: replace s p t) = _
    rw [if_neg hfirst, ih hrest]

/-- A replacement by something not longer does not make a string longer, also in the middle of a
skip. -/
theorem length_replaceFrom_le (ht : t.length ≤ p.length) (n : ℕ) (hn : n ≤ s.length) :
    (replaceFrom p t n s).length + n ≤ s.length := by
  induction s generalizing n with
  | nil =>
    obtain rfl : n = 0 := Nat.le_zero.mp hn
    exact Nat.le_refl _
  | cons x s ih =>
    rw [List.length_cons] at hn ⊢
    cases n with
    | succ n =>
      -- Within a skip, a character of the pattern is passed over.
      have := ih n (by omega)
      show (replaceFrom p t n s).length + (n + 1) ≤ _
      omega
    | zero =>
      rw [replaceFrom]
      split
      · next hfound =>
        -- The replacement is written, and the rest of the pattern skipped.
        have hlen := (List.isPrefixOf_iff_prefix.mp hfound).length_le
        rw [List.length_cons] at hlen
        have := ih (p.length - 1) (by omega)
        rw [List.length_append]
        omega
      · have := ih 0 (Nat.zero_le _)
        rw [List.length_cons]
        omega

/-- A replacement by something shorter makes a string shorter where it finds the pattern. -/
theorem length_replace_lt (ht : t.length < p.length) (h : p <:+: s) :
    (replace s p t).length < s.length := by
  induction s with
  | nil =>
    obtain rfl := List.infix_nil.mp h
    cases ht
  | cons x s ih =>
    show (if _ then _ else x :: replace s p t).length < _
    rw [List.length_cons]
    split
    · next hfound =>
      -- The pattern stands here.
      have hlen := (List.isPrefixOf_iff_prefix.mp hfound).length_le
      rw [List.length_cons] at hlen
      have := length_replaceFrom_le (s := s) (t := t) (Nat.le_of_lt ht) (p.length - 1) (by omega)
      rw [List.length_append]
      omega
    · next hmiss =>
      -- It stands further behind.
      rw [List.isPrefixOf_iff_prefix] at hmiss
      have := ih ((List.infix_cons_iff.mp h).resolve_left hmiss)
      rw [List.length_cons]
      omega

theorem replace_eq_self_iff (ht : t.length < p.length) : replace s p t = s ↔ ¬ p <:+: s := by
  refine ⟨fun heq hpart => ?_, replace_of_absent⟩
  have hlt := length_replace_lt ht hpart
  rw [heq] at hlt
  exact Nat.lt_irrefl _ hlt

end Replace

end Text

end Bifrost
