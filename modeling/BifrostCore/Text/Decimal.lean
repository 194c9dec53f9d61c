import Mathlib.Data.List.Induction
import BifrostCore.Text

/-!
# Decimal numbers

`parse::<u16>` reads more than what `format!` prints: it passes over a plus sign and over leading
zeros.

* `Spells` — the texts of a number.
* `parseUInt16_eq_some_iff` — these texts are parsed as the number, and no others.
-/

namespace Bifrost

namespace Text

variable {s : Str} {n : ℕ} {c : Char}

theorem parseDigits_of_digits (hs : s.all Char.isDigit) (acc : ℕ) :
    parseDigits acc s = some (Nat.ofDigitChars 10 s acc) := by
  induction s generalizing acc with
  | nil => rfl
  | cons c s ih =>
    obtain ⟨hc, hs⟩ : c.isDigit = true ∧ s.all Char.isDigit = true := by simpa using hs
    rw [parseDigits, if_pos hc, ih hs, Nat.ofDigitChars_cons]

theorem digits_of_parseDigits {acc : ℕ} (h : parseDigits acc s = some n) : s.all Char.isDigit := by
  induction s generalizing acc with
  | nil => rfl
  | cons c s ih =>
    rw [parseDigits] at h
    split at h
    · next hc => rw [List.all_cons, hc, ih h, Bool.and_self]
    · cases h

theorem decimal_digits (n : ℕ) : (decimal n).all Char.isDigit := by
  rw [List.all_eq_true]
  exact fun c hc => Nat.isDigit_of_mem_toDigits (by decide) (by decide) hc

/-- A digit and its value. -/
theorem decimal_of_isDigit (hc : c.isDigit) :
    c.toNat - '0'.toNat < 10 ∧ decimal (c.toNat - '0'.toNat) = [c] := by
  obtain ⟨hlow, hhigh⟩ := Char.isDigit_iff_toNat.mp hc
  have hzero : '0'.toNat = 48 := rfl
  have hnine : '9'.toNat = 57 := rfl
  have hlt : c.toNat - '0'.toNat < 10 := by omega
  refine ⟨hlt, ?_⟩
  have hchar : Nat.digitChar (c.toNat - '0'.toNat) = c := by
    apply Char.toNat_inj.mp
    rw [Nat.toNat_digitChar_of_lt_ten hlt]
    omega
  rw [decimal, Nat.toDigits_of_lt_base hlt, hchar]

/-- A string of digits is a number behind some zeros. -/
theorem exists_eq_zeros_append (hs : s.all Char.isDigit) (hne : s ≠ []) :
    ∃ k, s = List.replicate k '0' ++ decimal (Nat.ofDigitChars 10 s 0) := by
  -- `decimal` makes its digits from the last one on, so the induction takes them off at the end.
  induction s using List.reverseRecOn with
  | nil => exact absurd rfl hne
  | append_singleton s c ih =>
    obtain ⟨hs, hc⟩ : s.all Char.isDigit = true ∧ c.isDigit = true := by simpa using hs
    obtain ⟨hlt, hdigit⟩ := decimal_of_isDigit hc
    have hvalue : Nat.ofDigitChars 10 (s ++ [c]) 0 =
        10 * Nat.ofDigitChars 10 s 0 + (c.toNat - '0'.toNat) := by
      rw [Nat.ofDigitChars_append, Nat.ofDigitChars_cons, Nat.ofDigitChars_nil]
    rw [hvalue]
    by_cases hempty : s = []
    · subst hempty
      exact ⟨0, by simpa using hdigit.symm⟩
    obtain ⟨k, hk⟩ := ih hs hempty
    rcases Nat.eq_zero_or_pos (Nat.ofDigitChars 10 s 0) with hzero | hpos
    · -- Only zeros stand before the digit.
      rw [hzero] at hk ⊢
      refine ⟨k + 1, ?_⟩
      rw [Nat.mul_zero, Nat.zero_add, hdigit, hk, List.replicate_succ']
      rfl
    · refine ⟨k, ?_⟩
      rw [decimal, ← Nat.toDigits_append_toDigits (by decide) hpos hlt, ← decimal, ← decimal,
        hdigit, ← List.append_assoc, ← hk]

/-- The texts of a number: a plus sign or none, some zeros or none, and the number. -/
def Spells (n : UInt16) (s : Str) : Prop :=
  ∃ sign k, (sign = [] ∨ sign = ['+']) ∧ s = sign ++ (List.replicate k '0' ++ decimal n.toNat)

theorem zeros_append_decimal_digits (k n : ℕ) :
    (List.replicate k '0' ++ decimal n).all Char.isDigit := by
  rw [List.all_append, decimal_digits, Bool.and_true, List.all_replicate]
  simp

theorem decimal_ne_nil (n : ℕ) : decimal n ≠ [] := Nat.toDigits_ne_nil

/-- What `parse::<u16>` does with the text behind the sign. -/
theorem parseDigits_bind_iff {n : UInt16} :
    (s ≠ [] ∧ ((parseDigits 0 s).bind fun m =>
      if m < 2 ^ 16 then some (UInt16.ofNat m) else none) = some n) ↔
      ∃ k, s = List.replicate k '0' ++ decimal n.toNat := by
  constructor
  · rintro ⟨hne, h⟩
    obtain ⟨m, hm, hlt⟩ := Option.bind_eq_some_iff.mp h
    have hdigits := digits_of_parseDigits hm
    rw [parseDigits_of_digits hdigits] at hm
    split at hlt
    · next hsmall =>
      obtain rfl := Option.some.inj hlt
      obtain ⟨k, hk⟩ := exists_eq_zeros_append hdigits hne
      refine ⟨k, ?_⟩
      rw [UInt16.toNat_ofNat', Nat.mod_eq_of_lt hsmall, ← Option.some.inj hm]
      exact hk
    · cases hlt
  · rintro ⟨k, rfl⟩
    refine ⟨by simp [decimal_ne_nil], ?_⟩
    rw [parseDigits_of_digits (zeros_append_decimal_digits _ _), Nat.ofDigitChars_append,
      Nat.ofDigitChars_replicate_zero, Nat.mul_zero, decimal, Nat.ofDigitChars_ten_toDigits]
    simp [n.toNat_lt]

theorem zeros_append_decimal_ne_plus (k n : ℕ) (cs : Str) :
    List.replicate k '0' ++ decimal n ≠ '+' :: cs := by
  intro h
  have hdigits := zeros_append_decimal_digits k n
  rw [h, List.all_cons] at hdigits
  cases hdigits

theorem parseUInt16_eq_some_iff {n : UInt16} : parseUInt16 s = some n ↔ Spells n s := by
  have hdigits : ∀ d : Str, ((if d.isEmpty then none else (parseDigits 0 d).bind fun m =>
      if m < 2 ^ 16 then some (UInt16.ofNat m) else none) = some n) ↔
        ∃ k, d = List.replicate k '0' ++ decimal n.toNat := by
    intro d
    rw [← parseDigits_bind_iff]
    cases d <;> simp
  unfold parseUInt16
  split
  · next cs =>
    rw [hdigits]
    constructor
    · rintro ⟨k, rfl⟩
      exact ⟨['+'], k, .inr rfl, rfl⟩
    · rintro ⟨sign, k, rfl | rfl, hk⟩
      · exact absurd hk.symm (zeros_append_decimal_ne_plus _ _ _)
      · exact ⟨k, (List.cons.inj hk).2⟩
  · next hsign =>
    rw [hdigits]
    constructor
    · rintro ⟨k, rfl⟩
      exact ⟨[], k, .inl rfl, rfl⟩
    · rintro ⟨sign, k, rfl | rfl, hk⟩
      · exact ⟨k, hk⟩
      · exact absurd hk (hsign _)

end Text

end Bifrost
