import Mathlib.Data.List.DropRight
import Mathlib.Data.List.Infix
import BifrostCore.Text.Search

/-!
# Lists of tokens

A header value as a list of tokens: the pieces between its commas, trimmed. Joining the tokens with
commas gives a value with the same tokens, and a word that is searched for in a value is searched
for in its tokens.

* `tokens_join_tokens` — the round trip.
* `infix_iff_tokens` — a word stands in a value if it stands in one of its tokens.
* `tokens_toLowercase` — the tokens of a value in lower case.
-/

namespace Bifrost

namespace Text

variable {p s a b : Str} {c : Char}

/-- The pieces between the commas, trimmed. -/
def tokens (s : Str) : List Str := (split ',' s).map trim

/-! ## Trimming -/

theorem trim_eq (s : Str) : trim s = (s.dropWhile Char.isWhitespace).rdropWhile Char.isWhitespace :=
  rfl

/-- Trimming takes white space away at both ends. -/
theorem exists_eq_append_trim (s : Str) :
    ∃ a b, s = a ++ (trim s ++ b) ∧ a.all Char.isWhitespace ∧ b.all Char.isWhitespace := by
  refine ⟨s.takeWhile Char.isWhitespace,
    (s.dropWhile Char.isWhitespace).rtakeWhile Char.isWhitespace, ?_, List.all_takeWhile, ?_⟩
  · rw [trim_eq, List.rdropWhile_append_rtakeWhile, List.takeWhile_append_dropWhile]
  · rw [List.rtakeWhile, List.all_reverse]
    exact List.all_takeWhile

theorem mem_of_mem_trim (h : c ∈ trim s) : c ∈ s := by
  obtain ⟨a, b, hs, -, -⟩ := exists_eq_append_trim s
  rw [hs]
  simp [h]

theorem trim_trim (s : Str) : trim (trim s) = trim s := by
  -- What is left after both ends were trimmed still begins with no white space.
  have hfront : (trim s).dropWhile Char.isWhitespace = trim s := by
    obtain ⟨rest, hrest⟩ := List.rdropWhile_prefix Char.isWhitespace
      (l := s.dropWhile Char.isWhitespace)
    rw [← trim_eq] at hrest
    cases htrim : trim s with
    | nil => rfl
    | cons x t =>
      have hx := List.dropWhile_eq_self_iff.mp
        (List.dropWhile_idempotent Char.isWhitespace (l := s))
      rw [← hrest, htrim] at hx
      have hneg : ¬ x.isWhitespace = true := hx (by simp)
      rw [List.dropWhile_cons_of_neg hneg]
  rw [trim_eq, hfront, trim_eq, List.rdropWhile_idempotent]

/-- A word without white space stands in a string if it does in the trimmed one. -/
theorem infix_trim_iff (hp : p ≠ []) (hword : ∀ c ∈ p, c.isWhitespace = false) :
    p <:+: trim s ↔ p <:+: s := by
  have hnot : ∀ c : Char, c.isWhitespace = true → c ∉ p := fun c hc hmem => by
    rw [hword c hmem] at hc
    cases hc
  -- White space in front is passed over, and in white space behind nothing is found.
  have hleft : ∀ a b : Str, a.all Char.isWhitespace → (p <:+: a ++ b ↔ p <:+: b) := by
    intro a b ha
    induction a with
    | nil => rfl
    | cons x a ih =>
      obtain ⟨hx, ha⟩ : x.isWhitespace = true ∧ a.all Char.isWhitespace = true := by simpa using ha
      rw [List.cons_append, infix_cons_iff_of_not_mem (hnot x hx), ih ha]
  have hright : ∀ a b : Str, b.all Char.isWhitespace → (p <:+: a ++ b ↔ p <:+: a) := by
    intro a b hb
    cases b with
    | nil => rw [List.append_nil]
    | cons y b =>
      obtain ⟨hy, hb⟩ : y.isWhitespace = true ∧ b.all Char.isWhitespace = true := by simpa using hb
      rw [infix_append_cons_iff (hnot y hy)]
      refine or_iff_left fun hpart => ?_
      obtain ⟨x, hx⟩ := List.exists_mem_of_ne_nil p hp
      exact hnot x (List.all_eq_true.mp hb x (hpart.subset hx)) hx
  obtain ⟨a, b, hs, ha, hb⟩ := exists_eq_append_trim s
  conv_rhs => rw [hs]
  rw [hleft _ _ ha, hright _ _ hb]

/-! ## Splitting -/

theorem not_mem_of_mem_split {piece : Str} (h : piece ∈ split c s) : c ∉ piece := by
  unfold split at h
  induction s generalizing piece with
  | nil =>
    obtain rfl : piece = [] := by simpa using h
    simp
  | cons x s ih =>
    rw [List.splitOn_cons_eq_if_modifyHead] at h
    split at h
    · rcases List.mem_cons.mp h with rfl | h
      · simp
      · exact ih h
    · next hx =>
      -- Another character is put in front of the first piece of what follows.
      obtain ⟨first, rest, hsplit⟩ := List.exists_cons_of_ne_nil (List.splitOn_ne_nil c s)
      rw [hsplit, List.modifyHead_cons] at h
      rcases List.mem_cons.mp h with rfl | h
      · have hfirst : c ∉ first := ih (hsplit ▸ List.mem_cons_self)
        simpa [Ne.symm (by simpa using hx)] using hfirst
      · exact ih (hsplit ▸ List.mem_cons_of_mem _ h)

/-- A word without `c` stands in joined pieces if it does in one of them. -/
theorem infix_intercalate_iff (hc : c ∉ p) {pieces : List Str} (hne : pieces ≠ []) :
    p <:+: [c].intercalate pieces ↔ ∃ piece ∈ pieces, p <:+: piece := by
  induction pieces with
  | nil => exact absurd rfl hne
  | cons first pieces ih =>
    cases pieces with
    | nil => simp
    | cons second pieces =>
      rw [List.intercalate_cons_cons, List.append_assoc, List.singleton_append,
        infix_append_cons_iff hc, ih (by simp)]
      simp

/-- A word without `c` stands in a string if it does in one of the pieces between the `c`. -/
theorem infix_iff_split (hc : c ∉ p) : p <:+: s ↔ ∃ piece ∈ split c s, p <:+: piece := by
  rw [split, ← infix_intercalate_iff hc (List.splitOn_ne_nil c s), List.intercalate_splitOn]

/-! ## Tokens -/

theorem tokens_ne_nil (s : Str) : tokens s ≠ [] := by
  simp [tokens, split]

/-- Joining tokens and cutting them again. -/
theorem tokens_join_tokens (s : Str) : tokens (join "," (tokens s)) = tokens s := by
  have hsplit : split ',' (join "," (tokens s)) = tokens s := by
    refine List.splitOn_intercalate ',' (fun token htoken => ?_) (tokens_ne_nil s)
    obtain ⟨piece, hpiece, rfl⟩ := List.mem_map.mp htoken
    exact fun hmem => not_mem_of_mem_split hpiece (mem_of_mem_trim hmem)
  unfold tokens at hsplit ⊢
  rw [hsplit, List.map_map]
  exact List.map_congr_left fun piece _ => trim_trim piece

/-- Joined tokens consist of characters of the value, and commas. -/
theorem mem_join_tokens (h : c ∈ join "," (tokens s)) : c = ',' ∨ c ∈ s := by
  refine or_iff_not_imp_left.mpr fun hne => ?_
  have hcomma : ',' ∉ [c] := fun hmem => hne (List.mem_singleton.mp hmem).symm
  obtain ⟨token, htoken, hpart⟩ := (infix_intercalate_iff hcomma (tokens_ne_nil s)).mp
    ((List.singleton_infix_iff c _).mpr h)
  obtain ⟨piece, hpiece, rfl⟩ := List.mem_map.mp htoken
  have hmem := mem_of_mem_trim ((List.singleton_infix_iff c _).mp hpart)
  exact (List.singleton_infix_iff c s).mp
    ((infix_iff_split hcomma).mpr ⟨piece, hpiece, (List.singleton_infix_iff c piece).mpr hmem⟩)

/-- A word without commas and white space stands in a value if it does in one of its tokens. -/
theorem infix_iff_tokens (hp : p ≠ []) (hcomma : ',' ∉ p)
    (hword : ∀ c ∈ p, c.isWhitespace = false) : p <:+: s ↔ ∃ token ∈ tokens s, p <:+: token := by
  rw [infix_iff_split hcomma]
  simp [tokens, infix_trim_iff hp hword]

/-! ## Lower case -/

/-- Only letters change their case. -/
theorem toLower_eq_iff {x : Char} (hc : c < 'A') : x.toLower = c ↔ x = c := by
  unfold Char.toLower
  split
  · next hx =>
    have hlow : 65 ≤ x.val.toNat := UInt32.le_iff_toNat_le.mp hx.1
    have hhigh : x.val.toNat ≤ 90 := UInt32.le_iff_toNat_le.mp hx.2
    have hlt : c.val.toNat < 65 := UInt32.lt_iff_toNat_lt.mp hc
    refine iff_of_false (fun heq => ?_) (fun heq => ?_)
    · have hval : x.val + 32 = c.val := congrArg Char.val heq
      have hnat := congrArg UInt32.toNat hval
      rw [UInt32.toNat_add] at hnat
      simp only [UInt32.reduceToNat] at hnat
      omega
    · rw [heq] at hlow
      omega
  · exact Iff.rfl

theorem isWhitespace_toLower (x : Char) : x.toLower.isWhitespace = x.isWhitespace := by
  simp [Char.isWhitespace, toLower_eq_iff]

theorem trim_toLowercase (s : Str) : trim (toLowercase s) = toLowercase (trim s) := by
  have hspace : Char.isWhitespace ∘ Char.toLower = Char.isWhitespace :=
    funext isWhitespace_toLower
  unfold trim toLowercase
  rw [List.dropWhile_map, hspace, ← List.map_reverse, List.dropWhile_map, hspace,
    ← List.map_reverse]

theorem split_toLowercase (hc : c < 'A') (s : Str) :
    split c (toLowercase s) = (split c s).map toLowercase := by
  unfold split toLowercase
  induction s with
  | nil => rfl
  | cons x s ih =>
    rw [List.map_cons, List.splitOn_cons_eq_if_modifyHead, List.splitOn_cons_eq_if_modifyHead, ih]
    by_cases hx : x = c
    · rw [if_pos (by simp [toLower_eq_iff hc, hx]), if_pos (by simp [hx])]
      rfl
    · rw [if_neg (by simp [toLower_eq_iff hc, hx]), if_neg (by simp [hx])]
      cases List.splitOn c s <;> rfl

/-- The tokens of a value in lower case. -/
theorem tokens_toLowercase (s : Str) : tokens (toLowercase s) = (tokens s).map toLowercase := by
  unfold tokens
  rw [split_toLowercase (by decide), List.map_map, List.map_map]
  exact List.map_congr_left fun piece _ => trim_toLowercase piece

end Text

end Bifrost
