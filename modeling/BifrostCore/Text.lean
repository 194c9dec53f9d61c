import Mathlib.Algebra.Ring.Nat
import Mathlib.Data.List.Basic

/-!
# Strings

Rust's `str` as a list of characters, with the functions of the standard library the proxy uses
on it. Each function computes, so that a request can be followed through the model by `decide`.

* `split`, `rfind`, `trim`, `join` — cutting and joining.
* `contains`, `replace` — substring search and textual replacement, which `replace_append_cons` does
  piece by piece.
* `parseUInt16` — `str::parse::<u16>`.
-/

namespace Bifrost

/-- A `str`: its characters. -/
abbrev Str := List Char

/-- A string literal is a `Str` wherever one is expected. -/
instance : Coe String Str := ⟨String.toList⟩

namespace Text

/-- `s.split(c)`: the pieces between the occurrences of `c`, at least one. -/
def split (c : Char) (s : Str) : List Str := s.splitOn c

/-- `s.rfind(c)`: the position of the last `c`, with the bound that lets `s` be cut there. -/
def rfind (c : Char) : (s : Str) → Option (Fin s.length)
  | [] => none
  | x :: xs =>
    match rfind c xs with
    | some i => some i.succ
    | none => if x = c then some 0 else none

/-- `s.trim()`, on the white space a header value can hold. -/
def trim (s : Str) : Str :=
  ((s.dropWhile Char.isWhitespace).reverse.dropWhile Char.isWhitespace).reverse

/-- `parts.join(sep)`. -/
def join (sep : Str) (parts : List Str) : Str := sep.intercalate parts

/-- `s.to_lowercase()`, on ASCII. -/
def toLowercase (s : Str) : Str := s.map Char.toLower

/-- `s.contains(p)`: `p` occurs somewhere in `s`. -/
def contains (s p : Str) : Bool :=
  match s with
  | [] => p.isEmpty
  | c :: cs => p.isPrefixOf (c :: cs) || contains cs p

/-- The scan of `replace`: skip the next `n` characters, then go on replacing. -/
def replaceFrom (p t : Str) : ℕ → Str → Str
  | _, [] => []
  | n + 1, _ :: cs => replaceFrom p t n cs
  | 0, c :: cs =>
    if p.isPrefixOf (c :: cs) then t ++ replaceFrom p t (p.length - 1) cs
    else c :: replaceFrom p t 0 cs

/-- `s.replace(p, t)` for a non-empty `p`: the occurrences of `p`, found from the left and not
overlapping, become `t`. -/
def replace (s p t : Str) : Str := replaceFrom p t 0 s

/-- The value of a string of decimal digits, read onto `acc`. -/
def parseDigits (acc : ℕ) : Str → Option ℕ
  | [] => some acc
  | c :: cs => if c.isDigit then parseDigits (10 * acc + (c.toNat - '0'.toNat)) cs else none

/-- `s.parse::<u16>()`: decimal digits, after an optional plus sign, of a number below `2 ^ 16`. -/
def parseUInt16 (s : Str) : Option UInt16 :=
  let digits := match s with
    | '+' :: cs => cs
    | cs => cs
  if digits.isEmpty then none
  else (parseDigits 0 digits).bind fun n => if n < 2 ^ 16 then some (UInt16.ofNat n) else none

/-- The decimal digits of a number, as `format!("{}", n)` prints them. -/
def decimal (n : ℕ) : Str := Nat.toDigits 10 n

/-- `s.len()`: the number of bytes. -/
def len (s : Str) : ℕ := (s.map Char.utf8Size).sum

/-- `s[..n]`: the first `n` bytes, if they end with a character. -/
def takeBytes : ℕ → Str → Option Str
  | 0, _ => some []
  | _ + 1, [] => none
  | n + 1, c :: cs =>
    if c.utf8Size ≤ n + 1 then (takeBytes (n + 1 - c.utf8Size) cs).map (c :: ·) else none

/-! ## Replacement piece by piece -/

section Replace

variable {p t : Str} {c : Char}

/-- A pattern without `c` is not found across a `c`. -/
theorem isPrefixOf_append_cons (hc : c ∉ p) (a b : Str) :
    p.isPrefixOf (a ++ c :: b) = p.isPrefixOf a := by
  induction p generalizing a with
  | nil => simp
  | cons x p ih =>
    obtain ⟨hx, hp⟩ := not_or.mp (mt List.mem_cons.mpr hc)
    cases a with
    | nil => simp [List.isPrefixOf, Ne.symm hx]
    | cons y a => simp [List.isPrefixOf, ih hp]

/-- Replacing a pattern without `c` is done on both sides of a `c` separately, also in the middle of
a skip. -/
theorem replaceFrom_append_cons (hp : p ≠ []) (hc : c ∉ p) (a b : Str) (n : ℕ)
    (hn : n ≤ a.length) :
    replaceFrom p t n (a ++ c :: b) = replaceFrom p t n a ++ c :: replace b p t := by
  induction a generalizing n with
  | nil =>
    obtain rfl : n = 0 := Nat.le_zero.mp hn
    have hno : p.isPrefixOf (c :: b) = false := by
      have := isPrefixOf_append_cons hc [] b
      cases p with
      | nil => exact absurd rfl hp
      | cons x p => simpa using this
    show replaceFrom p t 0 (c :: b) = c :: replace b p t
    rw [replaceFrom, if_neg (by simp [hno])]
    rfl
  | cons x a ih =>
    cases n with
    | succ n => exact ih n (Nat.le_of_succ_le_succ hn)
    | zero =>
      -- What is found at `x` ends before the `c`, so the skip after it does, too.
      have hfind : p.isPrefixOf (x :: (a ++ c :: b)) = p.isPrefixOf (x :: a) :=
        isPrefixOf_append_cons hc (x :: a) b
      rw [List.cons_append, replaceFrom, replaceFrom, hfind]
      by_cases hfound : p.isPrefixOf (x :: a) = true
      · have hlen := (List.isPrefixOf_iff_prefix.mp hfound).length_le
        rw [List.length_cons] at hlen
        rw [if_pos hfound, if_pos hfound, ih _ (by omega), List.append_assoc]
      · rw [if_neg hfound, if_neg hfound, ih 0 (Nat.zero_le _)]
        rfl

theorem replace_append_cons (hp : p ≠ []) (hc : c ∉ p) (a b : Str) :
    replace (a ++ c :: b) p t = replace a p t ++ c :: replace b p t :=
  replaceFrom_append_cons hp hc a b 0 (Nat.zero_le _)

/-- A replacement puts in only what it keeps and the new text. -/
theorem all_replaceFrom {f : Char → Bool} (ht : t.all f) (n : ℕ) {s : Str} (hs : s.all f) :
    (replaceFrom p t n s).all f := by
  induction s generalizing n with
  | nil => cases n <;> rfl
  | cons x s ih =>
    obtain ⟨hx, hs⟩ : f x = true ∧ s.all f = true := by simpa using hs
    cases n with
    | succ n => exact ih n hs
    | zero =>
      show List.all (if _ then _ else _) f = true
      split
      · rw [List.all_append, ht, ih _ hs]
        rfl
      · rw [List.all_cons, hx, ih _ hs]
        rfl

theorem replace_ne_nil (ht : t ≠ []) {s : Str} (hs : s ≠ []) : replace s p t ≠ [] := by
  cases s with
  | nil => exact absurd rfl hs
  | cons x s =>
    show (if _ then _ else _) ≠ []
    split
    · simp [ht]
    · simp

end Replace

example : split ':' "example.com:443" = ["example.com".toList, "443".toList] := by decide
example : (rfind ':' "[::1]:443".toList).map Fin.val = some 5 := by decide
example : parseUInt16 "65535" = some 65535 ∧ parseUInt16 "65536" = none := by decide
example : replace "http://http.example" "http" "ws" = "ws://ws.example".toList := by decide

end Text

end Bifrost
