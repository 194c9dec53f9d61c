import BifrostCore.Store

/-!
# Foreign functions

The functions the proxy calls that are not in the repository and compute a value: the URI parser
of the `http` crate, the serializer derived by `serde`, the table of reason phrases, and the
rendering of floating-point sizes. They are parameters of the model. What a result relies on is
stated as a property of these functions next to it.
-/

namespace Bifrost

/-- The foreign functions, and the one build setting the code's behaviour depends on. -/
structure Externals where
  /-- `Uri::try_from`: what `Request::builder().uri(..)` accepts. -/
  parseUri : Str → Result Uri
  /-- `serde_json::to_value` of a record. -/
  toValue : NetworkRecord → Result Json
  /-- `StatusCode::canonical_reason`. -/
  canonicalReason : UInt16 → Option Str
  /-- `format!("{:.2}", n as f64 / 1_048_576.0)`. -/
  megabytes : UInt64 → Str
  /-- Whether the build checks integer arithmetic for overflow. -/
  overflowChecks : Bool

namespace Externals

/-- `a - b` on `u64`: `none` where the build checks for overflow and it does. -/
def subU64 (X : Externals) (a b : UInt64) : Option UInt64 :=
  if X.overflowChecks ∧ a < b then none else some (a - b)

/-- The parser cuts a URI with a scheme as RFC 3986 does (section 3): the authority is what stands
between `://` and the first delimiter. -/
def CutsAuthority (X : Externals) : Prop :=
  ∀ (scheme rest : Str) (uri : Uri), scheme ≠ [] → scheme.all isSchemeChar →
    X.parseUri (scheme ++ "://".toList ++ rest) = .ok uri →
      uri.rawScheme.isSome ∧ uri.rawAuthority = beforeDelimiter rest

/-! ### A parser of absolute URIs

Absolute URIs are all the proxy builds a request for. The parser below is one to run the model with:
it accepts nothing that the `http` crate rejects, and cuts what it accepts as the crate does. -/

/-- A character that stands for itself in a URI (RFC 3986, sections 2.2 and 2.3). -/
def isPlainChar (c : Char) : Bool :=
  c.isAlphanum || "-._~!$&()*+,;=".toList.contains c || c.toNat = 39

/-- A port with its colon, or nothing. -/
def acceptsPort (s : Str) : Bool := s = [] || (s.head? = some ':' && (s.drop 1).all Char.isDigit)

/-- A host, which is a name or an address in brackets, and what may follow of a port. -/
def acceptsHostPort (s : Str) : Bool :=
  if s.head? = some '[' then
    let addr := (s.drop 1).takeWhile fun c => c.isAlphanum || c = ':' || c = '.'
    let rest := s.drop (1 + addr.length)
    addr ≠ [] && addr.count ':' ≤ 8 && rest.head? = some ']' && acceptsPort (rest.drop 1)
  else
    let name := s.takeWhile isPlainChar
    name ≠ [] && acceptsPort (s.drop name.length)

/-- An authority, with user information or without. -/
def acceptsAuthority (s : Str) : Bool :=
  match Text.split '@' s with
  | [hostPort] => acceptsHostPort hostPort
  | [userinfo, hostPort] =>
    userinfo.all (fun c => isPlainChar c || c = ':' || c = '%') && userinfo.count ':' ≤ 8 &&
      acceptsHostPort hostPort
  | _ => false

/-- A path that is empty or starts with a slash, with or without a query. -/
def acceptsTail (s : Str) : Bool :=
  (s = [] || s.head? = some '/' || s.head? = some '?') &&
    s.all fun c => isPlainChar c || "/?:@%".toList.contains c

/-- The scheme as the crate keeps it: the two it knows in lower case. -/
def keptScheme (s : Str) : Str :=
  if s.map Char.toLower = "http".toList then "http"
  else if s.map Char.toLower = "https".toList then "https"
  else s

theorem keptScheme_chars {s : Str} (h : s ≠ [] ∧ s.all isSchemeChar) :
    keptScheme s ≠ [] ∧ (keptScheme s).all isSchemeChar := by
  unfold keptScheme
  split_ifs
  · decide
  · decide
  · exact h

/-- The parser. -/
def parseAbsolute (s : Str) : Result Uri :=
  let scheme := s.takeWhile isSchemeChar
  let rest := s.drop scheme.length
  let authority := (rest.drop 3).takeWhile (! isDelimiter ·)
  let tail := ((rest.drop 3).drop authority.length).takeWhile (· ≠ '#')
  let path := tail.takeWhile (· ≠ '?')
  if h : (scheme ≠ [] ∧ authority ≠ [] ∧ (path = [] ∨ path.head? = some '/')) ∧
      rest.take 3 = "://".toList ∧ scheme.length ≤ 64 ∧ Text.len s < 65535 ∧
      acceptsAuthority authority ∧ acceptsTail tail then
    .ok
      { rawScheme := some (keptScheme scheme)
        rawAuthority := authority
        rawPath := path
        query := (tail.drop path.length).tail?
        scheme_chars := by
          intro s' hs'
          obtain rfl : keptScheme scheme = s' := Option.some.inj hs'
          exact keptScheme_chars ⟨h.1.1, List.all_takeWhile⟩
        authority_of_scheme := fun _ => h.1.2.1
        authority_chars := List.all_takeWhile
        path_shape := fun _ => h.1.2.2 }
  else .error "invalid uri"

theorem takeWhile_scheme {scheme : Str} (h : scheme.all isSchemeChar) (rest : Str) :
    (scheme ++ "://".toList ++ rest).takeWhile isSchemeChar = scheme := by
  rw [List.append_assoc, List.takeWhile_append_of_pos (by simpa using h)]
  have hcolon : isSchemeChar ':' = false := by decide
  simp [hcolon]

/-- `parseAbsolute` cuts a URI where it should. -/
theorem parseAbsolute_cuts {scheme rest : Str} {uri : Uri} (hscheme : scheme.all isSchemeChar)
    (h : parseAbsolute (scheme ++ "://".toList ++ rest) = .ok uri) :
    uri.rawScheme.isSome ∧ uri.rawAuthority = beforeDelimiter rest := by
  have hrest : ((scheme ++ "://".toList ++ rest).drop
      ((scheme ++ "://".toList ++ rest).takeWhile isSchemeChar).length).drop 3 = rest := by
    rw [takeWhile_scheme hscheme, List.append_assoc, List.drop_left]
    rfl
  -- What is accepted has the authority that the parser has cut there.
  unfold parseAbsolute at h
  dsimp only at h
  split at h
  · cases h
    exact ⟨rfl, congrArg beforeDelimiter hrest⟩
  · cases h

end Externals

end Bifrost
