import Mathlib.Data.List.TakeWhile
import BifrostCore.Text

/-!
# HTTP messages

The parts of the `http` crate's types the proxy reads: methods, versions, URIs, header maps,
requests and responses. A `Uri` carries what the crate guarantees of its values, so a URI with a
scheme but no authority cannot be built, and what its parser guarantees of the path behind an
authority. The URIs that `h2` puts together from the pseudo headers of a request are parsed part by
part, and `:path: *` next to a `:scheme` comes out of that as an absolute URI without such a path:
requests of this kind are not among the requests of the model.

The parser itself is not in the repository. It enters the model as `Externals.parseUri`, together
with the other foreign functions the code calls; what a result needs of it is stated where it is
needed.
-/

namespace Bifrost

/-- A result whose error is kept as the text it displays. -/
abbrev Result (α : Type) := Except Str α

/-- `http::Method`. -/
inductive Method where
  | get | post | put | delete | head | options | connect | patch | trace
  /-- A method outside the standard ones. -/
  | extension (name : Str)
  deriving DecidableEq, Repr

namespace Method

/-- `Method::as_str`. -/
def asStr : Method → Str
  | .get => "GET"
  | .post => "POST"
  | .put => "PUT"
  | .delete => "DELETE"
  | .head => "HEAD"
  | .options => "OPTIONS"
  | .connect => "CONNECT"
  | .patch => "PATCH"
  | .trace => "TRACE"
  | .extension name => name

end Method

/-- `http::Version`. -/
inductive Version where
  | http09 | http10 | http11 | http2 | http3
  deriving DecidableEq, Repr

namespace Version

/-- The version as `{:?}` prints it. -/
def debug : Version → Str
  | .http09 => "HTTP/0.9"
  | .http10 => "HTTP/1.0"
  | .http11 => "HTTP/1.1"
  | .http2 => "HTTP/2.0"
  | .http3 => "HTTP/3.0"

end Version

/-! ## URIs -/

/-- A character that ends the authority of a URI (RFC 3986, section 3.2). -/
def isDelimiter (c : Char) : Bool := c = '/' || c = '?' || c = '#'

/-- A character of a scheme (RFC 3986, section 3.1). -/
def isSchemeChar (c : Char) : Bool := c.isAlphanum || c = '+' || c = '-' || c = '.'

/-- What a text has before its first delimiter. -/
def beforeDelimiter (s : Str) : Str := s.takeWhile (! isDelimiter ·)

theorem beforeDelimiter_append_slash (s tail : Str) :
    beforeDelimiter (s ++ '/' :: tail) = beforeDelimiter s := by
  have hslash : isDelimiter '/' = true := by decide
  induction s with
  | nil => simp [beforeDelimiter, hslash]
  | cons c s ih =>
    unfold beforeDelimiter at ih ⊢
    rw [List.cons_append, List.takeWhile_cons, List.takeWhile_cons, ih]

theorem beforeDelimiter_eq_self {s : Str} : beforeDelimiter s = s ↔ s.all (! isDelimiter ·) := by
  rw [beforeDelimiter, List.takeWhile_eq_self_iff, List.all_eq_true]

/-- `http::Uri`, with what the crate guarantees. An absent authority is the empty string. -/
structure Uri where
  /-- The scheme, absent in origin form. -/
  rawScheme : Option Str
  /-- The authority, user information and port included. -/
  rawAuthority : Str
  /-- The path as it was written, possibly empty. -/
  rawPath : Str
  /-- The query, without its question mark. -/
  query : Option Str
  /-- A scheme is a non-empty string of scheme characters. -/
  scheme_chars : ∀ s ∈ rawScheme, s ≠ [] ∧ s.all isSchemeChar
  /-- A URI with a scheme has an authority. -/
  authority_of_scheme : rawScheme.isSome → rawAuthority ≠ []
  /-- The authority stops at the first delimiter. -/
  authority_chars : rawAuthority.all (! isDelimiter ·)
  /-- A path that follows an authority is empty or starts with a slash, where the URI was parsed as
  a whole. -/
  path_shape : rawScheme.isSome → rawPath = [] ∨ rawPath.head? = some '/'
  deriving DecidableEq, Repr

namespace Uri

/-- `uri.scheme()`, `uri.scheme_str()`. -/
def scheme (u : Uri) : Option Str := u.rawScheme

/-- `uri.authority()`. -/
def authority (u : Uri) : Option Str := if u.rawAuthority = [] then none else some u.rawAuthority

/-- Unwrapping the authority of a URI with a scheme does not fail. -/
theorem authority_isSome (u : Uri) (h : u.scheme.isSome) : u.authority.isSome := by
  simp [authority, u.authority_of_scheme h]

/-- `uri.path()`: an absolute URI without a path has the path `/`. -/
def path (u : Uri) : Str := if u.rawPath = [] ∧ u.rawScheme.isSome then "/" else u.rawPath

/-- The query as it is written behind the path. -/
def querySuffix (u : Uri) : Str := u.query.elim [] ('?' :: ·)

/-- `uri.path_and_query()` as a string: present unless the URI is a bare authority. -/
def pathAndQuery (u : Uri) : Option Str :=
  if u.rawScheme.isSome ∨ u.rawAuthority = [] then
    let data := u.rawPath ++ u.querySuffix
    some (if data = [] then "/" else data)
  else none

/-- `uri.to_string()`. -/
def toStr (u : Uri) : Str :=
  u.rawScheme.elim [] (· ++ "://".toList) ++ u.rawAuthority ++ u.path ++ u.querySuffix

/-- The authority without its user information. -/
def hostPort (u : Uri) : Str := (Text.split '@' u.rawAuthority).getLastD []

/-- `uri.host()`. -/
def host (u : Uri) : Option Str :=
  if u.rawAuthority = [] then none
  else if u.hostPort.head? = some '[' then
    some (u.hostPort.takeWhile (· ≠ ']') ++ "]".toList)
  else (Text.split ':' u.hostPort).head?

/-- `uri.port_u16()`. -/
def portU16 (u : Uri) : Option UInt16 :=
  (Text.rfind ':' u.rawAuthority).bind fun i =>
    Text.parseUInt16 (u.rawAuthority.drop (i + 1))

/-- Origin form: `/path?query`. -/
def OriginForm (u : Uri) : Prop :=
  u.rawScheme = none ∧ u.rawAuthority = [] ∧ u.rawPath.head? = some '/'

/-- Absolute form: `scheme://authority/path?query`. -/
def AbsoluteForm (u : Uri) : Prop := u.rawScheme.isSome

/-- The path of an absolute URI is `/` where there is none, and otherwise starts with a slash. -/
theorem path_of_scheme {u : Uri} (h : u.rawScheme.isSome) : ∃ tail, u.path = '/' :: tail := by
  unfold path
  split_ifs with hempty
  · exact ⟨[], rfl⟩
  · obtain hnil | hhead := u.path_shape h
    · exact absurd ⟨hnil, h⟩ hempty
    · exact List.head?_eq_some_iff.mp hhead

/-- An absolute URI as text: behind the authority comes a path. -/
theorem toStr_of_scheme {u : Uri} {scheme : Str} (h : u.rawScheme = some scheme) :
    ∃ tail, u.path ++ u.querySuffix = '/' :: tail ∧
      u.toStr = scheme ++ "://".toList ++ (u.rawAuthority ++ '/' :: tail) := by
  obtain ⟨tail, hpath⟩ := path_of_scheme (u := u) (by rw [h]; rfl)
  exact ⟨tail ++ u.querySuffix, by rw [hpath, List.cons_append], by simp [toStr, h, hpath]⟩

/-- In origin form there is a path, and nothing before it. -/
theorem pathAndQuery_of_originForm {u : Uri} (h : u.OriginForm) :
    ∃ tail, u.pathAndQuery = some ('/' :: tail) := by
  obtain ⟨-, hauthority, hhead⟩ := h
  obtain ⟨tail, hpath⟩ := List.head?_eq_some_iff.mp hhead
  exact ⟨tail ++ u.querySuffix, by simp [pathAndQuery, hauthority, hpath]⟩

instance (u : Uri) : Decidable u.OriginForm := by unfold OriginForm; infer_instance

instance (u : Uri) : Decidable u.AbsoluteForm := by unfold AbsoluteForm; infer_instance

end Uri

/-! ## Headers -/

/-- The bytes of a `HeaderValue`. -/
abbrev HeaderValue := List UInt8

namespace HeaderValue

/-- The bytes `HeaderValue::to_str` accepts. -/
def isVisibleAscii (b : UInt8) : Bool := (32 ≤ b && b < 127) || b = 9

/-- `value.to_str().ok()`. -/
def toStr (v : HeaderValue) : Option Str :=
  if v.all isVisibleAscii then some (v.map fun b => Char.ofNat b.toNat) else none

/-- The value of an ASCII string. -/
def ofStr (s : Str) : HeaderValue := s.map fun c => UInt8.ofNat c.toNat

/-- The characters of a value, byte by byte. -/
def text (v : HeaderValue) : Str := v.map fun b => Char.ofNat b.toNat

theorem toStr_eq_text {v : HeaderValue} (h : v.all isVisibleAscii) : v.toStr = some v.text :=
  if_pos h

theorem toNat_of_mem_text {v : HeaderValue} {c : Char} (h : c ∈ v.text) : c.toNat < 256 := by
  obtain ⟨b, -, rfl⟩ := List.mem_map.mp h
  have hb := b.toNat_lt
  have hvalid : b.toNat.isValidChar := .inl (by omega)
  have hchar : (Char.ofNat b.toNat).toNat = b.toNat := by
    rw [Char.ofNat, dif_pos hvalid]
    rfl
  omega

theorem text_ofStr {s : Str} (h : ∀ c ∈ s, c.toNat < 256) : text (ofStr s) = s := by
  rw [text, ofStr, List.map_map]
  refine (List.map_congr_left fun c hc => ?_).trans (List.map_id s)
  show Char.ofNat (UInt8.ofNat c.toNat).toNat = c
  rw [UInt8.toNat_ofNat', Nat.mod_eq_of_lt (h c hc), Char.ofNat_toNat]

end HeaderValue

/-- A character of a header name (RFC 9110, section 5.6.2). -/
def isTokenChar (c : Char) : Bool :=
  c.isAlphanum || "!#$%&*+-.^_|~".toList.contains c || c.toNat = 39 || c.toNat = 96

/-- An `http::HeaderName`: a non-empty token, in lower case. -/
structure HeaderName where
  /-- The name. -/
  str : Str
  /-- A name is a token. -/
  token : str ≠ [] ∧ str.all isTokenChar
  deriving DecidableEq, Repr

namespace HeaderName

/-- `hyper::header::HOST`. -/
def host : HeaderName := ⟨"host", by decide⟩

/-- `hyper::header::CONNECTION`. -/
def connection : HeaderName := ⟨"connection", by decide⟩

/-- `hyper::header::UPGRADE`. -/
def upgrade : HeaderName := ⟨"upgrade", by decide⟩

/-- `hyper::header::SEC_WEBSOCKET_PROTOCOL`. -/
def secWebsocketProtocol : HeaderName := ⟨"sec-websocket-protocol", by decide⟩

/-- `Proxy-Connection`. -/
def proxyConnection : HeaderName := ⟨"proxy-connection", by decide⟩

/-- `Proxy-Agent`. -/
def proxyAgent : HeaderName := ⟨"proxy-agent", by decide⟩

end HeaderName

/-- A `HeaderMap`: the header lines in the order the map iterates over them. -/
abbrev HeaderMap := List (HeaderName × HeaderValue)

namespace HeaderMap

/-- `headers.get(name)`: the first value of a header. -/
def getFirst (h : HeaderMap) (name : Str) : Option HeaderValue :=
  (h.find? fun line => line.1.str = name).map (·.2)

/-- `headers.get(name).and_then(|v| v.to_str().ok())`. -/
def getStr (h : HeaderMap) (name : Str) : Option Str := (h.getFirst name).bind HeaderValue.toStr

/-- `headers.get_all(name)`: the values of a header, in order. -/
def values (h : HeaderMap) (name : Str) : List HeaderValue :=
  h.filterMap fun line => if line.1.str = name then some line.2 else none

theorem getFirst_eq_head? (h : HeaderMap) (name : Str) :
    h.getFirst name = (h.values name).head? := by
  induction h with
  | nil => rfl
  | cons line h ih =>
    by_cases hname : line.1.str = name
    · simp [getFirst, values, hname]
    · simpa [getFirst, values, hname] using ih

/-- All values are visible ASCII. -/
def Visible (h : HeaderMap) : Prop := ∀ line ∈ h, line.2.all HeaderValue.isVisibleAscii

instance (h : HeaderMap) : Decidable h.Visible := by
  unfold Visible
  infer_instance

theorem Visible.of_mem_values {h : HeaderMap} (hvisible : h.Visible) {name : Str} {v : HeaderValue}
    (hv : v ∈ h.values name) : v.all HeaderValue.isVisibleAscii := by
  obtain ⟨line, hline, heq⟩ := List.mem_filterMap.mp hv
  split at heq
  · obtain rfl := Option.some.inj heq
    exact hvisible line hline
  · cases heq

/-- Among visible values, `to_str` gives the text of the first one. -/
theorem Visible.getStr_eq {h : HeaderMap} (hvisible : h.Visible) (name : Str) :
    h.getStr name = (h.values name).head?.map HeaderValue.text := by
  rw [getStr, getFirst_eq_head?]
  cases hvalues : h.values name with
  | nil => rfl
  | cons v rest =>
    exact HeaderValue.toStr_eq_text (hvisible.of_mem_values (hvalues ▸ List.mem_cons_self))

/-- A pseudo header is never found: its name is not a token. -/
theorem getStr_pseudo (h : HeaderMap) (name : Str) : h.getStr (':' :: name) = none := by
  have hfind : h.find? (fun line => line.1.str = ':' :: name) = none := by
    rw [List.find?_eq_none]
    intro line _ heq
    have htoken := line.1.token.2
    rw [of_decide_eq_true heq, List.all_cons, Bool.and_eq_true] at htoken
    exact absurd htoken.1 (by decide)
  rw [getStr, getFirst, hfind]
  rfl

/-- The lines as `to_string()` and `to_str().unwrap_or("")` render them. -/
def render (h : HeaderMap) : List (Str × Str) :=
  h.map fun line => (line.1.str, (HeaderValue.toStr line.2).getD [])

/-- The bytes of the header lines, each with its `": "` and its line end. -/
def size (h : HeaderMap) : ℕ :=
  (h.map fun line => Text.len line.1.str + 2 + (line.2.length + 2)).sum

end HeaderMap

/-! ## Requests and responses -/

/-- A JSON value. -/
inductive Json where
  | null
  | bool (b : Bool)
  | num (n : ℕ)
  | str (s : Str)
  | arr (items : List Json)
  | obj (fields : List (Str × Json))

/-- A request without its body. -/
structure Request where
  /-- The method. -/
  method : Method
  /-- The version. -/
  version : Version
  /-- The request target. -/
  uri : Uri
  /-- The headers. -/
  headers : HeaderMap
  /-- The `SocketAddr` extension, as it displays. -/
  remoteAddr : Option Str
  deriving DecidableEq, Repr

/-- What a response carries as its body. -/
inductive Body where
  | empty
  | text (s : Str)
  /-- A JSON value, rendered by `to_string`. -/
  | json (v : Json)
  /-- The body streamed from the upstream server. -/
  | incoming

/-- A response. -/
structure Response where
  /-- The status code. -/
  status : UInt16
  /-- The version. -/
  version : Version
  /-- The `ReasonPhrase` extension: a reason phrase other than the canonical one, as it was
  received. -/
  reasonPhrase : Option (List UInt8)
  /-- The headers. -/
  headers : HeaderMap
  /-- The body. -/
  body : Body

namespace Response

/-- `Response::builder().status(status)` with the headers and the body given. -/
def build (status : UInt16) (headers : HeaderMap) (body : Body) : Response :=
  { status, version := .http11, reasonPhrase := none, headers, body }

end Response

end Bifrost
