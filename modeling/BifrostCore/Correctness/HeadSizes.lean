import BifrostCore.Correctness.RecordLife

/-!
# The sizes of heads

The heads of requests and responses as they are sent, and the sizes the record plugin computes for
them from the lengths of their parts. It leaves out the query of a request, and takes the reason
phrase of a response from the table of canonical phrases.

* `Request.head`, `Response.head` — the heads, byte by byte.
* `length_requestHead`, `length_responseHead` — their lengths, against the computed sizes.
* `head_sizes_exact_iff` — when the recorded sizes are exact.
-/

namespace Bifrost

namespace Text

/-- `s.as_bytes()`. -/
def bytes (s : Str) : List UInt8 := s.flatMap String.utf8EncodeChar

@[simp] theorem length_bytes (s : Str) : (bytes s).length = len s := by
  simp [bytes, len, List.length_flatMap]

@[simp] theorem bytes_append (s t : Str) : bytes (s ++ t) = bytes s ++ bytes t :=
  List.flatMap_append

end Text

open Text (bytes)

/-! ## Heads -/

/-- A line of a head, with its line end. -/
def headLine (content : List UInt8) : List UInt8 := content ++ bytes "\r\n"

/-- The header lines. -/
def HeaderMap.encode (h : HeaderMap) : List UInt8 :=
  h.flatMap fun line => headLine (bytes line.1.str ++ bytes ": " ++ line.2)

/-- The head of a request: `METHOD path?query VERSION`, the header lines and an empty line. -/
def Request.head (req : Request) : List UInt8 :=
  headLine (bytes req.method.asStr ++ bytes " " ++ bytes (req.uri.path ++ req.uri.querySuffix) ++
    bytes " " ++ bytes req.version.debug) ++ req.headers.encode ++ headLine []

/-- The reason phrase of a response: the one it carries, or the canonical one. `hyper` writes
`<none>` where there is neither. -/
def Response.reason (X : Externals) (resp : Response) : List UInt8 :=
  resp.reasonPhrase.getD (bytes ((X.canonicalReason resp.status).getD "<none>".toList))

/-- The head of a response: `VERSION STATUS REASON`, the header lines and an empty line. -/
def Response.head (X : Externals) (resp : Response) : List UInt8 :=
  headLine (bytes resp.version.debug ++ bytes " " ++ bytes (Text.decimal resp.status.toNat) ++
    bytes " " ++ resp.reason X) ++ resp.headers.encode ++ headLine []

/-- The length of the canonical reason phrase of the status, 0 where there is none. -/
def Response.canonicalLength (X : Externals) (resp : Response) : ℕ :=
  Text.len ((X.canonicalReason resp.status).getD [])

@[simp] theorem length_headLine (content : List UInt8) :
    (headLine content).length = content.length + 2 := by
  rw [headLine, List.length_append]
  rfl

theorem length_encode (h : HeaderMap) : h.encode.length = h.size := by
  have hsep : (bytes ": ").length = 2 := rfl
  simp only [HeaderMap.encode, HeaderMap.size, List.length_flatMap, length_headLine,
    List.length_append, Text.length_bytes, hsep, Nat.add_assoc]

/-- The computed size of a request leaves out its query. -/
theorem length_requestHead (req : Request) :
    req.head.length = NetStorage.requestSize req + Text.len req.uri.querySuffix := by
  have hspace : (bytes " ").length = 1 := rfl
  simp only [Request.head, NetStorage.requestSize, List.length_append, length_headLine,
    Text.bytes_append, Text.length_bytes, length_encode, hspace, List.length_nil]
  omega

/-- The computed size of a response has the canonical phrase in place of its own. -/
theorem length_responseHead (X : Externals) (resp : Response) :
    (resp.head X).length + resp.canonicalLength X =
      NetStorage.responseSize X resp + (resp.reason X).length := by
  have hspace : (bytes " ").length = 1 := rfl
  simp only [Response.head, NetStorage.responseSize, Response.canonicalLength, List.length_append,
    length_headLine, Text.length_bytes, length_encode, hspace, List.length_nil]
  omega

/-- A query is written with its question mark, so it is never empty. -/
theorem len_querySuffix_eq_zero_iff (uri : Uri) :
    Text.len uri.querySuffix = 0 ↔ uri.query = none := by
  unfold Uri.querySuffix
  cases uri.query with
  | none => exact iff_of_true rfl rfl
  | some query =>
    have hmark : Text.len ('?' :: query) = 1 + Text.len query := rfl
    simp only [Option.elim_some, hmark]
    simp

/-! ## The recorded sizes -/

/-- The sizes `handle_request` and `handle_response` store: for every request, and every response
that is recorded after it and any calls of the callbacks, both are the lengths of the heads exactly
if the URI of the request has no query and the reason phrase of the response is as long as the
canonical one of its status. -/
theorem head_sizes_exact_iff (X : Externals) (s : Store) (id : UInt64) (req req' : Request)
    (resp : Response) (time time' : SystemTime) (calls : StorageCalls)
    (hfresh : ∀ r ∈ s.networkRecords, r.id ≠ id) (hlater : ∀ c ∈ calls, c.2.added ≠ some id)
    {r r' : NetworkRecord}
    (hr : r ∈ (runStorage X s [(time, .handleRequest id req)]).networkRecords) (hid : r.id = id)
    (hr' : r' ∈ (runStorage X s ((time, .handleRequest id req) ::
      (calls ++ [(time', .handleResponse id req' resp)]))).networkRecords) (hid' : r'.id = id) :
    (r.requestSize = req.head.length ∧ r'.responseSize = (resp.head X).length) ↔
      req.uri.query = none ∧ (resp.reason X).length = resp.canonicalLength X := by
  have hrequest : r.requestSize = NetStorage.requestSize req := by
    rw [eq_life hfresh (by simp) hr hid]
    rfl
  have hresponse : r'.responseSize = NetStorage.responseSize X resp := by
    have hlater' : ∀ c ∈ calls ++ [(time', .handleResponse id req' resp)],
        c.2.added ≠ some id := by
      intro c hc
      rcases List.mem_append.mp hc with hc | hc
      · exact hlater c hc
      · rw [List.mem_singleton.mp hc]
        nofun
    have hupdates : updatesOf id (calls ++ [(time', .handleResponse id req' resp)]) =
        updatesOf id calls ++ [.response resp time'] := by
      rw [updatesOf_snoc]
      simp [StorageCall.updateOf]
    -- The response assigns the size, whatever the calls before it have counted.
    rw [eq_life hfresh hlater' hr' hid', hupdates, life_snoc]
    rfl
  have hlength := length_responseHead X resp
  rw [hrequest, hresponse, length_requestHead, ← len_querySuffix_eq_zero_iff]
  omega

namespace Concrete

/-- `GET http://example.com/?q`. -/
def queryRequest : Request := { request with uri := { uri with query := some "q" } }

/-- `HTTP/1.1 200 OK`. -/
def okResponse : Response := .build 200 [(.host, HeaderValue.ofStr "example.com")] .incoming

/-- `HTTP/1.1 200 Fine`. -/
def fineResponse : Response := { okResponse with reasonPhrase := some (bytes "Fine") }

end Concrete

/-- A request without a query, and its response after a chunk of data. -/
theorem head_sizes_exact_iff_plain :
    ((life Concrete.externals 0 Concrete.request 0 []).requestSize =
        Concrete.request.head.length ∧
      (life Concrete.externals 0 Concrete.request 0
        (updatesOf 0 [(1, .handleData 0 .upstream [1]),
          (2, .handleResponse 0 Concrete.request Concrete.okResponse)])).responseSize =
        (Concrete.okResponse.head Concrete.externals).length) ↔
      Concrete.request.uri.query = none ∧
        (Concrete.okResponse.reason Concrete.externals).length =
          Concrete.okResponse.canonicalLength Concrete.externals :=
  head_sizes_exact_iff Concrete.externals (.fresh Concrete.config 0) 0 Concrete.request
    Concrete.request Concrete.okResponse 0 2 [(1, .handleData 0 .upstream [1])]
    (by intro r hr; cases hr) (by decide) (by decide +kernel) rfl (by decide +kernel) rfl

/-- The query of a request is left out of its size, and the reason phrase of a response is counted
as if it were the canonical one. -/
theorem head_sizes_not_exact :
    (∃ r ∈ (runStorage Concrete.externals (.fresh Concrete.config 0)
        [(0, .handleRequest 0 Concrete.queryRequest)]).networkRecords,
      r.id = 0 ∧ r.requestSize ≠ Concrete.queryRequest.head.length) ∧
    ∃ r ∈ (runStorage Concrete.externals (.fresh Concrete.config 0)
        [(0, .handleRequest 0 Concrete.request),
          (1, .handleResponse 0 Concrete.request Concrete.fineResponse)]).networkRecords,
      r.id = 0 ∧ r.responseSize ≠ (Concrete.fineResponse.head Concrete.externals).length :=
  ⟨⟨life Concrete.externals 0 Concrete.queryRequest 0 [], by decide +kernel, rfl,
      by decide +kernel⟩,
    life Concrete.externals 0 Concrete.request 0 [.response Concrete.fineResponse 1],
      by decide +kernel, rfl, by decide +kernel⟩

end Bifrost
