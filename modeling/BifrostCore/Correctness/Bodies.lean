import BifrostCore.Correctness.RecordLife

/-!
# Sizes and bodies

What a record says of the bytes of its request and of its response, for every sequence of calls.
The two directions are captured alike, but the size of the response is written by two callbacks:
`handle_data` adds to it, and `handle_response` assigns it.

* `request_body_all_or_nothing` — the request body is all of its chunks, or dropped.
* `response_accounted_iff` — the response is accounted for exactly if no byte of it is counted
  before its head.
-/

namespace Bifrost

open Concurrency
open NetStorage (maxBodySize captureBody)

/-! ## The request -/

/-- The body captured of chunks that are counted on top of `size` bytes: all of them, as long as
everything together keeps within the bound. -/
def captured (size : ℕ) (chunks : List (List UInt8)) : Option (List UInt8) :=
  if chunks ≠ [] ∧ size + chunks.flatten.length ≤ maxBodySize then some chunks.flatten else none

/-- One more chunk. The size never shrinks, so a body that was dropped is not started again. -/
theorem captureBody_captured (size : ℕ) (chunks : List (List UInt8)) (data : List UInt8) :
    captureBody (captured size chunks) (size + chunks.flatten.length + data.length) data =
      captured size (chunks ++ [data]) := by
  have htotal : size + (chunks ++ [data]).flatten.length =
      size + chunks.flatten.length + data.length := by
    simp [Nat.add_assoc]
  rw [captureBody]
  by_cases hfits : size + chunks.flatten.length + data.length ≤ maxBodySize
  · -- What fits with the chunk did so before it, so nothing has been dropped.
    have hbefore : (captured size chunks).getD [] = chunks.flatten := by
      unfold captured
      by_cases hempty : chunks = []
      · simp [hempty]
      · rw [if_pos ⟨hempty, by omega⟩, Option.getD_some]
    have hafter : captured size (chunks ++ [data]) = some (chunks ++ [data]).flatten := by
      rw [captured, htotal, if_pos ⟨by simp, hfits⟩]
    rw [if_pos hfits, hbefore, hafter]
    simp
  · rw [if_neg hfits, captured, htotal, if_neg fun h => hfits h.2]

section Request

variable (X : Externals) (id : UInt64) (req : Request) (time : SystemTime)

/-- The request side of a record after some updates. -/
theorem life_request (us : List RecordUpdate) :
    (life X id req time us).requestSize =
        NetStorage.requestSize req + (chunks .upstream us).flatten.length ∧
      (life X id req time us).requestBody =
        captured (NetStorage.requestSize req) (chunks .upstream us) := by
  induction us using List.reverseRecOn with
  | nil => exact ⟨rfl, rfl⟩
  | append_singleton us u ih =>
    rw [life_snoc]
    cases u with
    | response resp endTime =>
      rw [chunks_snoc_of_none rfl]
      exact ih
    | close =>
      rw [chunks_snoc_of_none rfl, RecordUpdate.apply, markClosed_eq]
      exact ih
    | data direction bytes =>
      cases direction with
      | downstream =>
        rw [chunks_snoc_of_none rfl]
        exact ih
      | upstream =>
        obtain ⟨hsize, hbody⟩ := ih
        rw [chunks_snoc_of_some rfl]
        show _ + bytes.length = _ ∧ captureBody _ (_ + bytes.length) bytes = _
        rw [hsize, hbody, captureBody_captured]
        simp [Nat.add_assoc]

end Request

/-- What a record says of its request, when the updates `us` were made to it: the body is a whole
one, or there is none. -/
structure RequestCaptured (req : Request) (us : List RecordUpdate) (r : NetworkRecord) : Prop where
  /-- The size is that of the head and of all chunks. -/
  size : r.requestSize = NetStorage.requestSize req + (chunks .upstream us).flatten.length
  /-- The body is all chunks in order if there is one and the size keeps within the bound. -/
  body : r.requestBody =
    if chunks .upstream us ≠ [] ∧ r.requestSize ≤ maxBodySize then
      some (chunks .upstream us).flatten
    else none
  /-- No body is longer than the bound. -/
  bounded : ∀ body ∈ r.requestBody, body.length ≤ maxBodySize

/-- The capture of a request body is all or nothing: in every store, after `handle_request` with an
id no record carries, and any calls of the callbacks with any ids, arguments and times, of which no
other `handle_request` has the same id, a record that is still in the store has the size of its
head and all its Upstream chunks, and the concatenation of the chunks or no body. -/
theorem request_body_all_or_nothing (X : Externals) (s : Store) (id : UInt64) (req : Request)
    (time : SystemTime) (calls : StorageCalls) (hfresh : ∀ r ∈ s.networkRecords, r.id ≠ id)
    (hlater : ∀ c ∈ calls, c.2.added ≠ some id) {r : NetworkRecord}
    (hr : r ∈ (runStorage X s ((time, .handleRequest id req) :: calls)).networkRecords)
    (hid : r.id = id) : RequestCaptured req (updatesOf id calls) r := by
  obtain rfl := eq_life hfresh hlater hr hid
  obtain ⟨hsize, hbody⟩ := life_request X id req time (updatesOf id calls)
  refine ⟨hsize, ?_, ?_⟩
  · rw [hsize, hbody, captured]
  · intro body hmem
    rw [hbody, captured] at hmem
    split at hmem
    next h =>
      obtain rfl := Option.some.inj hmem
      omega
    next => cases hmem

namespace Concrete

/-- Two chunks of the request, with another request, its data and a response in between. -/
def interleaved : StorageCalls :=
  [(1, .handleData 0 .upstream [1, 2]), (2, .handleRequest 1 request),
    (3, .handleData 1 .upstream [9]), (4, .handleResponse 0 request (.build 200 [] .incoming)),
    (5, .handleData 0 .upstream [3]), (6, .handleConnectClose 0 "example.com:443")]

end Concrete

/-- Two chunks are captured as one body. -/
theorem request_body_all_or_nothing_interleaved :
    RequestCaptured Concrete.request (updatesOf 0 Concrete.interleaved)
      (life Concrete.externals 0 Concrete.request 0 (updatesOf 0 Concrete.interleaved)) :=
  request_body_all_or_nothing Concrete.externals (.fresh Concrete.config 0) 0 Concrete.request 0
    Concrete.interleaved (by intro r hr; cases hr) (by decide) (by decide +kernel) rfl

/-! ## The response -/

/-- The response of an update by `handle_response`. -/
def RecordUpdate.head : RecordUpdate → Option Response
  | .response resp _ => some resp
  | _ => none

/-- The responses among some updates. -/
def responses (us : List RecordUpdate) : List Response := us.filterMap RecordUpdate.head

/-- The size of the head of the response, 0 when `handle_response` was not called. -/
def headSize (X : Externals) (us : List RecordUpdate) : ℕ :=
  (responses us).head?.elim 0 (NetStorage.responseSize X)

/-- No byte of the response is counted before its head. -/
def HeadFirst (us : List RecordUpdate) : Prop :=
  AtEach (fun before u => u.head.isSome → (chunks .downstream before).flatten = []) us

/-- What a record says of its response, when the updates `us` were made to it. -/
structure ResponseAccounted (X : Externals) (us : List RecordUpdate) (r : NetworkRecord) :
    Prop where
  /-- The size is that of the head and of all chunks. -/
  size : r.responseSize = headSize X us + (chunks .downstream us).flatten.length
  /-- There is no body, or it is all chunks in order. -/
  body : r.responseBody = none ∨ r.responseBody = some (chunks .downstream us).flatten

theorem responses_snoc_of_none {u : RecordUpdate} (h : u.head = none) (us : List RecordUpdate) :
    responses (us ++ [u]) = responses us := by
  simp [responses, h]

theorem responses_snoc_of_some {u : RecordUpdate} {resp : Response} (h : u.head = some resp)
    (us : List RecordUpdate) : responses (us ++ [u]) = responses us ++ [resp] := by
  simp [responses, h]

theorem headFirst_of_responses {us : List RecordUpdate} (h : responses us = []) :
    HeadFirst us := by
  rintro before u after rfl hu
  have hnone : u.head = none := List.filterMap_eq_nil_iff.mp h u (by simp)
  rw [hnone] at hu
  cases hu

/-- An update that is no response leaves the condition as it is. -/
theorem headFirst_snoc_of_none {u : RecordUpdate} (h : u.head = none) (us : List RecordUpdate) :
    HeadFirst (us ++ [u]) ↔ HeadFirst us := by
  rw [HeadFirst, atEach_snoc, ← HeadFirst, h]
  simp

/-- A body is everything counted so far, or it was dropped: then nothing has been counted, or the
size is over the bound, so that no later chunk starts it again. -/
def WholeOrDropped (size : ℕ) (all : List UInt8) (body : Option (List UInt8)) : Prop :=
  body = some all ∨ body = none ∧ (all = [] ∨ maxBodySize < size)

theorem WholeOrDropped.captureBody {size : ℕ} {all : List UInt8} {body : Option (List UInt8)}
    (h : WholeOrDropped size all body) (data : List UInt8) :
    WholeOrDropped (size + data.length) (all ++ data)
      (NetStorage.captureBody body (size + data.length) data) := by
  rw [NetStorage.captureBody]
  split
  next hfits =>
    -- What fits now did so before, so the body had not been dropped.
    obtain hsome | ⟨hnone, hempty | hlong⟩ := h
    · exact .inl (by rw [hsome, Option.getD_some])
    · exact .inl (by rw [hnone, hempty, Option.getD_none])
    · omega
  next hlong => exact .inr ⟨rfl, .inr (by omega)⟩

/-- Before anything is counted, the size does not matter. -/
theorem WholeOrDropped.of_empty {size size' : ℕ} {all : List UInt8} {body : Option (List UInt8)}
    (h : WholeOrDropped size all body) (hempty : all = []) : WholeOrDropped size' all body :=
  h.imp_right fun hnone => ⟨hnone.1, .inl hempty⟩

section Response

variable (X : Externals) (id : UInt64) (req : Request) (time : SystemTime)

/-- The size of the response is that of its head and its chunks exactly if the head came first. -/
theorem life_responseSize_iff {us : List RecordUpdate} (hone : (responses us).length ≤ 1) :
    (life X id req time us).responseSize =
        headSize X us + (chunks .downstream us).flatten.length ↔ HeadFirst us := by
  induction us using List.reverseRecOn with
  | nil => exact ⟨fun _ => atEach_nil, fun _ => rfl⟩
  | append_singleton us u ih =>
    rw [life_snoc]
    cases u with
    | response resp endTime =>
      -- The head is assigned, so whatever was counted before it is lost.
      rw [responses_snoc_of_some rfl, List.length_append, List.length_singleton] at hone
      have hnone : responses us = [] := List.length_eq_zero_iff.mp (by omega)
      rw [chunks_snoc_of_none rfl, headSize, responses_snoc_of_some rfl, hnone, HeadFirst,
        atEach_snoc, ← HeadFirst, ← List.length_eq_zero_iff]
      show NetStorage.responseSize X resp = NetStorage.responseSize X resp + _ ↔ _
      have hfirst := headFirst_of_responses hnone
      constructor
      · intro hsize
        exact ⟨hfirst, fun _ => by omega⟩
      · rintro ⟨-, hzero⟩
        have hnothing := hzero rfl
        omega
    | close =>
      rw [responses_snoc_of_none rfl] at hone
      rw [chunks_snoc_of_none rfl, headSize, responses_snoc_of_none rfl, ← headSize,
        headFirst_snoc_of_none rfl, RecordUpdate.apply, markClosed_eq]
      exact ih hone
    | data direction bytes =>
      rw [responses_snoc_of_none rfl] at hone
      rw [headSize, responses_snoc_of_none rfl, ← headSize, headFirst_snoc_of_none rfl,
        ← ih hone]
      cases direction with
      | upstream => rw [chunks_snoc_of_none rfl]; rfl
      | downstream =>
        rw [chunks_snoc_of_some rfl, List.flatten_append, List.length_append]
        show _ + bytes.length = _ ↔ _
        simp only [List.flatten_singleton]
        omega

/-- The body of the response, when no byte of it is counted before its head. -/
theorem life_responseBody {us : List RecordUpdate} (hone : (responses us).length ≤ 1)
    (hfirst : HeadFirst us) :
    WholeOrDropped (life X id req time us).responseSize (chunks .downstream us).flatten
      (life X id req time us).responseBody := by
  induction us using List.reverseRecOn with
  | nil => exact .inr ⟨rfl, .inl rfl⟩
  | append_singleton us u ih =>
    cases u with
    | response resp endTime =>
      rw [responses_snoc_of_some rfl, List.length_append, List.length_singleton] at hone
      obtain ⟨hbefore, hempty⟩ := atEach_snoc.mp hfirst
      rw [chunks_snoc_of_none rfl, life_snoc]
      -- The size is written anew, but no byte has been counted in it.
      exact (ih (by omega) hbefore).of_empty (hempty rfl)
    | close =>
      rw [responses_snoc_of_none rfl] at hone
      rw [chunks_snoc_of_none rfl, life_snoc, RecordUpdate.apply, markClosed_eq]
      exact ih hone ((headFirst_snoc_of_none rfl us).mp hfirst)
    | data direction bytes =>
      rw [responses_snoc_of_none rfl] at hone
      have ih := ih hone ((headFirst_snoc_of_none rfl us).mp hfirst)
      rw [life_snoc]
      cases direction with
      | upstream =>
        rw [chunks_snoc_of_none rfl]
        exact ih
      | downstream =>
        rw [chunks_snoc_of_some rfl, List.flatten_append, List.flatten_singleton]
        exact ih.captureBody bytes

end Response

/-- The response is accounted for whatever the order of the calls, as long as no byte of it is
counted before its head: in every store, after `handle_request` with an id no record carries, and
any calls of the callbacks, of which no other `handle_request` and at most one `handle_response`
has the same id, a record that is still in the store has the size of its response head and all its
Downstream chunks, and the concatenation of the chunks or no body, exactly under this condition. The
totals are below `2 ^ 64`. -/
theorem response_accounted_iff (X : Externals) (s : Store) (id : UInt64) (req : Request)
    (time : SystemTime) (calls : StorageCalls) (hfresh : ∀ r ∈ s.networkRecords, r.id ≠ id)
    (hlater : ∀ c ∈ calls, c.2.added ≠ some id)
    (hone : (responses (updatesOf id calls)).length ≤ 1) {r : NetworkRecord}
    (hr : r ∈ (runStorage X s ((time, .handleRequest id req) :: calls)).networkRecords)
    (hid : r.id = id) :
    ResponseAccounted X (updatesOf id calls) r ↔ HeadFirst (updatesOf id calls) := by
  obtain rfl := eq_life hfresh hlater hr hid
  constructor
  · intro h
    exact (life_responseSize_iff X id req time hone).mp h.size
  · intro hfirst
    refine ⟨(life_responseSize_iff X id req time hone).mpr hfirst, ?_⟩
    obtain hsome | ⟨hnone, -⟩ := life_responseBody X id req time hone hfirst
    · exact .inr hsome
    · exact .inl hnone

namespace Concrete

/-- The head of a response and two chunks of its body. -/
def answered : StorageCalls :=
  [(1, .handleResponse 0 request (.build 200 [] .incoming)), (2, .handleData 0 .downstream [1, 2]),
    (3, .handleData 0 .downstream [3])]

end Concrete

/-- A response whose head comes first. -/
theorem response_accounted_iff_answered :
    ResponseAccounted Concrete.externals (updatesOf 0 Concrete.answered)
        (life Concrete.externals 0 Concrete.request 0 (updatesOf 0 Concrete.answered)) ↔
      HeadFirst (updatesOf 0 Concrete.answered) :=
  response_accounted_iff Concrete.externals (.fresh Concrete.config 0) 0 Concrete.request 0
    Concrete.answered (by intro r hr; cases hr) (by decide) (by decide) (by decide +kernel) rfl

/-- A byte that is counted before the head is lost from the size. -/
theorem response_unaccounted_early :
    ∃ r ∈ (Concrete.recorded Concrete.early).networkRecords, r.id = 0 ∧
      ¬ ResponseAccounted Concrete.externals (updatesOf 0 Concrete.early) r := by
  refine ⟨life Concrete.externals 0 Concrete.request 0 (updatesOf 0 Concrete.early),
    by decide +kernel, rfl, fun h => ?_⟩
  exact absurd h.size (by decide +kernel)

end Bifrost
