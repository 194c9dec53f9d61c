import BifrostCore.Callbacks
import BifrostCore.Correctness.Conformance

/-!
# The sampler and its callbacks as protocols

The sampler of the traffic statistics goes through three small protocols at once, one for every
quantity it computes, and the callbacks next to it only add to counters.

* `tallyProtocol` — a callback counts a request in `total_requests`, then in
  `requests_this_second`.
* `speedProtocol` — a speed is the number of bytes since the iteration before.
* `peakProtocol` — a peak is raised to what was stored last.
* `swapProtocol` — the requests of a second are loaded, stored as a sample, and cleared.
* `Tally.program_follows`, `sampler_follows` — the connection to the code.
-/

namespace Bifrost

open Concurrency Prog

/-! ## What the callbacks and the sampler may do -/

/-- Callbacks add to the counters of bytes and requests, and take from the gauge. -/
def StoreOp.Tallies : StoreOp → Prop
  | .store _ _ => False
  | .fetchAdd c _ =>
    c ∈ [.totalRequests, .currentRequests, .requestsThisSecond, .bytesIn, .bytesOut]
  | .fetchSub c _ => c = .currentRequests
  | _ => True

/-- A callback does so. -/
def TaskOp.Tallies (o : TaskOp StoreSig) : Prop := ∃ cb o', o = .callback cb o' ∧ o'.Tallies

/-- A task of the sampler waits here, or is not observed any further. -/
def TaskOp.isPause : TaskOp StoreSig → Bool
  | .sleep | .outOfFuel => true
  | _ => false

/-- The operation loads or stores one of the counters the sampler uses, but none of `cs`. -/
def StoreOp.avoids (cs : List Counter) : StoreOp → Bool
  | .load c | .store c _ => ! cs.contains c
  | _ => false

/-! ### The callbacks -/

/-- Where a callback stands between the counters of requests. -/
inductive Tally where
  /-- It has counted in `requests_this_second` as often as in `total_requests`. -/
  | even
  /-- It has counted once more in `total_requests`. -/
  | owing

namespace Tally

/-- The operation does not count a request. -/
def Neutral : StoreOp → Prop
  | .store _ _ => False
  | .fetchAdd c _ => c ∈ [.currentRequests, .bytesIn, .bytesOut]
  | .fetchSub c _ => c = .currentRequests
  | _ => True

/-- The operations of a callback. -/
inductive Allows : Tally → TaskOp StoreSig → Prop
  | other {q : Tally} {cb : Callback} {o : StoreOp} : Neutral o → Allows q (.callback cb o)
  | total {cb : Callback} : Allows .even (.callback cb (.fetchAdd .totalRequests 1))
  | second {cb : Callback} : Allows .owing (.callback cb (.fetchAdd .requestsThisSecond 1))

/-- The state after an operation. -/
def next : Tally → TaskOp StoreSig → Tally
  | .even, .callback _ (.fetchAdd c _) => if c = .totalRequests then .owing else .even
  | .owing, .callback _ (.fetchAdd c _) => if c = .requestsThisSecond then .even else .owing
  | q, _ => q

end Tally

/-- A callback counts a request in `total_requests` and then in `requests_this_second`. -/
def tallyProtocol : Protocol (TaskSig StoreSig) := ⟨Tally, Tally.Allows, fun q o _ => q.next o⟩

namespace Tally

theorem Neutral.tallies {o : StoreOp} (h : Neutral o) : o.Tallies := by
  cases o with
  | fetchAdd c n =>
    simp only [Neutral, List.mem_cons, List.not_mem_nil, or_false] at h
    rcases h with rfl | rfl | rfl <;> simp [StoreOp.Tallies]
  | _ => exact h

theorem Allows.tallies {q : Tally} {o : TaskOp StoreSig} (h : Allows q o) : o.Tallies := by
  cases h with
  | other h => exact ⟨_, _, rfl, h.tallies⟩
  | total => exact ⟨_, _, rfl, by simp [StoreOp.Tallies]⟩
  | second => exact ⟨_, _, rfl, by simp [StoreOp.Tallies]⟩

theorem next_neutral (q : Tally) (cb : Callback) {o : StoreOp} (h : Neutral o) :
    q.next (.callback cb o) = q := by
  cases o with
  | fetchAdd c n =>
    have hne : ∀ c', c' ∉ [.currentRequests, .bytesIn, .bytesOut] → c ≠ c' := by
      rintro c' hc' rfl
      exact hc' h
    cases q with
    | even => exact if_neg (hne _ (by decide))
    | owing => exact if_neg (hne _ (by decide))
  | _ => cases q <;> rfl

variable (X : Externals)

/-- Plugin code that counts no request. -/
theorem neutral_follows {α : Type} {p : Prog StoreSig α} {post : α → Prop}
    (h : p.Only Neutral post) (cb : Callback) :
    (Task.callback cb p).Follows tallyProtocol .even fun q a => q = .even ∧ post a := by
  have hembed : (Task.callback cb p).Only
      (fun o : TaskOp StoreSig => ∃ o', o = .callback cb o' ∧ Neutral o') post :=
    h.embed _ _ fun o ho => ⟨o, rfl, ho⟩
  refine hembed.follows ?_ ?_
  · rintro _ ⟨o, rfl, ho⟩
    exact .other ho
  · rintro _ r ⟨o, rfl, ho⟩
    exact next_neutral _ cb ho

theorem neutral_of_readOnly {o : StoreOp} (h : o.ReadOnly) : Neutral o := by
  cases o <;> trivial

theorem handleRequest_follows (id : UInt64) (req : Request) :
    (Task.callback .handleRequest ((registeredPlugins X).handleRequest id req)).Follows
      tallyProtocol .even fun q _ => q = .even := by
  have hserver := (Ledger.bifrostServer_readOnly X id req).mono fun _ => neutral_of_readOnly
  show ((Prog.bind _ _).embed _ _).Follows _ _ _
  rw [embed_bind]
  refine (neutral_follows hserver .handleRequest).bind ?_
  rintro q r ⟨rfl, rfl | ⟨response, rfl⟩⟩
  · -- Three counters, then the clock, the record, and its mark.
    refine ⟨.total, fun _ => ⟨.other (by simp [Neutral]), fun _ => ⟨.second, fun _ => ?_⟩⟩⟩
    exact ⟨.other trivial, fun _ => ⟨.other trivial, fun _ => ⟨.other trivial, fun _ => rfl⟩⟩⟩
  · rfl

theorem handleConnect_follows (id : UInt64) (req : Request) :
    (Task.callback .handleConnect ((registeredPlugins X).handleConnect id req)).Follows
      tallyProtocol .even fun q _ => q = .even :=
  ⟨.total, fun _ => ⟨.other (by simp [Neutral]), fun _ => ⟨.second, fun _ => rfl⟩⟩⟩

theorem handleResponse_only (id : UInt64) (req : Request) (resp : Response) :
    ((registeredPlugins X).handleResponse id req resp).Only Neutral fun _ => True := by
  refine ⟨trivial, fun config => ?_⟩
  show Only _ (Prog.bind (if _ then _ else _) _) _
  split
  · trivial
  · exact ⟨rfl, fun _ => ⟨trivial, fun _ => ⟨trivial, fun _ => trivial⟩⟩⟩

/-- Every callback follows the protocol. -/
theorem program_follows {call : Invocation} (hcall : call.isSampler = false) :
    (call.program X).Follows tallyProtocol .even fun q _ => q = .even := by
  have hneutral : ∀ {α : Type} {p : Prog StoreSig α} (cb : Callback) (f : α → Reply),
      p.Only Neutral (fun _ => True) → ((Task.callback cb p).bind fun a => .ret (f a)).Follows
        tallyProtocol .even fun q _ => q = .even := fun cb f h =>
    (neutral_follows h cb).bind fun _ _ hq => hq.1
  -- Only `handle_request` and `handle_connect` count requests.
  cases call with
  | handleRequest id req => exact (handleRequest_follows X id req).bind fun _ _ hq => hq
  | handleConnect id req => exact (handleConnect_follows X id req).bind fun _ _ hq => hq
  | handleResponse id req resp => exact hneutral _ _ (handleResponse_only X id req resp)
  | handleConnectClose id target =>
    exact hneutral _ _ ⟨rfl, fun _ => ⟨trivial, fun _ => trivial⟩⟩
  | handleData id direction data =>
    refine hneutral _ _ ⟨?_, fun _ => ⟨trivial, fun _ => trivial⟩⟩
    cases direction <;> simp [Neutral, TrafficStatsPlugin.byteCounter]
  | sampler fuel => cases hcall

/-- Every callback only adds to the counters. -/
theorem program_tallies {call : Invocation} (hcall : call.isSampler = false) :
    (call.program X).Only TaskOp.Tallies fun _ => True :=
  (program_follows X hcall).only fun _ _ h => h.tallies

end Tally

/-! ### The sampler -/

/-- Where the sampler stands with a byte counter and the speed computed from it. -/
inductive Reading where
  /-- The byte count of the iteration before. -/
  | resting (last : UInt64)
  /-- The present byte count besides. -/
  | loaded (last current : UInt64)

namespace Reading

variable (bytes speed : Counter)

/-- The operations of the sampler on the two counters, and those that avoid both. -/
inductive Allows : Reading → TaskOp StoreSig → Prop
  | load {last : UInt64} : Allows (.resting last) (.store (.load bytes))
  | store {last current : UInt64} : Allows (.loaded last current)
      (.store (.store speed (TrafficStatsPlugin.saturatingSub current last)))
  | other {q : Reading} {o : StoreOp} : o.avoids [bytes, speed] = true → Allows q (.store o)
  | pause {last : UInt64} {o : TaskOp StoreSig} : o.isPause = true → Allows (.resting last) o

/-- The state after an operation. -/
def next : Reading → (o : TaskOp StoreSig) → o.Res → Reading
  | .resting last, .store (.load c), current =>
    if c = bytes then .loaded last current else .resting last
  | .loaded last current, .store (.store c _), _ =>
    if c = speed then .resting current else .loaded last current
  | q, _, _ => q

end Reading

/-- How the sampler computes a speed. -/
def speedProtocol (bytes speed : Counter) : Protocol (TaskSig StoreSig) :=
  ⟨Reading, Reading.Allows bytes speed, Reading.next bytes speed⟩

/-- Where the sampler stands with a value it shows, and the peak of that value. -/
inductive Crest where
  | level
  /-- `v` is stored and not yet compared with the peak. -/
  | shown (v : UInt64)
  /-- `v` is above the peak. -/
  | raising (v : UInt64)

namespace Crest

variable (value peak : Counter)

/-- The operations of the sampler on the two counters, and those that avoid both. -/
inductive Allows : Crest → TaskOp StoreSig → Prop
  | put {v : UInt64} : Allows .level (.store (.store value v))
  | load {v : UInt64} : Allows (.shown v) (.store (.load peak))
  | raise {v : UInt64} : Allows (.raising v) (.store (.store peak v))
  | other {q : Crest} {o : StoreOp} : o.avoids [value, peak] = true → Allows q (.store o)
  | pause {o : TaskOp StoreSig} : o.isPause = true → Allows .level o

/-- The state after an operation. -/
def next : Crest → (o : TaskOp StoreSig) → o.Res → Crest
  | .level, .store (.store c v), _ => if c = value then .shown v else .level
  | .shown v, .store (.load c), top =>
    if c = peak then if top < v then .raising v else .level else .shown v
  | .raising v, .store (.store c _), _ => if c = peak then .level else .raising v
  | q, _, _ => q

end Crest

/-- How the sampler keeps a peak. -/
def peakProtocol (value peak : Counter) : Protocol (TaskSig StoreSig) :=
  ⟨Crest, Crest.Allows value peak, Crest.next value peak⟩

/-- Where the sampler stands with the requests of a second. -/
inductive Swap where
  | idle
  /-- `v` requests are loaded. -/
  | loaded (v : UInt64)
  /-- They are stored as a sample, and not yet cleared. -/
  | stored

namespace Swap

/-- The operations of the sampler on the two counters, and those that avoid both, and the counter
of all requests. -/
inductive Allows : Swap → TaskOp StoreSig → Prop
  | load : Allows .idle (.store (.load .requestsThisSecond))
  | store {v : UInt64} : Allows (.loaded v) (.store (.store .lastQps v))
  | reset : Allows .stored (.store (.store .requestsThisSecond 0))
  | other {q : Swap} {o : StoreOp} :
      o.avoids [.totalRequests, .requestsThisSecond, .lastQps] = true → Allows q (.store o)
  | pause {o : TaskOp StoreSig} : o.isPause = true → Allows .idle o

/-- The state after an operation. -/
def next : Swap → (o : TaskOp StoreSig) → o.Res → Swap
  | .idle, .store (.load c), v => if c = .requestsThisSecond then .loaded v else .idle
  | .loaded v, .store (.store c _), _ => if c = .lastQps then .stored else .loaded v
  | .stored, .store (.store c _), _ => if c = .requestsThisSecond then .idle else .stored
  | q, _, _ => q

end Swap

/-- How the sampler takes a sample of the requests. -/
def swapProtocol : Protocol (TaskSig StoreSig) := ⟨Swap, Swap.Allows, Swap.next⟩

/-- The protocol is about the counters `cs` only. -/
structure Overlooks (P : Protocol (TaskSig StoreSig)) (cs : List Counter) : Prop where
  /-- What avoids them is allowed. -/
  allows : ∀ q (o : StoreOp), o.avoids cs = true → P.Allows q (.store o)
  /-- It does not move the protocol. -/
  stays : ∀ q (o : StoreOp) r, o.avoids cs = true → P.next q (.store o) r = q

theorem speed_overlooks (bytes speed : Counter) :
    Overlooks (speedProtocol bytes speed) [bytes, speed] where
  allows _ _ h := .other h
  stays q o r h := by
    cases q <;> cases o <;> simp_all [StoreOp.avoids, speedProtocol, Reading.next]

theorem peak_overlooks (value peak : Counter) :
    Overlooks (peakProtocol value peak) [value, peak] where
  allows _ _ h := .other h
  stays q o r h := by
    cases q <;> cases o <;> simp_all [StoreOp.avoids, peakProtocol, Crest.next]

theorem swap_overlooks :
    Overlooks swapProtocol [.totalRequests, .requestsThisSecond, .lastQps] where
  allows _ _ h := .other h
  stays q o r h := by
    cases q <;> cases o <;> simp_all [StoreOp.avoids, swapProtocol, Swap.next]

section Overlooks

variable {P : Protocol (TaskSig StoreSig)} {cs : List Counter} (h : Overlooks P cs) {α : Type}
  {q : P.State} {post : P.State → α → Prop}

include h

/-- An operation the protocol does not look at, and what comes after it. -/
theorem Overlooks.act {o : StoreOp} (ho : o.avoids cs = true)
    {k : o.Res → Prog (TaskSig StoreSig) α} (hk : ∀ r, (k r).Follows P q post) :
    (Prog.act (S := TaskSig StoreSig) (TaskOp.store o) k).Follows P q post :=
  ⟨h.allows q o ho, fun r => by rw [h.stays q o r ho]; exact hk r⟩

/-- Raising a peak the protocol does not look at. -/
theorem Overlooks.raisePeak {peak : Counter} (hpeak : peak ∉ cs) (value : UInt64)
    {f : Unit → Prog StoreSig α} (hf : (Task.direct (f ())).Follows P q post) :
    (Task.direct ((TrafficStatsPlugin.raisePeak peak value).bind f)).Follows P q post := by
  refine h.act (o := .load peak) (by simp [StoreOp.avoids, hpeak]) fun currentMax => ?_
  show Follows P q (Prog.embed _ _ (Prog.bind (if _ then _ else _) f)) post
  split
  · exact h.act (o := .store peak value) (by simp [StoreOp.avoids, hpeak]) fun _ => hf
  · exact hf

end Overlooks

/-- The counter of the speed in a direction. -/
def speedCounter : DataDirection → Counter
  | .upstream => .currentSpeedOut
  | .downstream => .currentSpeedIn

/-- The counter of the greatest speed in a direction. -/
def maxSpeedCounter : DataDirection → Counter
  | .upstream => .maxSpeedOut
  | .downstream => .maxSpeedIn

/-- The byte count of a direction, out of the two an iteration returns. -/
def bytesOf : DataDirection → UInt64 × UInt64 → UInt64
  | .upstream, counts => counts.2
  | .downstream, counts => counts.1

open TrafficStatsPlugin in
theorem sample_speed (d : DataDirection) (last : UInt64 × UInt64) :
    (Task.direct (π := StoreSig) (sample last.1 last.2)).Follows
      (speedProtocol (byteCounter d) (speedCounter d)) (.resting (bytesOf d last))
      fun q r => q = .resting (bytesOf d r) := by
  cases d with
  | upstream =>
    refine ⟨.other rfl, fun bytesIn => ⟨.load, fun bytesOut => ?_⟩⟩
    refine ⟨.other rfl, fun _ => ⟨.store, fun _ => ?_⟩⟩
    have h := speed_overlooks .bytesOut .currentSpeedOut
    refine h.raisePeak (by decide) _ (h.raisePeak (by decide) _ ?_)
    refine ⟨.other rfl, fun qps => ⟨.other rfl, fun _ => ⟨.other rfl, fun _ => ?_⟩⟩⟩
    exact h.raisePeak (by decide) _ rfl
  | downstream =>
    refine ⟨.load, fun bytesIn => ⟨.other rfl, fun bytesOut => ?_⟩⟩
    refine ⟨.store, fun _ => ⟨.other rfl, fun _ => ?_⟩⟩
    have h := speed_overlooks .bytesIn .currentSpeedIn
    refine h.raisePeak (by decide) _ (h.raisePeak (by decide) _ ?_)
    refine ⟨.other rfl, fun qps => ⟨.other rfl, fun _ => ⟨.other rfl, fun _ => ?_⟩⟩⟩
    exact h.raisePeak (by decide) _ rfl

/-- Raising the peak a protocol keeps. -/
theorem raisePeak_follows {value peak : Counter} {v : UInt64} {α : Type}
    {f : Unit → Prog StoreSig α} {post : Crest → α → Prop}
    (hf : (Task.direct (f ())).Follows (peakProtocol value peak) .level post) :
    (Task.direct ((TrafficStatsPlugin.raisePeak peak v).bind f)).Follows
      (peakProtocol value peak) (.shown v) post := by
  refine ⟨.load, fun top => ?_⟩
  have hnext : (peakProtocol value peak).next (Crest.shown v) (.store (.load peak)) top =
      if top < v then Crest.raising v else .level := if_pos rfl
  rw [hnext]
  show Follows (peakProtocol value peak) _ (Prog.embed _ _ (Prog.bind (if _ then _ else _) f)) post
  split
  · refine ⟨.raise, fun r => ?_⟩
    have hnext : (peakProtocol value peak).next (Crest.raising v) (.store (.store peak v)) r =
        Crest.level := if_pos rfl
    rw [hnext]
    exact hf
  · exact hf

open TrafficStatsPlugin in
theorem sample_peak (d : DataDirection) (last : UInt64 × UInt64) :
    (Task.direct (π := StoreSig) (sample last.1 last.2)).Follows
      (peakProtocol (speedCounter d) (maxSpeedCounter d)) .level fun q _ => q = .level := by
  cases d with
  | upstream =>
    have h := peak_overlooks .currentSpeedOut .maxSpeedOut
    refine ⟨.other rfl, fun bytesIn => ⟨.other rfl, fun bytesOut => ?_⟩⟩
    refine ⟨.other rfl, fun _ => ⟨.put, fun _ => ?_⟩⟩
    refine h.raisePeak (by decide) _ (raisePeak_follows ?_)
    refine ⟨.other rfl, fun qps => ⟨.other rfl, fun _ => ⟨.other rfl, fun _ => ?_⟩⟩⟩
    exact h.raisePeak (by decide) _ rfl
  | downstream =>
    have h := peak_overlooks .currentSpeedIn .maxSpeedIn
    refine ⟨.other rfl, fun bytesIn => ⟨.other rfl, fun bytesOut => ?_⟩⟩
    refine ⟨.put, fun _ => ⟨.other rfl, fun _ => ?_⟩⟩
    refine raisePeak_follows (h.raisePeak (by decide) _ ?_)
    refine ⟨.other rfl, fun qps => ⟨.other rfl, fun _ => ⟨.other rfl, fun _ => ?_⟩⟩⟩
    exact h.raisePeak (by decide) _ rfl

theorem sample_peak_qps (last : UInt64 × UInt64) :
    (Task.direct (π := StoreSig) (TrafficStatsPlugin.sample last.1 last.2)).Follows
      (peakProtocol .lastQps .maxQps) .level fun q _ => q = .level := by
  have h := peak_overlooks .lastQps .maxQps
  refine ⟨.other rfl, fun bytesIn => ⟨.other rfl, fun bytesOut => ?_⟩⟩
  refine ⟨.other rfl, fun _ => ⟨.other rfl, fun _ => ?_⟩⟩
  refine h.raisePeak (by decide) _ (h.raisePeak (by decide) _ ?_)
  refine ⟨.other rfl, fun qps => ⟨.put, fun _ => ⟨.other rfl, fun _ => ?_⟩⟩⟩
  exact raisePeak_follows rfl

theorem sample_swap (last : UInt64 × UInt64) :
    (Task.direct (π := StoreSig) (TrafficStatsPlugin.sample last.1 last.2)).Follows
      swapProtocol .idle fun q _ => q = .idle := by
  have h := swap_overlooks
  refine ⟨.other rfl, fun bytesIn => ⟨.other rfl, fun bytesOut => ?_⟩⟩
  refine ⟨.other rfl, fun _ => ⟨.other rfl, fun _ => ?_⟩⟩
  refine h.raisePeak (by decide) _ (h.raisePeak (by decide) _ ?_)
  refine ⟨.load, fun qps => ⟨.store, fun _ => ⟨.reset, fun _ => ?_⟩⟩⟩
  exact h.raisePeak (by decide) _ rfl

/-- The sampler pauses where `Rest` says, and nowhere else. -/
structure PausesIn (P : Protocol (TaskSig StoreSig)) (Rest : P.State → Prop) : Prop where
  /-- It may pause there. -/
  allows : ∀ q o, Rest q → TaskOp.isPause o = true → P.Allows q o
  /-- It pauses only there. -/
  rests : ∀ q o, TaskOp.isPause o = true → P.Allows q o → Rest q
  /-- A pause does not move the protocol. -/
  stays : ∀ q o r, TaskOp.isPause o = true → P.next q o r = q

theorem speed_pauses (bytes speed : Counter) :
    PausesIn (speedProtocol bytes speed) fun q => ∃ last, q = Reading.resting last where
  allows := by
    rintro _ o ⟨last, rfl⟩ ho
    exact .pause ho
  rests q o ho h := by
    cases h with
    | pause => exact ⟨_, rfl⟩
    | _ => cases ho
  stays q o r ho := by cases o <;> cases ho <;> cases q <;> rfl

theorem peak_pauses (value peak : Counter) :
    PausesIn (peakProtocol value peak) (· = Crest.level) where
  allows := by
    rintro _ o rfl ho
    exact .pause ho
  rests q o ho h := by
    cases h with
    | pause => rfl
    | _ => cases ho
  stays q o r ho := by cases o <;> cases ho <;> cases q <;> rfl

theorem swap_pauses : PausesIn swapProtocol (· = Swap.idle) where
  allows := by
    rintro _ o rfl ho
    exact .pause ho
  rests q o ho h := by
    cases h with
    | pause => rfl
    | _ => cases ho
  stays q o r ho := by cases o <;> cases ho <;> cases q <;> rfl

section Sampler

variable {P : Protocol (TaskSig StoreSig)} {Rest : P.State → Prop} (hpauses : PausesIn P Rest)
  {rest : UInt64 × UInt64 → P.State}

include hpauses

/-- A sampler whose iterations lead from one resting state to the next follows the protocol. -/
theorem samplerLoop_follows
    (hsample : ∀ last : UInt64 × UInt64,
      (Task.direct (TrafficStatsPlugin.sample last.1 last.2)).Follows P (rest last)
        fun q r => q = rest r)
    (hrest : ∀ last, Rest (rest last)) (fuel : ℕ) (lastBytesIn lastBytesOut : UInt64) :
    (samplerLoop fuel lastBytesIn lastBytesOut).Follows P (rest (lastBytesIn, lastBytesOut))
      fun q _ => Rest q := by
  induction fuel generalizing lastBytesIn lastBytesOut with
  | zero => exact ⟨hpauses.allows _ .outOfFuel (hrest _) rfl, fun r => nomatch r⟩
  | succ fuel ih =>
    refine (hsample (lastBytesIn, lastBytesOut)).bind ?_
    rintro q last rfl
    refine ⟨hpauses.allows _ .sleep (hrest last) rfl, fun r => ?_⟩
    rw [hpauses.stays _ .sleep r rfl]
    exact ih last.1 last.2

theorem sampler_follows (X : Externals)
    (hsample : ∀ last : UInt64 × UInt64,
      (Task.direct (TrafficStatsPlugin.sample last.1 last.2)).Follows P (rest last)
        fun q r => q = rest r)
    (hrest : ∀ last, Rest (rest last)) {call : Invocation} (hcall : call.isSampler = true) :
    (call.program X).Follows P (rest (0, 0)) fun q _ => Rest q := by
  cases call with
  | sampler fuel => exact (samplerLoop_follows hpauses hsample hrest fuel 0 0).bind fun _ _ hq => hq
  | _ => cases hcall

end Sampler

end Bifrost
