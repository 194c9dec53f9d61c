import BifrostCore.Correctness.RecordLife

/-!
# The state of a record

How far a record has come: from `Connecting` by `Sending` and `Receiving` to `Completed` or
`Cancelled`. Of the callbacks that write the state only `handle_connect_close` looks at the old one,
so the order of the calls decides whether the state moves forward only.

* `Forward` — a move that goes on, or leaves a final state alone.
* `InOrder` — the sequences of updates in which every move does.
* `states_forward_iff` — the states of a record move forward exactly along these.
-/

namespace Bifrost

namespace RequestState

/-- How far a request has come. -/
def rank : RequestState → ℕ
  | .connecting => 0
  | .sending => 1
  | .receiving => 2
  | .completed => 3
  | .cancelled => 3

/-- The state moves forward, and a final one stays. -/
def Forward (s s' : RequestState) : Prop :=
  s.rank ≤ s'.rank ∧ (s = .completed ∨ s = .cancelled → s' = s)

instance (s s' : RequestState) : Decidable (s.Forward s') := by
  unfold Forward
  infer_instance

theorem Forward.refl (s : RequestState) : s.Forward s := ⟨Nat.le_refl _, fun _ => rfl⟩

end RequestState

open Concurrency
open RequestState (Forward)

namespace RecordUpdate

/-- What an update does to the state. -/
def nextState (s : RequestState) : RecordUpdate → RequestState
  | .response _ _ => .receiving
  | .close => if s = .completed then .completed else .cancelled
  | .data .upstream _ => s
  | .data .downstream _ => .completed

/-- The update is Downstream data. -/
def isDownstream : RecordUpdate → Bool
  | .data .downstream _ => true
  | _ => false

/-- The update is a close. -/
def isClose : RecordUpdate → Bool
  | .close => true
  | _ => false

/-- The update is a response. -/
def isResponse : RecordUpdate → Bool
  | .response _ _ => true
  | _ => false

theorem state_apply (X : Externals) (u : RecordUpdate) (r : NetworkRecord) :
    (u.apply X r).state = u.nextState r.state := by
  cases u with
  | response resp endTime => rfl
  | close => rw [apply, markClosed_eq]; rfl
  | data direction bytes => cases direction <;> rfl

/-- An update comes in order after those before it: a response before any Downstream data and any
close, and Downstream data after a close only if there was some before. -/
def Admitted (before : List RecordUpdate) : RecordUpdate → Prop
  | .response _ _ => before.any isDownstream = false ∧ before.any isClose = false
  | .close => True
  | .data .upstream _ => True
  | .data .downstream _ => before.any isClose = true → before.any isDownstream = true

end RecordUpdate

/-- Every update comes in order. -/
def InOrder (us : List RecordUpdate) : Prop := AtEach RecordUpdate.Admitted us

/-- The state after `handle_request` and some updates. -/
def stateAfter (us : List RecordUpdate) : RequestState :=
  us.foldl RecordUpdate.nextState .sending

theorem stateAfter_snoc (us : List RecordUpdate) (u : RecordUpdate) :
    stateAfter (us ++ [u]) = u.nextState (stateAfter us) := by
  simp [stateAfter]

theorem life_state (X : Externals) (id : UInt64) (req : Request) (time : SystemTime)
    (us : List RecordUpdate) : (life X id req time us).state = stateAfter us := by
  induction us using List.reverseRecOn with
  | nil => rfl
  | append_singleton us u ih => rw [life_snoc, stateAfter_snoc, RecordUpdate.state_apply, ih]

/-- The state a record has when its updates came in order, by the kinds of updates there were. -/
def stateOf (downstream close response : Bool) : RequestState :=
  if downstream then .completed
  else if close then .cancelled
  else if response then .receiving
  else .sending

/-- A close cancels what is not completed. -/
theorem nextState_close_stateOf : ∀ downstream close response : Bool,
    RecordUpdate.nextState (stateOf downstream close response) .close =
      stateOf (downstream || false) (close || true) (response || false) := by
  decide

/-- In order, the kinds of updates decide the state. -/
theorem stateAfter_of_inOrder {us : List RecordUpdate} (h : InOrder us) :
    stateAfter us = stateOf (us.any RecordUpdate.isDownstream) (us.any RecordUpdate.isClose)
      (us.any RecordUpdate.isResponse) := by
  induction us using List.reverseRecOn with
  | nil => rfl
  | append_singleton us u ih =>
    obtain ⟨hbefore, hu⟩ := atEach_snoc.mp h
    rw [stateAfter_snoc, ih hbefore]
    simp only [List.any_append, List.any_cons, List.any_nil, Bool.or_false]
    cases u with
    | response resp endTime =>
      obtain ⟨hdata, hclose⟩ := hu
      rw [hdata, hclose]
      simp [stateOf, RecordUpdate.nextState, RecordUpdate.isDownstream, RecordUpdate.isClose,
        RecordUpdate.isResponse]
    | close => exact nextState_close_stateOf _ _ _
    | data direction bytes =>
      cases direction <;>
        simp [stateOf, RecordUpdate.nextState, RecordUpdate.isDownstream, RecordUpdate.isClose,
          RecordUpdate.isResponse]

/-- A response is a move forward before the end of the exchange only. -/
theorem forward_receiving_iff : ∀ downstream close response : Bool,
    Forward (stateOf downstream close response) .receiving ↔
      downstream = false ∧ close = false := by
  decide

/-- Data completes a record unless it was cancelled. -/
theorem forward_completed_iff : ∀ downstream close response : Bool,
    Forward (stateOf downstream close response) .completed ↔
      (close = true → downstream = true) := by
  decide

/-- A close looks at the old state, so it always moves forward. -/
theorem forward_close (s : RequestState) : Forward s (RecordUpdate.nextState s .close) := by
  cases s <;> decide

/-- After updates in order, the next one moves the state forward exactly if it comes in order. -/
theorem forward_iff_admitted {us : List RecordUpdate} (h : InOrder us) (u : RecordUpdate) :
    Forward (stateAfter us) (u.nextState (stateAfter us)) ↔ u.Admitted us := by
  cases u with
  | response resp endTime =>
    rw [stateAfter_of_inOrder h]
    exact forward_receiving_iff _ _ _
  | close => exact iff_of_true (forward_close _) trivial
  | data direction bytes =>
    cases direction with
    | upstream => exact iff_of_true (Forward.refl _) trivial
    | downstream =>
      rw [stateAfter_of_inOrder h]
      exact forward_completed_iff _ _ _

/-- The states move forward along all calls exactly if the updates are in order. -/
theorem atEach_forward_iff (id : UInt64) (calls : StorageCalls) :
    AtEach (fun done c => Forward (stateAfter (updatesOf id done))
        (stateAfter (updatesOf id (done ++ [c])))) calls ↔
      InOrder (updatesOf id calls) := by
  induction calls using List.reverseRecOn with
  | nil => exact iff_of_true atEach_nil atEach_nil
  | append_singleton calls c ih =>
    rw [atEach_snoc, ih, updatesOf_snoc]
    cases hu : c.2.updateOf id c.1 with
    | none =>
      -- A call with another id changes nothing.
      simp [Forward.refl]
    | some u =>
      rw [Option.toList_some, stateAfter_snoc, InOrder, InOrder, atEach_snoc]
      exact and_congr_right fun h => forward_iff_admitted h u

/-- The state of a record moves forward, and a final state stays, exactly along calls whose updates
are in order: after `handle_request` with an id no record carries, and any calls of the callbacks,
of which no other `handle_request` has the same id, for every record that is still in the store at
the end. -/
theorem states_forward_iff (X : Externals) (s : Store) (id : UInt64) (req : Request)
    (time : SystemTime) (calls : StorageCalls) (hfresh : ∀ r ∈ s.networkRecords, r.id ≠ id)
    (hlater : ∀ c ∈ calls, c.2.added ≠ some id)
    (hstays : ∃ r ∈ (runStorage X s ((time, .handleRequest id req) :: calls)).networkRecords,
      r.id = id) :
    AtEach (fun done c =>
      ∀ r ∈ (runStorage X s ((time, .handleRequest id req) :: done)).networkRecords,
      ∀ r' ∈ (runStorage X s ((time, .handleRequest id req) :: (done ++ [c]))).networkRecords,
        r.id = id → r'.id = id → Forward r.state r'.state) calls ↔
      InOrder (updatesOf id calls) := by
  rw [← atEach_forward_iff]
  obtain ⟨last, hlast, hid⟩ := hstays
  -- At every point of the calls, the record in the store is the one with the life so far.
  have hstate : ∀ done, done <+: calls →
      (∀ r ∈ (runStorage X s ((time, .handleRequest id req) :: done)).networkRecords,
        r.id = id → r.state = stateAfter (updatesOf id done)) ∧
      ∃ r ∈ (runStorage X s ((time, .handleRequest id req) :: done)).networkRecords, r.id = id := by
    intro done hdone
    refine ⟨fun r hr hid => ?_, _, mem_of_retained hfresh hlater hdone hlast hid, life_id _⟩
    have hlater' : ∀ c ∈ done, c.2.added ≠ some id := fun c hc => hlater c (hdone.subset hc)
    rw [eq_life hfresh hlater' hr hid, life_state]
  refine forall₃_congr fun done c rest => ?_
  refine forall_congr' fun heq => ?_
  have hdone : done <+: calls := ⟨c :: rest, heq.symm⟩
  have hnext : done ++ [c] <+: calls := ⟨rest, by rw [heq]; simp⟩
  obtain ⟨hbefore, r, hr, hrid⟩ := hstate done hdone
  obtain ⟨hafter, r', hr', hrid'⟩ := hstate (done ++ [c]) hnext
  constructor
  · intro h
    have := h r hr r' hr' hrid hrid'
    rwa [hbefore r hr hrid, hafter r' hr' hrid'] at this
  · intro h r hr r' hr' hrid hrid'
    rwa [hbefore r hr hrid, hafter r' hr' hrid']

namespace Concrete

/-- A request with its data, a response and its data, and a close. -/
def exchange : StorageCalls :=
  [(1, .handleData 0 .upstream [1]), (2, .handleResponse 0 request (.build 200 [] .incoming)),
    (3, .handleData 0 .downstream [2]), (4, .handleConnectClose 0 "example.com:443")]

end Concrete

/-- An exchange in which every call comes in order. -/
theorem states_forward_iff_exchange :
    AtEach (fun done c => ∀ r ∈ (Concrete.recorded done).networkRecords,
      ∀ r' ∈ (Concrete.recorded (done ++ [c])).networkRecords,
        r.id = 0 → r'.id = 0 → Forward r.state r'.state) Concrete.exchange ↔
      InOrder (updatesOf 0 Concrete.exchange) :=
  states_forward_iff Concrete.externals (.fresh Concrete.config 0) 0 Concrete.request 0
    Concrete.exchange (by intro r hr; cases hr) (by decide)
    ⟨life Concrete.externals 0 Concrete.request 0 (updatesOf 0 Concrete.exchange),
      by decide +kernel, rfl⟩

/-- A response after its data takes a completed record back to `Receiving`. -/
theorem states_backward_early :
    ¬ AtEach (fun done c => ∀ r ∈ (Concrete.recorded done).networkRecords,
      ∀ r' ∈ (Concrete.recorded (done ++ [c])).networkRecords,
        r.id = 0 → r'.id = 0 → Forward r.state r'.state) Concrete.early := by
  intro h
  have hmove := h [(1, .handleData 0 .downstream [1])]
    (2, .handleResponse 0 Concrete.request (.build 200 [] .incoming)) [] rfl
    (life Concrete.externals 0 Concrete.request 0 [.data .downstream [1]]) (by decide +kernel)
    (life Concrete.externals 0 Concrete.request 0 (updatesOf 0 Concrete.early))
    (by decide +kernel) rfl rfl
  exact absurd hmove (by decide +kernel)

end Bifrost
