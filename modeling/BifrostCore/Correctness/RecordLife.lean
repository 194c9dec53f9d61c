import BifrostCore.Correctness.RecordLog

/-!
# The life of a record

The callbacks of the record plugin, called one after the other in any order, with any arguments and
at any times. What `handle_request` records of a request is changed by the later calls with its id
and by nothing else: as long as the record stays in the store, it is what the updates of these
calls have made of it.

* `StorageCall` — a call of a callback, with its program and its effect on the store.
* `updatesOf`, `life` — the updates addressed to an id, and what they make of its record.
* `slot_runStorage_suffix` — the record in the store is the one with that life, or was evicted.
-/

namespace Bifrost

open Concurrency
open BoundedLog (slot settled touch)

/-! ## Calls of the plugin -/

/-- A call of a callback of `NetStorage`. -/
inductive StorageCall where
  | handleRequest (requestId : UInt64) (req : Request)
  | handleResponse (requestId : UInt64) (req : Request) (resp : Response)
  | handleConnect (requestId : UInt64) (req : Request)
  | handleConnectClose (requestId : UInt64) (addr : Str)
  | handleData (requestId : UInt64) (direction : DataDirection) (data : List UInt8)

namespace StorageCall

/-- The program of a call; what it returns is not looked at. -/
def program (X : Externals) : StorageCall → Prog StoreSig Unit
  | .handleRequest requestId req => do
    let _ ← NetStorage.handleRequest requestId req
    return ()
  | .handleResponse requestId req resp => do
    let _ ← NetStorage.handleResponse X requestId req resp
    return ()
  | .handleConnect requestId req => do
    let _ ← NetStorage.handleConnect requestId req
    return ()
  | .handleConnectClose requestId addr => do
    let _ ← NetStorage.handleConnectClose requestId addr
    return ()
  | .handleData requestId direction data => do
    let _ ← NetStorage.handleData requestId direction data
    return ()

/-- The store after a call, made when the clock shows `time`. -/
def perform (X : Externals) (s : Store) (time : SystemTime) (c : StorageCall) : Store :=
  ((c.program X).eval (fun o s => some (s.perform time o)) s).elim s (·.2)

/-- The id whose record the call adds. -/
def added : StorageCall → Option UInt64
  | .handleRequest requestId _ => some requestId
  | _ => none

/-- What the call does to the records. -/
def recordCalls (X : Externals) (time : SystemTime) : StorageCall → List RecordCall
  | .handleRequest requestId req =>
    [.add (NetStorage.newRecord requestId req time), .update requestId NetStorage.markSending]
  | .handleResponse requestId _ resp =>
    [.update requestId (NetStorage.recordResponse X resp time)]
  | .handleConnect _ _ => []
  | .handleConnectClose requestId _ => [.update requestId NetStorage.markClosed]
  | .handleData requestId direction data =>
    [.update requestId (NetStorage.recordData direction data)]

theorem perform_eq (X : Externals) (s : Store) (time : SystemTime) (c : StorageCall) :
    c.perform X s time = s.runCalls (c.recordCalls X time) := by
  cases c <;> rfl

end StorageCall

/-- Calls with the times at which they are made. -/
abbrev StorageCalls := List (SystemTime × StorageCall)

/-- The store after some calls. -/
def runStorage (X : Externals) (s : Store) (calls : StorageCalls) : Store :=
  calls.foldl (fun s c => c.2.perform X s c.1) s

/-- What some calls do to the records. -/
def recordCallsOf (X : Externals) (calls : StorageCalls) : List RecordCall :=
  calls.flatMap fun c => c.2.recordCalls X c.1

theorem runStorage_eq (X : Externals) (s : Store) (calls : StorageCalls) :
    runStorage X s calls = s.runCalls (recordCallsOf X calls) := by
  induction calls generalizing s with
  | nil => rfl
  | cons c calls ih =>
    rw [runStorage, List.foldl_cons, ← runStorage, ih, StorageCall.perform_eq, recordCallsOf,
      recordCallsOf, List.flatMap_cons, Store.runCalls, Store.runCalls, Store.runCalls,
      List.foldl_append]

/-! ## Updates of a record -/

/-- An update of a record by a call that comes after its `handle_request`. -/
inductive RecordUpdate where
  | response (resp : Response) (endTime : SystemTime)
  | close
  | data (direction : DataDirection) (bytes : List UInt8)

namespace RecordUpdate

/-- The effect of an update. -/
def apply (X : Externals) : RecordUpdate → NetworkRecord → NetworkRecord
  | .response resp endTime => NetStorage.recordResponse X resp endTime
  | .close => NetStorage.markClosed
  | .data direction bytes => NetStorage.recordData direction bytes

/-- The chunk an update brings in a direction. -/
def chunk (direction : DataDirection) : RecordUpdate → Option (List UInt8)
  | .data direction' bytes => if direction' = direction then some bytes else none
  | _ => none

end RecordUpdate

/-- The update a call makes to the record with a given id. -/
def StorageCall.updateOf (id : UInt64) (time : SystemTime) : StorageCall → Option RecordUpdate
  | .handleRequest _ _ => none
  | .handleResponse requestId _ resp => if requestId = id then some (.response resp time) else none
  | .handleConnect _ _ => none
  | .handleConnectClose requestId _ => if requestId = id then some .close else none
  | .handleData requestId direction data =>
    if requestId = id then some (.data direction data) else none

/-- The updates some calls make to the record with a given id, in call order. -/
def updatesOf (id : UInt64) (calls : StorageCalls) : List RecordUpdate :=
  calls.filterMap fun c => c.2.updateOf id c.1

/-- The chunks some updates bring in a direction. -/
def chunks (direction : DataDirection) (us : List RecordUpdate) : List (List UInt8) :=
  us.filterMap (RecordUpdate.chunk direction)

/-- The record of a request after `handle_request` and some updates. -/
def life (X : Externals) (id : UInt64) (req : Request) (time : SystemTime)
    (us : List RecordUpdate) : NetworkRecord :=
  us.foldl (fun r u => u.apply X r) (NetStorage.markSending (NetStorage.newRecord id req time))

/-- A close only writes the state. -/
theorem markClosed_eq (r : NetworkRecord) :
    NetStorage.markClosed r =
      { r with state := if r.state = .completed then .completed else .cancelled } := by
  unfold NetStorage.markClosed
  split
  next h => rw [← h]
  next => rfl

theorem life_snoc (X : Externals) (id : UInt64) (req : Request) (time : SystemTime)
    (us : List RecordUpdate) (u : RecordUpdate) :
    life X id req time (us ++ [u]) = u.apply X (life X id req time us) := by
  simp [life]

theorem chunks_snoc_of_none {direction : DataDirection} {u : RecordUpdate}
    (h : u.chunk direction = none) (us : List RecordUpdate) :
    chunks direction (us ++ [u]) = chunks direction us := by
  simp [chunks, h]

theorem chunks_snoc_of_some {direction : DataDirection} {u : RecordUpdate} {bytes : List UInt8}
    (h : u.chunk direction = some bytes) (us : List RecordUpdate) :
    chunks direction (us ++ [u]) = chunks direction us ++ [bytes] := by
  simp [chunks, h]

theorem updatesOf_snoc (id : UInt64) (calls : StorageCalls) (c : SystemTime × StorageCall) :
    updatesOf id (calls ++ [c]) = updatesOf id calls ++ (c.2.updateOf id c.1).toList := by
  cases h : c.2.updateOf id c.1 <;> simp [updatesOf, h]

/-! ## The record in the store -/

section Slot

variable {X : Externals} {s : Store} {id : UInt64} {req : Request} {time : SystemTime}

/-- What the calls of the plugin do to the records keeps their ids. -/
theorem recordCalls_spares {c : SystemTime × StorageCall} (hc : c.2.added ≠ some id) :
    ∀ d ∈ (c.2.recordCalls X c.1).filterMap RecordCall.toLog,
      d.Spares NetworkRecord.id id := by
  obtain ⟨clock, c⟩ := c
  have hid : ∀ requestId req, c = .handleRequest requestId req → requestId ≠ id := by
    rintro requestId req rfl rfl
    exact hc rfl
  intro d hd
  cases c with
  | handleRequest requestId req =>
    rcases List.mem_cons.mp hd with rfl | hd
    · exact hid requestId req rfl
    · obtain rfl := List.mem_singleton.mp hd
      exact NetStorage.markSending_keepsId
  | handleResponse requestId req resp =>
    obtain rfl := List.mem_singleton.mp hd
    exact fun _ => rfl
  | handleConnect requestId req => cases hd
  | handleConnectClose requestId addr =>
    obtain rfl := List.mem_singleton.mp hd
    exact NetStorage.markClosed_keepsId
  | handleData requestId direction data =>
    obtain rfl := List.mem_singleton.mp hd
    exact NetStorage.recordData_keepsId direction data

theorem apply_keepsId (u : RecordUpdate) : NetworkRecord.KeepsId (u.apply X) := by
  cases u with
  | response resp endTime => exact fun _ => rfl
  | close => exact NetStorage.markClosed_keepsId
  | data direction bytes => exact NetStorage.recordData_keepsId direction bytes

@[simp] theorem life_id (us : List RecordUpdate) : (life X id req time us).id = id := by
  induction us using List.reverseRecOn with
  | nil => rfl
  | append_singleton us u ih => rw [life_snoc, apply_keepsId, ih]

/-- A call makes of the record what its update makes of it. -/
theorem settled_recordCalls {c : SystemTime × StorageCall} (hc : c.2.added ≠ some id)
    (us : List RecordUpdate) :
    settled NetworkRecord.id (life X id req time us)
        ((c.2.recordCalls X c.1).filterMap RecordCall.toLog) =
      life X id req time (us ++ (c.2.updateOf id c.1).toList) := by
  obtain ⟨clock, c⟩ := c
  -- An update addressed to another id does not touch the record.
  have htouch : ∀ requestId f, touch NetworkRecord.id requestId f (life X id req time us) =
      if requestId = id then f (life X id req time us) else life X id req time us := by
    intro requestId f
    simp only [touch, life_id, eq_comm]
  have hone : ∀ requestId (u : RecordUpdate),
      touch NetworkRecord.id requestId (u.apply X) (life X id req time us) =
        life X id req time (us ++ (if requestId = id then some u else none).toList) := by
    intro requestId u
    rw [htouch]
    split
    · exact (life_snoc X id req time us u).symm
    · simp
  cases c with
  | handleRequest requestId req' =>
    have hother : requestId ≠ id := fun h => hc (congrArg some h)
    show touch NetworkRecord.id requestId NetStorage.markSending (life X id req time us) = _
    rw [htouch, if_neg hother]
    simp [StorageCall.updateOf]
  | handleResponse requestId req' resp => exact hone requestId (.response resp clock)
  | handleConnect requestId req' => simp [StorageCall.recordCalls, settled, StorageCall.updateOf]
  | handleConnectClose requestId addr => exact hone requestId .close
  | handleData requestId direction data => exact hone requestId (.data direction data)

/-- What all calls make of the record. -/
theorem settled_recordCallsOf {calls : StorageCalls} (hlater : ∀ c ∈ calls, c.2.added ≠ some id)
    (us : List RecordUpdate) :
    settled NetworkRecord.id (life X id req time us)
        ((recordCallsOf X calls).filterMap RecordCall.toLog) =
      life X id req time (us ++ updatesOf id calls) := by
  induction calls generalizing us with
  | nil => simp [recordCallsOf, settled, updatesOf]
  | cons c calls ih =>
    obtain ⟨hc, hlater⟩ := List.forall_mem_cons.mp hlater
    have hcons : updatesOf id (c :: calls) =
        (c.2.updateOf id c.1).toList ++ updatesOf id calls := by
      cases h : c.2.updateOf id c.1 <;> simp [updatesOf, h]
    rw [recordCallsOf, List.flatMap_cons, List.filterMap_append, BoundedLog.settled_append,
      settled_recordCalls hc, ← recordCallsOf, ih hlater, hcons, List.append_assoc]

theorem recordCallsOf_spares {calls : StorageCalls} (hlater : ∀ c ∈ calls, c.2.added ≠ some id) :
    ∀ d ∈ (recordCallsOf X calls).filterMap RecordCall.toLog, d.Spares NetworkRecord.id id := by
  intro d hd
  obtain ⟨e, he, hed⟩ := List.mem_filterMap.mp hd
  obtain ⟨c, hc, hec⟩ := List.mem_flatMap.mp he
  exact recordCalls_spares (hlater c hc) d (List.mem_filterMap.mpr ⟨e, hec, hed⟩)

/-- `handle_request` leaves one record with its id. -/
theorem slot_handleRequest (hfresh : ∀ r ∈ s.networkRecords, r.id ≠ id) :
    slot NetworkRecord.id id
        (StorageCall.perform X s time (.handleRequest id req)).networkRecords =
      [life X id req time []] := by
  have hadd : slot NetworkRecord.id id
      (s.addNetworkRecord (NetStorage.newRecord id req time)).networkRecords =
        [NetStorage.newRecord id req time] := by
    have hold : ∀ r ∈ (if s.config.maxNetworkRecords ≤ s.networkRecords.length then
        s.networkRecords.tail else s.networkRecords), r.id ≠ id := fun r hr =>
      hfresh r ((BoundedLog.evict_suffix _ _).subset hr)
    rw [Store.addNetworkRecord, BoundedLog.slot_append, BoundedLog.slot_eq_nil hold]
    simp [slot, NetStorage.newRecord]
  have hupdate : slot NetworkRecord.id id (BoundedLog.step NetworkRecord.id 0
      (s.addNetworkRecord (NetStorage.newRecord id req time)).networkRecords
        (.modify id NetStorage.markSending)) = _ :=
    BoundedLog.slot_modify NetStorage.markSending_keepsId (by rw [hadd, List.length_singleton])
  rw [StorageCall.perform_eq]
  show slot NetworkRecord.id id (Store.updateNetworkRecordById
    (s.addNetworkRecord (NetStorage.newRecord id req time)) id
      NetStorage.markSending).2.networkRecords = _
  rw [Store.networkRecords_update]
  refine hupdate.trans ?_
  rw [hadd, List.map_singleton]
  exact congrArg (· :: []) (if_pos rfl)

variable {calls : StorageCalls}

/-- The records with the id of a request, after `handle_request` and some calls: the one whose life
these calls are, or none when it was evicted. -/
theorem slot_runStorage_suffix (hfresh : ∀ r ∈ s.networkRecords, r.id ≠ id)
    (hlater : ∀ c ∈ calls, c.2.added ≠ some id) :
    slot NetworkRecord.id id
        (runStorage X s ((time, .handleRequest id req) :: calls)).networkRecords <:+
      [life X id req time (updatesOf id calls)] := by
  rw [runStorage, List.foldl_cons, ← runStorage, runStorage_eq,
    Store.networkRecords_runCalls_from]
  have hsettled : settled NetworkRecord.id (life X id req time [])
      ((recordCallsOf X calls).filterMap RecordCall.toLog) =
        life X id req time (updatesOf id calls) := settled_recordCallsOf hlater []
  rw [← hsettled]
  refine BoundedLog.slot_runFrom_suffix ?_ (recordCallsOf_spares hlater)
  rw [slot_handleRequest hfresh]

/-- A record that is still in the store is the one whose life the calls are. -/
theorem eq_life (hfresh : ∀ r ∈ s.networkRecords, r.id ≠ id)
    (hlater : ∀ c ∈ calls, c.2.added ≠ some id) {r : NetworkRecord}
    (hr : r ∈ (runStorage X s ((time, .handleRequest id req) :: calls)).networkRecords)
    (hid : r.id = id) : r = life X id req time (updatesOf id calls) := by
  have hmem := BoundedLog.mem_slot.mpr ⟨hr, hid⟩
  exact List.mem_singleton.mp ((slot_runStorage_suffix hfresh hlater).subset hmem)

/-- A record that is still in the store has been there all the time. -/
theorem mem_of_retained (hfresh : ∀ r ∈ s.networkRecords, r.id ≠ id)
    (hlater : ∀ c ∈ calls, c.2.added ≠ some id) {done : StorageCalls} (hdone : done <+: calls)
    {r : NetworkRecord}
    (hr : r ∈ (runStorage X s ((time, .handleRequest id req) :: calls)).networkRecords)
    (hid : r.id = id) :
    life X id req time (updatesOf id done) ∈
      (runStorage X s ((time, .handleRequest id req) :: done)).networkRecords := by
  obtain ⟨rest, rfl⟩ := hdone
  have hfirst : ∀ c ∈ done, c.2.added ≠ some id := fun c hc => hlater c (by simp [hc])
  have hrest : ∀ c ∈ rest, c.2.added ≠ some id := fun c hc => hlater c (by simp [hc])
  by_contra hgone
  -- Without its record the slot is empty, and no later call fills it.
  have hempty : slot NetworkRecord.id id
      (runStorage X s ((time, .handleRequest id req) :: done)).networkRecords = [] := by
    refine BoundedLog.slot_eq_nil fun r' hr' hid' => hgone ?_
    rwa [← eq_life hfresh hfirst hr' hid']
  have hmem := BoundedLog.mem_slot.mpr ⟨hr, hid⟩
  rw [← List.cons_append, runStorage, List.foldl_append, ← runStorage, ← runStorage,
    runStorage_eq X _ rest, Store.networkRecords_runCalls_from,
    BoundedLog.slot_runFrom_eq_nil hempty (recordCallsOf_spares hrest)] at hmem
  cases hmem

end Slot

namespace Concrete

/-- A store with room for many records, after a request and some calls. -/
def recorded (calls : StorageCalls) : Store :=
  runStorage externals (.fresh config 0) ((0, .handleRequest 0 request) :: calls)

/-- A chunk of a response and then its head. -/
def early : StorageCalls :=
  [(1, .handleData 0 .downstream [1]), (2, .handleResponse 0 request (.build 200 [] .incoming))]

end Concrete

end Bifrost
