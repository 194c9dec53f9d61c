import Mathlib.Data.List.Perm.Basic
import BifrostCore.Proxy

/-!
# The record store is a window on a log

The calls of the record store are atomic under its lock, so any interleaving of tasks is a sequence
of calls. Over every such sequence, with ids drawn from the request id counter and each drawn id
given to at most one record, the deque is a contiguous suffix of the append-only log of
`BoundedLog`, in which each added record collects the updates addressed to its id.

* `Discipline` — what the tasks observe: an added record carries an unused drawn id, and updates
  keep the id.
* `perm_drawn` — the ids of the added records and the unused ids are together the drawn ones.
* `networkRecords_refine_log` — the refinement.
* `networkRecords_within_bound_iff` — when the deque keeps within `max_network_records`.
-/

namespace Bifrost

open BoundedLog (history touch)

/-- A call on the record store, or a draw of a request id. -/
inductive RecordCall where
  /-- `REQUEST_ID_COUNTER.fetch_add(1)`. -/
  | draw
  | add (record : NetworkRecord)
  | update (requestId : UInt64) (f : NetworkRecord → NetworkRecord)
  | get

namespace RecordCall

/-- The call as a call of a bounded log. -/
def toLog : RecordCall → Option (BoundedLog.Call NetworkRecord UInt64)
  | .draw => none
  | .add record => some (.append record)
  | .update requestId f => some (.modify requestId f)
  | .get => none

/-- The effect of the call on the store. -/
def perform (s : Store) : RecordCall → Store
  | .draw => s
  | .add record => s.addNetworkRecord record
  | .update requestId f => (s.updateNetworkRecordById requestId f).2
  | .get => s

/-- The number of draws in a sequence of calls. -/
def draws (calls : List RecordCall) : ℕ := calls.countP fun c => c matches .draw

/-- The records added by a sequence of calls, in order. -/
def added (calls : List RecordCall) : List NetworkRecord :=
  calls.filterMap fun c => match c with
    | .add record => some record
    | _ => none

/-- The append-only log of a sequence of calls. -/
def log (calls : List RecordCall) : List NetworkRecord :=
  history NetworkRecord.id (calls.filterMap toLog)

end RecordCall

open RecordCall

/-- The request id counter, with the drawn ids no record carries yet. -/
structure IdSupply where
  /-- `REQUEST_ID_COUNTER`. -/
  counter : UInt64
  /-- The ids drawn and not given to a record. -/
  unused : List UInt64

namespace IdSupply

/-- The supply when the proxy starts. -/
def init : IdSupply := ⟨0, []⟩

/-- The supply after a call. -/
def step (s : IdSupply) : RecordCall → IdSupply
  | .draw => ⟨s.counter + 1, s.unused ++ [s.counter]⟩
  | .add record => ⟨s.counter, s.unused.erase record.id⟩
  | .update _ _ => s
  | .get => s

/-- The supply after a sequence of calls. -/
def run (s : IdSupply) (calls : List RecordCall) : IdSupply := calls.foldl step s

/-- An added record carries an unused drawn id; an update keeps the id. -/
def Permits (s : IdSupply) : RecordCall → Prop
  | .draw => True
  | .add record => record.id ∈ s.unused
  | .update _ f => NetworkRecord.KeepsId f
  | .get => True

end IdSupply

/-- Every call of the sequence is permitted when it is made. -/
def Discipline (s : IdSupply) : List RecordCall → Prop
  | [] => True
  | c :: calls => s.Permits c ∧ Discipline (s.step c) calls

theorem discipline_snoc (s : IdSupply) (calls : List RecordCall) (c : RecordCall) :
    Discipline s (calls ++ [c]) ↔ Discipline s calls ∧ (s.run calls).Permits c := by
  induction calls generalizing s with
  | nil => simp [Discipline, IdSupply.run]
  | cons d calls ih =>
    simp only [List.cons_append, Discipline, ih, IdSupply.run, List.foldl_cons, and_assoc]

/-! ## Ids -/

/-- The first `n` ids the counter hands out. -/
def drawnIds (n : ℕ) : List UInt64 := (List.range n).map UInt64.ofNat

theorem nodup_drawnIds {n : ℕ} (hn : n ≤ 2 ^ 64) : (drawnIds n).Nodup := by
  -- Below `2 ^ 64` the conversion to `UInt64` does not wrap around, so it is injective.
  refine List.Nodup.map_on ?_ List.nodup_range
  intro x hx y hy hxy
  have hx : x < 2 ^ 64 := (List.mem_range.mp hx).trans_le hn
  have hy : y < 2 ^ 64 := (List.mem_range.mp hy).trans_le hn
  have hval := congrArg UInt64.toNat hxy
  rwa [UInt64.toNat_ofNat_of_lt' hx, UInt64.toNat_ofNat_of_lt' hy] at hval

/-- The counter counts the draws, and the ids of the added records and the unused ids are
together the drawn ones. -/
theorem perm_drawn {calls : List RecordCall} (h : Discipline .init calls) :
    (IdSupply.init.run calls).counter = UInt64.ofNat (draws calls) ∧
      ((added calls).map NetworkRecord.id ++ (IdSupply.init.run calls).unused).Perm
        (drawnIds (draws calls)) := by
  induction calls using List.reverseRecOn with
  | nil => exact ⟨rfl, .refl _⟩
  | append_singleton calls c ih =>
    obtain ⟨hd, hc⟩ := (discipline_snoc _ calls c).mp h
    obtain ⟨hcounter, hperm⟩ := ih hd
    have hrun : IdSupply.init.run (calls ++ [c]) = (IdSupply.init.run calls).step c := by
      simp [IdSupply.run]
    rw [hrun]
    cases c with
    | draw =>
      have hdraws : draws (calls ++ [.draw]) = draws calls + 1 := by simp [draws]
      have hadded : added (calls ++ [.draw]) = added calls := by simp [added]
      refine ⟨?_, ?_⟩
      · rw [IdSupply.step, hcounter, hdraws]
        exact (UInt64.ofNat_add _ 1).symm
      · rw [IdSupply.step, hadded, hdraws, hcounter, ← List.append_assoc, drawnIds,
          List.range_succ, List.map_append]
        exact hperm.append_right _
    | add record =>
      have hdraws : draws (calls ++ [.add record]) = draws calls := by simp [draws]
      have hadded : added (calls ++ [.add record]) = added calls ++ [record] := by simp [added]
      refine ⟨by rw [IdSupply.step, hcounter, hdraws], ?_⟩
      -- The id of the record moves from the unused ids to those of the added records.
      rw [IdSupply.step, hadded, hdraws, List.map_append, List.append_assoc]
      exact (List.Perm.append_left _ (List.perm_cons_erase hc).symm).trans hperm
    | update requestId f => simpa [IdSupply.step, draws, added] using ⟨hcounter, hperm⟩
    | get => simpa [IdSupply.step, draws, added] using ⟨hcounter, hperm⟩

/-- With fewer than `2 ^ 64` draws, no two added records carry the same id. -/
theorem nodup_added {calls : List RecordCall} (h : Discipline .init calls)
    (hdraws : draws calls < 2 ^ 64) : ((added calls).map NetworkRecord.id).Nodup := by
  have hperm := (perm_drawn h).2
  have hnodup := hperm.nodup_iff.mpr (nodup_drawnIds hdraws.le)
  exact (List.nodup_append.mp hnodup).1

/-- The discipline says of every update that it keeps the id. -/
theorem Discipline.keepsKey {s : IdSupply} {calls : List RecordCall} (h : Discipline s calls) :
    ∀ c ∈ calls.filterMap toLog, c.KeepsKey NetworkRecord.id := by
  induction calls generalizing s with
  | nil => simp
  | cons d calls ih =>
    intro c hc
    have hrest := ih h.2 c
    -- Only updates promise anything; adds bring their own key.
    cases d with
    | draw => exact hrest hc
    | get => exact hrest hc
    | add record =>
      rcases List.mem_cons.mp hc with rfl | hc
      · trivial
      · exact hrest hc
    | update requestId f =>
      rcases List.mem_cons.mp hc with rfl | hc
      · exact h.1
      · exact hrest hc

/-! ## The store and the bounded log -/

theorem appended_toLog (calls : List RecordCall) :
    (calls.filterMap toLog).filterMap BoundedLog.Call.appended = added calls := by
  rw [List.filterMap_filterMap]
  refine List.filterMap_congr fun c _ => ?_
  cases c <;> rfl

/-- The store after a sequence of calls. -/
def Store.runCalls (s : Store) (calls : List RecordCall) : Store := calls.foldl RecordCall.perform s

namespace Store

theorem runCalls_snoc (s : Store) (calls : List RecordCall) (c : RecordCall) :
    s.runCalls (calls ++ [c]) = c.perform (s.runCalls calls) := by
  simp [runCalls]

/-- No call changes the configuration. -/
theorem runCalls_config (s : Store) (calls : List RecordCall) :
    (s.runCalls calls).config = s.config := by
  induction calls using List.reverseRecOn with
  | nil => rfl
  | append_singleton calls c ih =>
    rw [runCalls_snoc, ← ih]
    cases c with
    | draw => rfl
    | add record => rfl
    | update requestId f => exact (update_frame _ requestId f).1
    | get => rfl

/-- The records an update leaves, in terms of the bounded log. -/
theorem networkRecords_update (s : Store) (requestId : UInt64)
    (f : NetworkRecord → NetworkRecord) :
    (s.updateNetworkRecordById requestId f).2.networkRecords =
      (BoundedLog.modifyFirst (fun r => r.id = requestId) f s.networkRecords).getD
        s.networkRecords := by
  unfold updateNetworkRecordById
  split
  next records h => rw [h]; rfl
  next h => rw [h]; rfl

/-- The record store runs a bounded log, whatever it holds at first. -/
theorem networkRecords_runCalls_from (s : Store) (calls : List RecordCall) :
    (s.runCalls calls).networkRecords =
      BoundedLog.runFrom NetworkRecord.id s.config.maxNetworkRecords s.networkRecords
        (calls.filterMap toLog) := by
  induction calls using List.reverseRecOn with
  | nil => rfl
  | append_singleton calls c ih =>
    rw [runCalls_snoc, List.filterMap_append, BoundedLog.runFrom_append, ← ih]
    cases c with
    | draw => rfl
    | add record =>
      simp only [List.filterMap_cons, List.filterMap_nil, toLog, BoundedLog.runFrom,
        List.foldl_cons, List.foldl_nil, BoundedLog.step, BoundedLog.push, RecordCall.perform,
        addNetworkRecord, runCalls_config]
    | update requestId f =>
      simp only [List.filterMap_cons, List.filterMap_nil, toLog, BoundedLog.runFrom,
        List.foldl_cons, List.foldl_nil, BoundedLog.step, RecordCall.perform,
        networkRecords_update]
    | get => rfl

/-- The record store runs a bounded log. -/
theorem networkRecords_runCalls (s : Store) (hs : s.networkRecords = [])
    (calls : List RecordCall) :
    (s.runCalls calls).networkRecords =
      BoundedLog.run NetworkRecord.id s.config.maxNetworkRecords (calls.filterMap toLog) := by
  rw [networkRecords_runCalls_from, hs]
  rfl

/-- An update fails exactly when no retained record has its id. -/
theorem updateNetworkRecordById_error_iff (s : Store) (requestId : UInt64)
    (f : NetworkRecord → NetworkRecord) :
    (∃ e, (s.updateNetworkRecordById requestId f).1 = .error e) ↔
      ∀ r ∈ s.networkRecords, r.id ≠ requestId := by
  unfold updateNetworkRecordById
  split
  next records h =>
    have hsome : ¬ ∀ r ∈ s.networkRecords, decide (r.id = requestId) = false := by
      rw [← BoundedLog.modifyFirst_eq_none_iff (f := f), h]
      simp
    simpa using hsome
  next h =>
    rw [BoundedLog.modifyFirst_eq_none_iff] at h
    simpa using h

/-- A failed update leaves the store as it is. -/
theorem updateNetworkRecordById_of_error {s : Store} {requestId : UInt64}
    {f : NetworkRecord → NetworkRecord} {e : Str}
    (h : (s.updateNetworkRecordById requestId f).1 = .error e) :
    (s.updateNetworkRecordById requestId f).2 = s := by
  unfold updateNetworkRecordById at h ⊢
  split
  next records hrecords => rw [hrecords] at h; cases h
  next => rfl

end Store

/-- What it means that a record store is a window on a log: the state of the deque, and the effect
of the next call on it. -/
structure WindowOn (s : Store) (log : List NetworkRecord) : Prop where
  /-- The retained ids are pairwise distinct. -/
  ids_nodup : (s.networkRecords.map NetworkRecord.id).Nodup
  /-- The deque is a contiguous suffix of the log. -/
  suffix : s.networkRecords <:+ log
  /-- Below the bound, an add drops nothing. -/
  add_below : ∀ record, s.networkRecords.length < s.config.maxNetworkRecords →
    (s.addNetworkRecord record).networkRecords = s.networkRecords ++ [record]
  /-- From the bound on, an add drops the oldest record, if there is one. -/
  add_full : ∀ record, s.config.maxNetworkRecords ≤ s.networkRecords.length →
    (s.addNetworkRecord record).networkRecords = s.networkRecords.tail ++ [record]
  /-- An update fails exactly when its id is not retained. -/
  update_error : ∀ requestId f, (∃ e, (s.updateNetworkRecordById requestId f).1 = .error e) ↔
    ∀ r ∈ s.networkRecords, r.id ≠ requestId
  /-- A failed update leaves everything unchanged. -/
  update_unchanged : ∀ requestId f e, (s.updateNetworkRecordById requestId f).1 = .error e →
    (s.updateNetworkRecordById requestId f).2 = s
  /-- An update changes no record but its own. -/
  update_own : ∀ requestId f,
    (s.updateNetworkRecordById requestId f).2.networkRecords =
      s.networkRecords.map fun r => if r.id = requestId then f r else r
  /-- A get returns the deque. -/
  get : s.getNetworkRecords = s.networkRecords

/-- A deque that has run the calls of a disciplined sequence is a window on their log. -/
theorem windowOn_log {s : Store} {calls : List RecordCall}
    (hs : s.networkRecords =
      BoundedLog.run NetworkRecord.id s.config.maxNetworkRecords (calls.filterMap toLog))
    (h : Discipline .init calls) (hdraws : draws calls < 2 ^ 64) : WindowOn s (log calls) := by
  -- Distinct ids of the added records are what makes the deque a suffix, and the first record with
  -- an id the only one.
  have hkeep := h.keepsKey
  have hnodup := nodup_added h hdraws
  rw [← appended_toLog] at hnodup
  have hids := BoundedLog.nodup_run s.config.maxNetworkRecords hkeep hnodup
  rw [← hs] at hids
  refine
    { ids_nodup := hids
      suffix := hs ▸ BoundedLog.run_suffix_history _ hkeep hnodup
      add_below := fun record hlt => ?_
      add_full := fun record hle => ?_
      update_error := Store.updateNetworkRecordById_error_iff _
      update_unchanged := fun _ _ _ => Store.updateNetworkRecordById_of_error
      update_own := fun requestId f => ?_
      get := rfl }
  · simp only [Store.addNetworkRecord, if_neg (Nat.not_le.mpr hlt)]
  · simp only [Store.addNetworkRecord, if_pos hle]
  · rw [Store.networkRecords_update, BoundedLog.modifyFirst_eq_map hids]
    rfl

/-- The record store refines the log of its calls: for every bound and every sequence of calls
that keeps the discipline, with fewer than `2 ^ 64` ids drawn, it is a window on the log. -/
theorem networkRecords_refine_log (config : Config) (stats : TrafficStatsData)
    (calls : List RecordCall) (h : Discipline .init calls) (hdraws : draws calls < 2 ^ 64) :
    WindowOn (Store.runCalls ⟨config, [], stats⟩ calls) (log calls) := by
  refine windowOn_log ?_ h hdraws
  rw [Store.runCalls_config]
  exact Store.networkRecords_runCalls ⟨config, [], stats⟩ rfl calls

/-- Two requests draw their ids and are recorded out of order in a store that keeps no more than
one record; the first one is updated after it was evicted. -/
theorem networkRecords_refine_log_evicted :
    WindowOn
      (Store.runCalls ⟨{ Concrete.config with maxNetworkRecords := 1 }, [], .new 0⟩
        [.draw, .draw, .add (NetStorage.newRecord 1 Concrete.request 0),
          .add (NetStorage.newRecord 0 Concrete.request 0), .update 1 NetStorage.markSending,
          .update 0 NetStorage.markSending, .get])
      [NetStorage.markSending (NetStorage.newRecord 1 Concrete.request 0),
        NetStorage.markSending (NetStorage.newRecord 0 Concrete.request 0)] :=
  networkRecords_refine_log _ _ _
    ⟨trivial, trivial, show (1 : UInt64) ∈ [0, 0 + 1] by decide,
      show (0 : UInt64) ∈ [0, 0 + 1].erase 1 by decide, NetStorage.markSending_keepsId,
      NetStorage.markSending_keepsId, trivial, trivial⟩ (by decide)

/-! ## The bound of the store -/

/-- For every `--max-records` and every sequence of calls on the store `Store::init` leaves, the
number of records keeps within the bound in all states the sequence passes through exactly if the
bound is not 0, or no record is added: with a bound of 0 there is nothing to evict before the first
record is pushed. -/
theorem networkRecords_within_bound_iff (port : UInt16) (certPath keyPath : Str)
    (enableHttps enableH2 : Bool) (maxNetworkRecords : ℕ) (now : UInt64)
    (calls : List RecordCall) :
    (∀ done, done <+: calls →
      ((Store.init port certPath keyPath enableHttps enableH2 (some maxNetworkRecords)
        now).runCalls done).networkRecords.length ≤ maxNetworkRecords) ↔
      0 < maxNetworkRecords ∨ added calls = [] := by
  have hrun : ∀ done, ((Store.init port certPath keyPath enableHttps enableH2
      (some maxNetworkRecords) now).runCalls done).networkRecords =
        BoundedLog.run NetworkRecord.id maxNetworkRecords (done.filterMap toLog) :=
    fun done => Store.networkRecords_runCalls _ rfl done
  have hempty : ∀ done, BoundedLog.run NetworkRecord.id maxNetworkRecords
      (done.filterMap toLog) = [] ↔ added done = [] := by
    intro done
    rw [BoundedLog.run_eq_nil_iff, appended_toLog]
  simp only [hrun]
  constructor
  · intro h
    by_contra hcontra
    obtain ⟨hzero, hadded⟩ := not_or.mp hcontra
    have hlength := h calls List.prefix_rfl
    rw [Nat.eq_zero_of_not_pos hzero, Nat.le_zero, List.length_eq_zero_iff] at hlength
    exact hadded ((hempty calls).mp (by rwa [Nat.eq_zero_of_not_pos hzero]))
  · rintro (hpos | hadded) done ⟨rest, rfl⟩
    · exact (BoundedLog.length_run_le _ _).trans (by omega)
    · rw [added, List.filterMap_append, List.append_eq_nil_iff] at hadded
      rw [(hempty done).mpr hadded.1]
      exact Nat.zero_le _

/-- A store with room for no record, after one was added. -/
theorem networkRecords_over_bound_of_zero :
    ¬ ((Store.init 8080 "cert.pem" "key.pem" false false (some 0) 0).runCalls
      [.add (NetStorage.newRecord 0 Concrete.request 0)]).networkRecords.length ≤ 0 := by
  decide

end Bifrost
