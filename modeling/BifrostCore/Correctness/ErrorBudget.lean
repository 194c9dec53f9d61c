import BifrostCore.Correctness.Relay

/-!
# The error budget of a tunnel

The relay loop counts errors and leaves after `MAX_ERRORS` of them, but every chunk that is written
was read before, and a successful read resets the count. So failed writes alone never use the budget
up.

* `FailedInARow` — `MAX_ERRORS` consecutive writes to one side have failed.
* `LoopState` — where the loop can stand between two operations.
* `error_budget_iff` — the loop never goes on after such writes exactly if there are none.
-/

namespace Bifrost

open Concurrency Prog

variable {π : Sig}

/-! ## Consecutive failures -/

/-- The result of a write to a side. -/
def TaskOp.writeResult (side : Side) : (o : TaskOp π) → o.Res → Option WriteResult
  | .writeAll side' _, result => if side' = side then some result else none
  | _, _ => none

/-- The results of the writes to a side, in order. -/
def writeResults (side : Side) (tr : Trace (TaskSig π)) : List WriteResult :=
  tr.filterMap fun e => e.op.writeResult side e.res

@[simp] theorem writeResults_append (side : Side) (tr tr' : Trace (TaskSig π)) :
    writeResults side (tr ++ tr') = writeResults side tr ++ writeResults side tr' :=
  List.filterMap_append

/-- The write failed. -/
def WriteResult.failed : WriteResult → Bool
  | .ok => false
  | .err _ _ => true

/-- `MAX_ERRORS` consecutive writes to a side have failed, whatever else happened in between. -/
def FailedInARow (side : Side) (tr : Trace (TaskSig π)) : Prop :=
  ∃ before failed after, writeResults side tr = before ++ failed ++ after ∧
    failed.length = TunnelInterceptor.maxErrors ∧ ∀ result ∈ failed, result.failed

theorem FailedInARow.mono {side : Side} {tr tr' : Trace (TaskSig π)} (h : FailedInARow side tr)
    (hpre : tr <+: tr') : FailedInARow side tr' := by
  obtain ⟨rest, rfl⟩ := hpre
  obtain ⟨before, failed, after, hresults, hlength, hfailed⟩ := h
  refine ⟨before, failed, after ++ writeResults side rest, ?_, hlength, hfailed⟩
  rw [writeResults_append, hresults, List.append_assoc _ after]

theorem event_of_writeResult {side : Side} {e : Event (TaskSig π)} {result : WriteResult}
    (h : e.op.writeResult side e.res = some result) :
    ∃ data, e = ⟨.writeAll side data, result⟩ := by
  obtain ⟨o, r⟩ := e
  cases o with
  | writeAll side' data =>
    replace h : (if side' = side then some r else none) = some result := h
    split at h
    next hside =>
      obtain rfl := Option.some.inj h
      exact ⟨data, by rw [hside]⟩
    next => cases h
  | _ => cases h

/-- After failures in a row, the trace up to the last of them ends with a failed write. -/
theorem FailedInARow.exists_last {side : Side} {tr : Trace (TaskSig π)}
    (h : FailedInARow side tr) :
    ∃ tr₁ data written e, tr₁ ++ [⟨.writeAll side data, .err written e⟩] <+: tr ∧
      FailedInARow side (tr₁ ++ [⟨.writeAll side data, WriteResult.err written e⟩]) := by
  obtain ⟨before, failed, after, hresults, hlength, hfailed⟩ := h
  obtain rfl | ⟨init, last, rfl⟩ := List.eq_nil_or_concat failed
  · cases hlength
  rw [List.concat_eq_append] at hresults hlength hfailed
  -- The trace is cut behind the write that gave the last of the results.
  have hsplit : writeResults side tr = (before ++ init) ++ (last :: after) := by
    rw [hresults]
    simp
  obtain ⟨tr₁, tr₂, rfl, hinit, hlast⟩ := List.filterMap_eq_append_iff.mp hsplit
  obtain ⟨quiet, event, tr₃, rfl, hquiet, hevent, -⟩ := List.filterMap_eq_cons_iff.mp hlast
  obtain ⟨data, rfl⟩ := event_of_writeResult hevent
  have hlastFailed := hfailed last (by simp)
  cases last with
  | ok => cases hlastFailed
  | err written e =>
    refine ⟨tr₁ ++ quiet, data, written, e, ⟨tr₃, by simp⟩, before, init ++ [.err written e], [],
      ?_, hlength, hfailed⟩
    have hnone : writeResults side quiet = [] := List.filterMap_eq_nil_iff.mpr hquiet
    have hone : writeResults side
        [⟨TaskOp.writeAll (π := π) side data, WriteResult.err written e⟩] = [.err written e] := by
      simp [writeResults, TaskOp.writeResult]
    have hstart : writeResults side tr₁ = before ++ init := hinit
    rw [writeResults_append, writeResults_append, hstart, hnone, hone]
    simp

/-! ## Where the loop stands -/

section Loop

variable (pm : PluginManager π) (id : UInt64)

/-- What the loop does with the new error count. -/
def onCount (fuel : ℕ) : Option ℕ → Prog (TaskSig π) Unit
  | some errorCount => TunnelInterceptor.relay pm id fuel errorCount
  | none => .ret ()

/-- One iteration of the loop. -/
theorem relay_succ (fuel errorCount : ℕ) :
    TunnelInterceptor.relay pm id (fuel + 1) errorCount =
      .act (S := TaskSig π) .select fun outcome =>
        (TunnelInterceptor.onSelect pm id errorCount outcome).bind (onCount pm id fuel) := by
  rw [TunnelInterceptor.relay, bind_eq, call_bind]
  refine congrArg (Prog.act _) (funext fun outcome => congrArg (Prog.bind _) ?_)
  funext count
  cases count <;> rfl

/-- What the loop does with a chunk once the plugins have seen it. -/
def passOn (fuel : ℕ) (side : Side) (data : List UInt8) : Prog (TaskSig π) Unit :=
  (Task.writeAll side data).bind fun
    | .ok => onCount pm id fuel (some 0)
    | .err _ _ => onCount pm id fuel (some 1)

/-- Where the loop can stand: at its head, in the callbacks for a chunk, or at its end. -/
inductive LoopState : Prog (TaskSig π) Unit → Prop
  | head (fuel errorCount : ℕ) : LoopState (TunnelInterceptor.relay pm id fuel errorCount)
  | observing (p : Prog π (Result Unit)) (fuel : ℕ) (side : Side) (data : List UInt8) :
      LoopState ((Task.callback .handleData p).bind fun _ => passOn pm id fuel side data)
  | done : LoopState (.ret ())

theorem loopState_onCount (fuel : ℕ) (count : Option ℕ) :
    LoopState pm id (onCount pm id fuel count) := by
  cases count with
  | none => exact .done
  | some errorCount => exact .head fuel errorCount

theorem loopState_onRead (fuel : ℕ) (side : Side) (errorCount : ℕ) (result : Result Chunk) :
    LoopState pm id ((TunnelInterceptor.onRead pm id side errorCount result).bind
      (onCount pm id fuel)) := by
  cases result with
  | error e => exact loopState_onCount pm id fuel _
  | ok chunk =>
    rw [TunnelInterceptor.onRead]
    split
    · exact .done
    · rw [bind_eq, bind_assoc]
      -- A failed write finds the count that the read has just reset.
      refine Eq.mp (congrArg (LoopState pm id) ?_)
        (.observing (pm.handleData id side.direction chunk.bytes) fuel side.other chunk.bytes)
      refine congrArg (Prog.bind _) (funext fun _ => congrArg (Prog.act _) ?_)
      funext result
      cases result <;> rfl

/-- An operation leads from one of these places to another. -/
theorem LoopState.step {o : TaskOp π} {k : o.Res → Prog (TaskSig π) Unit}
    (h : LoopState pm id (.act (S := TaskSig π) o k)) (r : o.Res) : LoopState pm id (k r) := by
  generalize hp : Prog.act (S := TaskSig π) o k = p at h
  cases h with
  | head fuel errorCount =>
    cases fuel with
    | zero =>
      cases hp
      cases r
    | succ fuel =>
      rw [relay_succ] at hp
      cases hp
      cases r with
      | clientRead result => exact loopState_onRead pm id fuel .client errorCount result
      | targetRead result => exact loopState_onRead pm id fuel .target errorCount result
      | timeout => exact .done
  | observing p fuel side data =>
    -- Either the plugins go on, or they are done and the chunk is written.
    cases p with
    | ret a =>
      cases hp
      cases r with
      | ok => exact .head fuel 0
      | err written e => exact .head fuel 1
    | act o' k' =>
      cases hp
      exact .observing (k' r) fuel side data
  | done => cases hp

/-- Wherever the loop has come, it stands at one of these places. -/
theorem LoopState.steps {p q : Prog (TaskSig π) Unit} {tr : Trace (TaskSig π)}
    (hp : LoopState pm id p) (h : Steps p tr q) : LoopState pm id q := by
  induction h with
  | refl p => exact hp
  | act _ ih => exact ih (hp.step pm id _)

/-- After a failed write the loop stands at the head of another iteration, with one error on the
count. -/
theorem LoopState.after_failed_write {p q : Prog (TaskSig π) Unit} (hp : LoopState pm id p)
    {side : Side} {data : List UInt8} {written : ℕ} {e : Str}
    (h : Steps p [⟨.writeAll side data, .err written e⟩] q) :
    ∃ fuel, q = TunnelInterceptor.relay pm id fuel 1 := by
  cases hp with
  | head fuel errorCount =>
    cases fuel with
    | zero => cases h
    | succ fuel =>
      rw [relay_succ] at h
      cases h
  | observing p' fuel side' data' =>
    cases p' with
    | ret a =>
      cases h with
      | act h => exact ⟨fuel, h.nil_inv⟩
    | act o k => cases h
  | done => cases h

/-- The loop of a tunnel has come to the head of an iteration. -/
def AtHead (fuel : ℕ) (tr : Trace (TaskSig π)) : Prop :=
  ∃ fuel' errorCount, Steps (TunnelInterceptor.relay pm id fuel 0) tr
    (TunnelInterceptor.relay pm id fuel' errorCount)

end Loop

/-- In every run of the loop, whatever the `select!`s and the writes give, the loop never comes to
the head of another iteration after `MAX_ERRORS` consecutive writes to one side have failed exactly
if there are no such writes in the run: the count does not reach its bound by them. -/
theorem error_budget_iff (pm : PluginManager π) (id : UInt64) (fuel : ℕ) {tr : Trace (TaskSig π)}
    {q : Prog (TaskSig π) Unit} (h : Steps (TunnelInterceptor.relay pm id fuel 0) tr q) :
    (∀ done, done <+: tr → AtHead pm id fuel done → ∀ side, ¬ FailedInARow side done) ↔
      ∀ side, ¬ FailedInARow side tr := by
  constructor
  · intro hnever side hfailed
    obtain ⟨start, data, written, e, ⟨rest, rfl⟩, hlast⟩ := hfailed.exists_last
    obtain ⟨next, hnext, -⟩ := h.append_inv
    obtain ⟨writing, hwriting, hwrite⟩ := hnext.append_inv
    have hstate := (LoopState.head fuel 0).steps pm id hwriting
    obtain ⟨fuel', rfl⟩ := hstate.after_failed_write pm id hwrite
    exact hnever _ ⟨rest, rfl⟩ ⟨fuel', 1, hnext⟩ side hlast
  · intro hnone done hdone _ side hfailed
    exact hnone side (hfailed.mono hdone)

namespace Concrete

/-- A round of the loop: the client sends a byte, which is written to the target. -/
def byteRound (counted : UInt64) (written : WriteResult) : Trace (TaskSig StoreSig) :=
  [⟨.select, oneByte⟩, ⟨.callback .handleData (.fetchAdd .bytesOut 1), counted⟩,
    ⟨.callback .handleData (.updateNetworkRecordById 0 (NetStorage.recordData .upstream [1])),
      .error "Record not found"⟩,
    ⟨.writeAll .target [1], written⟩]

/-- Two rounds in which the write to the target fails, and a third one. -/
def byteRounds (written : WriteResult) : Trace (TaskSig StoreSig) :=
  byteRound 0 (.err 0 "broken pipe") ++ byteRound 1 (.err 0 "broken pipe") ++ byteRound 2 written

/-- Three rounds in which the write to the target fails. -/
def failedRounds : Trace (TaskSig StoreSig) := byteRounds (.err 0 "broken pipe")

/-- The write to the target fails twice and then succeeds. -/
def recoveredRounds : Trace (TaskSig StoreSig) := byteRounds .ok

theorem failedRounds_steps :
    Steps (TunnelInterceptor.relay (registeredPlugins externals) 0 4 0) failedRounds
      (TunnelInterceptor.relay (registeredPlugins externals) 0 1 1) :=
  .act (.act (.act (.act (.act (.act (.act (.act (.act (.act (.act (.act (.refl _))))))))))))

theorem recoveredRounds_steps :
    Steps (TunnelInterceptor.relay (registeredPlugins externals) 0 4 0) recoveredRounds
      (TunnelInterceptor.relay (registeredPlugins externals) 0 1 0) :=
  .act (.act (.act (.act (.act (.act (.act (.act (.act (.act (.act (.act (.refl _))))))))))))

/-- Two failures are not enough for a bound of three. -/
theorem not_failedInARow_recoveredRounds (side : Side) : ¬ FailedInARow side recoveredRounds := by
  rintro ⟨before, failed, after, hresults, hlength, hfailed⟩
  have htotal := congrArg List.length hresults
  rw [List.length_append, List.length_append, hlength] at htotal
  cases side with
  | client =>
    have hnone : (writeResults .client recoveredRounds).length = 0 := by decide
    rw [hnone, TunnelInterceptor.maxErrors] at htotal
    omega
  | target =>
    have hthree : (writeResults .target recoveredRounds).length = 3 := by decide
    rw [hthree, TunnelInterceptor.maxErrors] at htotal
    -- The three of them would be all writes there are, and the last one has succeeded.
    obtain rfl : before = [] := List.eq_nil_of_length_eq_zero (by omega)
    obtain rfl : after = [] := List.eq_nil_of_length_eq_zero (by omega)
    rw [List.nil_append, List.append_nil] at hresults
    have hok : WriteResult.ok ∈ failed := hresults ▸ List.mem_of_getElem? (i := 2) rfl
    exact Bool.false_ne_true (hfailed .ok hok)

end Concrete

/-- A tunnel with two failed writes and a third one that succeeds goes on within its budget. -/
theorem error_budget_iff_recovered :
    AtHead (registeredPlugins Concrete.externals) 0 4 Concrete.recoveredRounds ∧
      ∀ done, done <+: Concrete.recoveredRounds →
        AtHead (registeredPlugins Concrete.externals) 0 4 done → ∀ side, ¬ FailedInARow side done :=
  ⟨⟨1, 0, Concrete.recoveredRounds_steps⟩,
    (error_budget_iff _ 0 4 Concrete.recoveredRounds_steps).mpr
      Concrete.not_failedInARow_recoveredRounds⟩

/-- After three failed writes the loop goes on. -/
theorem error_budget_exceeded :
    AtHead (registeredPlugins Concrete.externals) 0 4 Concrete.failedRounds ∧
      FailedInARow .target Concrete.failedRounds :=
  ⟨⟨1, 1, Concrete.failedRounds_steps⟩, [], writeResults .target Concrete.failedRounds, [],
    by simp, rfl, by decide⟩

end Bifrost
