import BifrostCore.Concurrency.LockOrder
import BifrostCore.LockedStore

/-!
# The locks of the store

The operations of the store take its locks in one order, hold the guards their accesses need, and
drop them all.

* `implement_follows` — the programs under the locks follow the protocol of the locks.
* `store_locks_move` — in every run, where a task waits for a lock, one that waits or holds moves
  on.
-/

namespace Bifrost

open Concurrency Prog

/-! ## The order of the locks -/

/-- The guards an operation needs. -/
def GuardedOp.Needs : GuardedOp → List (StoreLock × Mode) → Prop
  | .data .config, held => (.config, .read) ∈ held
  | .data .len, held | .data (.get _), held => ∃ m, (.networkRecords, m) ∈ held
  | .data .popFront, held | .data (.pushBack _), held | .data (.modify _ _), held =>
    (.networkRecords, .write) ∈ held
  | .task _, held => held = []

/-- The protocol of the locks of the store. -/
abbrev storeLocks : Protocol (Locked StoreLock GuardedSig) :=
  ordered StoreLock.rank GuardedOp.Needs

namespace LockedStore

variable {m : Mode} {held : List (StoreLock × Mode)}

theorem getConfig_follows :
    getConfig.Follows storeLocks .nothing fun q _ => q = .nothing := by
  refine (acquire_follows (by simp)).bind ?_
  rintro q _ rfl
  refine (plain_follows (List.mem_singleton.mpr rfl)).bind ?_
  rintro q config rfl
  refine release_follows.bind ?_
  rintro q _ rfl
  rfl

theorem addNetworkRecord_follows (record : NetworkRecord) :
    (addNetworkRecord record).Follows storeLocks .nothing fun q _ => q = .nothing := by
  refine (acquire_follows (by simp)).bind ?_
  rintro q _ rfl
  refine (acquire_follows (by decide)).bind ?_
  rintro q _ rfl
  refine (plain_follows (List.mem_cons_self)).bind ?_
  rintro q config rfl
  refine release_follows.bind ?_
  rintro q _ rfl
  have hwrite : (StoreLock.networkRecords, Mode.write) ∈ [(StoreLock.networkRecords, Mode.write)] :=
    List.mem_singleton.mpr rfl
  refine (plain_follows ⟨_, hwrite⟩).bind ?_
  rintro q len rfl
  have hpush : (do
      data (.pushBack record)
      Prog.release .networkRecords .write : LockedProg Unit).Follows storeLocks
        ⟨none, [(.networkRecords, .write)]⟩ fun q _ => q = .nothing := by
    refine (plain_follows hwrite).bind ?_
    rintro q _ rfl
    exact release_follows
  split
  · refine (plain_follows hwrite).bind ?_
    rintro q _ rfl
    exact hpush
  · exact hpush

theorem collect_follows (hheld : (.networkRecords, m) ∈ held) (n i : ℕ) :
    (collect n i).Follows storeLocks ⟨none, held⟩ fun q _ => q = ⟨none, held⟩ := by
  induction n generalizing i with
  | zero => rfl
  | succ n ih =>
    refine (plain_follows ⟨m, hheld⟩).bind ?_
    rintro q record rfl
    cases record with
    | none => rfl
    | some record => exact (ih (i + 1)).bind fun q _ hq => hq

theorem getNetworkRecords_follows :
    getNetworkRecords.Follows storeLocks .nothing fun q _ => q = .nothing := by
  refine (acquire_follows (by simp)).bind ?_
  rintro q _ rfl
  refine (plain_follows ⟨_, List.mem_singleton.mpr rfl⟩).bind ?_
  rintro q len rfl
  refine (collect_follows (List.mem_singleton.mpr rfl) len 0).bind ?_
  rintro q records rfl
  refine release_follows.bind ?_
  rintro q _ rfl
  rfl

theorem find_follows (hheld : (.networkRecords, m) ∈ held) (requestId : UInt64) (n i : ℕ) :
    (find requestId n i).Follows storeLocks ⟨none, held⟩ fun q _ => q = ⟨none, held⟩ := by
  induction n generalizing i with
  | zero => rfl
  | succ n ih =>
    refine (plain_follows ⟨m, hheld⟩).bind ?_
    rintro q record rfl
    cases record with
    | none => rfl
    | some record =>
      show Follows storeLocks _ (if _ then _ else _) _
      split
      · rfl
      · exact ih (i + 1)

theorem updateNetworkRecordById_follows (requestId : UInt64) (f : NetworkRecord → NetworkRecord) :
    (updateNetworkRecordById requestId f).Follows storeLocks .nothing
      fun q _ => q = .nothing := by
  refine (acquire_follows (by simp)).bind ?_
  rintro q _ rfl
  refine (plain_follows ⟨_, List.mem_singleton.mpr rfl⟩).bind ?_
  rintro q len rfl
  refine (find_follows (List.mem_singleton.mpr rfl) requestId len 0).bind ?_
  rintro q found rfl
  cases found with
  | none =>
    refine release_follows.bind ?_
    rintro q _ rfl
    rfl
  | some i =>
    refine (plain_follows (List.mem_singleton.mpr rfl)).bind ?_
    rintro q _ rfl
    refine release_follows.bind ?_
    rintro q _ rfl
    rfl

/-- An operation on the store, under the locks or not. -/
theorem implement_follows (o : StoreOp) {other : LockedProg o.Res}
    (hother : other.Follows storeLocks .nothing fun q _ => q = .nothing) :
    ((implement o).getD other).Follows storeLocks .nothing fun q _ => q = .nothing := by
  cases o with
  | getConfig => exact getConfig_follows
  | addNetworkRecord record => exact addNetworkRecord_follows record
  | getNetworkRecords => exact getNetworkRecords_follows
  | updateNetworkRecordById requestId f => exact updateNetworkRecordById_follows requestId f
  | _ => exact hother

end LockedStore

theorem implement_follows (o : TaskOp StoreSig) :
    (implement o).Follows storeLocks .nothing fun q _ => q = .nothing := by
  have hunlocked : (unlocked o).Follows storeLocks .nothing fun q _ => q = .nothing :=
    plain_follows rfl
  cases o with
  | callback cb o => exact LockedStore.implement_follows o hunlocked
  | store o => exact LockedStore.implement_follows o hunlocked
  | _ => exact hunlocked

theorem Job.lockedProgram_follows (X : Externals) (job : Job) :
    (job.lockedProgram X).Follows storeLocks .nothing fun q _ => q = .nothing :=
  follows_expand implement_follows (job.program X)

/-- The locks of the store never deadlock, in any run: where a task waits for one of them, some task
that waits for one or holds one can perform its next operation. -/
theorem store_locks_move (X : Externals) (config : Config) (now : UInt64)
    (moves : List (Move Job (Bool × Oracle))) :
    ∀ t ∈ (runLockedProxy X config now moves).threads, t.holding.waiting.isSome →
      ∃ u ∈ (runLockedProxy X config now moves).threads, System.Engaged u ∧
        System.CanMove performGuarded u (runLockedProxy X config now moves).state := by
  intro t ht hwait
  obtain ⟨⟨l, x⟩, hwait⟩ := Option.isSome_iff_exists.mp hwait
  have : Nonempty Oracle := ⟨Concrete.oracle .timeout⟩
  refine System.waiting_moves (Job.lockedProgram_follows X) ?_ ht hwait
  rintro (o | o) held hheld hneeds g
  · exact ⟨Concrete.oracle .timeout, rfl⟩
  · exact absurd hneeds hheld

namespace Concrete

/-- Two requests of which the first holds the records for writing, while the second waits. -/
def contended : List (Move Job (Bool × Oracle)) :=
  [.spawn (.intercepted request), .spawn (.intercepted request)] ++
    .replicate 15 (.step 0 (false, oracle .timeout)) ++
    .replicate 12 (.step 1 (false, oracle .timeout))

end Concrete

/-- One of the two requests moves on. -/
theorem store_locks_move_contended :
    ∃ u ∈ (runLockedProxy Concrete.externals Concrete.config 0 Concrete.contended).threads,
      System.Engaged u ∧ System.CanMove performGuarded u
        (runLockedProxy Concrete.externals Concrete.config 0 Concrete.contended).state := by
  obtain ⟨t, ht, hwait⟩ : ∃ t ∈ (runLockedProxy Concrete.externals Concrete.config 0
      Concrete.contended).threads, t.holding.waiting.isSome := by
    decide +kernel
  exact store_locks_move Concrete.externals Concrete.config 0 Concrete.contended t ht hwait

end Bifrost
