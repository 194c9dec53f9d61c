import BifrostCore.Concurrency.RwLock
import BifrostCore.Proxy

/-!
# The store under its locks

`store.rs` once more, below the operations of `StoreSig`: `config` and `network_records` stand
behind a lock each, and an operation takes the guards, goes through the records one by one, and
drops the guards. `runLockedProxy` is the proxy in which the tasks do so.

* `DataOp` — the accesses to the configuration and to the deque of records.
* `LockedStore` — the four operations of `Store`, as they take and drop the guards.
* `implement` — every operation of a task, with those four carried out under the locks.
-/

namespace Bifrost

open Concurrency

/-! ## What is behind the locks -/

/-- The locks of `Store`, in the order in which they are taken. -/
inductive StoreLock where
  | networkRecords | config
  deriving DecidableEq, Repr

/-- The place of a lock in that order. -/
def StoreLock.rank : StoreLock → ℕ
  | .networkRecords => 0
  | .config => 1

/-- The accesses to the configuration and to the deque of records. -/
inductive DataOp where
  /-- The configuration. -/
  | config
  /-- `records.len()`. -/
  | len
  /-- The record an iterator is at. -/
  | get (i : ℕ)
  /-- `records.pop_front()`. -/
  | popFront
  /-- `records.push_back(record)`. -/
  | pushBack (record : NetworkRecord)
  /-- `update_fn(record)`. -/
  | modify (i : ℕ) (f : NetworkRecord → NetworkRecord)

/-- The answer of an access. -/
@[reducible]
def DataOp.Res : DataOp → Type
  | .config => Config
  | .len => ℕ
  | .get _ => Option NetworkRecord
  | .popFront => Unit
  | .pushBack _ => Unit
  | .modify _ _ => Unit

/-- The effect of an access. -/
def DataOp.run (config : Config) (records : List NetworkRecord) :
    (o : DataOp) → o.Res × List NetworkRecord
  | .config => (config, records)
  | .len => (records.length, records)
  | .get i => (records[i]?, records)
  | .popFront => ((), records.tail)
  | .pushBack record => ((), records ++ [record])
  | .modify i f => ((), records.modify i f)

/-- The operations of a task, as long as they take no lock, and the accesses under the locks. -/
inductive GuardedOp where
  | data (o : DataOp)
  | task (o : TaskOp StoreSig)

/-- The answer of an operation. -/
@[reducible]
def GuardedOp.Res : GuardedOp → Type
  | .data o => o.Res
  | .task o => o.Res

/-- The signature of these operations. -/
@[reducible]
def GuardedSig : Sig := ⟨GuardedOp, GuardedOp.Res⟩

/-- The state with other records. -/
def Globals.withRecords (g : Globals) (records : List NetworkRecord) : Globals :=
  { g with store := { g.store with networkRecords := records } }

/-- The effect of an operation on the shared state. -/
def performGuarded (ω : Oracle) : Handler GuardedSig Globals
  | .data o, g =>
    let x := o.run g.store.config g.store.networkRecords
    some (x.1, g.withRecords x.2)
  | .task o, g => perform ω o g

/-! ## The operations of the store -/

/-- Programs under the locks of the store. -/
abbrev LockedProg (α : Type) : Type := Prog (Locked StoreLock GuardedSig) α

namespace LockedStore

/-- An access. -/
abbrev data (o : DataOp) : LockedProg o.Res := Prog.plain (S := GuardedSig) (.data o)

/-- `Store::get_config`. -/
def getConfig : LockedProg Config := do
  Prog.acquire .config .read []
  let config ← data .config
  Prog.release .config .read
  return config

/-- `Store::add_network_record`. The guard of `config` is dropped with the statement it is in. -/
def addNetworkRecord (record : NetworkRecord) : LockedProg Unit := do
  Prog.acquire .networkRecords .write []
  Prog.acquire .config .read [(.networkRecords, .write)]
  let config ← data .config
  Prog.release .config .read
  let len ← data .len
  if config.maxNetworkRecords ≤ len then data .popFront
  data (.pushBack record)
  Prog.release .networkRecords .write

/-- `records.iter().cloned().collect()`: the `n` records from the one with index `i`. -/
def collect : ℕ → ℕ → LockedProg (List NetworkRecord)
  | 0, _ => return []
  | n + 1, i => do
    match ← data (.get i) with
    | none => return []
    | some record => do
      let rest ← collect n (i + 1)
      return record :: rest

/-- `Store::get_network_records`. -/
def getNetworkRecords : LockedProg (List NetworkRecord) := do
  Prog.acquire .networkRecords .read []
  let len ← data .len
  let records ← collect len 0
  Prog.release .networkRecords .read
  return records

/-- `records.iter_mut().find(|r| r.id == request_id)`: among the `n` records from the one with index
`i`. -/
def find (requestId : UInt64) : ℕ → ℕ → LockedProg (Option ℕ)
  | 0, _ => return none
  | n + 1, i => do
    match ← data (.get i) with
    | none => return none
    | some record => if record.id = requestId then return some i else find requestId n (i + 1)

/-- `Store::update_network_record_by_id`. -/
def updateNetworkRecordById (requestId : UInt64) (f : NetworkRecord → NetworkRecord) :
    LockedProg (Result Unit) := do
  Prog.acquire .networkRecords .write []
  let len ← data .len
  match ← find requestId len 0 with
  | some i => do
    data (.modify i f)
    Prog.release .networkRecords .write
    return .ok ()
  | none => do
    Prog.release .networkRecords .write
    return .error "Record not found"

/-- The program of an operation, unless it is a single atomic access. -/
def implement : (o : StoreOp) → Option (LockedProg o.Res)
  | .getConfig => some getConfig
  | .addNetworkRecord record => some (addNetworkRecord record)
  | .getNetworkRecords => some getNetworkRecords
  | .updateNetworkRecordById requestId f => some (updateNetworkRecordById requestId f)
  | .load _ | .store _ _ | .fetchAdd _ _ | .fetchSub _ _ | .now => none

end LockedStore

/-! ## The proxy -/

/-- An operation that takes no lock. -/
abbrev unlocked (o : TaskOp StoreSig) : LockedProg o.Res := Prog.plain (S := GuardedSig) (.task o)

/-- The program of an operation of a task. -/
def implement : (o : TaskOp StoreSig) → LockedProg o.Res
  | .callback cb o => (LockedStore.implement o).getD (unlocked (.callback cb o))
  | .store o => (LockedStore.implement o).getD (unlocked (.store o))
  | o => unlocked o

/-- The operation is carried out under the locks. -/
def TaskOp.takesLock : TaskOp StoreSig → Bool
  | .callback _ o | .store o => (LockedStore.implement o).isSome
  | _ => false

/-- The program of a job, under the locks. -/
def Job.lockedProgram (X : Externals) (job : Job) : LockedProg (Option Response) :=
  (job.program X).expand implement

/-- The running proxy, under the locks. -/
abbrev LockedPool : Type :=
  Pool (Locked StoreLock GuardedSig) (LockedState StoreLock Globals) Job (Option Response)

/-- The proxy under the locks after a run, from the state `Store::init` leaves. -/
def runLockedProxy (X : Externals) (config : Config) (now : UInt64)
    (moves : List (Move Job (Bool × Oracle))) : LockedPool :=
  System.lockedRun (Job.lockedProgram X) performGuarded (.init (.fresh config now)) moves

end Bifrost
