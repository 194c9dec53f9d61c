import BifrostCore.Proxy

/-!
# The ledger protocol

What a task of the proxy does to the accounts: the request counters, the byte counters, and the
network records. `ledger` is the abstract model of it, an automaton that says which accounting
operations a task performs in which order, and leaves out everything else a task does:

* a request that is not a CONNECT request draws an id; unless the built-in server keeps it, it is
  counted in three counters, its record is added and marked as sending, and it goes upstream;
* a CONNECT request draws an id; its tunnel is counted in the same three counters, then relays,
  metering and noting every chunk, and closes once;
* the sampler loads counters and stores the ones it owns.

`program_follows` connects the model to the code: the program of every job follows the ledger.
-/

namespace Bifrost

open Concurrency

/-- The two flows that draw an id: requests that are forwarded, and CONNECT requests. -/
inductive Flow where
  | request | tunnel
  deriving DecidableEq

/-- Where a task stands in its accounts. -/
inductive Phase where
  /-- Nothing is drawn yet. -/
  | idle (flow : Flow)
  /-- The id is drawn, nothing is counted. -/
  | drawn (flow : Flow) (id : UInt64)
  /-- Counted in `total_requests`. -/
  | totalled (flow : Flow) (id : UInt64)
  /-- Counted in `current_requests` as well. -/
  | admitted (flow : Flow) (id : UInt64)
  /-- A request that is counted in all three counters. -/
  | counted (id : UInt64)
  /-- A request whose record is added. -/
  | recorded (id : UInt64)
  /-- A request whose record is marked as sending; it goes upstream. -/
  | upstream (id : UInt64)
  /-- A request that came back from upstream. -/
  | answered (id : UInt64)
  /-- An open tunnel. -/
  | relaying (id : UInt64)
  /-- An open tunnel with a chunk of `n` bytes to meter. -/
  | metering (id : UInt64) (direction : DataDirection) (n : ℕ)
  /-- An open tunnel with a chunk to note in a record. -/
  | noting (id : UInt64)
  /-- A tunnel that is taken off `current_requests`. -/
  | closing (id : UInt64)
  /-- A closed tunnel. -/
  | closed (id : UInt64)
  /-- The sampler. -/
  | sampling
  deriving DecidableEq

/-- An operation on the store that changes nothing. -/
def StoreOp.ReadOnly : StoreOp → Prop
  | .getConfig | .getNetworkRecords | .load _ | .now => True
  | _ => False

/-- An operation outside the accounts. -/
def TaskOp.Quiet : TaskOp StoreSig → Prop
  | .callback cb o => cb = .handleRequest ∧ o.ReadOnly
  | .store o => o.ReadOnly
  | .nextRequestId | .clientRequest _ | .select | .writeAll _ _ | .sleep | .outOfFuel => False
  | _ => True

/-- A quiet operation at most reads the store. -/
theorem TaskOp.Quiet.readOnly {o : TaskOp StoreSig} (h : o.Quiet) :
    ∀ o' ∈ o.storeOp, o'.ReadOnly := by
  intro o' ho'
  cases o with
  | callback => exact Option.some.inj ho' ▸ h.2
  | store => exact Option.some.inj ho' ▸ h
  | _ => cases ho'

/-- The counters the sampler owns. -/
def Counter.Sampled (c : Counter) : Prop :=
  c ∈ [.currentSpeedIn, .currentSpeedOut, .maxSpeedIn, .maxSpeedOut, .lastQps,
    .requestsThisSecond, .maxQps]

instance (c : Counter) : Decidable c.Sampled := by unfold Counter.Sampled; infer_instance

namespace Ledger

/-- The phase after a chunk is read: an empty chunk is the end of the stream. -/
def afterRead (id : UInt64) (direction : DataDirection) : Result Chunk → Phase
  | .ok chunk =>
    if chunk.bytes = [] then .relaying id else .metering id direction chunk.bytes.length
  | .error _ => .relaying id

/-- The phase after a `select!`. -/
def afterSelect (id : UInt64) : SelectOutcome → Phase
  | .clientRead result => afterRead id .upstream result
  | .targetRead result => afterRead id .downstream result
  | .timeout => .relaying id

/-- The phase after an operation. -/
def next : Phase → (o : TaskOp StoreSig) → o.Res → Phase
  | .idle flow, .nextRequestId, id => .drawn flow id
  | .drawn flow id, .callback _ (.fetchAdd _ _), _ => .totalled flow id
  | .totalled flow id, .callback _ _, _ => .admitted flow id
  | .admitted .request id, .callback _ _, _ => .counted id
  | .admitted .tunnel id, .callback _ _, _ => .relaying id
  | .counted id, .callback _ (.addNetworkRecord _), _ => .recorded id
  | .recorded id, .callback _ _, _ => .upstream id
  | .upstream id, .clientRequest _, _ => .answered id
  | .relaying id, .select, outcome => afterSelect id outcome
  -- The only callback an open tunnel may run without a chunk is `handle_connect_close`.
  | .relaying id, .callback _ _, _ => .closing id
  | .metering id _ _, .callback _ _, _ => .noting id
  | .noting id, .callback _ _, _ => .relaying id
  | .closing id, .callback _ _, _ => .closed id
  -- Quiet operations, the writes of a tunnel, and the sampler do not move the account.
  | q, _, _ => q

/-- The operations a task may perform in a phase. -/
inductive Allows : Phase → TaskOp StoreSig → Prop
  | quiet_idle {flow : Flow} {o : TaskOp StoreSig} : o.Quiet → Allows (.idle flow) o
  | draw {flow : Flow} : Allows (.idle flow) .nextRequestId
  | quiet_drawn {flow : Flow} {id : UInt64} {o : TaskOp StoreSig} :
      o.Quiet → Allows (.drawn flow id) o
  | request_total {id : UInt64} :
      Allows (.drawn .request id) (.callback .handleRequest (.fetchAdd .totalRequests 1))
  | request_current {id : UInt64} :
      Allows (.totalled .request id) (.callback .handleRequest (.fetchAdd .currentRequests 1))
  | request_second {id : UInt64} :
      Allows (.admitted .request id) (.callback .handleRequest (.fetchAdd .requestsThisSecond 1))
  | clock {id : UInt64} : Allows (.counted id) (.callback .handleRequest .now)
  | add {id : UInt64} {record : NetworkRecord} : record.id = id → record.state = .connecting →
      Allows (.counted id) (.callback .handleRequest (.addNetworkRecord record))
  | mark {id : UInt64} : Allows (.recorded id)
      (.callback .handleRequest (.updateNetworkRecordById id NetStorage.markSending))
  | forward {id : UInt64} {req : Request} : Allows (.upstream id) (.clientRequest req)
  | tunnel_total {id : UInt64} :
      Allows (.drawn .tunnel id) (.callback .handleConnect (.fetchAdd .totalRequests 1))
  | tunnel_current {id : UInt64} :
      Allows (.totalled .tunnel id) (.callback .handleConnect (.fetchAdd .currentRequests 1))
  | tunnel_second {id : UInt64} :
      Allows (.admitted .tunnel id) (.callback .handleConnect (.fetchAdd .requestsThisSecond 1))
  | select {id : UInt64} : Allows (.relaying id) .select
  | write {id : UInt64} {side : Side} {data : List UInt8} :
      Allows (.relaying id) (.writeAll side data)
  | unobserved {id : UInt64} : Allows (.relaying id) .outOfFuel
  | meter {id : UInt64} {direction : DataDirection} {n : ℕ} : Allows (.metering id direction n)
      (.callback .handleData
        (.fetchAdd (TrafficStatsPlugin.byteCounter direction) (UInt64.ofNat n)))
  | note {id : UInt64} {f : NetworkRecord → NetworkRecord} : NetworkRecord.KeepsId f →
      Allows (.noting id) (.callback .handleData (.updateNetworkRecordById id f))
  | release {id : UInt64} :
      Allows (.relaying id) (.callback .handleConnectClose (.fetchSub .currentRequests 1))
  | cancel {id : UInt64} : Allows (.closing id)
      (.callback .handleConnectClose (.updateNetworkRecordById id NetStorage.markClosed))
  | sample_load {c : Counter} : Allows .sampling (.store (.load c))
  | sample_store {c : Counter} {v : UInt64} : c.Sampled → Allows .sampling (.store (.store c v))
  | sample_sleep : Allows .sampling .sleep
  | sample_unobserved : Allows .sampling .outOfFuel

/-- A quiet operation does not move a task that has not drawn an id. -/
theorem next_quiet_idle {flow : Flow} {o : TaskOp StoreSig} (h : o.Quiet) (r : o.Res) :
    next (.idle flow) o r = .idle flow := by
  -- Drawing the id is what moves such a task.
  cases o with
  | nextRequestId => cases h
  | _ => rfl

/-- A quiet operation does not move a task that has drawn an id. -/
theorem next_quiet_drawn {flow : Flow} {id : UInt64} {o : TaskOp StoreSig} (h : o.Quiet)
    (r : o.Res) : next (.drawn flow id) o r = .drawn flow id := by
  -- Counting itself in `total_requests` is what moves such a task.
  cases o with
  | callback cb o =>
    cases o with
    | fetchAdd c n => cases h.2
    | _ => rfl
  | _ => rfl

end Ledger

/-- The ledger protocol. -/
@[reducible]
def ledger : Protocol (TaskSig StoreSig) where
  State := Phase
  Allows := Ledger.Allows
  next := Ledger.next

end Bifrost
