import Mathlib.Data.Int.Notation
import BifrostCore.BoundedLog
import BifrostCore.Concurrency.Program
import BifrostCore.Http.Message

/-!
# The store

`store.rs`: the state every task of the proxy shares, and its operations. A record store is a
deque of `NetworkRecord`s bounded by `max_network_records`; the traffic statistics are 64-bit
atomics. `StoreSig` is the signature of the operations, each of them atomic: the counters are
single atomic accesses, and every access to the records holds their lock throughout.

The counters are `UInt64`, whose addition and subtraction wrap around as `fetch_add` and
`fetch_sub` do.
-/

namespace Bifrost

open Concurrency

/-- `SystemTime`: nanoseconds since the Unix epoch, negative before it. -/
abbrev SystemTime := ℤ

/-- `Duration`: nanoseconds. -/
abbrev Duration := ℕ

namespace SystemTime

/-- `later.duration_since(earlier).ok()`. -/
def durationSince (later earlier : SystemTime) : Option Duration :=
  if earlier ≤ later then some (later - earlier).toNat else none

/-- `time.duration_since(UNIX_EPOCH)` in whole seconds. -/
def unixSeconds (time : SystemTime) : Option UInt64 :=
  (durationSince time 0).map fun d => UInt64.ofNat (d / 1000000000)

end SystemTime

/-! ## Network records -/

/-- `RequestState`. -/
inductive RequestState where
  | connecting | sending | receiving | completed | cancelled
  deriving DecidableEq, Repr

/-- `NetworkRecord`. Sizes are unbounded here, where the machine's `usize` wraps: what is said of
them is said of records whose totals stay below `2 ^ 64`. -/
structure NetworkRecord where
  /-- The request id. -/
  id : UInt64
  clientIp : Str
  clientPort : UInt16
  serverIp : Str
  serverPort : UInt16
  host : Str
  url : Str
  path : Str
  protocol : Str
  method : Str
  requestHeaders : List (Str × Str)
  responseHeaders : List (Str × Str)
  requestBody : Option (List UInt8)
  responseBody : Option (List UInt8)
  requestSize : ℕ
  responseSize : ℕ
  startTime : SystemTime
  endTime : Option SystemTime
  dnsDuration : Option Duration
  tcpConnectDuration : Option Duration
  ttfbDuration : Option Duration
  downloadDuration : Option Duration
  statusCode : Option UInt16
  statusMessage : Option Str
  /-- Where the request stands. -/
  state : RequestState
  deriving DecidableEq, Repr

namespace NetworkRecord

/-- An update of a record that keeps its id. -/
def KeepsId (f : NetworkRecord → NetworkRecord) : Prop := ∀ r, (f r).id = r.id

end NetworkRecord

/-! ## Configuration and statistics -/

/-- `Config`. -/
structure Config where
  port : UInt16
  certPath : Str
  keyPath : Str
  enableHttps : Bool
  enableH2 : Bool
  maxNetworkRecords : ℕ
  deriving DecidableEq, Repr

/-- The atomics of `TrafficStatsData`. -/
inductive Counter where
  | bytesIn | bytesOut | lastBytesIn | lastBytesOut
  | currentSpeedIn | currentSpeedOut | lastUpdate
  | totalRequests | currentRequests | lastSecond | requestsThisSecond | lastQps
  | maxSpeedIn | maxSpeedOut | maxQps
  deriving DecidableEq, Repr

/-- `TrafficStatsData`: the value of every atomic. -/
structure TrafficStatsData where
  /-- The value of a counter. -/
  value : Counter → UInt64

namespace TrafficStatsData

/-- `TrafficStatsData::new`: all zero, but for the two time stamps. -/
def new (now : UInt64) : TrafficStatsData where
  value c := if c = .lastUpdate ∨ c = .lastSecond then now else 0

/-- Write a counter. -/
def set (d : TrafficStatsData) (c : Counter) (v : UInt64) : TrafficStatsData where
  value := Function.update d.value c v

@[simp] theorem set_self (d : TrafficStatsData) (c : Counter) (v : UInt64) :
    (d.set c v).value c = v := by
  simp [set]

@[simp] theorem set_ne (d : TrafficStatsData) {c c' : Counter} (h : c' ≠ c) (v : UInt64) :
    (d.set c v).value c' = d.value c' := by
  simp [set, h]

@[ext] theorem ext {d d' : TrafficStatsData} (h : ∀ c, d.value c = d'.value c) : d = d' := by
  cases d
  cases d'
  exact congrArg mk (funext h)

end TrafficStatsData

/-! ## The store and its operations -/

/-- `Store`. -/
structure Store where
  /-- The configuration, which nothing writes after `init`. -/
  config : Config
  /-- The records, oldest first. -/
  networkRecords : List NetworkRecord
  /-- The traffic statistics. -/
  trafficStats : TrafficStatsData

namespace Store

/-- A store without records, and with the statistics of a new one. -/
def fresh (config : Config) (now : UInt64) : Store where
  config
  networkRecords := []
  trafficStats := .new now

/-- `Store::init`. -/
def init (port : UInt16) (certPath keyPath : Str) (enableHttps enableH2 : Bool)
    (maxNetworkRecords : Option ℕ) (now : UInt64) : Store :=
  fresh
    { port, certPath, keyPath, enableHttps, enableH2,
      maxNetworkRecords := maxNetworkRecords.getD 10000 } now

/-- `Store::add_network_record`: at the bound, the oldest record makes room. -/
def addNetworkRecord (s : Store) (record : NetworkRecord) : Store :=
  let records :=
    if s.config.maxNetworkRecords ≤ s.networkRecords.length then s.networkRecords.tail
    else s.networkRecords
  { s with networkRecords := records ++ [record] }

/-- `Store::get_network_records`. -/
def getNetworkRecords (s : Store) : List NetworkRecord := s.networkRecords

/-- `Store::update_network_record_by_id`. -/
def updateNetworkRecordById (s : Store) (requestId : UInt64) (f : NetworkRecord → NetworkRecord) :
    Result Unit × Store :=
  match BoundedLog.modifyFirst (fun r => r.id = requestId) f s.networkRecords with
  | some records => (.ok (), { s with networkRecords := records })
  | none => (.error "Record not found", s)

end Store

/-- The atomic operations on the store. -/
inductive StoreOp where
  | getConfig
  | addNetworkRecord (record : NetworkRecord)
  | getNetworkRecords
  | updateNetworkRecordById (requestId : UInt64) (f : NetworkRecord → NetworkRecord)
  | load (c : Counter)
  | store (c : Counter) (v : UInt64)
  | fetchAdd (c : Counter) (n : UInt64)
  | fetchSub (c : Counter) (n : UInt64)
  /-- `SystemTime::now()`. -/
  | now

/-- The answer of an operation; `fetch_add` and `fetch_sub` answer with the old value. -/
@[reducible]
def StoreOp.Res : StoreOp → Type
  | .getConfig => Config
  | .addNetworkRecord _ => Unit
  | .getNetworkRecords => List NetworkRecord
  | .updateNetworkRecordById _ _ => Result Unit
  | .load _ => UInt64
  | .store _ _ => Unit
  | .fetchAdd _ _ => UInt64
  | .fetchSub _ _ => UInt64
  | .now => SystemTime

/-- The signature of the operations on the store. -/
@[reducible]
def StoreSig : Sig := ⟨StoreOp, StoreOp.Res⟩

namespace Store

/-- The effect of an operation, when the clock reads `clock`. -/
def perform (clock : SystemTime) (s : Store) : (o : StoreOp) → o.Res × Store
  | .getConfig => (s.config, s)
  | .addNetworkRecord record => ((), s.addNetworkRecord record)
  | .getNetworkRecords => (s.getNetworkRecords, s)
  | .updateNetworkRecordById id f => s.updateNetworkRecordById id f
  | .load c => (s.trafficStats.value c, s)
  | .store c v => ((), { s with trafficStats := s.trafficStats.set c v })
  | .fetchAdd c n =>
    (s.trafficStats.value c,
      { s with trafficStats := s.trafficStats.set c (s.trafficStats.value c + n) })
  | .fetchSub c n =>
    (s.trafficStats.value c,
      { s with trafficStats := s.trafficStats.set c (s.trafficStats.value c - n) })
  | .now => (clock, s)

/-- An update of a record leaves everything but the records alone. -/
theorem update_frame (s : Store) (requestId : UInt64) (f : NetworkRecord → NetworkRecord) :
    (s.updateNetworkRecordById requestId f).2.config = s.config ∧
      (s.updateNetworkRecordById requestId f).2.trafficStats = s.trafficStats := by
  unfold updateNetworkRecordById
  split <;> exact ⟨rfl, rfl⟩

end Store

/-! The operations, as a plugin calls them on `Store::global()`. -/

namespace Global

abbrev getConfig : Prog StoreSig Config := .call (S := StoreSig) StoreOp.getConfig

abbrev addNetworkRecord (record : NetworkRecord) : Prog StoreSig Unit :=
  .call (S := StoreSig) (StoreOp.addNetworkRecord record)

abbrev getNetworkRecords : Prog StoreSig (List NetworkRecord) :=
  .call (S := StoreSig) StoreOp.getNetworkRecords

abbrev updateNetworkRecordById (requestId : UInt64) (f : NetworkRecord → NetworkRecord) :
    Prog StoreSig (Result Unit) :=
  .call (S := StoreSig) (StoreOp.updateNetworkRecordById requestId f)

abbrev load (c : Counter) : Prog StoreSig UInt64 := .call (S := StoreSig) (StoreOp.load c)

abbrev store (c : Counter) (v : UInt64) : Prog StoreSig Unit :=
  .call (S := StoreSig) (StoreOp.store c v)

abbrev fetchAdd (c : Counter) (n : UInt64) : Prog StoreSig UInt64 :=
  .call (S := StoreSig) (StoreOp.fetchAdd c n)

abbrev fetchSub (c : Counter) (n : UInt64) : Prog StoreSig UInt64 :=
  .call (S := StoreSig) (StoreOp.fetchSub c n)

abbrev now : Prog StoreSig SystemTime := .call (S := StoreSig) StoreOp.now

end Global

end Bifrost
