import BifrostCore.Plugin.Basic

/-!
# The traffic statistics plugin

`plugin/traffic_stats.rs`: the callbacks that count requests and bytes, and the sampler loop that
turns the counters into speeds and rates once a second.
-/

namespace Bifrost

open Concurrency

namespace TrafficStatsPlugin

/-- The body of `handle_request` and `handle_connect`: one more request, one more in flight, one
more this second. -/
def countRequest : Prog StoreSig Unit := do
  let _ ← Global.fetchAdd .totalRequests 1
  let _ ← Global.fetchAdd .currentRequests 1
  let _ ← Global.fetchAdd .requestsThisSecond 1
  return ()

/-- `TrafficStatsPlugin::handle_request`. -/
def handleRequest (_requestId : UInt64) (req : Request) :
    Prog StoreSig (Result (Bool × Option Response) × Request) := do
  countRequest
  return (.ok (true, none), req)

/-- `TrafficStatsPlugin::handle_response`. -/
def handleResponse (_requestId : UInt64) (_req : Request) (resp : Response) :
    Prog StoreSig (Result Bool × Response) := do
  let _ ← Global.fetchSub .currentRequests 1
  return (.ok true, resp)

/-- `TrafficStatsPlugin::handle_connect`. -/
def handleConnect (_requestId : UInt64) (_req : Request) :
    Prog StoreSig (Result (Bool × Option Response)) := do
  countRequest
  return .ok (true, none)

/-- The counter of the bytes that go in a direction. -/
def byteCounter : DataDirection → Counter
  | .upstream => .bytesOut
  | .downstream => .bytesIn

/-- `TrafficStatsPlugin::handle_data`. -/
def handleData (_requestId : UInt64) (direction : DataDirection) (data : List UInt8) :
    Prog StoreSig (Result Unit) := do
  let _ ← Global.fetchAdd (byteCounter direction) (UInt64.ofNat data.length)
  return .ok ()

/-- `TrafficStatsPlugin::handle_connect_close`. -/
def handleConnectClose (_requestId : UInt64) (_target : Str) : Prog StoreSig (Result Bool) := do
  let _ ← Global.fetchSub .currentRequests 1
  return .ok true

/-- `TrafficStatsPlugin`. -/
def plugin : Plugin StoreSig where
  handleRequest
  handleResponse
  handleConnect
  handleConnectClose
  handleData

/-- Raise a peak to a value above it. -/
def raisePeak (peak : Counter) (value : UInt64) : Prog StoreSig Unit := do
  let currentMax ← Global.load peak
  if currentMax < value then Global.store peak value else return ()

/-- `u64::saturating_sub`. -/
def saturatingSub (a b : UInt64) : UInt64 := if b ≤ a then a - b else 0

/-- One iteration of the sampler loop of `TrafficStatsPlugin::new`, from the byte counts of the
iteration before to its own. -/
def sample (lastBytesIn lastBytesOut : UInt64) : Prog StoreSig (UInt64 × UInt64) := do
  let currentBytesIn ← Global.load .bytesIn
  let currentBytesOut ← Global.load .bytesOut
  let speedIn := saturatingSub currentBytesIn lastBytesIn
  let speedOut := saturatingSub currentBytesOut lastBytesOut
  Global.store .currentSpeedIn speedIn
  Global.store .currentSpeedOut speedOut
  raisePeak .maxSpeedIn speedIn
  raisePeak .maxSpeedOut speedOut
  -- Requests counted between this load and the reset are lost.
  let currentQps ← Global.load .requestsThisSecond
  Global.store .lastQps currentQps
  Global.store .requestsThisSecond 0
  raisePeak .maxQps currentQps
  return (currentBytesIn, currentBytesOut)

end TrafficStatsPlugin

end Bifrost
