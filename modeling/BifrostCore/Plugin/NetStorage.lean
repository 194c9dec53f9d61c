import BifrostCore.Externals
import BifrostCore.Plugin.Basic

/-!
# The network record plugin

`plugin/net_storage.rs`: the callbacks that keep a `NetworkRecord` for every request. The errors
of `update_network_record_by_id` are dropped, as `.ok()` drops them in the code.
-/

namespace Bifrost

open Concurrency

namespace NetStorage

/-- `MAX_BODY_SIZE`: two megabytes. -/
def maxBodySize : ℕ := 2 * 1024 * 1024

/-- The client's address and port, cut at the last colon of the socket address. -/
def clientAddr (remoteAddr : Str) : Str × UInt16 :=
  match Text.rfind ':' remoteAddr with
  | some idx =>
    (remoteAddr.take idx, (Text.parseUInt16 (remoteAddr.drop (idx + 1))).getD 0)
  | none => (remoteAddr, 0)

/-- The size of the head of a request, as `handle_request` adds it up. -/
def requestSize (req : Request) : ℕ :=
  (Text.len req.method.asStr + 1) + (Text.len req.uri.path + 1) +
    (Text.len req.version.debug + 2) + req.headers.size + 2

/-- The record `handle_request` adds. -/
def newRecord (requestId : UInt64) (req : Request) (startTime : SystemTime) : NetworkRecord :=
  let remoteAddr := req.remoteAddr.getD "unknown".toList
  { id := requestId
    clientIp := (clientAddr remoteAddr).1
    clientPort := (clientAddr remoteAddr).2
    serverIp := req.uri.host.getD "unknown".toList
    serverPort := req.uri.portU16.getD 80
    host := req.uri.host.getD "unknown".toList
    url := req.uri.toStr
    path := req.uri.path
    protocol := req.version.debug
    method := req.method.asStr
    requestHeaders := req.headers.render
    responseHeaders := []
    requestBody := none
    responseBody := none
    requestSize := requestSize req
    responseSize := 0
    startTime
    endTime := none
    dnsDuration := none
    tcpConnectDuration := none
    ttfbDuration := none
    downloadDuration := none
    statusCode := none
    statusMessage := none
    state := .connecting }

/-- The update of `handle_request`. -/
def markSending (record : NetworkRecord) : NetworkRecord := { record with state := .sending }

/-- `NetStorage::handle_request`. -/
def handleRequest (requestId : UInt64) (req : Request) :
    Prog StoreSig (Result (Bool × Option Response) × Request) := do
  let startTime ← Global.now
  Global.addNetworkRecord (newRecord requestId req startTime)
  -- The records are unlocked between the two calls.
  let _ ← Global.updateNetworkRecordById requestId markSending
  return (.ok (true, none), req)

/-- The size of the head of a response, as `handle_response` adds it up. -/
def responseSize (X : Externals) (resp : Response) : ℕ :=
  (Text.len resp.version.debug + 1) + (Text.len (Text.decimal resp.status.toNat) + 1) +
    (Text.len ((X.canonicalReason resp.status).getD []) + 2) + resp.headers.size + 2

/-- The update of `handle_response`. -/
def recordResponse (X : Externals) (resp : Response) (endTime : SystemTime)
    (record : NetworkRecord) : NetworkRecord :=
  { record with
    state := .receiving
    statusCode := some resp.status
    statusMessage := some ((X.canonicalReason resp.status).getD "Unknown".toList)
    responseHeaders := resp.headers.render
    endTime := some endTime
    responseSize := responseSize X resp
    downloadDuration :=
      match SystemTime.durationSince endTime record.startTime with
      | some duration => some duration
      | none => record.downloadDuration }

/-- `NetStorage::handle_response`. The clock is read inside the update. -/
def handleResponse (X : Externals) (requestId : UInt64) (_req : Request) (resp : Response) :
    Prog StoreSig (Result Bool × Response) := do
  let endTime ← Global.now
  let _ ← Global.updateNetworkRecordById requestId (recordResponse X resp endTime)
  return (.ok true, resp)

/-- `NetStorage::handle_connect`. -/
def handleConnect (_requestId : UInt64) (_req : Request) :
    Prog StoreSig (Result (Bool × Option Response)) :=
  return .ok (true, none)

/-- The update of `handle_connect_close`. -/
def markClosed (record : NetworkRecord) : NetworkRecord :=
  if record.state = .completed then record else { record with state := .cancelled }

/-- `NetStorage::handle_connect_close`. -/
def handleConnectClose (requestId : UInt64) (_addr : Str) : Prog StoreSig (Result Bool) := do
  let _ ← Global.updateNetworkRecordById requestId markClosed
  return .ok true

/-- A captured body after one more chunk, when `size` bytes have been counted with it. -/
def captureBody (body : Option (List UInt8)) (size : ℕ) (data : List UInt8) :
    Option (List UInt8) :=
  if size ≤ maxBodySize then some (body.getD [] ++ data) else none

/-- The update of `handle_data`. -/
def recordData (direction : DataDirection) (data : List UInt8) (record : NetworkRecord) :
    NetworkRecord :=
  match direction with
  | .upstream =>
    -- The size counts the chunk before the body is compared with its bound.
    { record with
      requestSize := record.requestSize + data.length
      requestBody :=
        captureBody record.requestBody (record.requestSize + data.length) data }
  | .downstream =>
    { record with
      responseSize := record.responseSize + data.length
      responseBody :=
        captureBody record.responseBody (record.responseSize + data.length) data
      state := .completed }

/-- `NetStorage::handle_data`. -/
def handleData (requestId : UInt64) (direction : DataDirection) (data : List UInt8) :
    Prog StoreSig (Result Unit) := do
  let _ ← Global.updateNetworkRecordById requestId (recordData direction data)
  return .ok ()

/-- `NetStorage`. -/
def plugin (X : Externals) : Plugin StoreSig where
  handleRequest
  handleResponse := handleResponse X
  handleConnect
  handleConnectClose
  handleData

theorem markSending_keepsId : NetworkRecord.KeepsId markSending := fun _ => rfl

theorem markClosed_keepsId : NetworkRecord.KeepsId markClosed := by
  intro r
  unfold markClosed
  split <;> rfl

theorem recordData_keepsId (direction : DataDirection) (data : List UInt8) :
    NetworkRecord.KeepsId (recordData direction data) := by
  intro r
  cases direction <;> rfl

end NetStorage

end Bifrost
