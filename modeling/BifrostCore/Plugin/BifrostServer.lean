import BifrostCore.Externals
import BifrostCore.Plugin.Basic

/-!
# The built-in server plugin

`plugin/bifrost_server.rs`: requests addressed to the proxy itself are answered by the proxy, from
the configuration, the records and the statistics in the store. The plugin is registered first, so
such a request reaches no other plugin.
-/

namespace Bifrost

open Concurrency

namespace BifrostServerPlugin

/-- The result of a route handler. -/
abbrev HandlerResult := Result Json

/-- The headers that allow any origin. -/
def corsHeaders : HeaderMap :=
  [(⟨"access-control-allow-origin", by decide⟩, HeaderValue.ofStr "*"),
    (⟨"access-control-allow-methods", by decide⟩, HeaderValue.ofStr "GET, POST, OPTIONS"),
    (⟨"access-control-allow-headers", by decide⟩, HeaderValue.ofStr "Content-Type")]

/-- The headers of a JSON answer. -/
def jsonHeaders : HeaderMap :=
  (⟨"content-type", by decide⟩, HeaderValue.ofStr "application/json") :: corsHeaders

/-- `wrap_response`. -/
def wrapResponse : HandlerResult → Response
  | .ok data =>
    .build 200 jsonHeaders (.json (.obj [("code", .num 0), ("data", data)]))
  | .error e =>
    .build 500 jsonHeaders (.json (.obj [("code", .num 1), ("message", .str e)]))

/-- `handle_not_found`. -/
def handleNotFound : Response :=
  .build 404 jsonHeaders (.json (.obj [("code", .num 1), ("message", .str "Route not found")]))

/-- `handle_config`. -/
def handleConfig : Prog StoreSig HandlerResult := do
  let config ← Global.getConfig
  return .ok (.obj [("port", .num config.port.toNat), ("cert_path", .str config.certPath),
    ("key_path", .str config.keyPath), ("enable_https", .bool config.enableHttps)])

/-- `map.remove(name)` on an object; other values are left alone. -/
def removeField (name : Str) : Json → Json
  | .obj fields => .obj (fields.filter fun field => field.1 ≠ name)
  | v => v

/-- A record as `handle_get_record` shows it: without its bodies. -/
def showRecord (X : Externals) (record : NetworkRecord) : Result Json := do
  let recordJson ← X.toValue record
  return removeField "response_body" (removeField "request_body" recordJson)

/-- `handle_get_record`: the latest ten records, the newest first. -/
def handleGetRecord (X : Externals) : Prog StoreSig HandlerResult := do
  let records ← Global.getNetworkRecords
  return ((records.reverse.take 10).mapM (showRecord X)).map Json.arr

/-- A size as the `formatted` object shows it. -/
def showMegabytes (X : Externals) (n : UInt64) (unit : Str) : Json :=
  .str (X.megabytes n ++ unit)

/-- `handle_traffic_stats`: every counter is loaded on its own, the formatted ones twice. -/
def handleTrafficStats (X : Externals) : Prog StoreSig HandlerResult := do
  let bytesIn ← Global.load .bytesIn
  let bytesOut ← Global.load .bytesOut
  let totalRequests ← Global.load .totalRequests
  let currentRequests ← Global.load .currentRequests
  let qps ← Global.load .lastQps
  let speedIn ← Global.load .currentSpeedIn
  let speedOut ← Global.load .currentSpeedOut
  let maxSpeedIn ← Global.load .maxSpeedIn
  let maxSpeedOut ← Global.load .maxSpeedOut
  let maxQps ← Global.load .maxQps
  let bytesIn' ← Global.load .bytesIn
  let bytesOut' ← Global.load .bytesOut
  let speedIn' ← Global.load .currentSpeedIn
  let speedOut' ← Global.load .currentSpeedOut
  let maxSpeedIn' ← Global.load .maxSpeedIn
  let maxSpeedOut' ← Global.load .maxSpeedOut
  return .ok (.obj [
    ("bytes_in", .num bytesIn.toNat), ("bytes_out", .num bytesOut.toNat),
    ("total_requests", .num totalRequests.toNat),
    ("current_requests", .num currentRequests.toNat), ("qps", .num qps.toNat),
    ("speed_in", .num speedIn.toNat), ("speed_out", .num speedOut.toNat),
    ("max_speed_in", .num maxSpeedIn.toNat), ("max_speed_out", .num maxSpeedOut.toNat),
    ("max_qps", .num maxQps.toNat),
    ("formatted", .obj [
      ("bytes_in", showMegabytes X bytesIn' " MB"),
      ("bytes_out", showMegabytes X bytesOut' " MB"),
      ("speed_in", showMegabytes X speedIn' " MB/s"),
      ("speed_out", showMegabytes X speedOut' " MB/s"),
      ("max_speed_in", showMegabytes X maxSpeedIn' " MB/s"),
      ("max_speed_out", showMegabytes X maxSpeedOut' " MB/s")])])

/-- `host_server`. The responses have fixed parts only, so building them does not fail. -/
def hostServer (X : Externals) (req : Request) : Prog StoreSig (Result Response) :=
  if req.method = .options then return .ok (.build 200 corsHeaders .empty)
  else if req.uri.path = "/".toList then
    return .ok (wrapResponse (.ok (.str "Bifrost is working")))
  else if req.uri.path = "/config".toList then do
    return .ok (wrapResponse (← handleConfig))
  else if req.uri.path = "/get_record".toList then do
    return .ok (wrapResponse (← handleGetRecord X))
  else if req.uri.path = "/traffic_stats".toList then do
    return .ok (wrapResponse (← handleTrafficStats X))
  else return .ok handleNotFound

/-- `BifrostServerPlugin::get_host`. The `unwrap` of the authority is discharged by what a `Uri`
carries. -/
def getHost (req : Request) : Str :=
  if req.method = .connect then req.uri.toStr
  else
    match h : req.uri.scheme with
    | some scheme =>
      scheme ++ "://".toList ++ req.uri.authority.get (req.uri.authority_isSome (by simp [h]))
    | none => (req.headers.getStr "host").getD []

/-- `is_bifrost_host`. -/
def isBifrostHost (host : Str) (port : UInt16) : Bool :=
  Text.contains host ("127.0.0.1:".toList ++ Text.decimal port.toNat) ||
    Text.contains host ("localhost:".toList ++ Text.decimal port.toNat)

/-- `BifrostServerPlugin::handle_request`. -/
def handleRequest (X : Externals) (_requestId : UInt64) (req : Request) :
    Prog StoreSig (Result (Bool × Option Response) × Request) := do
  let config ← Global.getConfig
  if isBifrostHost (getHost req) config.port then
    -- The answer stops the processing, so the plugins registered later do not see the request.
    match ← hostServer X req with
    | .ok response => return (.ok (false, some response), req)
    | .error e => return (.error e, req)
  else return (.ok (true, none), req)

/-- `BifrostServerPlugin::handle_response`. -/
def handleResponse (_requestId : UInt64) (req : Request) (resp : Response) :
    Prog StoreSig (Result Bool × Response) := do
  let config ← Global.getConfig
  if isBifrostHost (getHost req) config.port then return (.ok false, resp)
  else return (.ok true, resp)

/-- `BifrostServerPlugin::handle_connect`. -/
def handleConnect (_requestId : UInt64) (_req : Request) :
    Prog StoreSig (Result (Bool × Option Response)) :=
  return .ok (true, none)

/-- `BifrostServerPlugin::handle_connect_close`. -/
def handleConnectClose (_requestId : UInt64) (_addr : Str) : Prog StoreSig (Result Bool) :=
  return .ok true

/-- `BifrostServerPlugin::handle_data`. -/
def handleData (_requestId : UInt64) (_direction : DataDirection) (_data : List UInt8) :
    Prog StoreSig (Result Unit) :=
  return .ok ()

/-- `BifrostServerPlugin`. -/
def plugin (X : Externals) : Plugin StoreSig where
  handleRequest := handleRequest X
  handleResponse
  handleConnect
  handleConnectClose
  handleData

end BifrostServerPlugin

end Bifrost
