import BifrostCore.Interceptor.Websocket

/-!
# The HTTP interceptor

`http_interceptor.rs`: the DNS lookup with its cache, the choice between a WebSocket upgrade and a
plain request, and the request to the upstream server through the plugins.
-/

namespace Bifrost

open Concurrency

namespace HttpInterceptor

variable {π : Sig} (X : Externals)

/-- `CACHE_DURATION`, in seconds. -/
def cacheDuration : UInt64 := 300

/-- `build_502_error`. -/
def build502Error (errorMsg : Str) : Response := .build 502 [] (.text errorMsg)

/-- The port `dns_lookup` reads out of a host: the text between the first two colons, or 443. -/
def lookupPort (host : Str) : Option UInt16 :=
  Text.parseUInt16 ((Text.split ':' host)[1]?.getD "443".toList)

/-- `dns_lookup` after a cache miss. -/
def resolveHost (host : Str) (currentTime : UInt64) :
    Prog (TaskSig π) (Result (List SocketAddr)) := do
  let name ← Task.unwrap (Text.split ':' host).head?
  let port ← Task.unwrap (lookupPort host)
  match ← Task.lookupHost name port with
  | .ok addrs => do
    Task.dnsCacheInsert host addrs currentTime
    return .ok addrs
  | .error e => return .error e

/-- `dns_lookup`. -/
def dnsLookup (host : Str) : Prog (TaskSig π) (Result (List SocketAddr)) := do
  let time ← Task.now
  let currentTime ← Task.unwrap (SystemTime.unixSeconds time)
  match ← Task.dnsCacheGet host with
  | some (addrs, timestamp) => do
    -- A `u64` subtraction of two clock readings, the earlier one of which may be the later one.
    let age ← Task.unwrap (X.subU64 currentTime timestamp)
    if age < cacheDuration then return .ok addrs else resolveHost host currentTime
  | none => resolveHost host currentTime

/-- `get_host`. -/
def getHost (req : Request) : Str :=
  if req.version = .http2 then
    (req.uri.authority.or (req.headers.getStr ":authority")).getD "localhost"
  else (req.headers.getStr "host").getD "localhost"

/-- The URI of the request `http_request` sends. -/
def uriString (req : Request) : Str :=
  if req.uri.scheme.isNone then
    "https://".toList ++ getHost req ++ req.uri.pathAndQuery.getD []
  else req.uri.toStr

/-- The request `http_request` sends: a new one, with the method and the headers of `req`. -/
def newRequest (req : Request) (uri : Uri) : Request where
  method := req.method
  version := .http11
  uri
  headers := req.headers
  remoteAddr := none

/-- `http_request`. -/
def httpRequest (pm : PluginManager π) (req : Request) :
    Prog (TaskSig π) (Result Response) := do
  -- The id is drawn before the request is built, so a rejected URI uses one up.
  let requestId ← Task.nextRequestId
  match X.parseUri (uriString req) with
  | .error e => return .error ("Build Request Failed: ".toList ++ e)
  | .ok uri => do
    match ← Task.callback .handleRequest (pm.handleRequest requestId (newRequest req uri)) with
    | (.ok (false, some response), _) => return .ok response
    | (.ok (false, none), _) => return .ok (.build 400 [] (.text "Bad Plugin Response"))
    | (.error _, _) => return .ok (.build 500 [] (.text "Internal Server Error"))
    | (.ok (true, _), newReq) => do
      -- Neither outcome is passed to `PluginManager::handle_response`.
      match ← Task.clientRequest newReq with
      | .ok response => return .ok response
      | .error e =>
        return .ok (build502Error ("Service Unavailable. Can't Connect to Target Server [".toList ++
          getHost req ++ "], [Time: ".toList ++ e.elapsed ++ "]".toList))

/-- `handle_http`. -/
def handleHttp (pm : PluginManager π) (req : Request) : Prog (TaskSig π) Response := do
  match ← dnsLookup X (getHost req) with
  | .error _ =>
    return build502Error ("DNS Lookup Failed: [".toList ++ getHost req ++ "]".toList)
  | .ok _ => do
    if Websocket.isWebsocketUpgrade req then
      match ← Websocket.handleWebsocket X req with
      | .ok response => return response
      | .error _ => return .build 400 [] (.text "WebSocket upgrade failed")
    else
      match ← httpRequest X pm req with
      | .ok response => return response
      | .error _ => return .build 500 [] (.text "Internal Server Error")

end HttpInterceptor

end Bifrost
