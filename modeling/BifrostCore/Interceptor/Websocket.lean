import BifrostCore.Externals
import BifrostCore.Task

/-!
# The WebSocket interceptor

`websocket_interceptor.rs`: the detection of upgrade requests and the handshake with the target.
The relay of messages, which runs after the answer to the client and touches nothing the other tasks
share, is a program of its own, `WebsocketRelay.relay`.
-/

namespace Bifrost

open Concurrency

namespace Websocket

/-- `is_websocket_upgrade`. -/
def isWebsocketUpgrade (req : Request) : Bool :=
  ((req.headers.getStr "upgrade").map fun s =>
      Text.contains (Text.toLowercase s) "websocket").getD false &&
    ((req.headers.getStr "connection").map fun s =>
      Text.contains (Text.toLowercase s) "upgrade").getD false

/-- The `host` of `handle_websocket`: the `Host` header, empty when there is none. -/
def hostHeader (req : Request) : Str := (req.headers.getStr "host").getD []

/-- The target URI of `handle_websocket`. -/
def targetUri (req : Request) : Str :=
  if req.uri.scheme.isNone then
    "wss://".toList ++ (req.headers.getStr "host").getD (hostHeader req) ++
      req.uri.pathAndQuery.getD []
  else Text.replace req.uri.toStr "http" "ws"

/-- The subprotocols of the first `Sec-WebSocket-Protocol` line, trimmed. -/
def subProtocol (req : Request) : Str :=
  Text.join "," ((Text.split ',' ((req.headers.getStr "sec-websocket-protocol").getD [])).map
    Text.trim)

/-- The header lines sent to the target. -/
def targetHeaders (req : Request) : HeaderMap :=
  req.headers.map fun line =>
    if line.1.str ≠ "sec-websocket-protocol".toList then line
    else (line.1, HeaderValue.ofStr (subProtocol req))

/-- The request sent to the target: `none` when the builder rejects the target URI. -/
def targetRequest (X : Externals) (req : Request) : Option Request :=
  match X.parseUri (targetUri req) with
  | .ok uri =>
    some { method := .get, version := .http11, uri, headers := targetHeaders req,
           remoteAddr := none }
  | .error _ => none

/-- `handle_websocket`, up to the answer. -/
def handleWebsocket {π : Sig} (X : Externals) (req : Request) :
    Prog (TaskSig π) (Result Response) := do
  let request ← Task.unwrap (targetRequest X req)
  match ← Task.connectAsync request with
  -- The headers of the target's answer are copied, its body is not.
  | .ok response => return .ok (.build response.status response.headers .empty)
  | .error e => return .ok (.build 502 [] (.text ("Bad Gateway: ".toList ++ e)))

end Websocket

end Bifrost
