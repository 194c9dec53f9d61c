import BifrostCore.Externals
import BifrostCore.Task

/-!
# The tunnel interceptor

`tunnel_interceptor.rs`: the relay between a client and a target. The loop is unrolled `fuel`
times; a run that is observed for at most `fuel` iterations does not see the difference.
-/

namespace Bifrost

open Concurrency

namespace TunnelInterceptor

variable {π : Sig}

/-- `MAX_ERRORS`. -/
def maxErrors : ℕ := 3

/-- What a branch of the `select!` does with the result of its read: both branches are this code,
with the sides exchanged. It returns the new error count, or `none` to leave the loop. -/
def onRead (pm : PluginManager π) (requestId : UInt64) (side : Side) (errorCount : ℕ) :
    Result Chunk → Prog (TaskSig π) (Option ℕ)
  | .ok chunk =>
    if chunk.bytes = [] then return none
    else do
      -- A successful read resets the error count, and an error of `handle_data` is only logged.
      let errorCount := 0
      let _ ← Task.callback .handleData (pm.handleData requestId side.direction chunk.bytes)
      match ← Task.writeAll side.other chunk.bytes with
      | .ok => return some errorCount
      | .err _ _ => return if maxErrors ≤ errorCount + 1 then none else some (errorCount + 1)
  | .error _ => return if maxErrors ≤ errorCount + 1 then none else some (errorCount + 1)

/-- The `select!` of the loop. -/
def onSelect (pm : PluginManager π) (requestId : UInt64) (errorCount : ℕ) :
    SelectOutcome → Prog (TaskSig π) (Option ℕ)
  | .clientRead result => onRead pm requestId .client errorCount result
  | .targetRead result => onRead pm requestId .target errorCount result
  | .timeout => return none

/-- The loop of `handle_tunnel`. -/
def relay (pm : PluginManager π) (requestId : UInt64) : ℕ → ℕ → Prog (TaskSig π) Unit
  | 0, _ => Task.outOfFuel
  | fuel + 1, errorCount => do
    let outcome ← Task.select
    match ← onSelect pm requestId errorCount outcome with
    | some errorCount => relay pm requestId fuel errorCount
    | none => return ()

/-- `StatusCode`, as it displays. -/
def statusText (X : Externals) (status : UInt16) : Str :=
  Text.decimal status.toNat ++ " ".toList ++
    (X.canonicalReason status).getD "<unknown status code>".toList

/-- The `match` on what `handle_connect` returned. -/
def onConnect (X : Externals) (pm : PluginManager π) (fuel : ℕ) (requestId : UInt64) :
    Result (Bool × Option Response) → Prog (TaskSig π) Unit
  | .ok (true, _) => relay pm requestId fuel 0
  | .ok (false, some response) => do
    -- Only the status line is sent; a failed write is unwrapped.
    let line := "HTTP/1.1 ".toList ++ statusText X response.status ++ "\r\n\r\n".toList
    match ← Task.writeAll .client (HeaderValue.ofStr line) with
    | .ok => return ()
    | .err _ _ => Task.unwrap none
  | .ok (false, none) => return ()
  | .error _ => return ()

/-- `handle_tunnel`. -/
def handleTunnel (X : Externals) (pm : PluginManager π) (fuel : ℕ) (requestId : UInt64)
    (req : Request) (host : Str) : Prog (TaskSig π) Unit := do
  let admitted ← Task.callback .handleConnect (pm.handleConnect requestId req)
  onConnect X pm fuel requestId admitted
  -- Every branch that does not panic ends here, and an error is only logged.
  let _ ← Task.callback .handleConnectClose (pm.handleConnectClose requestId host)
  return ()

/-- What an accepted request leaves running: the program of the `tokio::spawn` of its handler. -/
abbrev Spawned (π : Sig) := Prog (TaskSig π) Unit

/-- The future `handle_tunnel_proxy` spawns. -/
def tunnelTask (X : Externals) (pm : PluginManager π) (fuel : ℕ) (requestId : UInt64)
    (host : Str) : Spawned π := do
  match ← Task.upgrade with
  | .ok () => do
    let uri ← Task.unwrap (X.parseUri ("https://".toList ++ host)).toOption
    let clonedReq : Request :=
      { method := .connect, version := .http11, uri, headers := [], remoteAddr := none }
    handleTunnel X pm fuel requestId clonedReq host
  | .error _ => return ()

/-- `handle_tunnel_proxy`: the answer, and the spawned tunnel. -/
def handleTunnelProxy (X : Externals) (pm : PluginManager π) (fuel : ℕ) (requestId : UInt64)
    (addr host : Str) : Prog (TaskSig π) (Response × Spawned π) := do
  match ← Task.tcpConnect addr with
  | .ok () =>
    return (.build 200
      [(.connection, HeaderValue.ofStr "keep-alive"),
        (.proxyConnection, HeaderValue.ofStr "keep-alive"),
        (.proxyAgent, HeaderValue.ofStr "bifrost")] .empty,
      tunnelTask X pm fuel requestId host)
  | .error _ => return (.build 502 [] .empty, return ())

end TunnelInterceptor

end Bifrost
