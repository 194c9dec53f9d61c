import BifrostCore.Concurrency.Coupling
import BifrostCore.Proxy

/-!
# Callbacks as tasks

The callbacks of the registered plugins as tasks of their own, next to the sampler of the traffic
statistics. The proxy calls `handle_connect_close` after `handle_connect` and does not call
`handle_response` at all; here every callback may be called at any time, with any arguments, and
the operations of all calls are interleaved in any order.
-/

namespace Bifrost

open Concurrency

/-- A call of a callback of the plugin manager, or the sampler. -/
inductive Invocation where
  | handleRequest (requestId : UInt64) (req : Request)
  | handleResponse (requestId : UInt64) (req : Request) (resp : Response)
  | handleConnect (requestId : UInt64) (req : Request)
  | handleConnectClose (requestId : UInt64) (target : Str)
  | handleData (requestId : UInt64) (direction : DataDirection) (data : List UInt8)
  /-- The sampler of the statistics, unrolled `fuel` times. -/
  | sampler (fuel : ℕ)

/-- What a call returns. A `&mut` argument is handed back with the result. -/
inductive Reply where
  | handleRequest (result : Result (Bool × Option Response)) (req : Request)
  | handleResponse (result : Result Bool) (resp : Response)
  | handleConnect (result : Result (Bool × Option Response))
  | handleConnectClose (result : Result Bool)
  | handleData (result : Result Unit)
  | sampler

namespace Invocation

/-- The invocation is the sampler. -/
def isSampler : Invocation → Bool
  | .sampler _ => true
  | _ => false

/-- The program of an invocation. -/
def program (X : Externals) : Invocation → Prog (TaskSig StoreSig) Reply
  | .handleRequest requestId req => do
    let (result, req) ←
      Task.callback .handleRequest ((registeredPlugins X).handleRequest requestId req)
    return .handleRequest result req
  | .handleResponse requestId req resp => do
    let (result, resp) ←
      Task.callback .handleResponse ((registeredPlugins X).handleResponse requestId req resp)
    return .handleResponse result resp
  | .handleConnect requestId req => do
    return .handleConnect
      (← Task.callback .handleConnect ((registeredPlugins X).handleConnect requestId req))
  | .handleConnectClose requestId target => do
    return .handleConnectClose (← Task.callback .handleConnectClose
      ((registeredPlugins X).handleConnectClose requestId target))
  | .handleData requestId direction data => do
    return .handleData
      (← Task.callback .handleData ((registeredPlugins X).handleData requestId direction data))
  | .sampler fuel => do
    samplerLoop fuel 0 0
    return .sampler

end Invocation

/-- The callbacks and the sampler as a system of interleaved tasks. -/
def callbacks (X : Externals) : System (TaskSig StoreSig) Globals Invocation Reply Oracle where
  program := Invocation.program X
  perform := perform

/-- A call in a run of callbacks. -/
abbrev CallbackTask := Thread (TaskSig StoreSig) Invocation Reply

/-- The calls of a run, with the state they share. -/
abbrev CallbackPool := Pool (TaskSig StoreSig) Globals Invocation Reply

/-- The callbacks after a run, from the state `Store::init` leaves. -/
def runCallbacks (X : Externals) (config : Config) (now : UInt64)
    (moves : List (Move Invocation Oracle)) : CallbackPool :=
  (callbacks X).run (.init (.fresh config now)) moves

end Bifrost
