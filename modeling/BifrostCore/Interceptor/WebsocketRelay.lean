import BifrostCore.Concurrency.Race
import BifrostCore.Task

/-!
# The WebSocket relay

The task that `handle_websocket` in `websocket_interceptor.rs` leaves running: it carries the
messages of the client to the target and those of the target to the client, until one of the two
directions comes to its end.

Every operation is a future that is awaited, performed when it is ready. A forwarding task whose
operation is not performed any more was dropped at that point.
-/

namespace Bifrost

open Concurrency

/-- The operations of the relay, for messages in `M`. -/
inductive RelayOp (M : Type) where
  /-- `hyper::upgrade::on`. -/
  | upgrade
  /-- `next` on the stream of messages from one side. -/
  | next (side : Side)
  /-- `send` to one side. -/
  | send (side : Side) (msg : M)
  /-- `close` on the half that writes to one side. -/
  | close (side : Side)
  /-- The `select!`: the side from which the forwarding task reads that goes on. -/
  | select
  /-- A loop that is not observed any further. -/
  | outOfFuel

/-- The answer of an operation of the relay. -/
@[reducible]
def RelayOp.Res {M : Type} : RelayOp M → Type
  | .upgrade => Result Unit
  | .next _ => Option (Result M)
  | .send _ _ => Result Unit
  | .close _ => Result Unit
  | .select => Side
  | .outOfFuel => Empty

/-- The signature of the operations of the relay. -/
@[reducible]
def RelaySig (M : Type) : Sig := ⟨RelayOp M, RelayOp.Res⟩

namespace WebsocketRelay

variable {M : Type}

section Operations

abbrev upgrade : Prog (RelaySig M) (Result Unit) := .call (S := RelaySig M) RelayOp.upgrade

abbrev next (side : Side) : Prog (RelaySig M) (Option (Result M)) :=
  .call (S := RelaySig M) (RelayOp.next side)

abbrev send (side : Side) (msg : M) : Prog (RelaySig M) (Result Unit) :=
  .call (S := RelaySig M) (RelayOp.send side msg)

abbrev close (side : Side) : Prog (RelaySig M) (Result Unit) :=
  .call (S := RelaySig M) (RelayOp.close side)

/-- The end of the unrolling of a loop. -/
def outOfFuel : Prog (RelaySig M) Unit :=
  .act (S := RelaySig M) RelayOp.outOfFuel fun r => nomatch r

end Operations

/-- The forwarding task that reads from one side and sends to the other: `client_to_server` and
`server_to_client`. -/
def forward (side : Side) : ℕ → Prog (RelaySig M) Unit
  | 0 => outOfFuel
  | fuel + 1 => do
    match ← next side with
    | some (.ok msg) => do
      match ← send side.other msg with
      | .ok () => forward side fuel
      | .error _ => return ()
    | some (.error _) => return ()
    | none => return ()

/-- `client_to_server`. -/
def clientToServer (fuel : ℕ) : Prog (RelaySig M) Unit := forward .client fuel

/-- `server_to_client`. -/
def serverToClient (fuel : ℕ) : Prog (RelaySig M) Unit := forward .target fuel

/-- The body of either branch of the `select!`. Errors are only logged. -/
def closeBoth : Prog (RelaySig M) Unit := do
  let _ ← close .client
  let _ ← close .target
  return ()

/-- The task `handle_websocket` spawns. -/
def relay (fuel : ℕ) : Prog (RelaySig M) Unit := do
  match ← upgrade with
  | .error _ => return ()
  | .ok () => do
    match ← Prog.race (S := RelaySig M) .select (fun side : Side => side = .client)
        (clientToServer fuel) (serverToClient fuel) with
    | .inl () => closeBoth
    | .inr () => closeBoth

end WebsocketRelay

end Bifrost
