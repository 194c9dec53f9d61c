import BifrostCore.Correctness.Relay

/-!
# The close of a tunnel

The relay loop against its two sockets, each of them a queue of the bytes its side has sent, with an
end behind them once the side has closed. Whatever arrives in which order, and whichever ready
branch a `select!` takes, the loop passes on what it reads; what is still queued on one side when
it reads the end of the other one is lost.

* `Sockets.Step`, `Sockets.Run` — what can happen at the sockets, as long as nothing fails.
* `sentBy_eq` — what a side has sent was read, or is queued.
* `orderly_close_iff` — nothing is lost exactly if nothing is queued when the loop ends.
-/

namespace Bifrost

open Concurrency Prog

variable {π : Sig}

/-! ## Sockets -/

/-- One side of a tunnel, as the loop finds it. -/
structure Socket where
  /-- The bytes that were sent and not read yet. -/
  queued : List UInt8
  /-- The side has closed: an end of the stream follows the bytes. -/
  closed : Bool

/-- The sockets of the two sides. -/
abbrev Sockets := Side → Socket

/-- The sockets of a new tunnel. -/
def Sockets.opened : Sockets := fun _ => ⟨[], false⟩

/-- The branch of the `select!` that reads from a side. -/
def Side.readOutcome (result : Result Chunk) : Side → SelectOutcome
  | .client => .clientRead result
  | .target => .targetRead result

/-- What happens at a tunnel. -/
inductive TunnelEvent (π : Sig) where
  /-- A side sends some bytes. -/
  | sends (side : Side) (bytes : List UInt8)
  /-- A side ends its stream. -/
  | closes (side : Side)
  /-- The loop performs an operation. -/
  | performs (e : Event (TaskSig π))

namespace Sockets

/-- What can happen at the sockets, and what it does to them. A branch of the `select!` is ready
when its side has bytes queued or has closed; no read and no write fails, and the timeout does not
fire. -/
inductive Step : Sockets → TunnelEvent π → Sockets → Prop
  | sends {w : Sockets} {side : Side} {bytes : List UInt8} (hopen : (w side).closed = false) :
      Step w (.sends side bytes)
        (Function.update w side ⟨(w side).queued ++ bytes, (w side).closed⟩)
  | closes {w : Sockets} {side : Side} :
      Step w (.closes side) (Function.update w side ⟨(w side).queued, true⟩)
  | read {w : Sockets} {side : Side} {chunk : Chunk} {rest : List UInt8}
      (hsome : chunk.bytes ≠ []) (hqueued : (w side).queued = chunk.bytes ++ rest) :
      Step w (.performs ⟨.select, side.readOutcome (.ok chunk)⟩)
        (Function.update w side ⟨rest, (w side).closed⟩)
  | eof {w : Sockets} {side : Side} {chunk : Chunk} (hnone : chunk.bytes = [])
      (hqueued : (w side).queued = []) (hclosed : (w side).closed = true) :
      Step w (.performs ⟨.select, side.readOutcome (.ok chunk)⟩) w
  | write {w : Sockets} {side : Side} {data : List UInt8} :
      Step w (.performs ⟨.writeAll side data, .ok⟩) w
  | observe {w : Sockets} {cb : Callback} {o : π.Op} {r : π.Res o} :
      Step w (.performs ⟨.callback cb o, r⟩) w

/-- What happens at the sockets one event after the other. -/
inductive Run (w : Sockets) : List (TunnelEvent π) → Sockets → Prop
  | nil : Run w [] w
  | snoc {events : List (TunnelEvent π)} {e : TunnelEvent π} {w' w'' : Sockets} :
      Run w events w' → Step w' e w'' → Run w (events ++ [e]) w''

end Sockets

/-- The bytes a side has sent. -/
def sentBy (side : Side) (events : List (TunnelEvent π)) : List UInt8 :=
  events.flatMap fun e => match e with
    | .sends side' bytes => if side' = side then bytes else []
    | _ => []

/-- The operations of the loop. -/
def loopTrace (events : List (TunnelEvent π)) : Trace (TaskSig π) :=
  events.filterMap fun e => match e with
    | .performs e => some e
    | _ => none

theorem sentBy_snoc (side : Side) (events : List (TunnelEvent π)) (e : TunnelEvent π) :
    sentBy side (events ++ [e]) = sentBy side events ++ sentBy side [e] := by
  simp [sentBy]

theorem loopTrace_snoc (events : List (TunnelEvent π)) (e : TunnelEvent π) :
    loopTrace (events ++ [e]) = loopTrace events ++ loopTrace [e] :=
  List.filterMap_append

theorem bytesFrom_readOutcome (side side' : Side) (chunk : Chunk) :
    (side'.readOutcome (.ok chunk)).bytesFrom side = if side' = side then chunk.bytes else [] := by
  cases side <;> cases side' <;> rfl

@[simp] theorem readFrom_read (side side' : Side) (chunk : Chunk) :
    readFrom side (loopTrace (π := π)
      [.performs ⟨.select, side'.readOutcome (.ok chunk)⟩]) =
        if side' = side then chunk.bytes else [] := by
  rw [← bytesFrom_readOutcome]
  exact List.append_nil _

/-- The bytes a side sends are queued, and the bytes that are read are taken from the queue. -/
theorem Sockets.Step.queued {w w' : Sockets} {e : TunnelEvent π} (h : Sockets.Step w e w')
    (side : Side) :
    (w side).queued ++ sentBy side [e] = readFrom side (loopTrace [e]) ++ (w' side).queued := by
  -- An event concerns one side, and the queue of the other one stays as it is.
  cases h with
  | @sends side' bytes hopen =>
    by_cases hside : side' = side
    · subst hside
      simp [sentBy, loopTrace, readFrom]
    · simp [sentBy, loopTrace, readFrom, hside, Function.update_of_ne (Ne.symm hside)]
  | @closes side' =>
    by_cases hside : side' = side
    · subst hside
      simp [sentBy, loopTrace, readFrom]
    · simp [sentBy, loopTrace, readFrom, Function.update_of_ne (Ne.symm hside)]
  | @read side' chunk rest hsome hqueued =>
    rw [readFrom_read]
    by_cases hside : side' = side
    · subst hside
      simp [sentBy, hqueued]
    · simp [sentBy, hside, Function.update_of_ne (Ne.symm hside)]
  | @eof side' chunk hnone hqueued hclosed =>
    rw [readFrom_read, hnone]
    simp [sentBy]
  | write => simp [sentBy, loopTrace, readFrom, TaskOp.readFrom]
  | observe => simp [sentBy, loopTrace, readFrom, TaskOp.readFrom]

/-- What a side has sent was read, or is queued. -/
theorem sentBy_eq {events : List (TunnelEvent π)} {w : Sockets}
    (h : Sockets.Run .opened events w) (side : Side) :
    sentBy side events = readFrom side (loopTrace events) ++ (w side).queued := by
  induction h with
  | nil => rfl
  | @snoc events e w' w'' hrun hstep ih =>
    have happend : readFrom side (loopTrace (events ++ [e])) =
        readFrom side (loopTrace events) ++ readFrom side (loopTrace [e]) := by
      rw [loopTrace_snoc, readFrom, List.flatMap_append]
      rfl
    rw [sentBy_snoc, ih, happend, List.append_assoc, List.append_assoc, hstep.queued side]

/-- No write fails, so none stops halfway. -/
theorem Sockets.Step.not_cutShort {w w' : Sockets} {e : TunnelEvent π} (h : Sockets.Step w e w')
    (side : Side) : ∀ d ∈ loopTrace [e], ¬ d.op.CutShort side d.res := by
  intro d hd
  cases h with
  | sends | closes => cases hd
  | write =>
    obtain rfl := List.mem_singleton.mp hd
    exact fun hcut => hcut.2 rfl
  | read | eof | observe =>
    obtain rfl := List.mem_singleton.mp hd
    exact not_false

theorem not_cutShort {events : List (TunnelEvent π)} {w : Sockets}
    (h : Sockets.Run .opened events w) (side : Side) :
    ∀ e ∈ loopTrace events, ¬ e.op.CutShort side e.res := by
  induction h with
  | nil => simp [loopTrace]
  | @snoc events e w' w'' hrun hstep ih =>
    intro d hd
    rw [loopTrace_snoc] at hd
    rcases List.mem_append.mp hd with hd | hd
    · exact ih d hd
    · exact hstep.not_cutShort side d hd

/-- A trace in which no write stops halfway is quiet after none. -/
theorem quietAfterCut_of_not_cutShort {side : Side} {tr : Trace (TaskSig π)}
    (h : ∀ e ∈ tr, ¬ e.op.CutShort side e.res) : QuietAfterCut side tr := by
  induction tr with
  | nil => trivial
  | cons e tr ih =>
    obtain ⟨he, hrest⟩ := List.forall_mem_cons.mp h
    exact ⟨fun hcut => absurd hcut he, ih hrest⟩

/-! ## The end of a side -/

/-- The end of the stream, as a read returns it. -/
def Chunk.eof : Chunk := ⟨[], Nat.zero_le _⟩

/-- After some events the loop of a tunnel ends because it reads the end of a side. -/
structure EndsByEof (pm : PluginManager π) (id : UInt64) (fuel : ℕ) (side : Side)
    (events : List (TunnelEvent π)) (w : Sockets) : Prop where
  /-- The events led to the sockets `w`. -/
  run : Sockets.Run .opened events w
  /-- The end of the side can be read. -/
  ready : Sockets.Step w (.performs (π := π) ⟨.select, side.readOutcome (.ok .eof)⟩) w
  /-- The loop reads it and returns. -/
  returns : Steps (TunnelInterceptor.relay pm id fuel 0)
    (loopTrace events ++ [⟨.select, side.readOutcome (.ok .eof)⟩]) (.ret ())

/-- When the loop ends because it reads the end of a side, everything the other side had sent by
then has been written to it exactly if nothing of that is still queued: for any plugins, any order
in which the sides send and close, and any choice of the `select!`s among the ready branches, as
long as no read or write fails and the timeout does not fire. -/
theorem orderly_close_iff (pm : PluginManager π) (id : UInt64) (fuel : ℕ) (side : Side)
    (events : List (TunnelEvent π)) (w : Sockets) (h : EndsByEof pm id fuel side events w) :
    writtenTo side (loopTrace events) = sentBy side.other events ↔ (w side.other).queued = [] := by
  -- The loop reads at its head only, where it has passed on what it read.
  have hallows := ((Channel.relay_follows pm id fuel 0).permits h.returns).allows_last
  have hhead : channel.after none (loopTrace events) = none := by
    generalize channel.after none (loopTrace events) = q at hallows
    cases hallows
    rfl
  obtain ⟨before, hbefore, -⟩ := h.returns.append_inv
  have huncut := not_cutShort h.run side
  have hexact := (Channel.copied pm id hbefore side (quietAfterCut_of_not_cutShort huncut)).2
    fun ⟨e, he, hcut⟩ => huncut e he hcut
  have hpassed : writtenTo side (loopTrace events) = readFrom side.other (loopTrace events) := by
    rw [hhead] at hexact
    exact (List.append_nil _).symm.trans hexact
  rw [hpassed, sentBy_eq h.run side.other]
  exact List.self_eq_append_right

namespace Concrete

/-- One byte, as a read returns it. -/
def byte : Chunk := ⟨[1], Nat.le_of_ble_eq_true rfl⟩

/-- The target sends a byte, which is passed on, and the client closes. -/
def passedOn : List (TunnelEvent StoreSig) :=
  [.sends .target [1], .performs ⟨.select, .targetRead (.ok byte)⟩,
    .performs ⟨.callback .handleData (.fetchAdd .bytesIn 1), (0 : UInt64)⟩,
    .performs ⟨.callback .handleData
      (.updateNetworkRecordById 0 (NetStorage.recordData .downstream [1])),
      .error "Record not found"⟩,
    .performs ⟨.writeAll .client [1], .ok⟩, .closes .client]

/-- The target sends a byte, and the client closes. -/
def unread : List (TunnelEvent StoreSig) := [.sends .target [1], .closes .client]

theorem passedOn_ends :
    ∃ w, EndsByEof (registeredPlugins externals) 0 2 .client passedOn w := by
  have hread := @Sockets.Step.read StoreSig (Function.update Sockets.opened .target ⟨[1], false⟩)
    .target byte [] (by decide) rfl
  exact ⟨_, .snoc (.snoc (.snoc (.snoc (.snoc (.snoc .nil (.sends rfl)) hread) .observe)
    .observe) .write) .closes, .eof rfl rfl rfl, .act (.act (.act (.act (.act (.refl _)))))⟩

end Concrete

/-- A byte that was passed on before the client closed. -/
theorem orderly_close_iff_passedOn :
    ∃ w, EndsByEof (registeredPlugins Concrete.externals) 0 2 .client Concrete.passedOn w ∧
      (writtenTo .client (loopTrace Concrete.passedOn) = sentBy .target Concrete.passedOn ↔
        (w .target).queued = []) := by
  obtain ⟨w, hw⟩ := Concrete.passedOn_ends
  exact ⟨w, hw, orderly_close_iff _ _ _ _ _ w hw⟩

/-- A byte that is queued when the client closes is lost if the `select!` takes the branch of the
client. -/
theorem orderly_close_unread :
    ∃ w, EndsByEof (registeredPlugins Concrete.externals) 0 1 .client Concrete.unread w ∧
      writtenTo .client (loopTrace Concrete.unread) ≠ sentBy .target Concrete.unread :=
  ⟨_, ⟨.snoc (.snoc .nil (.sends rfl)) .closes, .eof rfl rfl rfl, .act (.refl _)⟩, by decide⟩

end Bifrost
