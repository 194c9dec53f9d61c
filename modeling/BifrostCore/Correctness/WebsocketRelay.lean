import BifrostCore.Interceptor.WebsocketRelay

/-!
# The messages of a WebSocket relay

What the relay does under every order in which its two forwarding tasks are scheduled, and whatever
the reads and the sends come to.

* `receivedFrom`, `sentTo` — the messages read from a side, and those sent to a side.
* `forward_steps` — one forwarding task.
* `race_steps` — the two tasks together, until one of them ends.
* `relay_faithful` — in each direction the messages sent are those received but for at most the last
  one; after a task has ended nothing is forwarded, and both sides are closed.
-/

namespace Bifrost

open Concurrency Prog

variable {M : Type}

/-! ## What a trace of the relay shows -/

namespace RelayOp

/-- The message an operation has read from a side. -/
def received (side : Side) : (o : RelayOp M) → o.Res → Option M
  | .next side', some (.ok msg) => if side' = side then some msg else none
  | _, _ => none

/-- The message an operation has sent to a side. -/
def sent (side : Side) : (o : RelayOp M) → o.Res → Option M
  | .send side' msg, .ok () => if side' = side then some msg else none
  | _, _ => none

/-- The side an operation closes. -/
def closed : RelayOp M → Option Side
  | .close side => some side
  | _ => none

/-- The operation ends the forwarding task it belongs to: the stream has ended or failed, or a
message could not be sent. -/
def ends : (o : RelayOp M) → o.Res → Bool
  | .next _, none => true
  | .next _, some (.error _) => true
  | .send _ _, .error _ => true
  | _, _ => false

/-- The side whose forwarding task an operation belongs to. -/
def source : RelayOp M → Option Side
  | .next side => some side
  | .send side _ => some side.other
  | _ => none

variable {side : Side} {o : RelayOp M}

theorem received_eq_none (h : o.source ≠ some side) (r : o.Res) : o.received side r = none := by
  cases o with
  | next side' =>
    have hne : side' ≠ side := fun heq => h (congrArg some heq)
    rcases r with _ | e | msg <;> simp [received, hne]
  | _ => rfl

theorem sent_eq_none (h : o.source ≠ some side) (r : o.Res) : o.sent side.other r = none := by
  cases o with
  | send side' msg =>
    have hne : side' ≠ side.other := by
      rintro rfl
      cases side <;> exact h rfl
    rcases r with e | _ <;> simp [sent, hne]
  | _ => rfl

theorem closed_of_source (h : o.source = some side) : o.closed = none := by
  cases o with
  | close side' => cases h
  | _ => rfl

end RelayOp

/-- The messages read from a side. -/
def receivedFrom (side : Side) (tr : Trace (RelaySig M)) : List M :=
  tr.filterMap fun e => e.op.received side e.res

/-- The messages sent to a side. -/
def sentTo (side : Side) (tr : Trace (RelaySig M)) : List M :=
  tr.filterMap fun e => e.op.sent side e.res

/-- The sides that were closed. -/
def closedSides (tr : Trace (RelaySig M)) : List Side := tr.filterMap fun e => e.op.closed

/-- No forwarding task has ended. -/
def NoneEnded (tr : Trace (RelaySig M)) : Prop := ∀ e ∈ tr, e.op.ends e.res = false

theorem noneEnded_upgraded {r : Result Unit} {tr : Trace (RelaySig M)} :
    NoneEnded (⟨.upgrade, r⟩ :: tr) ↔ NoneEnded tr := by
  simp [NoneEnded, RelayOp.ends]

/-- Of the messages read from a side, all were sent to the other one, or all but the last. -/
def Faithful (side : Side) (tr : Trace (RelaySig M)) : Prop :=
  receivedFrom side tr = sentTo side.other tr ∨
    ∃ msg, receivedFrom side tr = sentTo side.other tr ++ [msg]

/-! ## One direction -/

/-- What a forwarding task from `side` has done, and what it has left. -/
structure Forwarded (side : Side) (tr : Trace (RelaySig M)) (q : Prog (RelaySig M) Unit) :
    Prop where
  source : ∀ e ∈ tr, e.op.source = some side
  faithful : Faithful side tr
  running : q.Running ↔ NoneEnded tr

namespace Forwarded

variable {side : Side} {tr : Trace (RelaySig M)} {q : Prog (RelaySig M) Unit}

theorem start (o : RelayOp M) (k : o.Res → Prog (RelaySig M) Unit) :
    Forwarded side [] (.act (S := RelaySig M) o k) where
  source := by simp
  faithful := .inl rfl
  running := iff_of_true (running_act _ _) (by simp [NoneEnded])

/-- The stream of a side has ended or failed. -/
theorem ended {r : Option (Result M)} (hr : ∀ msg, r ≠ some (.ok msg)) :
    Forwarded side [⟨.next side, r⟩] (.ret ()) := by
  rcases r with _ | e | msg
  · exact ⟨by simp [RelayOp.source], .inl rfl, by simp [NoneEnded, RelayOp.ends]⟩
  · exact ⟨by simp [RelayOp.source], .inl rfl, by simp [NoneEnded, RelayOp.ends]⟩
  · exact absurd rfl (hr msg)

/-- A message was read and is being sent. -/
theorem held (msg : M) (k : Result Unit → Prog (RelaySig M) Unit) :
    Forwarded side [⟨.next side, some (.ok msg)⟩]
      (.act (S := RelaySig M) (.send side.other msg) k) where
  source := by simp [RelayOp.source]
  faithful := .inr ⟨msg, by simp [receivedFrom, sentTo, RelayOp.received, RelayOp.sent]⟩
  running := iff_of_true (running_act _ _) (by simp [NoneEnded, RelayOp.ends])

/-- A message was read and could not be sent. -/
theorem lost (msg : M) (e : Str) :
    Forwarded side [⟨.next side, some (.ok msg)⟩, ⟨.send side.other msg, .error e⟩] (.ret ()) where
  source := by cases side <;> simp [RelayOp.source, Side.other]
  faithful := .inr ⟨msg, by simp [receivedFrom, sentTo, RelayOp.received, RelayOp.sent]⟩
  running := by simp [NoneEnded, RelayOp.ends]

/-- A message was read and sent before all the others. -/
theorem sent (msg : M) (h : Forwarded side tr q) :
    Forwarded side (⟨.next side, some (.ok msg)⟩ :: ⟨.send side.other msg, .ok ()⟩ :: tr) q where
  source := by
    have hother : side.other.other = side := by cases side <;> rfl
    simpa [RelayOp.source, hother] using h.source
  faithful := by
    have hreceived : receivedFrom side
        (⟨.next side, some (.ok msg)⟩ :: ⟨.send side.other msg, .ok ()⟩ :: tr) =
          msg :: receivedFrom side tr := by
      simp [receivedFrom, RelayOp.received]
    have hsent : sentTo side.other
        (⟨.next side, some (.ok msg)⟩ :: ⟨.send side.other msg, .ok ()⟩ :: tr) =
          msg :: sentTo side.other tr := by
      simp [sentTo, RelayOp.sent]
    rw [Faithful, hreceived, hsent]
    obtain heq | ⟨last, heq⟩ := h.faithful
    · exact .inl (by rw [heq])
    · exact .inr ⟨last, by rw [heq, List.cons_append]⟩
  running := by simpa [NoneEnded, RelayOp.ends] using h.running

end Forwarded

/-- A forwarding task, wherever it stands. -/
theorem forward_steps {side : Side} {fuel : ℕ} {tr : Trace (RelaySig M)}
    {q : Prog (RelaySig M) Unit} (h : Steps (WebsocketRelay.forward side fuel) tr q) :
    Forwarded side tr q := by
  induction fuel generalizing tr with
  | zero =>
    obtain ⟨rfl, rfl⟩ | ⟨r, -⟩ := h.act_inv
    · exact .start _ _
    · exact nomatch r
  | succ fuel ih =>
    obtain ⟨rfl, rfl⟩ | ⟨read, tr, rfl, hread⟩ := h.act_inv
    · exact .start _ _
    -- The stream has ended, or failed, or there is a message to send.
    rcases read with _ | e | msg
    · obtain ⟨rfl, rfl⟩ := Steps.ret_inv hread
      exact .ended (by simp)
    · obtain ⟨rfl, rfl⟩ := Steps.ret_inv hread
      exact .ended (by simp)
    · obtain ⟨rfl, rfl⟩ | ⟨result, tr, rfl, hsent⟩ := Steps.act_inv hread
      · exact .held msg _
      cases result with
      | error e =>
        obtain ⟨rfl, rfl⟩ := Steps.ret_inv hsent
        exact .lost msg e
      | ok _ => exact (ih hsent).sent msg

/-! ## Both directions -/

/-- The two forwarding tasks under the `select!`. -/
def forwarding (fuel : ℕ) : Prog (RelaySig M) (Unit ⊕ Unit) :=
  race (S := RelaySig M) .select (fun side : Side => side = .client)
    (WebsocketRelay.clientToServer fuel) (WebsocketRelay.serverToClient fuel)

/-- What the other task does shows nothing of a direction. -/
theorem faithful_of_interleaved {side : Side} {tr₁ tr₂ tr : Trace (RelaySig M)}
    (h : Interleaved (S := RelaySig M) RelayOp.select tr₁ tr₂ tr)
    (hother : ∀ e ∈ tr₂, e.op.source ≠ some side) (hfaithful : Faithful side tr₁) :
    Faithful side tr := by
  have hreceived : receivedFrom side tr = receivedFrom side tr₁ :=
    h.filterMap_left (fun _ => rfl) fun e he => RelayOp.received_eq_none (hother e he) e.res
  have hsent : sentTo side.other tr = sentTo side.other tr₁ :=
    h.filterMap_left (fun _ => rfl) fun e he => RelayOp.sent_eq_none (hother e he) e.res
  rwa [Faithful, hreceived, hsent]

/-- What the two tasks have done, and whether they still run. -/
structure Relayed (tr : Trace (RelaySig M)) (r : Prog (RelaySig M) (Unit ⊕ Unit)) : Prop where
  faithful : ∀ side, Faithful side tr
  running : r.Running ↔ NoneEnded tr
  closed : closedSides tr = []

theorem forwarding_steps {fuel : ℕ} {tr : Trace (RelaySig M)}
    {r : Prog (RelaySig M) (Unit ⊕ Unit)} (h : Steps (forwarding fuel) tr r) : Relayed tr r := by
  obtain ⟨tr₁, tr₂, p, q, hinter, hp, hq, hrun⟩ := h.race_inv
  have hclient := forward_steps hp
  have htarget := forward_steps hq
  refine ⟨fun side => ?_, ?_, ?_⟩
  · cases side with
    | client =>
      refine faithful_of_interleaved hinter (fun e he => ?_) hclient.faithful
      rw [htarget.source e he]
      simp
    | target =>
      refine faithful_of_interleaved hinter.symm (fun e he => ?_) htarget.faithful
      rw [hclient.source e he]
      simp
  · -- The race goes on as long as both tasks do.
    have hended : NoneEnded tr ↔ NoneEnded tr₁ ∧ NoneEnded tr₂ :=
      hinter.forall_mem_iff fun _ => rfl
    rw [hrun, hclient.running, htarget.running, hended]
  · refine List.filterMap_eq_nil_iff.mpr ((hinter.forall_mem_iff fun _ => rfl).mpr ⟨?_, ?_⟩)
    · exact fun e he => RelayOp.closed_of_source (hclient.source e he)
    · exact fun e he => RelayOp.closed_of_source (htarget.source e he)

/-- The two tasks have returned with the operation that ended one of them. -/
theorem forwarding_returned {fuel : ℕ} {tr : Trace (RelaySig M)} {x : Unit ⊕ Unit}
    (h : Steps (forwarding fuel) tr (.ret x)) :
    ∃ before e, tr = before ++ [e] ∧ NoneEnded before ∧ e.op.ends e.res = true := by
  have hended : ¬ NoneEnded tr := by
    rw [← (forwarding_steps h).running]
    exact not_running_ret x
  rcases List.eq_nil_or_concat tr with rfl | ⟨before, e, rfl⟩
  · exact absurd (by simp [NoneEnded]) hended
  rw [List.concat_eq_append] at h hended ⊢
  obtain ⟨p, hbefore, hlast⟩ := Steps.append_inv h
  -- Before its last operation the race was still running.
  have hnone : NoneEnded before := by
    rw [← (forwarding_steps hbefore).running]
    cases hlast with
    | act _ => exact running_act _ _
  refine ⟨before, e, rfl, hnone, ?_⟩
  by_contra he
  refine hended fun e' he' => ?_
  rcases List.mem_append.mp he' with he' | he'
  · exact hnone e' he'
  · rw [List.mem_singleton.mp he']
    exact Bool.eq_false_iff.mpr he

/-! ## The relay -/

/-- Closing some sides, one after the other. -/
def closing : List Side → Prog (RelaySig M) Unit
  | [] => .ret ()
  | side :: sides => .act (S := RelaySig M) (.close side) fun _ => closing sides

/-- Every operation closes a side. -/
def OnlyCloses (tr : Trace (RelaySig M)) : Prop := ∀ e ∈ tr, ∃ side, e.op = .close side

theorem closing_steps {sides : List Side} {tr : Trace (RelaySig M)} {q : Prog (RelaySig M) Unit}
    (h : Steps (closing sides) tr q) :
    OnlyCloses tr ∧ ∃ rest, closedSides tr ++ rest = sides ∧ q = closing rest := by
  induction sides generalizing tr with
  | nil =>
    obtain ⟨rfl, rfl⟩ := Steps.ret_inv h
    exact ⟨by simp [OnlyCloses], [], rfl, rfl⟩
  | cons side sides ih =>
    obtain ⟨rfl, rfl⟩ | ⟨r, tr, rfl, hrest⟩ := Steps.act_inv h
    · exact ⟨by simp [OnlyCloses], side :: sides, rfl, rfl⟩
    · obtain ⟨honly, rest, rfl, hq⟩ := ih hrest
      exact ⟨List.forall_mem_cons.mpr ⟨⟨side, rfl⟩, honly⟩, rest, rfl, hq⟩

theorem filterMap_append_of_none {γ : Type} {f : Event (RelaySig M) → Option γ}
    {tr tr' : Trace (RelaySig M)} (h : ∀ e ∈ tr', f e = none) :
    (tr ++ tr').filterMap f = tr.filterMap f := by
  rw [List.filterMap_append, List.filterMap_eq_nil_iff.mpr h, List.append_nil]

/-- Closing shows nothing of a direction. -/
theorem Faithful.append_closes {side : Side} {tr tr' : Trace (RelaySig M)} (h : Faithful side tr)
    (hcloses : OnlyCloses tr') : Faithful side (tr ++ tr') := by
  have hsource : ∀ e ∈ tr', e.op.source ≠ some side := by
    intro e he
    obtain ⟨side', hop⟩ := hcloses e he
    simp [hop, RelayOp.source]
  have hreceived : receivedFrom side (tr ++ tr') = receivedFrom side tr :=
    filterMap_append_of_none fun e he => RelayOp.received_eq_none (hsource e he) e.res
  have hsent : sentTo side.other (tr ++ tr') = sentTo side.other tr :=
    filterMap_append_of_none fun e he => RelayOp.sent_eq_none (hsource e he) e.res
  rwa [Faithful, hreceived, hsent]

/-- What the relay has done, and what it has left. -/
inductive RelayStage : Trace (RelaySig M) → Prog (RelaySig M) Unit → Prop
  | start {r : Prog (RelaySig M) Unit} : RelayStage [] r
  /-- The connection to the client was not upgraded. -/
  | refused {e : Str} {r : Prog (RelaySig M) Unit} : RelayStage [⟨.upgrade, .error e⟩] r
  | forwarding {tr : Trace (RelaySig M)} {p : Prog (RelaySig M) (Unit ⊕ Unit)}
      {r : Prog (RelaySig M) Unit} : Relayed tr p → NoneEnded tr →
        RelayStage (⟨.upgrade, .ok ()⟩ :: tr) r
  /-- A forwarding task has ended, with the operation `e`. -/
  | closing {before after : Trace (RelaySig M)} {e : Event (RelaySig M)} {x : Unit ⊕ Unit}
      {rest : List Side} : Relayed (before ++ [e]) (.ret x) → NoneEnded before →
        e.op.ends e.res = true → OnlyCloses after →
          closedSides after ++ rest = [.client, .target] →
            RelayStage (⟨.upgrade, .ok ()⟩ :: (before ++ [e] ++ after)) (closing rest)

theorem relay_steps {fuel : ℕ} {tr : Trace (RelaySig M)} {r : Prog (RelaySig M) Unit}
    (h : Steps (WebsocketRelay.relay fuel) tr r) : RelayStage tr r := by
  obtain ⟨rfl, rfl⟩ | ⟨result, tr, rfl, hupgraded⟩ := Steps.act_inv h
  · exact .start
  cases result with
  | error e =>
    obtain ⟨rfl, rfl⟩ := Steps.ret_inv hupgraded
    exact .refused
  | ok _ =>
    replace hupgraded : Steps ((forwarding fuel).bind _) tr r := hupgraded
    obtain ⟨o, k, hrace, rfl⟩ | ⟨tr₁, tr₂, x, rfl, hrace, hclose⟩ := Steps.bind_inv hupgraded
    · have hrelayed := forwarding_steps hrace
      exact .forwarding hrelayed (hrelayed.running.mp (running_act o k))
    · obtain ⟨before, e, rfl, hnone, he⟩ := forwarding_returned hrace
      -- Both branches of the `select!` close the two sides.
      have hclosing : Steps (closing [.client, .target]) tr₂ r := by
        rcases x with _ | _ <;> exact hclose
      obtain ⟨honly, rest, hrest, rfl⟩ := closing_steps hclosing
      exact .closing (forwarding_steps hrace) hnone he honly hrest

namespace RelayStage

variable {tr : Trace (RelaySig M)} {r : Prog (RelaySig M) Unit}

theorem faithful (h : RelayStage tr r) (side : Side) : Faithful side tr := by
  cases h with
  | start => exact .inl rfl
  | refused => exact .inl rfl
  | forwarding hrelayed _ => exact hrelayed.faithful side
  | closing hrelayed _ _ honly _ => exact (hrelayed.faithful side).append_closes honly

/-- As long as no forwarding task has ended, no side is closed. -/
theorem closedSides_eq_nil (h : RelayStage tr r) (hnone : NoneEnded tr) : closedSides tr = [] := by
  cases h with
  | start => rfl
  | refused => rfl
  | forwarding hrelayed _ => exact hrelayed.closed
  | @closing before after e _ _ _ _ he _ _ =>
    rw [hnone e (by simp)] at he
    cases he

/-- Once a forwarding task has ended, the two sides are closed, and nothing else is done. -/
theorem closing_of_ended (h : RelayStage tr r) (hended : ¬ NoneEnded tr) :
    ∃ before e after rest, tr = before ++ e :: after ∧ NoneEnded before ∧ OnlyCloses after ∧
      closedSides tr ++ rest = [.client, .target] ∧ r = Bifrost.closing rest := by
  cases h with
  | start => exact absurd (by simp [NoneEnded]) hended
  | refused => exact absurd (by simp [NoneEnded, RelayOp.ends]) hended
  | forwarding _ hnone => exact absurd (noneEnded_upgraded.mpr hnone) hended
  | @closing before after e _ rest hrelayed hnone _ honly hrest =>
    refine ⟨⟨.upgrade, .ok ()⟩ :: before, e, after, rest, by simp,
      noneEnded_upgraded.mpr hnone, honly, ?_, rfl⟩
    have hclosed : closedSides (⟨.upgrade, .ok ()⟩ :: (before ++ [e] ++ after)) =
        closedSides (before ++ [e]) ++ closedSides after := List.filterMap_append
    rw [hclosed, hrelayed.closed, List.nil_append, hrest]

end RelayStage

/-- Whatever the relay has done, under whatever schedule:

* in each direction the messages sent are those received, in their order, but for at most one
  received last;
* no side is closed before a forwarding task has ended;
* from then on nothing is forwarded, and what the relay does and is left to do is to close the
  client and the target, once each. -/
theorem relay_faithful {fuel : ℕ} {tr : Trace (RelaySig M)} {r : Prog (RelaySig M) Unit}
    (h : Steps (WebsocketRelay.relay fuel) tr r) :
    (∀ side : Side, sentTo side.other tr <+: receivedFrom side tr ∧
      (receivedFrom side tr).length ≤ (sentTo side.other tr).length + 1) ∧
    (NoneEnded tr → closedSides tr = []) ∧
    (¬ NoneEnded tr → ∃ before e after rest, tr = before ++ e :: after ∧ NoneEnded before ∧
      OnlyCloses after ∧ closedSides tr ++ rest = [.client, .target] ∧ r = closing rest) := by
  have hstage := relay_steps h
  refine ⟨fun side => ?_, hstage.closedSides_eq_nil, hstage.closing_of_ended⟩
  obtain heq | ⟨msg, heq⟩ := hstage.faithful side
  · rw [heq]
    exact ⟨List.prefix_rfl, Nat.le_succ _⟩
  · rw [heq]
    exact ⟨List.prefix_append _ _, by simp⟩

namespace Concrete

/-- The client sends a message and leaves, while a message of the target is being sent to it. -/
def conversation : Trace (RelaySig Str) :=
  [⟨.upgrade, .ok ()⟩, ⟨.select, .client⟩, ⟨.next .client, some (.ok "ping")⟩,
    ⟨.select, .target⟩, ⟨.next .target, some (.ok "pong")⟩, ⟨.select, .client⟩,
    ⟨.send .target "ping", .ok ()⟩, ⟨.select, .client⟩, ⟨.next .client, none⟩,
    ⟨.close .client, .ok ()⟩, ⟨.close .target, .error "closed"⟩]

theorem steps_conversation : Steps (WebsocketRelay.relay 2) conversation (.ret ()) := by
  unfold conversation
  repeat apply Steps.act
  exact .refl _

end Concrete

/-- A run of the relay in which one message arrives, one is lost, and both sides are closed. -/
theorem relay_faithful_conversation :
    Steps (WebsocketRelay.relay 2) Concrete.conversation (.ret ()) ∧
      sentTo .target Concrete.conversation = ["ping".toList] ∧
      receivedFrom .target Concrete.conversation = ["pong".toList] ∧
      sentTo .client Concrete.conversation <+: receivedFrom .target Concrete.conversation :=
  ⟨Concrete.steps_conversation, by rfl, by rfl,
    ((relay_faithful Concrete.steps_conversation).1 .target).1⟩

end Bifrost
