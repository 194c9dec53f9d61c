import BifrostCore.Proxy
import BifrostCore.Text.Tokens

/-!
# The headers of a handshake

`handle_websocket` copies the header lines of an upgrade request one by one; in the place of every
`Sec-WebSocket-Protocol` line it puts the subprotocols of the first one.

* `HeaderMap.ForwardedAs` — the headers of a request, and its list of subprotocols, arrive as they
  are.
* `headers_forwarded_iff` — they do exactly if the further lines repeat the first one.
-/

namespace Bifrost

open Concurrency Prog

/-- The tokens of a header value. -/
def HeaderValue.tokens (v : HeaderValue) : List Str := Text.tokens v.text

/-- `hyper::header::SEC_WEBSOCKET_PROTOCOL`. -/
def secWebsocketProtocol : Str := "sec-websocket-protocol"

namespace HeaderMap

/-- The subprotocols of a handshake, from all lines. -/
def subprotocols (h : HeaderMap) : List Str :=
  (h.values secWebsocketProtocol).flatMap HeaderValue.tokens

/-- The subprotocols of `sent` are those of `h`, in the same order, and so are the values of every
other header. -/
def ForwardedAs (h sent : HeaderMap) : Prop :=
  (∀ name, name ≠ secWebsocketProtocol → sent.values name = h.values name) ∧
    sent.subprotocols = h.subprotocols

/-- The lines behind the first `Sec-WebSocket-Protocol` line list its subprotocols again, once for
each of these lines. -/
def RepeatsSubprotocols (h : HeaderMap) : Prop :=
  ∀ first rest, h.values secWebsocketProtocol = first :: rest →
    rest.flatMap HeaderValue.tokens = (List.replicate rest.length first.tokens).flatten

end HeaderMap

section Lines

variable {req : Request}

/-- All other lines are copied. -/
theorem values_targetHeaders {name : Str} (h : name ≠ secWebsocketProtocol) :
    (Websocket.targetHeaders req).values name = req.headers.values name := by
  unfold Websocket.targetHeaders HeaderMap.values
  rw [List.filterMap_map]
  refine List.filterMap_congr fun line _ => ?_
  by_cases hline : line.1.str = secWebsocketProtocol
  · have hname : line.1.str ≠ name := fun heq => h (heq.symm.trans hline)
    have hnot : ¬ line.1.str ≠ "sec-websocket-protocol".toList := fun hne => hne hline
    simp only [Function.comp_apply, if_neg hnot, if_neg hname]
  · have hcopy : line.1.str ≠ "sec-websocket-protocol".toList := hline
    simp only [Function.comp_apply, if_pos hcopy]

/-- Every `Sec-WebSocket-Protocol` line has the same value. -/
theorem values_targetHeaders_protocol :
    (Websocket.targetHeaders req).values secWebsocketProtocol =
      (req.headers.values secWebsocketProtocol).map
        fun _ => HeaderValue.ofStr (Websocket.subProtocol req) := by
  unfold Websocket.targetHeaders HeaderMap.values
  rw [List.filterMap_map, List.map_filterMap]
  refine List.filterMap_congr fun line _ => ?_
  by_cases hline : line.1.str = secWebsocketProtocol
  · have hnot : ¬ line.1.str ≠ "sec-websocket-protocol".toList := fun hne => hne hline
    simp only [Function.comp_apply, if_neg hnot, if_pos hline, Option.map_some]
  · have hcopy : line.1.str ≠ "sec-websocket-protocol".toList := hline
    simp only [Function.comp_apply, if_pos hcopy, if_neg hline, Option.map_none]

/-- The value in place of a `Sec-WebSocket-Protocol` line has the tokens of the first one. -/
theorem tokens_subProtocol (hvisible : req.headers.Visible) {first : HeaderValue}
    {rest : List HeaderValue} (h : req.headers.values secWebsocketProtocol = first :: rest) :
    (HeaderValue.ofStr (Websocket.subProtocol req)).tokens = first.tokens := by
  have hfirst : Websocket.subProtocol req = Text.join "," (Text.tokens first.text) := by
    have hstr := hvisible.getStr_eq secWebsocketProtocol
    rw [h] at hstr
    unfold Websocket.subProtocol
    rw [show req.headers.getStr "sec-websocket-protocol" = some first.text from hstr]
    rfl
  -- Its characters are bytes of the first line, and commas.
  have hbytes : ∀ c ∈ Text.join "," (Text.tokens first.text), c.toNat < 256 := by
    intro c hc
    obtain rfl | hc := Text.mem_join_tokens hc
    · decide
    · exact HeaderValue.toNat_of_mem_text hc
  rw [HeaderValue.tokens, hfirst, HeaderValue.text_ofStr hbytes, Text.tokens_join_tokens]
  rfl

/-- The subprotocols that are sent: those of the first line, once for every line. -/
theorem subprotocols_targetHeaders (hvisible : req.headers.Visible) {first : HeaderValue}
    {rest : List HeaderValue} (h : req.headers.values secWebsocketProtocol = first :: rest) :
    (Websocket.targetHeaders req).subprotocols =
      first.tokens ++ (List.replicate rest.length first.tokens).flatten := by
  rw [HeaderMap.subprotocols, values_targetHeaders_protocol, h, List.flatMap_map, List.flatMap_cons,
    tokens_subProtocol hvisible h, List.flatMap_def, List.map_const']

/-- The header lines `handle_websocket` makes carry what those of the request do exactly if the
lines behind the first `Sec-WebSocket-Protocol` line repeat its subprotocols. -/
theorem forwardedAs_targetHeaders_iff (hvisible : req.headers.Visible) :
    req.headers.ForwardedAs (Websocket.targetHeaders req) ↔ req.headers.RepeatsSubprotocols := by
  refine (and_iff_right fun name hname => values_targetHeaders hname).trans ?_
  unfold HeaderMap.RepeatsSubprotocols
  cases hvalues : req.headers.values secWebsocketProtocol with
  | nil =>
    refine iff_of_true ?_ (by simp)
    rw [HeaderMap.subprotocols, HeaderMap.subprotocols, values_targetHeaders_protocol, hvalues]
    rfl
  | cons first rest =>
    -- The first line arrives as it is, so only those behind it are compared.
    have hclient : req.headers.subprotocols = first.tokens ++ rest.flatMap HeaderValue.tokens := by
      rw [HeaderMap.subprotocols, hvalues, List.flatMap_cons]
    rw [subprotocols_targetHeaders hvisible hvalues, hclient, List.append_cancel_left_eq]
    constructor
    · rintro heq first' rest' hcons
      obtain ⟨rfl, rfl⟩ := List.cons.inj hcons
      exact heq.symm
    · exact fun h => (h first rest rfl).symm

end Lines

/-! ## What is sent -/

section Sent

variable {π : Sig} {X : Externals} {req sent : Request}

/-- What is sent is the request that was built. -/
theorem handleWebsocket_sends : (Websocket.handleWebsocket X req : Prog (TaskSig π) _).Only
    (fun o : TaskOp π => ∀ sent, o = .connectAsync sent → Websocket.targetRequest X req = some sent)
    fun _ => True := by
  show (Prog.bind (Task.unwrap (Websocket.targetRequest X req)) _).Only _ _
  cases Websocket.targetRequest X req with
  | none => exact ⟨fun _ h => (nomatch h), fun r => nomatch r⟩
  | some request =>
    refine ⟨fun sent h => congrArg some (TaskOp.connectAsync.inj h), fun answer => ?_⟩
    cases answer <;> trivial

theorem headers_of_targetRequest (h : Websocket.targetRequest X req = some sent) :
    sent.headers = Websocket.targetHeaders req := by
  unfold Websocket.targetRequest at h
  split at h
  · cases h
    rfl
  · cases h

/-- A request that was built is sent. -/
theorem exists_handleWebsocket_steps (h : Websocket.targetRequest X req = some sent)
    (answer : Result Response) :
    ∃ q, Steps (Websocket.handleWebsocket X req : Prog (TaskSig π) _)
      [⟨.connectAsync sent, answer⟩] q := by
  show ∃ q, Steps (Prog.bind (Task.unwrap (Websocket.targetRequest X req)) _) _ q
  rw [h]
  exact ⟨_, .act (.refl _)⟩

end Sent

/-- For every request whose header values are visible ASCII, the request `handle_websocket` hands to
`connect_async` has the same headers and the same subprotocols exactly if the lines behind the first
`Sec-WebSocket-Protocol` line repeat its subprotocols. What `connect_async` writes of it is not the
proxy's: of `Host`, `Connection`, `Upgrade` and the key and version headers it keeps one value
each. -/
theorem headers_forwarded_iff (X : Externals) (req : Request) (hvisible : req.headers.Visible)
    {tr : Trace (TaskSig StoreSig)} {q : Prog (TaskSig StoreSig) (Result Response)}
    (h : Steps (Websocket.handleWebsocket X req) tr q) {sent : Request} {answer : Result Response}
    (hsent : ⟨.connectAsync sent, answer⟩ ∈ tr) :
    req.headers.ForwardedAs sent.headers ↔ req.headers.RepeatsSubprotocols := by
  have hbuilt := (handleWebsocket_sends.steps h).1 _ hsent sent rfl
  rw [headers_of_targetRequest hbuilt]
  exact forwardedAs_targetHeaders_iff hvisible

namespace Concrete

/-- An upgrade request with some `Sec-WebSocket-Protocol` lines. -/
def handshake (lines : List String) : Request :=
  { request with
    headers := [(.host, HeaderValue.ofStr "example.com"),
        (.connection, HeaderValue.ofStr "Upgrade"), (.upgrade, HeaderValue.ofStr "websocket")] ++
      lines.map fun line => (.secWebsocketProtocol, HeaderValue.ofStr line) }

theorem targetUri_handshake (lines : List String) :
    Websocket.targetUri (handshake lines) = "ws://example.com/".toList := by
  rfl

theorem parseUri_target : (externals.parseUri "ws://example.com/".toList).toOption.isSome := by
  decide +kernel

theorem isSome_targetRequest (lines : List String) :
    (Websocket.targetRequest externals (handshake lines)).isSome = true := by
  have haccepted := parseUri_target
  rw [Websocket.targetRequest, targetUri_handshake]
  cases hparse : externals.parseUri "ws://example.com/".toList with
  | ok uri => rfl
  | error e =>
    rw [hparse] at haccepted
    cases haccepted

/-- The request sent for it. -/
def sentHandshake (lines : List String) : Request :=
  (Websocket.targetRequest externals (handshake lines)).get (isSome_targetRequest lines)

theorem headers_sentHandshake (lines : List String) :
    (sentHandshake lines).headers = Websocket.targetHeaders (handshake lines) :=
  headers_of_targetRequest (Option.some_get _).symm

theorem exists_handshake_steps (lines : List String) : ∃ q, Steps
    (Websocket.handleWebsocket externals (handshake lines) : Prog (TaskSig StoreSig) _)
    [⟨.connectAsync (sentHandshake lines), .error "refused"⟩] q :=
  exists_handleWebsocket_steps (Option.some_get _).symm _

end Concrete

/-- One line with two subprotocols arrives as it is. -/
theorem headers_forwarded_one_line :
    (Concrete.handshake ["chat, superchat"]).headers.ForwardedAs
      (Concrete.sentHandshake ["chat, superchat"]).headers := by
  obtain ⟨q, h⟩ := Concrete.exists_handshake_steps ["chat, superchat"]
  refine (headers_forwarded_iff Concrete.externals _ (by decide) h
    (List.mem_singleton_self _)).mpr fun first rest hlines => ?_
  -- There is no second line.
  obtain ⟨-, rfl⟩ := List.cons.inj hlines
  rfl

/-- Of two lines with one subprotocol each, the first one arrives twice. -/
theorem headers_not_forwarded :
    (Concrete.handshake ["chat", "superchat"]).headers.Visible ∧
      Websocket.isWebsocketUpgrade (Concrete.handshake ["chat", "superchat"]) = true ∧
      (∃ q, Steps (Websocket.handleWebsocket Concrete.externals
        (Concrete.handshake ["chat", "superchat"]) : Prog (TaskSig StoreSig) _)
        [⟨.connectAsync (Concrete.sentHandshake ["chat", "superchat"]), .error "refused"⟩] q) ∧
      (Concrete.sentHandshake ["chat", "superchat"]).headers.subprotocols =
        ["chat".toList, "chat".toList] ∧
      ¬ (Concrete.handshake ["chat", "superchat"]).headers.ForwardedAs
        (Concrete.sentHandshake ["chat", "superchat"]).headers := by
  rw [Concrete.headers_sentHandshake]
  refine ⟨by decide, by decide, Concrete.exists_handshake_steps _, by decide, fun h => ?_⟩
  exact absurd h.2 (by decide)

end Bifrost
