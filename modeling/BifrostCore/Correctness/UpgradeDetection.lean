import BifrostCore.Correctness.Handshake

/-!
# The detection of upgrade requests

`is_websocket_upgrade` searches the first `Upgrade` line for `websocket` and the first `Connection`
line for `upgrade`. What it should find are tokens of the two headers, which may stand in any line.

* `Lists`, `Mentions` — a header has a word as a token, and its first line contains the word.
* `taken_iff`, `overlooked_iff` — the two kinds of misdetection: a word that is part of a longer
  token (`Embeds.longer_token`), and one that comes in a further line (`ListsLater.further_line`).
* `not_misdetected_of_spellsOut` — headers that have the words as tokens of their first lines, or
  not at all, are of neither kind.
* `upgrade_detected_iff` — when the search finds what it should.
-/

namespace Bifrost

open Concurrency Prog

namespace HeaderMap

/-- Some line of the header has the word as a token, ignoring case. -/
def Lists (h : HeaderMap) (name word : Str) : Prop :=
  ∃ v ∈ h.values name, ∃ token ∈ v.tokens, Text.toLowercase token = word

/-- The first line of the header has a token that contains the word, ignoring case. -/
def Mentions (h : HeaderMap) (name word : Str) : Prop :=
  ∃ v ∈ (h.values name).head?, ∃ token ∈ v.tokens, word <:+: Text.toLowercase token

/-- The word is only part of longer tokens of the first line. -/
def Embeds (h : HeaderMap) (name word : Str) : Prop := h.Mentions name word ∧ ¬ h.Lists name word

/-- The word is a token of a further line, and the first one does not contain it. -/
def ListsLater (h : HeaderMap) (name word : Str) : Prop :=
  h.Lists name word ∧ ¬ h.Mentions name word

/-- The headers ask for an upgrade to the WebSocket protocol. -/
def RequestsUpgrade (h : HeaderMap) : Prop :=
  h.Lists "upgrade" "websocket" ∧ h.Lists "connection" "upgrade"

/-- The headers are taken for those of an upgrade request, or those of an upgrade request are
overlooked. -/
def Misdetected (h : HeaderMap) : Prop :=
  (h.Mentions "upgrade" "websocket" ∧ h.Mentions "connection" "upgrade" ∧
    (h.Embeds "upgrade" "websocket" ∨ h.Embeds "connection" "upgrade")) ∨
  (h.Lists "upgrade" "websocket" ∧ h.Lists "connection" "upgrade" ∧
    (h.ListsLater "upgrade" "websocket" ∨ h.ListsLater "connection" "upgrade"))

instance (h : HeaderMap) (name word : Str) : Decidable (h.Lists name word) := by
  unfold Lists
  infer_instance

instance (h : HeaderMap) : Decidable h.RequestsUpgrade := by
  unfold RequestsUpgrade
  infer_instance

/-- What the search in a line finds is found in a token. -/
theorem Visible.search_eq {h : HeaderMap} (hvisible : h.Visible) {name word : Str} (hne : word ≠ [])
    (hcomma : ',' ∉ word) (hspace : word.any Char.isWhitespace = false) :
    ((h.getStr name).map fun s => Text.contains (Text.toLowercase s) word).getD false = true ↔
      h.Mentions name word := by
  rw [hvisible.getStr_eq]
  unfold Mentions
  cases (h.values name).head? with
  | none => simp
  | some v =>
    simp only [Option.map_some, Option.getD_some, Option.mem_some_iff, exists_eq_left']
    have hspace' : ∀ c ∈ word, c.isWhitespace = false := by simpa using hspace
    rw [Text.contains_iff, Text.infix_iff_tokens hne hcomma hspace', Text.tokens_toLowercase]
    simp [HeaderValue.tokens]

/-! ### The two kinds of misdetection -/

section Kinds

variable {h : HeaderMap} {name word : Str}

/-- An embedded word is part of a longer token of the first line. -/
theorem Embeds.longer_token (hembeds : h.Embeds name word) :
    ∃ v ∈ (h.values name).head?, ∃ token ∈ v.tokens,
      word <:+: Text.toLowercase token ∧ Text.toLowercase token ≠ word := by
  obtain ⟨⟨v, hv, token, htoken, hpart⟩, hlists⟩ := hembeds
  refine ⟨v, hv, token, htoken, hpart, fun heq => hlists ?_⟩
  exact ⟨v, List.mem_of_head? hv, token, htoken, heq⟩

/-- A word that is listed later is a token of a line behind the first one. -/
theorem ListsLater.further_line (hlater : h.ListsLater name word) :
    ∃ v ∈ (h.values name).tail, ∃ token ∈ v.tokens, Text.toLowercase token = word := by
  obtain ⟨⟨v, hv, token, htoken, rfl⟩, hmentions⟩ := hlater
  unfold Mentions at hmentions
  cases hvalues : h.values name with
  | nil => simp [hvalues] at hv
  | cons first rest =>
    rw [hvalues] at hv hmentions
    rcases List.mem_cons.mp hv with rfl | hrest
    · exact absurd ⟨v, rfl, token, htoken, List.infix_rfl⟩ hmentions
    · exact ⟨v, hrest, token, htoken, rfl⟩

/-- The first kind: the headers are taken for those of an upgrade request, and are not. In one of
the two, the word is only part of longer tokens. -/
theorem taken_iff (h : HeaderMap) :
    (h.Mentions "upgrade" "websocket" ∧ h.Mentions "connection" "upgrade") ∧
        ¬ h.RequestsUpgrade ↔
      h.Mentions "upgrade" "websocket" ∧ h.Mentions "connection" "upgrade" ∧
        (h.Embeds "upgrade" "websocket" ∨ h.Embeds "connection" "upgrade") := by
  constructor
  · rintro ⟨⟨hupgrade, hconnection⟩, hnone⟩
    refine ⟨hupgrade, hconnection, ?_⟩
    by_cases hlists : h.Lists "upgrade" "websocket"
    · exact .inr ⟨hconnection, fun hlists' => hnone ⟨hlists, hlists'⟩⟩
    · exact .inl ⟨hupgrade, hlists⟩
  · rintro ⟨hupgrade, hconnection, hembeds⟩
    refine ⟨⟨hupgrade, hconnection⟩, ?_⟩
    rintro ⟨hlists, hlists'⟩
    rcases hembeds with ⟨-, hnone⟩ | ⟨-, hnone⟩
    · exact hnone hlists
    · exact hnone hlists'

/-- The second kind: the headers of an upgrade request are overlooked. In one of the two, the word
only comes in a further line. -/
theorem overlooked_iff (h : HeaderMap) :
    h.RequestsUpgrade ∧
        ¬ (h.Mentions "upgrade" "websocket" ∧ h.Mentions "connection" "upgrade") ↔
      h.Lists "upgrade" "websocket" ∧ h.Lists "connection" "upgrade" ∧
        (h.ListsLater "upgrade" "websocket" ∨ h.ListsLater "connection" "upgrade") := by
  constructor
  · rintro ⟨⟨hupgrade, hconnection⟩, hnone⟩
    refine ⟨hupgrade, hconnection, ?_⟩
    by_cases hmentions : h.Mentions "upgrade" "websocket"
    · exact .inr ⟨hconnection, fun hmentions' => hnone ⟨hmentions, hmentions'⟩⟩
    · exact .inl ⟨hupgrade, hmentions⟩
  · rintro ⟨hupgrade, hconnection, hlater⟩
    refine ⟨⟨hupgrade, hconnection⟩, ?_⟩
    rintro ⟨hmentions, hmentions'⟩
    rcases hlater with ⟨-, hnone⟩ | ⟨-, hnone⟩
    · exact hnone hmentions
    · exact hnone hmentions'

/-- The detection is wrong exactly in these two ways. -/
theorem mentions_iff_lists (h : HeaderMap) :
    (h.Mentions "upgrade" "websocket" ∧ h.Mentions "connection" "upgrade" ↔ h.RequestsUpgrade) ↔
      ¬ h.Misdetected := by
  have hkinds : h.Misdetected ↔
      Xor (h.Mentions "upgrade" "websocket" ∧ h.Mentions "connection" "upgrade")
        h.RequestsUpgrade := or_congr (taken_iff h).symm (overlooked_iff h).symm
  rw [hkinds, xor_iff_not_iff, not_not]

/-- A header has a word in its first line or not at all, and there as a token of its own. -/
structure SpellsOut (h : HeaderMap) (name word : Str) : Prop where
  /-- A token of the first line that contains the word is the word. -/
  whole : ∀ v ∈ (h.values name).head?, ∀ token ∈ v.tokens,
    word <:+: Text.toLowercase token → Text.toLowercase token = word
  /-- No further line has it as a token. -/
  first : ∀ v ∈ (h.values name).tail, ∀ token ∈ v.tokens, Text.toLowercase token ≠ word

theorem SpellsOut.not_embeds (hword : h.SpellsOut name word) : ¬ h.Embeds name word := by
  intro hembeds
  obtain ⟨v, hv, token, htoken, hpart, hne⟩ := hembeds.longer_token
  exact hne (hword.whole v hv token htoken hpart)

theorem SpellsOut.not_listsLater (hword : h.SpellsOut name word) : ¬ h.ListsLater name word := by
  intro hlater
  obtain ⟨v, hv, token, htoken, heq⟩ := hlater.further_line
  exact hword.first v hv token htoken heq

/-- Headers that spell both words out are detected as they should be. -/
theorem not_misdetected_of_spellsOut (hupgrade : h.SpellsOut "upgrade" "websocket")
    (hconnection : h.SpellsOut "connection" "upgrade") : ¬ h.Misdetected := by
  rintro (⟨-, -, hembeds⟩ | ⟨-, -, hlater⟩)
  · exact hembeds.elim hupgrade.not_embeds hconnection.not_embeds
  · exact hlater.elim hupgrade.not_listsLater hconnection.not_listsLater

end Kinds

end HeaderMap

/-- `is_websocket_upgrade`, in terms of the tokens of the first lines. -/
theorem isWebsocketUpgrade_iff {req : Request} (hvisible : req.headers.Visible) :
    Websocket.isWebsocketUpgrade req = true ↔
      req.headers.Mentions "upgrade" "websocket" ∧ req.headers.Mentions "connection" "upgrade" := by
  unfold Websocket.isWebsocketUpgrade
  rw [Bool.and_eq_true, hvisible.search_eq (by decide) (by decide) (by decide),
    hvisible.search_eq (by decide) (by decide) (by decide)]

/-! ## The branch that is taken -/

section Branch

variable {π : Sig} (X : Externals) (pm : PluginManager π) (req : Request)

/-- The WebSocket branch of `handle_http`. -/
def websocketBranch : Prog (TaskSig π) Response := do
  match ← Websocket.handleWebsocket X req with
  | .ok response => return response
  | .error _ => return .build 400 [] (.text "WebSocket upgrade failed")

/-- The other branch. -/
def httpBranch : Prog (TaskSig π) Response := do
  match ← HttpInterceptor.httpRequest X pm req with
  | .ok response => return response
  | .error _ => return .build 500 [] (.text "Internal Server Error")

/-- Once the host is resolved, `handle_http` goes on in the branch. -/
def GoesOn (branch : Prog (TaskSig π) Response) : Prop :=
  ∀ tr addrs, Steps (HttpInterceptor.dnsLookup X (HttpInterceptor.getHost req)) tr
    (.ret (.ok addrs)) → Steps (HttpInterceptor.handleHttp X pm req) tr branch

theorem goesOn_branch : GoesOn X pm req
    (if Websocket.isWebsocketUpgrade req then websocketBranch X req else httpBranch X pm req) := by
  intro tr addrs h
  exact h.bind _

end Branch

/-- For every request whose header values are visible ASCII: `is_websocket_upgrade` finds, and
`handle_http` takes the WebSocket branch for, exactly the requests that ask for an upgrade, if and
only if the headers are not misdetected. -/
theorem upgrade_detected_iff {π : Sig} (X : Externals) (pm : PluginManager π) (req : Request)
    (hvisible : req.headers.Visible) :
    ((Websocket.isWebsocketUpgrade req = true ↔ req.headers.RequestsUpgrade) ∧
      GoesOn X pm req
        (if req.headers.RequestsUpgrade then websocketBranch X req else httpBranch X pm req)) ↔
      ¬ req.headers.Misdetected := by
  rw [← HeaderMap.mentions_iff_lists, ← isWebsocketUpgrade_iff hvisible]
  refine ⟨fun h => h.1, fun h => ⟨h, ?_⟩⟩
  have hbranch := goesOn_branch X pm req
  rwa [if_congr h rfl rfl] at hbranch

namespace Concrete

/-- An upgrade request whose `Connection` tokens stand on two lines. -/
def twoLineUpgrade : Request :=
  { request with
    headers := [(.connection, HeaderValue.ofStr "keep-alive"),
      (.connection, HeaderValue.ofStr "Upgrade"),
      (.upgrade, HeaderValue.ofStr "websocket")] }

theorem visible_handshake : (handshake []).headers.Visible := by decide

end Concrete

/-- An ordinary upgrade request is detected, and goes on as one. -/
theorem upgrade_detected_plain : GoesOn Concrete.externals
    (registeredPlugins Concrete.externals) (Concrete.handshake [])
    (websocketBranch Concrete.externals (Concrete.handshake [])) := by
  have hupgrade : (Concrete.handshake []).headers.RequestsUpgrade := by decide
  have hdetected : ¬ (Concrete.handshake []).headers.Misdetected :=
    HeaderMap.not_misdetected_of_spellsOut ⟨by decide, by decide⟩ ⟨by decide, by decide⟩
  have h := ((upgrade_detected_iff Concrete.externals (registeredPlugins Concrete.externals)
    (Concrete.handshake []) Concrete.visible_handshake).mpr hdetected).2
  rwa [if_pos hupgrade] at h

/-- The `upgrade` token of a second line is overlooked. -/
theorem upgrade_not_detected :
    Concrete.twoLineUpgrade.headers.Visible ∧ Concrete.twoLineUpgrade.headers.RequestsUpgrade ∧
      ¬ (Websocket.isWebsocketUpgrade Concrete.twoLineUpgrade = true ↔
        Concrete.twoLineUpgrade.headers.RequestsUpgrade) := by
  decide

end Bifrost
