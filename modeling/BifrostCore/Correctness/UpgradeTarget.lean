import BifrostCore.Correctness.Targets
import BifrostCore.Text.Search

/-!
# The target URI of an upgrade request

`handle_websocket` replaces `http` by `ws` in the whole text of an absolute URI. Where the
authority, the path or the query contains `http`, this is another target.

* `TargetRewritten` — the target URI is the URI of the request but for its scheme, or made of the
  `Host` header.
* `target_rewritten_iff` — when it is.
-/

namespace Bifrost

open Concurrency Prog

/-- The schemes of a URI, and what they become in the target URI. -/
def rewrittenSchemes : List (Str × Str) :=
  [("http".toList, "ws".toList), ("https".toList, "wss".toList)]

/-- A URI behind its scheme. -/
def Uri.afterScheme (u : Uri) : Str :=
  "://".toList ++ (u.rawAuthority ++ (u.path ++ u.querySuffix))

/-- The target URI is the URI of the request with its scheme changed; in origin form, it is made of
the `Host` header and the path and the query. -/
def TargetRewritten (req : Request) : Prop :=
  (∀ scheme ws, (scheme, ws) ∈ rewrittenSchemes → req.uri.rawScheme = some scheme →
    Websocket.targetUri req = ws ++ req.uri.afterScheme) ∧
  (req.uri.OriginForm → ∀ v, req.headers.getFirst "host" = some v →
    Websocket.targetUri req =
      "wss://".toList ++ (HeaderValue.text v ++ (req.uri.path ++ req.uri.querySuffix)))

/-- An absolute URI does not contain `http` behind its scheme, and a `Host` header that the target
is made of is visible ASCII. -/
def Rewritable (req : Request) : Prop :=
  (∀ scheme ws, (scheme, ws) ∈ rewrittenSchemes → req.uri.rawScheme = some scheme →
    ¬ "http".toList <:+: req.uri.rawAuthority ∧ ¬ "http".toList <:+: req.uri.path ∧
      ¬ "http".toList <:+: req.uri.querySuffix) ∧
  (req.uri.OriginForm → ∀ v, req.headers.getFirst "host" = some v →
    v.all HeaderValue.isVisibleAscii)

/-- An absolute URI is its scheme and what stands behind it. -/
theorem toStr_eq_afterScheme {u : Uri} {scheme : Str} (h : u.rawScheme = some scheme) :
    u.toStr = scheme ++ u.afterScheme := by
  simp [Uri.toStr, Uri.afterScheme, h]

/-- The replacement changes the scheme, and nothing else if `http` is nowhere else. -/
theorem targetUri_of_scheme {req : Request} {scheme ws : Str}
    (hws : (scheme, ws) ∈ rewrittenSchemes) (h : req.uri.rawScheme = some scheme) :
    Websocket.targetUri req = ws ++ Text.replace req.uri.afterScheme "http" "ws" := by
  have hscheme : Text.replace scheme "http" "ws" = ws := by
    have : ∀ x ∈ rewrittenSchemes, Text.replace x.1 "http" "ws" = x.2 := by decide
    exact this _ hws
  have hcolon : ∀ a b : Str, Text.replace (a ++ ':' :: b) "http" "ws" =
      Text.replace a "http" "ws" ++ ':' :: Text.replace b "http" "ws" := fun a b =>
    Text.replace_append_cons (by decide) (by decide) a b
  -- The colon behind the scheme keeps the two parts of the replacement apart.
  obtain ⟨rest, hrest⟩ : ∃ rest, req.uri.afterScheme = ':' :: rest := ⟨_, rfl⟩
  rw [Websocket.targetUri, Uri.scheme, if_neg (by simp [h]), toStr_eq_afterScheme h, hrest, hcolon,
    hscheme, ← List.nil_append (':' :: rest), hcolon]
  rfl

/-- Behind the scheme, `http` stands in the authority, the path or the query. -/
theorem infix_afterScheme_iff {u : Uri} (h : u.rawScheme.isSome) :
    "http".toList <:+: u.afterScheme ↔ "http".toList <:+: u.rawAuthority ∨
      "http".toList <:+: u.path ∨ "http".toList <:+: u.querySuffix := by
  have hskip : ∀ c : Char, c ∉ "http".toList → ∀ s : Str,
      "http".toList <:+: c :: s ↔ "http".toList <:+: s := fun c hc s =>
    Text.infix_cons_iff_of_not_mem hc
  -- The separators of the parts do not occur in `http`.
  have hquery : ∀ s : Str, "http".toList <:+: s ++ u.querySuffix ↔
      "http".toList <:+: s ∨ "http".toList <:+: u.querySuffix := by
    intro s
    unfold Uri.querySuffix
    cases u.query with
    | none => simp
    | some q =>
      show "http".toList <:+: s ++ '?' :: q ↔ _ ∨ "http".toList <:+: '?' :: q
      rw [Text.infix_append_cons_iff (by decide), hskip '?' (by decide)]
  obtain ⟨tail, hpath⟩ := Uri.path_of_scheme h
  show "http".toList <:+: ':' :: '/' :: '/' :: (u.rawAuthority ++ (u.path ++ u.querySuffix)) ↔ _
  rw [hskip ':' (by decide), hskip '/' (by decide), hskip '/' (by decide), hpath, List.cons_append,
    Text.infix_append_cons_iff (by decide), hquery, hskip '/' (by decide)]

/-- For an absolute URI. -/
theorem targetUri_of_scheme_iff {req : Request} {scheme ws : Str}
    (hws : (scheme, ws) ∈ rewrittenSchemes) (h : req.uri.rawScheme = some scheme) :
    Websocket.targetUri req = ws ++ req.uri.afterScheme ↔
      ¬ "http".toList <:+: req.uri.rawAuthority ∧ ¬ "http".toList <:+: req.uri.path ∧
        ¬ "http".toList <:+: req.uri.querySuffix := by
  rw [targetUri_of_scheme hws h, List.append_cancel_left_eq,
    Text.replace_eq_self_iff (by decide), infix_afterScheme_iff (by simp [h]), not_or, not_or]

/-- For a URI in origin form: a header that is not visible ASCII is left out. -/
theorem targetUri_of_originForm_iff {req : Request} (h : req.uri.OriginForm) {v : HeaderValue}
    (hv : req.headers.getFirst "host" = some v) :
    Websocket.targetUri req =
        "wss://".toList ++ (HeaderValue.text v ++ (req.uri.path ++ req.uri.querySuffix)) ↔
      v.all HeaderValue.isVisibleAscii := by
  have hpath : req.uri.pathAndQuery.getD [] = req.uri.path ++ req.uri.querySuffix := by
    obtain ⟨hscheme, hauth, hhead⟩ := h
    obtain ⟨tail, htail⟩ := List.head?_eq_some_iff.mp hhead
    simp [Uri.pathAndQuery, Uri.path, hscheme, hauth, htail]
  have htarget : Websocket.targetUri req = "wss://".toList ++
      ((req.headers.getStr "host").getD [] ++ (req.uri.path ++ req.uri.querySuffix)) := by
    rw [Websocket.targetUri, Uri.scheme, if_pos (by simp [h.1]), hpath, List.append_assoc]
    unfold Websocket.hostHeader
    cases req.headers.getStr "host" <;> rfl
  rw [htarget, List.append_cancel_left_eq, List.append_cancel_right_eq, HeaderMap.getStr, hv,
    Option.bind_some, HeaderValue.toStr]
  split
  · next hvisible => exact iff_of_true rfl hvisible
  · next hvisible =>
    refine iff_of_false (fun heq => hvisible ?_) hvisible
    -- Only the empty value is left out without a difference.
    have hempty : v = [] := List.map_eq_nil_iff.mp heq.symm
    rw [hempty]
    rfl

/-- For every request: the target URI is the URI of the request but for its scheme, or made of the
`Host` header, exactly if the URI does not contain `http` behind its scheme and the header is
visible ASCII. -/
theorem target_rewritten_iff (req : Request) : TargetRewritten req ↔ Rewritable req := by
  refine and_congr ?_ ?_
  · refine forall_congr' fun scheme => forall_congr' fun ws => forall_congr' fun hws =>
      forall_congr' fun h => targetUri_of_scheme_iff hws h
  · exact forall_congr' fun h => forall_congr' fun v => forall_congr' fun hv =>
      targetUri_of_originForm_iff h hv

namespace Concrete

/-- The headers of an upgrade request. -/
def upgradeHeaders : HeaderMap :=
  [(.host, HeaderValue.ofStr "http.example"), (.connection, HeaderValue.ofStr "Upgrade"),
    (.upgrade, HeaderValue.ofStr "websocket")]

/-- An upgrade request for `http://http.example/`. -/
def upgradeRequest : Request :=
  { request with uri := httpUri "http.example" (by decide), headers := upgradeHeaders }

end Concrete

/-- The replacement also finds `http` in the host: the target is `ws://ws.example/`. -/
theorem target_not_rewritten :
    Websocket.isWebsocketUpgrade Concrete.upgradeRequest = true ∧
      Websocket.targetUri Concrete.upgradeRequest = "ws://ws.example/" ∧
        ¬ TargetRewritten Concrete.upgradeRequest := by
  refine ⟨by decide, by decide, fun h => ?_⟩
  have htarget := h.1 "http" "ws" (by decide) rfl
  revert htarget
  decide

end Bifrost
