import BifrostCore.Correctness.Conformance

/-!
# The target of a request

The proxy computes the target of a request in four places: `get_host` for the lookup, the rebuilt
URI of a plain request, the URI of a WebSocket upgrade, and the `get_host` of the built-in server on
the rebuilt request. They read the version, the URI and the `Host` header in different orders of
preference; `OneTarget` is when they come to the same authority.

* `uriString_authority`, `targetUri_authority` — the authority of the two URIs.
* `Aim.sound` — what a run of `handle_http` asks for is what these functions compute.
* `one_target_iff` — when all authorities of a run are the same.
-/

namespace Bifrost

open Concurrency Prog

/-! ## The four computations -/

namespace BifrostServerPlugin

/-- The authority in what `get_host` returns: the part behind the scheme. -/
def authorityOf (req : Request) : Str :=
  (getHost req).drop (req.uri.scheme.elim 0 fun scheme => scheme.length + "://".toList.length)

/-- On a request with an absolute URI, the built-in server goes by the URI. -/
theorem getHost_of_scheme {req : Request} (hmethod : req.method ≠ .connect) {scheme : Str}
    (hscheme : req.uri.rawScheme = some scheme) :
    getHost req = scheme ++ "://".toList ++ req.uri.rawAuthority := by
  have hne := req.uri.authority_of_scheme (by rw [hscheme]; rfl)
  unfold getHost
  rw [if_neg hmethod]
  split
  · next scheme' hscheme' =>
    obtain rfl : scheme = scheme' := Option.some.inj (hscheme.symm.trans hscheme')
    simp [Uri.authority, hne]
  · next hnone => exact absurd (hscheme.symm.trans hnone) (Option.some_ne_none _)

theorem authorityOf_of_scheme {req : Request} (hmethod : req.method ≠ .connect)
    (h : req.uri.rawScheme.isSome) : authorityOf req = req.uri.rawAuthority := by
  obtain ⟨scheme, hscheme⟩ := Option.isSome_iff_exists.mp h
  have hlen : (req.uri.scheme.elim 0 fun scheme => scheme.length + "://".toList.length) =
      (scheme ++ "://".toList).length := by
    rw [show req.uri.scheme = some scheme from hscheme, List.length_append]
    rfl
  rw [authorityOf, getHost_of_scheme hmethod hscheme, hlen, List.drop_left]

end BifrostServerPlugin

/-- The replacement of `handle_websocket` works on the parts of an absolute URI. -/
theorem replace_absolute (scheme authority tail : Str) :
    Text.replace (scheme ++ "://".toList ++ (authority ++ '/' :: tail)) "http" "ws" =
      Text.replace scheme "http" "ws" ++ "://".toList ++
        (Text.replace authority "http" "ws" ++ '/' :: Text.replace tail "http" "ws") := by
  have hslash : ∀ s, Text.replace ('/' :: s) "http" "ws" = '/' :: Text.replace s "http" "ws" :=
    fun s => Text.replace_append_cons (by decide) (by decide) [] s
  rw [show scheme ++ "://".toList ++ (authority ++ '/' :: tail) =
      scheme ++ ':' :: '/' :: '/' :: (authority ++ '/' :: tail) by simp,
    Text.replace_append_cons (by decide) (by decide) scheme, hslash, hslash,
    Text.replace_append_cons (by decide) (by decide) authority tail]
  simp

section Authorities

variable {X : Externals} (hX : X.CutsAuthority) {req : Request} {uri : Uri}

include hX

/-- The authority of the URI of a plain request: that of the URI of the client, or else what
`get_host` says, up to the first delimiter. -/
theorem uriString_authority (hform : req.uri.OriginForm ∨ req.uri.AbsoluteForm)
    (h : X.parseUri (HttpInterceptor.uriString req) = .ok uri) :
    uri.rawScheme.isSome ∧ uri.rawAuthority =
      if req.uri.AbsoluteForm then req.uri.rawAuthority
      else beforeDelimiter (HttpInterceptor.getHost req) := by
  unfold HttpInterceptor.uriString Uri.scheme at h
  by_cases habs : req.uri.AbsoluteForm
  -- The text that is parsed has the authority right behind the scheme, and then a slash.
  · obtain ⟨scheme, hscheme⟩ := Option.isSome_iff_exists.mp habs
    obtain ⟨tail, -, htail⟩ := Uri.toStr_of_scheme hscheme
    obtain ⟨hne, hchars⟩ := req.uri.scheme_chars scheme hscheme
    rw [hscheme, if_neg (by simp), htail] at h
    obtain ⟨hsome, hauth⟩ := hX scheme _ uri hne hchars h
    rw [if_pos habs, hauth, beforeDelimiter_append_slash]
    exact ⟨hsome, beforeDelimiter_eq_self.mpr req.uri.authority_chars⟩
  · have horigin := hform.resolve_right habs
    obtain ⟨tail, htail⟩ := Uri.pathAndQuery_of_originForm horigin
    rw [horigin.1, if_pos Option.isNone_none, htail, List.append_assoc] at h
    obtain ⟨hsome, hauth⟩ := hX "https".toList _ uri (by decide) (by decide) h
    rw [if_neg habs, hauth]
    exact ⟨hsome, beforeDelimiter_append_slash _ _⟩

/-- The authority of the URI of an upgrade request: that of the URI of the client after the textual
replacement, or else the `Host` header up to the first delimiter. -/
theorem targetUri_authority (hform : req.uri.OriginForm ∨ req.uri.AbsoluteForm)
    (h : X.parseUri (Websocket.targetUri req) = .ok uri) :
    uri.rawScheme.isSome ∧ uri.rawAuthority =
      if req.uri.AbsoluteForm then Text.replace req.uri.rawAuthority "http" "ws"
      else beforeDelimiter ((req.headers.getStr "host").getD []) := by
  unfold Websocket.targetUri Uri.scheme at h
  by_cases habs : req.uri.AbsoluteForm
  · obtain ⟨scheme, hscheme⟩ := Option.isSome_iff_exists.mp habs
    obtain ⟨tail, -, htail⟩ := Uri.toStr_of_scheme hscheme
    obtain ⟨hne, hchars⟩ := req.uri.scheme_chars scheme hscheme
    -- The replacement leaves the separators alone, and what it puts in is no delimiter.
    rw [hscheme, if_neg (by simp), htail, replace_absolute] at h
    obtain ⟨hsome, hauth⟩ := hX _ _ uri (Text.replace_ne_nil (by decide) hne)
      (Text.all_replaceFrom (by decide) 0 hchars) h
    rw [if_pos habs, hauth, beforeDelimiter_append_slash]
    exact ⟨hsome, beforeDelimiter_eq_self.mpr
      (Text.all_replaceFrom (by decide) 0 req.uri.authority_chars)⟩
  · have horigin := hform.resolve_right habs
    obtain ⟨tail, htail⟩ := Uri.pathAndQuery_of_originForm horigin
    rw [horigin.1, if_pos Option.isNone_none, htail, List.append_assoc] at h
    obtain ⟨hsome, hauth⟩ := hX "wss".toList _ uri (by decide) (by decide) h
    rw [if_neg habs, hauth]
    refine ⟨hsome, (beforeDelimiter_append_slash _ _).trans ?_⟩
    rw [Websocket.hostHeader]
    cases req.headers.getStr "host" <;> rfl

end Authorities

/-! ## What a run asks for -/

/-- The plugins, the upstream server or the target of an upgrade are asked. -/
def TaskOp.asks {π : Sig} : TaskOp π → Bool
  | .callback .handleRequest _ => true
  | .clientRequest _ => true
  | .connectAsync _ => true
  | _ => false

/-- The authorities a run of `handle_http` names as its target. -/
inductive Authority (X : Externals) (req : Request) (tr : Trace (TaskSig StoreSig)) : Str → Prop
  /-- The one `dns_lookup` is asked to resolve. -/
  | resolved : Authority X req tr (HttpInterceptor.getHost req)
  /-- The one the built-in server goes by, when the plugins are called. -/
  | classified {o : StoreOp} {r : o.Res} {uri : Uri} :
      (⟨.callback .handleRequest o, r⟩ : Event (TaskSig StoreSig)) ∈ tr →
      X.parseUri (HttpInterceptor.uriString req) = .ok uri →
      Authority X req tr (BifrostServerPlugin.authorityOf (HttpInterceptor.newRequest req uri))
  /-- The one a plain request is sent to. -/
  | requested {newReq : Request} {answer : Except UpstreamError Response} {a : Str} :
      (⟨.clientRequest newReq, answer⟩ : Event (TaskSig StoreSig)) ∈ tr →
      newReq.uri.authority = some a → Authority X req tr a
  /-- The one an upgrade request is sent to. -/
  | upgraded {newReq : Request} {answer : Result Response} {a : Str} :
      (⟨.connectAsync newReq, answer⟩ : Event (TaskSig StoreSig)) ∈ tr →
      newReq.uri.authority = some a → Authority X req tr a

/-- An operation that goes by the target the request was rebuilt for. -/
def TaskOp.Sound {π : Sig} (X : Externals) (req : Request) : TaskOp π → Prop
  | .callback _ _ => Websocket.isWebsocketUpgrade req = false ∧
      ∃ uri, X.parseUri (HttpInterceptor.uriString req) = .ok uri
  | .clientRequest newReq => Websocket.isWebsocketUpgrade req = false ∧
      ∃ uri, X.parseUri (HttpInterceptor.uriString req) = .ok uri ∧
        newReq = HttpInterceptor.newRequest req uri
  | .connectAsync newReq => Websocket.isWebsocketUpgrade req = true ∧
      X.parseUri (Websocket.targetUri req) = .ok newReq.uri
  | _ => True

theorem TaskOp.IsLookup.sound {π : Sig} {o : TaskOp π} (h : o.IsLookup) (X : Externals)
    (req : Request) : o.Sound X req := by
  cases o <;> trivial

section Sound

variable (X : Externals) (req : Request)

/-- The plugins leave a request as it is. -/
theorem handleRequest_sound (id : UInt64) {uri : Uri}
    (hplain : Websocket.isWebsocketUpgrade req = false)
    (hparse : X.parseUri (HttpInterceptor.uriString req) = .ok uri) (newReq : Request) :
    (Task.callback .handleRequest ((registeredPlugins X).handleRequest id newReq)).Only
      (TaskOp.Sound X req) fun r => r.2 = newReq := by
  have hsound : ∀ o, (TaskOp.callback .handleRequest o : TaskOp StoreSig).Sound X req :=
    fun _ => ⟨hplain, uri, hparse⟩
  show ((Prog.bind _ _).embed _ _).Only _ _
  rw [embed_bind]
  refine ((Ledger.bifrostServer_readOnly X id newReq).embed _ _ fun o _ => hsound o).bind ?_
  rintro r (rfl | ⟨response, rfl⟩)
  · -- Three counters, then the clock, the record, and its mark.
    iterate 6 refine ⟨hsound _, fun _ => ?_⟩
    rfl
  · rfl

theorem httpRequest_sound (hplain : Websocket.isWebsocketUpgrade req = false) :
    (HttpInterceptor.httpRequest X (registeredPlugins X) req).Only (TaskOp.Sound X req)
      fun _ => True := by
  refine ⟨trivial, fun id => ?_⟩
  simp only [ret_bind]
  cases hparse : X.parseUri (HttpInterceptor.uriString req) with
  | error e => trivial
  | ok uri =>
    refine (handleRequest_sound X req id hplain hparse _).bind ?_
    rintro ⟨e | ⟨_ | _, response⟩, newReq⟩ hkept
    · trivial
    · cases response <;> trivial
    · refine ⟨⟨hplain, uri, hparse, hkept⟩, fun answer => ?_⟩
      cases answer <;> trivial

theorem handleWebsocket_sound (hupgrade : Websocket.isWebsocketUpgrade req = true) :
    (Websocket.handleWebsocket X req : Prog (TaskSig StoreSig) _).Only (TaskOp.Sound X req)
      fun _ => True := by
  show (Prog.bind (Task.unwrap (Websocket.targetRequest X req)) _).Only _ _
  unfold Websocket.targetRequest
  split
  · next uri hparse =>
    refine ⟨⟨hupgrade, hparse⟩, fun answer => ?_⟩
    cases answer <;> trivial
  · exact ⟨trivial, fun r => nomatch r⟩

/-- What a run of `handle_http` asks the plugins, the upstream server and the target of an upgrade
is about the request as it was rebuilt. -/
theorem handleHttp_sound :
    (HttpInterceptor.handleHttp X (registeredPlugins X) req).Only (TaskOp.Sound X req)
      fun _ => True := by
  refine ((dnsLookup_isLookup X _).mono fun _ h => h.sound X req).bind fun r _ => ?_
  cases r with
  | error e => trivial
  | ok addrs =>
    show Only _ (if _ then _ else _) _
    split
    · next hupgrade =>
      refine (handleWebsocket_sound X req hupgrade).bind fun r _ => ?_
      cases r <;> trivial
    · next hplain =>
      refine (httpRequest_sound X req (Bool.eq_false_iff.mpr hplain)).bind fun r _ => ?_
      cases r <;> trivial

end Sound

/-! ## One target -/

/-- The `Host` header as `get_host` reads it. -/
def namedHost (req : Request) : Str := (req.headers.getStr "host").getD "localhost"

/-- When the authorities of a request in origin or in absolute form are the same. -/
def OneTarget (req : Request) : Prop :=
  if req.uri.AbsoluteForm then
    if Websocket.isWebsocketUpgrade req then
      -- The replacement is made in the whole URI.
      (if req.version = .http2 then req.uri.rawAuthority else namedHost req) =
        Text.replace req.uri.rawAuthority "http" "ws"
    else req.version ≠ .http2 → namedHost req = req.uri.rawAuthority
  else
    if Websocket.isWebsocketUpgrade req then
      -- The `Host` header is read whatever the version, and without a default.
      (if req.version = .http2 then "localhost".toList else namedHost req) =
        beforeDelimiter ((req.headers.getStr "host").getD [])
    else req.version ≠ .http2 → (namedHost req).all (! isDelimiter ·)

instance : DecidablePred OneTarget := fun req => by unfold OneTarget; infer_instance

section OneTarget

variable {req : Request}

/-- The host `dns_lookup` is asked for. -/
theorem getHost_eq (hform : req.uri.OriginForm ∨ req.uri.AbsoluteForm) :
    HttpInterceptor.getHost req =
      if req.version = .http2 then
        if req.uri.AbsoluteForm then req.uri.rawAuthority else "localhost".toList
      else namedHost req := by
  unfold HttpInterceptor.getHost namedHost
  by_cases hversion : req.version = .http2
  · -- There is no header with the name of a pseudo header.
    have hpseudo : req.headers.getStr ":authority".toList = none :=
      HeaderMap.getStr_pseudo _ "authority".toList
    rw [if_pos hversion, if_pos hversion, hpseudo, Option.or_none]
    by_cases habs : req.uri.AbsoluteForm
    · rw [if_pos habs, Uri.authority, if_neg (req.uri.authority_of_scheme habs)]
      rfl
    · rw [if_neg habs, Uri.authority, if_pos (hform.resolve_right habs).2.1]
      rfl
  · rw [if_neg hversion, if_neg hversion]

/-- For a plain request, the lookup and the rebuilt URI have the same authority. -/
theorem oneTarget_iff_of_plain (hform : req.uri.OriginForm ∨ req.uri.AbsoluteForm)
    (hplain : Websocket.isWebsocketUpgrade req = false) :
    OneTarget req ↔ HttpInterceptor.getHost req =
      if req.uri.AbsoluteForm then req.uri.rawAuthority
      else beforeDelimiter (HttpInterceptor.getHost req) := by
  rw [OneTarget, getHost_eq hform, hplain]
  by_cases habs : req.uri.AbsoluteForm
  · rw [if_pos habs, if_neg Bool.false_ne_true, if_pos habs, if_pos habs]
    by_cases hversion : req.version = .http2
    · rw [if_pos hversion]
      exact iff_of_true (fun h => absurd hversion h) rfl
    · rw [if_neg hversion]
      exact forall_prop_of_true hversion
  · rw [if_neg habs, if_neg Bool.false_ne_true, if_neg habs, if_neg habs]
    by_cases hversion : req.version = .http2
    · rw [if_pos hversion]
      exact iff_of_true (fun h => absurd hversion h) (by decide)
    · rw [if_neg hversion]
      exact (forall_prop_of_true hversion).trans (beforeDelimiter_eq_self.symm.trans eq_comm)

/-- For an upgrade, the lookup and the target URI have the same authority. -/
theorem oneTarget_iff_of_upgrade (hform : req.uri.OriginForm ∨ req.uri.AbsoluteForm)
    (hupgrade : Websocket.isWebsocketUpgrade req = true) :
    OneTarget req ↔ HttpInterceptor.getHost req =
      if req.uri.AbsoluteForm then Text.replace req.uri.rawAuthority "http" "ws"
      else beforeDelimiter ((req.headers.getStr "host").getD []) := by
  rw [OneTarget, getHost_eq hform, if_pos hupgrade, if_pos hupgrade]
  by_cases habs : req.uri.AbsoluteForm
  · simp only [if_pos habs]
  · simp only [if_neg habs]

end OneTarget

/-! ## The authorities of a run -/

section Run

variable {X : Externals} {req : Request} {tr : Trace (TaskSig StoreSig)} {uri : Uri}

/-- Where a run names only the resolved authority and one more, they agree if these two do. -/
theorem authorities_agree_iff {a : Str} (ha : Authority X req tr a)
    (honly : ∀ b, Authority X req tr b → b = HttpInterceptor.getHost req ∨ b = a) :
    (∀ b c, Authority X req tr b → Authority X req tr c → b = c) ↔
      HttpInterceptor.getHost req = a := by
  refine ⟨fun h => h _ _ .resolved ha, fun heq b c hb hc => ?_⟩
  have hsame : ∀ b, Authority X req tr b → b = a := fun b hb =>
    (honly b hb).elim (fun h => h.trans heq) id
  rw [hsame b hb, hsame c hc]

theorem eq_of_authority {u : Uri} {a : Str} (h : u.authority = some a) : a = u.rawAuthority := by
  unfold Uri.authority at h
  split_ifs at h
  exact (Option.some.inj h).symm

theorem authority_of_scheme_eq {u : Uri} (h : u.rawScheme.isSome) :
    u.authority = some u.rawAuthority := if_neg (u.authority_of_scheme h)

/-- A run that asks nobody names the resolved authority only. -/
theorem authority_of_silent (hasks : ¬ ∃ e ∈ tr, e.op.asks) {b : Str}
    (hb : Authority X req tr b) : b = HttpInterceptor.getHost req := by
  cases hb with
  | resolved => rfl
  | classified hmem => exact absurd ⟨_, hmem, rfl⟩ hasks
  | requested hmem => exact absurd ⟨_, hmem, rfl⟩ hasks
  | upgraded hmem => exact absurd ⟨_, hmem, rfl⟩ hasks

variable (hsound : ∀ e ∈ tr, e.op.Sound X req)

include hsound

/-- Who asks somebody has a URI to ask for. -/
theorem exists_uri_of_asks (hasks : ∃ e ∈ tr, e.op.asks) :
    ∃ uri, X.parseUri (if Websocket.isWebsocketUpgrade req then Websocket.targetUri req
      else HttpInterceptor.uriString req) = .ok uri := by
  obtain ⟨⟨o, r⟩, hmem, hask⟩ := hasks
  have ho := hsound _ hmem
  cases o with
  | callback cb o =>
    obtain ⟨hplain, uri, hparse⟩ := ho
    exact ⟨uri, by simpa [hplain] using hparse⟩
  | clientRequest newReq =>
    obtain ⟨hplain, uri, hparse, -⟩ := ho
    exact ⟨uri, by simpa [hplain] using hparse⟩
  | connectAsync newReq => exact ⟨newReq.uri, by simpa [ho.1] using ho.2⟩
  | _ => exact nomatch hask

/-- A plain request names the authority of the rebuilt URI. -/
theorem authorities_of_plain (hmethod : req.method ≠ .connect)
    (hplain : Websocket.isWebsocketUpgrade req = false)
    (hparse : X.parseUri (HttpInterceptor.uriString req) = .ok uri) (hscheme : uri.rawScheme.isSome)
    (hasks : ∃ e ∈ tr, e.op.asks) :
    Authority X req tr uri.rawAuthority ∧
      ∀ b, Authority X req tr b → b = HttpInterceptor.getHost req ∨ b = uri.rawAuthority := by
  have hclassified : BifrostServerPlugin.authorityOf (HttpInterceptor.newRequest req uri) =
      uri.rawAuthority := BifrostServerPlugin.authorityOf_of_scheme hmethod hscheme
  constructor
  · obtain ⟨⟨o, r⟩, hmem, hask⟩ := hasks
    -- What was asked is the rebuilt request, in a callback or upstream.
    have ho := hsound _ hmem
    cases o with
    | callback cb o =>
      cases cb with
      | handleRequest =>
        rw [← hclassified]
        exact .classified hmem hparse
      | _ => exact nomatch hask
    | clientRequest newReq =>
      obtain ⟨-, uri', hparse', rfl⟩ := ho
      obtain rfl : uri = uri' := Except.ok.inj (hparse.symm.trans hparse')
      exact .requested hmem (authority_of_scheme_eq hscheme)
    | connectAsync newReq => exact absurd ho.1 (by simp [hplain])
    | _ => exact nomatch hask
  · intro b hb
    cases hb with
    | resolved => exact .inl rfl
    | @classified _ _ uri' _ hparse' =>
      obtain rfl : uri = uri' := Except.ok.inj (hparse.symm.trans hparse')
      exact .inr hclassified
    | requested hmem hauth =>
      obtain ⟨-, uri', hparse', rfl⟩ := hsound _ hmem
      obtain rfl : uri = uri' := Except.ok.inj (hparse.symm.trans hparse')
      exact .inr (eq_of_authority hauth)
    | upgraded hmem hauth =>
      exact absurd (hsound _ hmem).1 (by simp [hplain])

/-- An upgrade request names the authority of the target URI. -/
theorem authorities_of_upgrade (hupgrade : Websocket.isWebsocketUpgrade req = true)
    (hparse : X.parseUri (Websocket.targetUri req) = .ok uri) (hscheme : uri.rawScheme.isSome)
    (hasks : ∃ e ∈ tr, e.op.asks) :
    Authority X req tr uri.rawAuthority ∧
      ∀ b, Authority X req tr b → b = HttpInterceptor.getHost req ∨ b = uri.rawAuthority := by
  have hnot : ¬ Websocket.isWebsocketUpgrade req = false := by simp [hupgrade]
  constructor
  · obtain ⟨⟨o, r⟩, hmem, hask⟩ := hasks
    -- Only the connection to the target can have been asked for.
    have ho := hsound _ hmem
    cases o with
    | connectAsync newReq =>
      obtain rfl : uri = newReq.uri := Except.ok.inj (hparse.symm.trans ho.2)
      exact .upgraded hmem (authority_of_scheme_eq hscheme)
    | callback cb o => exact absurd ho.1 hnot
    | clientRequest newReq => exact absurd ho.1 hnot
    | _ => exact nomatch hask
  · intro b hb
    cases hb with
    | resolved => exact .inl rfl
    | classified hmem => exact absurd (hsound _ hmem).1 hnot
    | requested hmem => exact absurd (hsound _ hmem).1 hnot
    | @upgraded newReq _ _ hmem hauth =>
      obtain rfl : uri = newReq.uri := Except.ok.inj (hparse.symm.trans (hsound _ hmem).2)
      exact .inr (eq_of_authority hauth)

end Run

/-- For every request in origin or in absolute form that is not a CONNECT request, and every run of
`handle_http` on it, whatever the environment answers: the authority that is resolved, the one the
built-in server goes by and the one that is contacted are the same, if and only if `OneTarget` holds
of the request or the run gets as far as neither of the last two. -/
theorem one_target_iff (X : Externals) (hX : X.CutsAuthority) (req : Request)
    (hmethod : req.method ≠ .connect) (hform : req.uri.OriginForm ∨ req.uri.AbsoluteForm)
    {tr : Trace (TaskSig StoreSig)} {q : Prog (TaskSig StoreSig) Response}
    (h : Steps (HttpInterceptor.handleHttp X (registeredPlugins X) req) tr q) :
    (∀ a b, Authority X req tr a → Authority X req tr b → a = b) ↔
      ((∃ e ∈ tr, e.op.asks) → OneTarget req) := by
  have hsound := ((handleHttp_sound X req).steps h).1
  by_cases hasks : ∃ e ∈ tr, e.op.asks
  · rw [forall_prop_of_true hasks]
    -- Two authorities are named, so all agree if these two do.
    obtain ⟨uri, hparse⟩ := exists_uri_of_asks hsound hasks
    cases hupgrade : Websocket.isWebsocketUpgrade req with
    | true =>
      rw [if_pos hupgrade] at hparse
      obtain ⟨hscheme, hauth⟩ := targetUri_authority hX hform hparse
      obtain ⟨ha, honly⟩ := authorities_of_upgrade hsound hupgrade hparse hscheme hasks
      rw [authorities_agree_iff ha honly, oneTarget_iff_of_upgrade hform hupgrade, hauth]
    | false =>
      rw [if_neg (by simp [hupgrade])] at hparse
      obtain ⟨hscheme, hauth⟩ := uriString_authority hX hform hparse
      obtain ⟨ha, honly⟩ := authorities_of_plain hsound hmethod hupgrade hparse hscheme hasks
      rw [authorities_agree_iff ha honly, oneTarget_iff_of_plain hform hupgrade, hauth]
  · exact iff_of_true (fun a b ha hb =>
      (authority_of_silent hasks ha).trans (authority_of_silent hasks hb).symm)
      fun h => absurd h hasks

/-- A plain request sent to an authority. -/
def TaskOp.isSentTo {π : Sig} (authority : Str) : TaskOp π → Bool
  | .clientRequest newReq => newReq.uri.authority = some authority
  | _ => false

namespace Concrete

/-- `GET http://example.com/` with another host in its `Host` header. -/
def misdirected : Request :=
  { request with headers := [(.host, HeaderValue.ofStr "other.example")] }

/-- `handle_http` on it, with the registered plugins. -/
def misdirectedHandled : Prog (TaskSig StoreSig) Response :=
  HttpInterceptor.handleHttp externals (registeredPlugins externals) misdirected

end Concrete

/-- A request whose URI and `Host` header name the same host. -/
theorem one_target_same_host :
    ∃ tr response, Steps Concrete.handled tr (.ret response) ∧ (∃ e ∈ tr, e.op.asks) ∧
      ∀ a b, Authority Concrete.externals Concrete.request tr a →
        Authority Concrete.externals Concrete.request tr b → a = b := by
  have hrun : (Concrete.handled.eval (perform (Concrete.oracle .timeout))
      Concrete.started).isSome = true := by decide
  obtain ⟨⟨response, g'⟩, heval⟩ := Option.isSome_iff_exists.mp hrun
  have h := (Exec.of_eval heval).steps
  exact ⟨_, response, h, by decide, (one_target_iff Concrete.externals
    (fun _ _ _ _ => Externals.parseAbsolute_cuts) Concrete.request (by decide)
    (.inr (by decide)) h).mpr fun _ => by decide⟩

/-- A request with an absolute URI and another `Host` header: the header is resolved, and the URI is
contacted. -/
theorem one_target_fails :
    ∃ tr response, Steps Concrete.misdirectedHandled tr (.ret response) ∧
      Authority Concrete.externals Concrete.misdirected tr "example.com".toList ∧
      ¬ ∀ a b, Authority Concrete.externals Concrete.misdirected tr a →
        Authority Concrete.externals Concrete.misdirected tr b → a = b := by
  have hrun : (Concrete.misdirectedHandled.eval (perform (Concrete.oracle .timeout))
      Concrete.started).isSome = true := by decide
  obtain ⟨⟨response, g'⟩, heval⟩ := Option.isSome_iff_exists.mp hrun
  have hsent : (Concrete.misdirectedHandled.evalTrace (perform (Concrete.oracle .timeout))
      Concrete.started).any (fun e => e.op.isSentTo "example.com") = true := by decide
  obtain ⟨⟨o, r⟩, hmem, ho⟩ := List.any_eq_true.mp hsent
  cases o with
  | clientRequest newReq =>
    have hauth : Authority Concrete.externals Concrete.misdirected _ "example.com".toList :=
      .requested hmem (of_decide_eq_true ho)
    refine ⟨_, response, (Exec.of_eval heval).steps, hauth, fun h => ?_⟩
    exact absurd (h _ _ .resolved hauth) (by decide)
  | _ => cases ho

end Bifrost
