import BifrostCore.Proxy

/-!
# Every request is answered

`handle_http` promises `Infallible`, and yet a client's request goes through a few operations that
may fail on the way: the clock and the cache in `dns_lookup`, the port it reads out of the host, and
the target URI of a WebSocket upgrade. `Answerable` is what these operations need, in terms of the
request and of what the environment answers; nothing else can go wrong.

* `dnsLookup_total` — when the lookup comes to its end, and with which result.
* `httpRequest_total` — a plain request always comes to its end.
* `handleWebsocket_total` — an upgrade request needs a target URI.
* `handleHttp_answers_iff` — when `handle_http` returns a response.
-/

namespace Bifrost

open Concurrency Prog

variable {π : Sig}

/-! ## The environment of a request -/

/-- What a request is answered by the clock, by the DNS cache and by the name resolution. -/
structure Surroundings where
  /-- The clock. -/
  now : SystemTime
  /-- The entry of the DNS cache for the host of the request. -/
  cached : Option (List SocketAddr × UInt64)
  /-- The result of a name resolution. -/
  resolved : Result (List SocketAddr)

namespace Surroundings

/-- The answers a request gets. Where the surroundings do not say, every answer is possible. -/
def Answers (env : Surroundings) : (o : TaskOp π) → o.Res → Prop
  | .now, time => time = env.now
  | .dnsCacheGet _, entry => entry = env.cached
  | .lookupHost _ _, result => result = env.resolved
  | _, _ => True

/-- The cache has an entry for the host, and it is young enough to be used. -/
def Hit (X : Externals) (env : Surroundings) (currentTime : UInt64) : Prop :=
  ∃ entry ∈ env.cached, ∃ age ∈ X.subU64 currentTime entry.2, age < HttpInterceptor.cacheDuration

end Surroundings

/-- The operations of the plugins come back. -/
def Responsive (π : Sig) : Prop := ∀ o : π.Op, Nonempty (π.Res o)

theorem responsive_storeSig : Responsive StoreSig := fun o =>
  -- The store answers, whatever its state.
  ⟨((Store.init 0 [] [] false false none 0).perform 0 o).1⟩

namespace HttpInterceptor

section Total

variable {env : Surroundings} {α : Type}

/-- Plugin code comes to its end. -/
theorem callback_total (hπ : Responsive π) (cb : Callback) (p : Prog π α) :
    (Task.callback cb p).Total env.Answers fun _ => True := by
  induction p with
  | ret a => trivial
  | act o k ih =>
    obtain ⟨r⟩ := hπ o
    exact ⟨⟨r, trivial⟩, fun r _ => ih r⟩

theorem unwrap_total (a : Option α) (post : α → Prop) :
    (Task.unwrap a : Prog (TaskSig π) α).Total env.Answers post ↔ ∃ x, a = some x ∧ post x := by
  cases a <;> simp [Task.unwrap, Surroundings.Answers]

/-! ## The lookup -/

/-- A lookup that missed the cache needs a port in the host, and gives what the resolution gives. -/
theorem resolveHost_total (host : Str) (currentTime : UInt64)
    (post : Result (List SocketAddr) → Prop) :
    (resolveHost host currentTime : Prog (TaskSig π) _).Total env.Answers post ↔
      (lookupPort host).isSome ∧ post env.resolved := by
  -- Splitting gives at least one piece, so the first `unwrap` does not fail.
  have hname := List.head?_eq_some_head (List.splitOn_ne_nil ':' host)
  unfold resolveHost
  rw [Text.split, hname]
  cases hport : lookupPort host with
  | none =>
    refine iff_of_false (fun h => ?_) fun h => nomatch h.1
    obtain ⟨⟨r, -⟩, -⟩ : (Task.unwrap none : Prog (TaskSig π) UInt16).Total env.Answers _ :=
      (total_bind _ _).mp h
    exact nomatch r
  | some port =>
    refine Iff.trans ?_ (and_iff_right rfl).symm
    simp only [Task.unwrap, bind_eq, ret_bind]
    refine (total_call_eq (v := env.resolved) fun _ => Iff.rfl).trans ?_
    cases hresolved : env.resolved with
    | error e => rfl
    | ok addrs => exact ⟨fun h => h.2 () trivial, fun h => ⟨⟨(), trivial⟩, fun _ _ => h⟩⟩

/-- What a lookup needs to come to its end: a clock after the epoch, a time stamp in the cache that
can be subtracted from it, and, if the cache does not help, a port in the host. -/
theorem dnsLookup_total (X : Externals) (host : Str) (post : Result (List SocketAddr) → Prop) :
    (dnsLookup X host : Prog (TaskSig π) _).Total env.Answers post ↔
      ∃ currentTime, SystemTime.unixSeconds env.now = some currentTime ∧
        (∀ entry ∈ env.cached, (X.subU64 currentTime entry.2).isSome) ∧
        (∀ entry ∈ env.cached, env.Hit X currentTime → post (.ok entry.1)) ∧
        (¬ env.Hit X currentTime → (lookupPort host).isSome ∧ post env.resolved) := by
  unfold dnsLookup
  refine (total_call_eq (v := env.now) fun _ => Iff.rfl).trans ?_
  refine (total_bind _ _).trans ((unwrap_total _ _).trans (exists_congr fun currentTime => ?_))
  refine and_congr_right fun _ => ?_
  refine (total_call_eq (v := env.cached) fun _ => Iff.rfl).trans ?_
  cases hcached : env.cached with
  | none =>
    have hmiss : ¬ env.Hit X currentTime := by simp [Surroundings.Hit, hcached]
    refine (resolveHost_total host currentTime post).trans ?_
    simp [hmiss]
  | some entry =>
    refine (total_bind _ _).trans ((unwrap_total _ _).trans ?_)
    cases hage : X.subU64 currentTime entry.2 with
    | none => simp [hage]
    | some age =>
      have hhit : env.Hit X currentTime ↔ age < cacheDuration := by
        simp [Surroundings.Hit, hcached, hage]
      -- An entry that is too old is looked up anew, as a missing one is.
      by_cases hyoung : age < cacheDuration
      · simp [hage, hhit, hyoung]
      · simp [hage, hhit, hyoung, resolveHost_total]

/-! ## The answer -/

/-- A plain request always comes to its end. -/
theorem httpRequest_total (hπ : Responsive π) (X : Externals) (pm : PluginManager π)
    (req : Request) : (httpRequest X pm req).Total env.Answers fun _ => True := by
  refine ⟨⟨(0 : UInt64), trivial⟩, fun requestId _ => ?_⟩
  simp only [ret_bind]
  cases X.parseUri (uriString req) with
  | error e => trivial
  | ok uri =>
    -- Whatever the plugins return, a branch of the `match` answers it.
    refine (total_bind _ _).mpr ((callback_total hπ _ _).mono ?_)
    rintro ⟨result, newReq⟩ -
    rcases result with e | ⟨_ | _, response⟩
    · trivial
    · cases response <;> trivial
    · refine ⟨⟨.ok (.build 200 [] .empty), trivial⟩, fun answer _ => ?_⟩
      cases answer <;> trivial

/-- A WebSocket request comes to its end if the target URI is one. -/
theorem handleWebsocket_total (X : Externals) (req : Request) :
    (Websocket.handleWebsocket X req : Prog (TaskSig π) _).Total env.Answers (fun _ => True) ↔
      ∃ uri, X.parseUri (Websocket.targetUri req) = .ok uri := by
  refine (total_bind _ _).trans ((unwrap_total _ _).trans ?_)
  unfold Websocket.targetRequest
  cases X.parseUri (Websocket.targetUri req) with
  | error e => simp
  | ok uri =>
    refine iff_of_true ⟨_, rfl, ⟨.ok (.build 101 [] .empty), trivial⟩, fun answer _ => ?_⟩
      ⟨uri, rfl⟩
    cases answer <;> trivial

/-- What `handle_http` needs to answer a request. -/
structure Answerable (X : Externals) (env : Surroundings) (req : Request)
    (currentTime : UInt64) : Prop where
  /-- The clock is past the epoch. -/
  clock : SystemTime.unixSeconds env.now = some currentTime
  /-- Where the build checks for overflow, the cache entry is not from the future. -/
  past : ∀ entry ∈ env.cached, (X.subU64 currentTime entry.2).isSome
  /-- Unless the cache answers, the host has a port that is one, or no port. -/
  port : ¬ env.Hit X currentTime → (lookupPort (getHost req)).isSome
  /-- The target URI of an upgrade request is one, once the name is resolved. -/
  target : env.Hit X currentTime ∨ (∃ addrs, env.resolved = .ok addrs) →
    Websocket.isWebsocketUpgrade req = true →
      ∃ uri, X.parseUri (Websocket.targetUri req) = .ok uri

/-- Once the lookup has come back, only an upgrade request whose name was resolved can fail. -/
theorem handleHttp_after_lookup (hπ : Responsive π) (X : Externals) (pm : PluginManager π)
    (req : Request) : ∃ post : Result (List SocketAddr) → Prop,
      ((handleHttp X pm req).Total env.Answers (fun _ => True) ↔
        (dnsLookup X (getHost req) : Prog (TaskSig π) _).Total env.Answers post) ∧
      (∀ e, post (.error e)) ∧
      ∀ addrs, post (.ok addrs) ↔ (Websocket.isWebsocketUpgrade req = true →
        ∃ uri, X.parseUri (Websocket.targetUri req) = .ok uri) := by
  refine ⟨_, total_bind _ _, fun e => trivial, fun addrs => ?_⟩
  show Prog.Total _ (if _ then _ else _) _ ↔ _
  by_cases hupgrade : Websocket.isWebsocketUpgrade req = true
  · rw [if_pos hupgrade, forall_prop_of_true hupgrade, ← handleWebsocket_total (π := π)]
    refine (total_bind _ _).trans ⟨fun h => h.mono fun _ _ => trivial, fun h => h.mono ?_⟩
    rintro (e | response) - <;> trivial
  · -- `http_request` always comes to its end, so nothing is asked of a plain request.
    rw [if_neg hupgrade]
    refine iff_of_true ((total_bind _ _).mpr ((httpRequest_total hπ X pm req).mono ?_))
      fun h => absurd h hupgrade
    rintro (e | response) - <;> trivial

/-- `handle_http` comes to its end exactly for the requests that are answerable, whatever the
plugins do. -/
theorem handleHttp_total (hπ : Responsive π) (X : Externals) (pm : PluginManager π)
    (req : Request) :
    (handleHttp X pm req).Total env.Answers (fun _ => True) ↔
      ∃ currentTime, Answerable X env req currentTime := by
  obtain ⟨post, hhandle, herror, hok⟩ := handleHttp_after_lookup hπ X pm req
  refine (hhandle.trans (dnsLookup_total X _ post)).trans (exists_congr fun currentTime => ?_)
  constructor
  · rintro ⟨hclock, hpast, hhit, hmiss⟩
    refine ⟨hclock, hpast, fun h => (hmiss h).1, fun hresolved => ?_⟩
    -- The name is resolved by a hit or by the resolver.
    by_cases h : env.Hit X currentTime
    · obtain ⟨entry, hentry, -⟩ := id h
      exact (hok _).mp (hhit entry hentry h)
    · obtain ⟨addrs, haddrs⟩ := hresolved.resolve_left h
      have hpost := (hmiss h).2
      rw [haddrs] at hpost
      exact (hok addrs).mp hpost
  · rintro ⟨hclock, hpast, hport, htarget⟩
    refine ⟨hclock, hpast, fun entry _ h => (hok _).mpr (htarget (.inl h)), fun h => ⟨hport h, ?_⟩⟩
    cases hresolved : env.resolved with
    | error e => exact herror e
    | ok addrs => exact (hok addrs).mpr (htarget (.inr ⟨addrs, hresolved⟩))

end Total

/-- For every request, every clock, every content of the DNS cache, every result of the name
resolution, every state of the store and every behaviour of the upstream server: `handle_http` with
the registered plugins comes to its end with a response exactly if the request is answerable. -/
theorem handleHttp_answers_iff (X : Externals) (env : Surroundings) (req : Request) :
    (∀ tr q, Steps (handleHttp X (registeredPlugins X) req) tr q →
        (∀ e ∈ tr, env.Answers e.op e.res) →
        (∃ response, q = .ret response) ∨ ∃ o k r, q = .act o k ∧ env.Answers o r) ↔
      ∃ currentTime, Answerable X env req currentTime := by
  rw [← handleHttp_total responsive_storeSig X (registeredPlugins X), total_iff_steps]
  simp only [and_true]

end HttpInterceptor

namespace Concrete

/-- `GET /` with a port in the `Host` header that is none. -/
def badPortRequest : Request :=
  { request with
    uri := originUri
    headers := [(.host, HeaderValue.ofStr "example.com:http")] }

end Concrete

/-- A `Host` header with a port that is not a number: `handle_http` does not return, although
everything it asks the environment succeeds. -/
theorem handleHttp_fails_on_port :
    (HttpInterceptor.handleHttp Concrete.externals (registeredPlugins Concrete.externals)
      Concrete.badPortRequest).eval (perform (Concrete.oracle .timeout)) Concrete.started = none :=
  Option.isNone_iff_eq_none.mp (by decide)

end Bifrost
