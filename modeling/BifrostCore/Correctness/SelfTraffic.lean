import BifrostCore.Correctness.Targets
import BifrostCore.Text.Decimal
import BifrostCore.Text.Search

/-!
# Requests to the proxy itself

Which requests the built-in server keeps. It searches the text of a request's target for its own
addresses, `127.0.0.1` and `localhost` with the port it is configured for, so it also finds them
where they are not the host and the port, and does not find them where the port is spelled
differently.

* `SelfAddressed` — the host and the port of a URI are those of the proxy.
* `Misread`, `Respelled` — the requests that are kept or passed on wrongly.
* `self_traffic_iff` — a request is treated as it should be exactly if it is of neither kind or of
  both.
-/

namespace Bifrost

open Concurrency Prog

/-! ## The decision -/

/-- The names of the proxy. -/
def ownNames : List Str := ["127.0.0.1".toList, "localhost".toList]

/-- The addresses of the proxy, as `is_bifrost_host` writes them. -/
def ownAddresses (port : UInt16) : List Str :=
  ownNames.map fun name => name ++ ':' :: Text.decimal port.toNat

/-- The host is one of the proxy, and the explicit port is the one it is configured for. -/
def SelfAddressed (port : UInt16) (u : Uri) : Prop :=
  (∃ name ∈ ownNames, u.host = some name) ∧ u.portU16 = some port

instance (port : UInt16) (u : Uri) : Decidable (SelfAddressed port u) := by
  unfold SelfAddressed
  infer_instance

/-- The answers of a store whose configured port is `port`. -/
def ConfiguredPort (port : UInt16) : (o : StoreOp) → o.Res → Prop
  | .getConfig, config => config.port = port
  | _, _ => True

section Decision

variable (X : Externals) (id : UInt64) (port : UInt16) (req : Request)

/-- The built-in server answers the request. -/
def Kept : Prop :=
  (BifrostServerPlugin.handleRequest X id req).Total (ConfiguredPort port)
    fun r => ∃ response, r = (.ok (false, some response), req)

/-- The request is passed on as it is. -/
def PassedOn : Prop :=
  (BifrostServerPlugin.handleRequest X id req).Total (ConfiguredPort port)
    fun r => r = (.ok (true, none), req)

theorem exists_configuredPort (o : StoreOp) : ∃ r, ConfiguredPort port o r := by
  cases o with
  | getConfig =>
    exact ⟨{ port, certPath := [], keyPath := [], enableHttps := false, enableH2 := false,
             maxNetworkRecords := 0 }, rfl⟩
  | getNetworkRecords => exact ⟨([] : List NetworkRecord), trivial⟩
  | updateNetworkRecordById _ _ => exact ⟨(.ok () : Result Unit), trivial⟩
  | addNetworkRecord _ => exact ⟨(), trivial⟩
  | store _ _ => exact ⟨(), trivial⟩
  | now => exact ⟨(0 : SystemTime), trivial⟩
  | _ => exact ⟨(0 : UInt64), trivial⟩

variable {port req}

theorem kept_of_own (h : BifrostServerPlugin.isBifrostHost (BifrostServerPlugin.getHost req) port) :
    Kept X id port req := by
  refine ⟨exists_configuredPort port .getConfig, fun config hport => ?_⟩
  obtain rfl : config.port = port := hport
  show Total _ (if _ then _ else _) _
  rw [if_pos h]
  refine (total_bind _ _).mpr (((Ledger.hostServer_readOnly X req).total
    fun o _ => exists_configuredPort _ o).mono ?_)
  rintro r ⟨response, rfl⟩
  exact ⟨response, rfl⟩

theorem passedOn_of_foreign
    (h : ¬ BifrostServerPlugin.isBifrostHost (BifrostServerPlugin.getHost req) port) :
    PassedOn X id port req := by
  refine ⟨exists_configuredPort port .getConfig, fun config hport => ?_⟩
  obtain rfl : config.port = port := hport
  show Total _ (if _ then _ else _) _
  rw [if_neg h]
  rfl

/-- A request is not both kept and passed on. -/
theorem not_passedOn_of_kept (h : Kept X id port req) : ¬ PassedOn X id port req := by
  intro h'
  obtain ⟨r, ⟨response, hr⟩, hr'⟩ := h.exists_both h'
  cases hr.symm.trans hr'

/-- What `is_bifrost_host` decides. -/
theorem isBifrostHost_iff {host : Str} :
    BifrostServerPlugin.isBifrostHost host port = true ↔
      ∃ addr ∈ ownAddresses port, addr <:+: host := by
  simp [BifrostServerPlugin.isBifrostHost, ownAddresses, ownNames, Text.contains_iff]

end Decision

/-! ## The parts of an authority -/

/-- The spellings of a port contain neither an `@` nor a colon. -/
theorem Text.Spells.not_mem {n : UInt16} {s : Str} (h : Text.Spells n s) {c : Char}
    (hc : c.isDigit = false) (hplus : c ≠ '+') : c ∉ s := by
  obtain ⟨sign, k, hsign, rfl⟩ := h
  intro hmem
  rcases List.mem_append.mp hmem with hmem | hmem
  · obtain rfl | rfl := hsign
    · cases hmem
    · exact hplus (List.mem_singleton.mp hmem)
  · have := List.all_eq_true.mp (Text.zeros_append_decimal_digits k n.toNat) c hmem
    rw [hc] at this
    cases this

namespace Uri

/-- The user information of an authority, empty where there is none. -/
def userInfo (u : Uri) : Str :=
  u.rawAuthority.take (u.rawAuthority.length - (u.hostPort.length + 1))

theorem hostPort_eq (u : Uri) : u.hostPort = Text.lastPiece '@' u.rawAuthority := rfl

/-- An authority is the host and the port, or they stand behind user information and an `@`. -/
theorem rawAuthority_cases (u : Uri) :
    u.userInfo = [] ∧ u.rawAuthority = u.hostPort ∨
      u.rawAuthority = u.userInfo ++ '@' :: u.hostPort := by
  by_cases h : '@' ∈ u.rawAuthority
  · obtain ⟨a, b, hab, hb⟩ := Text.exists_eq_append_cons h
    have hlast : u.hostPort = b := by rw [hostPort_eq, hab, Text.lastPiece_of_last hb]
    have htake : u.userInfo = a := by
      rw [userInfo, hlast, hab]
      exact List.take_left' (by simp)
    exact .inr (by rw [htake, hlast, hab])
  · have hlast : u.hostPort = u.rawAuthority := by rw [hostPort_eq, Text.lastPiece_of_not_mem h]
    exact .inl ⟨by rw [userInfo, hlast, Nat.sub_eq_zero_of_le (Nat.le_succ _), List.take_zero],
      hlast.symm⟩

/-- What is found in an authority is found on one side of the `@`. -/
theorem infix_rawAuthority_iff {u : Uri} {p : Str} (hp : '@' ∉ p) :
    p <:+: u.rawAuthority ↔ p <:+: u.userInfo ∨ p <:+: u.hostPort := by
  obtain ⟨hinfo, heq⟩ | heq := u.rawAuthority_cases
  · rw [heq, hinfo, List.infix_nil]
    refine (or_iff_right_of_imp ?_).symm
    rintro rfl
    exact List.nil_infix
  · rw [heq, Text.infix_append_cons_iff hp]

/-- The port is read behind the last colon. -/
theorem portU16_eq (u : Uri) : u.portU16 =
    if ':' ∈ u.rawAuthority then Text.parseUInt16 (Text.lastPiece ':' u.rawAuthority) else none :=
  Text.rfind_bind_drop Text.parseUInt16 u.rawAuthority

/-- A colon behind the host is the one the port is read behind. -/
theorem portU16_of_hostPort {u : Uri} {name rest : Str} (h : u.hostPort = name ++ ':' :: rest) :
    u.portU16 = Text.parseUInt16 (Text.lastPiece ':' rest) := by
  obtain ⟨front, hfront⟩ : ∃ front, u.rawAuthority = front ++ ':' :: rest := by
    obtain ⟨-, heq⟩ | heq := u.rawAuthority_cases
    · exact ⟨name, heq.trans h⟩
    · exact ⟨u.userInfo ++ '@' :: name, by rw [heq, h]; simp⟩
  rw [portU16_eq, hfront, if_pos (by simp), Text.lastPiece_append_cons]

/-- A colon in the user information is not followed by a port. -/
theorem portU16_of_no_colon {u : Uri} (h : ':' ∉ u.hostPort) : u.portU16 = none := by
  rw [portU16_eq]
  split
  · next hcolon =>
    obtain ⟨-, heq⟩ | heq := u.rawAuthority_cases
    · exact absurd (heq ▸ hcolon) h
    · have hinfo : ':' ∈ u.userInfo := by
        rw [heq] at hcolon
        simpa [h] using hcolon
      -- What stands behind that colon contains an `@`, and is no number.
      obtain ⟨a, b, hab, hb⟩ := Text.exists_eq_append_cons hinfo
      have hlast : Text.lastPiece ':' u.rawAuthority = b ++ '@' :: u.hostPort := by
        rw [heq, hab, List.append_assoc, List.cons_append, Text.lastPiece_of_last (by simp [h, hb])]
      rw [hlast, Option.eq_none_iff_forall_not_mem]
      intro port hport
      exact (Text.parseUInt16_eq_some_iff.mp hport).not_mem (c := '@') (by decide) (by decide)
        (by simp)
  · rfl

end Uri

theorem ownNames_chars : ∀ name ∈ ownNames,
    ':' ∉ name ∧ '@' ∉ name ∧ '/' ∉ name ∧ ']' ∉ name ∧ name ≠ [] ∧ name.head? ≠ some '[' := by
  decide

/-- Host and port of a self-addressed URI, as they are written. -/
theorem selfAddressed_iff {port : UInt16} {u : Uri} :
    SelfAddressed port u ↔ ∃ name ∈ ownNames, ∃ rest, u.hostPort = name ++ ':' :: rest ∧
      Text.Spells port (Text.lastPiece ':' rest) := by
  constructor
  · rintro ⟨⟨name, hname, hhost⟩, hport⟩
    obtain ⟨-, -, -, hbracket, -⟩ := ownNames_chars name hname
    unfold Uri.host at hhost
    split_ifs at hhost
    · -- A bracketed host is none of the names.
      refine absurd ?_ hbracket
      rw [← Option.some.inj hhost]
      exact List.mem_append_right _ (List.mem_singleton_self _)
    · obtain ⟨hcolon, heq | ⟨rest, heq⟩⟩ := Text.head_split_iff.mp hhost
      · rw [Uri.portU16_of_no_colon (heq ▸ hcolon)] at hport
        cases hport
      · rw [Uri.portU16_of_hostPort heq] at hport
        exact ⟨name, hname, rest, heq, Text.parseUInt16_eq_some_iff.mp hport⟩
  · rintro ⟨name, hname, rest, heq, hspells⟩
    obtain ⟨hcolon, -, -, -, hne, hhead⟩ := ownNames_chars name hname
    refine ⟨⟨name, hname, ?_⟩, ?_⟩
    · have hauth : u.rawAuthority ≠ [] := by
        intro hempty
        rw [Uri.hostPort_eq, hempty] at heq
        simp [Text.lastPiece, Text.split] at heq
      have hbracket : u.hostPort.head? ≠ some '[' := by
        rwa [heq, List.head?_append_of_ne_nil _ hne]
      rw [Uri.host, if_neg hauth, if_neg hbracket]
      exact Text.head_split_iff.mpr ⟨hcolon, .inr ⟨rest, heq⟩⟩
    · rw [Uri.portU16_of_hostPort heq]
      exact Text.parseUInt16_eq_some_iff.mpr hspells

/-! ## What is searched -/

theorem not_mem_of_own {port : UInt16} {addr : Str} (h : addr ∈ ownAddresses port) {c : Char}
    (hc : c.isDigit = false) (hcolon : c ≠ ':') (hnames : ∀ name ∈ ownNames, c ∉ name) :
    c ∉ addr := by
  obtain ⟨name, hname, rfl⟩ := List.mem_map.mp h
  intro hmem
  rcases List.mem_append.mp hmem with hmem | hmem
  · exact hnames name hname hmem
  · obtain rfl | hmem := List.mem_cons.mp hmem
    · exact hcolon rfl
    · have := List.all_eq_true.mp (Text.decimal_digits port.toNat) c hmem
      rw [hc] at this
      cases this

/-- An address is longer than a scheme, so it is not found before the authority. -/
theorem infix_absolute_iff {port : UInt16} {addr scheme s : Str} (h : addr ∈ ownAddresses port)
    (hscheme : scheme = "http".toList ∨ scheme = "https".toList) :
    addr <:+: scheme ++ "://".toList ++ s ↔ addr <:+: s := by
  have hslash : '/' ∉ addr := not_mem_of_own h (by decide) (by decide) (by decide)
  have hlen : 10 ≤ addr.length := by
    obtain ⟨name, hname, rfl⟩ := List.mem_map.mp h
    have : ∀ name ∈ ownNames, 9 ≤ name.length := by decide
    have := this name hname
    rw [List.length_append, List.length_cons]
    omega
  have hno : ∀ s : Str, s.length < 10 → ¬ addr <:+: s := fun s hs hpart =>
    absurd hpart.length_le (by omega)
  rw [show scheme ++ "://".toList ++ s = (scheme ++ [':']) ++ '/' :: ([] ++ '/' :: s) by simp,
    Text.infix_append_cons_iff hslash, Text.infix_append_cons_iff hslash,
    or_iff_right (hno _ (by obtain rfl | rfl := hscheme <;> decide)),
    or_iff_right (hno _ (by simp))]

/-- An address of the proxy stands in a part of the target that is searched. -/
def Found (addr : Str) (req : Request) : Prop :=
  addr <:+: req.uri.userInfo ∨ addr <:+: req.uri.hostPort ∨
    req.method = .connect ∧ addr <:+: req.uri.path ++ req.uri.querySuffix

theorem infix_getHost_iff {port : UInt16} {addr : Str} {req : Request}
    (h : addr ∈ ownAddresses port)
    (hscheme : req.uri.rawScheme = some "http".toList ∨ req.uri.rawScheme = some "https".toList) :
    addr <:+: BifrostServerPlugin.getHost req ↔ Found addr req := by
  have hslash : '/' ∉ addr := not_mem_of_own h (by decide) (by decide) (by decide)
  have hat : '@' ∉ addr := not_mem_of_own h (by decide) (by decide) (by decide)
  obtain ⟨scheme, hsome, hscheme⟩ : ∃ scheme, req.uri.rawScheme = some scheme ∧
      (scheme = "http".toList ∨ scheme = "https".toList) := by
    obtain hs | hs := hscheme
    · exact ⟨_, hs, .inl rfl⟩
    · exact ⟨_, hs, .inr rfl⟩
  -- A CONNECT request is searched as a whole, another one only up to its path.
  by_cases hmethod : req.method = .connect
  · obtain ⟨tail, htail, hstr⟩ := Uri.toStr_of_scheme hsome
    rw [Found, BifrostServerPlugin.getHost, if_pos hmethod, hstr, infix_absolute_iff h hscheme,
      Text.infix_append_cons_iff hslash, Uri.infix_rawAuthority_iff hat, htail,
      Text.infix_cons_iff_of_not_mem hslash, or_assoc, and_iff_right hmethod]
  · rw [Found, BifrostServerPlugin.getHost_of_scheme hmethod hsome, infix_absolute_iff h hscheme,
      Uri.infix_rawAuthority_iff hat]
    simp [hmethod]

/-! ## Where the decision is wrong -/

/-- An address of the proxy is found, but it is not the host and the port. -/
def Misread (port : UInt16) (req : Request) : Prop :=
  req.uri.hostPort ∉ ownAddresses port ∧ ∃ addr ∈ ownAddresses port, Found addr req

/-- The host and the port are those of the proxy, but the port is not written as it is searched for:
there is a plus sign or a zero in front of it. -/
def Respelled (port : UInt16) (u : Uri) : Prop :=
  ∃ name ∈ ownNames, ∃ rest, u.hostPort = name ++ ':' :: rest ∧
    rest ≠ Text.decimal port.toNat ∧ Text.Spells port (Text.lastPiece ':' rest)

section Wrong

variable {port : UInt16} {req : Request} {u : Uri}

/-- A port in decimal is the configured one. -/
theorem spells_decimal (port : UInt16) :
    Text.Spells port (Text.lastPiece ':' (Text.decimal port.toNat)) := by
  have hspells : Text.Spells port (Text.decimal port.toNat) := ⟨[], 0, .inl rfl, rfl⟩
  rwa [Text.lastPiece_of_not_mem (hspells.not_mem (by decide) (by decide))]

/-- A self-addressed URI has an address of the proxy, or a port in another spelling. -/
theorem selfAddressed_iff_respelled :
    SelfAddressed port u ↔ u.hostPort ∈ ownAddresses port ∨ Respelled port u := by
  rw [selfAddressed_iff]
  constructor
  · rintro ⟨name, hname, rest, heq, hspells⟩
    by_cases hrest : rest = Text.decimal port.toNat
    · exact .inl (List.mem_map.mpr ⟨name, hname, by rw [heq, hrest]⟩)
    · exact .inr ⟨name, hname, rest, heq, hrest, hspells⟩
  · rintro (hown | ⟨name, hname, rest, heq, -, hspells⟩)
    · obtain ⟨name, hname, heq⟩ := List.mem_map.mp hown
      exact ⟨name, hname, _, heq.symm, spells_decimal port⟩
    · exact ⟨name, hname, rest, heq, hspells⟩

/-- An address of the proxy is not in another spelling. -/
theorem not_respelled_of_own (h : u.hostPort ∈ ownAddresses port) : ¬ Respelled port u := by
  rintro ⟨name, hname, rest, heq, hrest, -⟩
  obtain ⟨name', hname', heq'⟩ := List.mem_map.mp h
  -- Neither name contains a colon, so both end at the first one.
  have hsame := heq'.trans heq
  have hfirst : ∀ name ∈ ownNames, ∀ rest,
      (Text.split ':' (name ++ ':' :: rest)).head? = some name := fun name hname rest =>
    Text.head_split_iff.mpr ⟨(ownNames_chars name hname).1, .inr ⟨rest, rfl⟩⟩
  have hnames := hfirst name' hname' (Text.decimal port.toNat)
  rw [hsame, hfirst name hname rest] at hnames
  obtain rfl : name = name' := Option.some.inj hnames
  exact hrest (List.cons.inj (List.append_cancel_left hsame)).2.symm

/-- The built-in server finds an address that is the host and the port, and those misread. -/
theorem isBifrostHost_iff_misread
    (hscheme : req.uri.rawScheme = some "http".toList ∨ req.uri.rawScheme = some "https".toList) :
    BifrostServerPlugin.isBifrostHost (BifrostServerPlugin.getHost req) port = true ↔
      req.uri.hostPort ∈ ownAddresses port ∨ Misread port req := by
  rw [isBifrostHost_iff]
  constructor
  · rintro ⟨addr, haddr, hpart⟩
    by_cases hown : req.uri.hostPort ∈ ownAddresses port
    · exact .inl hown
    · exact .inr ⟨hown, addr, haddr, (infix_getHost_iff haddr hscheme).mp hpart⟩
  · rintro (hown | ⟨-, addr, haddr, hfound⟩)
    · exact ⟨_, hown, (infix_getHost_iff hown hscheme).mpr (.inr (.inl List.infix_rfl))⟩
    · exact ⟨addr, haddr, (infix_getHost_iff haddr hscheme).mpr hfound⟩

end Wrong

/-- For every configured port and every request with an absolute `http` or `https` URI: that the
built-in server keeps the request if host and port of the URI are those of the proxy, and passes it
on otherwise, holds exactly if the request is not misread, or else is respelled as well. -/
theorem self_traffic_iff (X : Externals) (id : UInt64) (port : UInt16) (req : Request)
    (hscheme : req.uri.rawScheme = some "http".toList ∨ req.uri.rawScheme = some "https".toList) :
    ((SelfAddressed port req.uri → Kept X id port req) ∧
      (¬ SelfAddressed port req.uri → PassedOn X id port req)) ↔
      (Misread port req ↔ Respelled port req.uri) := by
  have hfound : BifrostServerPlugin.isBifrostHost (BifrostServerPlugin.getHost req) port = true ↔
      _ := isBifrostHost_iff_misread hscheme
  rw [selfAddressed_iff_respelled]
  by_cases hown : req.uri.hostPort ∈ ownAddresses port
  · have hkept := kept_of_own X id (hfound.mpr (.inl hown))
    exact iff_of_true ⟨fun _ => hkept, fun h => absurd (.inl hown) h⟩
      (iff_of_false (fun h => h.1 hown) (not_respelled_of_own hown))
  · rw [or_iff_right hown] at hfound ⊢
    by_cases hmisread : Misread port req
    -- It is kept, which is right if the port is spelled differently.
    · have hkept := kept_of_own X id (hfound.mpr hmisread)
      constructor
      · rintro ⟨-, hpassed⟩
        refine iff_of_true hmisread (by_contra fun h => ?_)
        exact not_passedOn_of_kept X id hkept (hpassed h)
      · intro h
        exact ⟨fun _ => hkept, fun hno => absurd (h.mp hmisread) hno⟩
    · have hpassed := passedOn_of_foreign X id (mt hfound.mp hmisread)
      constructor
      · rintro ⟨hkept, -⟩
        refine iff_of_false hmisread fun h => ?_
        exact not_passedOn_of_kept X id (hkept h) hpassed
      · intro h
        exact ⟨fun hyes => absurd (h.mpr hyes) hmisread, fun _ => hpassed⟩

namespace Concrete

/-- `GET http://127.0.0.1:8080/`. -/
def ownRequest : Request := { request with uri := httpUri "127.0.0.1:8080" (by decide) }

/-- `GET http://notlocalhost:8080/`. -/
def foreignRequest : Request := { request with uri := httpUri "notlocalhost:8080" (by decide) }

/-- The request `http_request` builds for it. -/
def foreignRebuilt : Request := HttpInterceptor.newRequest foreignRequest foreignRequest.uri

end Concrete

/-- A request to the configured port of `127.0.0.1` is kept. -/
theorem self_traffic_own : Kept Concrete.externals 0 8080 Concrete.ownRequest :=
  ((self_traffic_iff Concrete.externals 0 8080 Concrete.ownRequest (.inl (by decide))).mpr
    (iff_of_false (fun h => h.1 (by decide)) (not_respelled_of_own (by decide)))).1 (by decide)

/-- A request to a host whose name ends in `localhost` is kept, too. -/
theorem self_traffic_misread :
    Concrete.externals.parseUri (HttpInterceptor.uriString Concrete.foreignRequest) =
        .ok Concrete.foreignRebuilt.uri ∧
      Kept Concrete.externals 0 8080 Concrete.foreignRebuilt ∧
      ¬ ((SelfAddressed 8080 Concrete.foreignRebuilt.uri →
          Kept Concrete.externals 0 8080 Concrete.foreignRebuilt) ∧
        (¬ SelfAddressed 8080 Concrete.foreignRebuilt.uri →
          PassedOn Concrete.externals 0 8080 Concrete.foreignRebuilt)) := by
  have hkept : Kept Concrete.externals 0 8080 Concrete.foreignRebuilt :=
    kept_of_own _ _ (by decide)
  exact ⟨by rfl, hkept, fun h => not_passedOn_of_kept _ _ hkept (h.2 (by decide))⟩

end Bifrost
