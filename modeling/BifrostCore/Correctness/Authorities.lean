import BifrostCore.Proxy
import BifrostCore.Text.Decimal
import BifrostCore.Text.Search

/-!
# Splitting authorities

The authority of a request is cut into a host and a port in two places: `dns_lookup` cuts it at
every colon, `handle_connect` at the first one. Both are right as long as the host has no colon of
its own, which a bracketed IPv6 literal has.

* `HostPort` — the authorities of RFC 3986, without user information.
* `SplitRight` — both splitters find the host and the port.
* `splitRight_iff` — they do exactly if the host is no IPv6 literal.
-/

namespace Bifrost

open Concurrency Prog

/-! ## Authorities -/

/-- A character of a registered name (RFC 3986, section 3.2.2), `%` of an escape included. -/
def isRegNameChar (c : Char) : Bool :=
  c.isAlphanum || "-._~!$&()*+,;=%".toList.contains c || c.toNat = 39

/-- A character of an IPv6 address. -/
def isIpv6Char (c : Char) : Bool :=
  c.isDigit || ('a' ≤ c && c ≤ 'f') || ('A' ≤ c && c ≤ 'F') || c = ':' || c = '.'

/-- The host of an authority. -/
inductive Host where
  | regName (name : Str) (chars : name.all isRegNameChar)
  | ipv4 (a b c d : UInt8)
  /-- An IPv6 address, which has at least two colons. -/
  | ipv6 (address : Str) (chars : address.all isIpv6Char) (colons : 2 ≤ address.count ':')

namespace Host

/-- The host as it is written: an IPv6 address stands in brackets. -/
def text : Host → Str
  | .regName name _ => name
  | .ipv4 a b c d =>
    Text.join "." [Text.decimal a.toNat, Text.decimal b.toNat, Text.decimal c.toNat,
      Text.decimal d.toNat]
  | .ipv6 address _ _ => "[".toList ++ address ++ "]".toList

/-- The host is an IPv6 literal. -/
def isIpv6 : Host → Bool
  | .ipv6 _ _ _ => true
  | _ => false

/-- An IPv6 literal is the only host with a colon. -/
theorem colon_mem_text_iff (h : Host) : ':' ∈ h.text ↔ h.isIpv6 := by
  cases h with
  | regName name chars =>
    refine iff_of_false (fun hmem => ?_) Bool.false_ne_true
    have hcolon := List.all_eq_true.mp chars _ hmem
    exact absurd hcolon (by decide)
  | ipv4 a b c d =>
    refine iff_of_false (fun hmem => ?_) Bool.false_ne_true
    have hdigits : ∀ n : ℕ, ':' ∉ Text.decimal n := fun n hmem =>
      absurd (List.all_eq_true.mp (Text.decimal_digits n) _ hmem) (by decide)
    simp [text, Text.join, List.intercalate, hdigits] at hmem
  | ipv6 address chars colons =>
    have hmem : ':' ∈ address := List.count_pos_iff.mp (by omega)
    exact iff_of_true (by simp [text, hmem]) rfl

end Host

/-- A port: the decimal digits of a number up to 65535, leading zeros allowed. -/
structure Port where
  digits : Str
  /-- There are digits, and nothing else. -/
  decimal : digits ≠ [] ∧ digits.all Char.isDigit
  /-- The number is a port. -/
  small : Nat.ofDigitChars 10 digits 0 ≤ 65535

namespace Port

/-- The number of a port. -/
def value (p : Port) : UInt16 := UInt16.ofNat (Nat.ofDigitChars 10 p.digits 0)

theorem colon_notMem (p : Port) : ':' ∉ p.digits := fun hmem =>
  absurd (List.all_eq_true.mp p.decimal.2 _ hmem) (by decide)

theorem parseUInt16_digits (p : Port) : Text.parseUInt16 p.digits = some p.value := by
  rw [Text.parseUInt16_eq_some_iff]
  obtain ⟨k, hk⟩ := Text.exists_eq_zeros_append p.decimal.2 p.decimal.1
  have hsmall := p.small
  -- The digits are those of the number behind some zeros, and the number fits into 16 bits.
  refine ⟨[], k, .inl rfl, ?_⟩
  rw [value, UInt16.toNat_ofNat', Nat.mod_eq_of_lt (by omega)]
  exact hk

end Port

/-- An authority without user information: a host, and a port or none. -/
structure HostPort where
  host : Host
  port : Option Port

namespace HostPort

/-- The authority as it is written. -/
def text (a : HostPort) : Str := a.host.text ++ a.port.elim [] fun p => ':' :: p.digits

/-- The number of the port, 443 by default. -/
def portValue (a : HostPort) : UInt16 := a.port.elim 443 Port.value

/-- The host and the port, 443 by default. -/
def addr (a : HostPort) : Str := a.host.text ++ ':' :: a.port.elim "443".toList Port.digits

end HostPort

/-! ## The splitters -/

/-- Both splitters find the parts of an authority. -/
structure SplitRight (a : HostPort) : Prop where
  /-- After a cache miss, `dns_lookup` goes on to look up the host with the port. -/
  lookup : ∀ now, ∃ k, (HttpInterceptor.resolveHost a.text now :
    Prog (TaskSig StoreSig) (Result (List SocketAddr))) =
      .act (S := TaskSig StoreSig) (.lookupHost a.host.text a.portValue) k
  /-- `handle_connect` takes the host for the certificate. -/
  host : HttpsInterceptor.targetHost a.text = a.host.text
  /-- `handle_connect` takes the host and the port for the connection. -/
  addr : HttpsInterceptor.targetAddr a.text = a.addr

variable {a : HostPort}

/-- An authority without an IPv6 literal has no colon but the one before the port. -/
theorem split_text (h : a.host.isIpv6 = false) :
    Text.split ':' a.text = a.host.text :: a.port.elim [] fun p => [p.digits] := by
  have hcolon : ':' ∉ a.host.text := by
    rw [Host.colon_mem_text_iff, h]
    exact Bool.false_ne_true
  unfold HostPort.text Text.split
  cases a.port with
  | none =>
    rw [Option.elim_none, List.append_nil, List.splitOn_eq_singleton hcolon]
    rfl
  | some p =>
    rw [Option.elim_some, List.splitOn_append_cons_self_of_not_mem hcolon,
      List.splitOn_eq_singleton p.colon_notMem]
    rfl

theorem resolveHost_text (h : a.host.isIpv6 = false) (now : UInt64) :
    ∃ k, (HttpInterceptor.resolveHost a.text now :
      Prog (TaskSig StoreSig) (Result (List SocketAddr))) =
        .act (S := TaskSig StoreSig) (.lookupHost a.host.text a.portValue) k := by
  have hname : (Text.split ':' a.text).head? = some a.host.text := by rw [split_text h]; rfl
  have hport : HttpInterceptor.lookupPort a.text = some a.portValue := by
    rw [HttpInterceptor.lookupPort, split_text h, HostPort.portValue]
    cases a.port with
    | none => exact (by decide : Text.parseUInt16 "443" = some 443)
    | some p => exact p.parseUInt16_digits
  rw [HttpInterceptor.resolveHost, hname, hport]
  exact ⟨_, rfl⟩

theorem targetAddr_text (h : a.host.isIpv6 = false) :
    HttpsInterceptor.targetAddr a.text = a.addr := by
  have hcolon : ':' ∉ a.host.text := by
    rw [Host.colon_mem_text_iff, h]
    exact Bool.false_ne_true
  unfold HttpsInterceptor.targetAddr HostPort.addr HostPort.text
  cases a.port with
  | none =>
    rw [Option.elim_none, Option.elim_none, List.append_nil, if_neg (by simpa using hcolon)]
    rfl
  | some p =>
    rw [Option.elim_some, Option.elim_some, if_pos (by simp)]

/-- For every authority, `dns_lookup` looks up its host and its port, and `handle_connect` computes
them, exactly if the host is no IPv6 literal: the host they find never has a colon. -/
theorem splitRight_iff (a : HostPort) : SplitRight a ↔ a.host.isIpv6 = false := by
  constructor
  · intro h
    obtain ⟨piece, hpiece⟩ : ∃ piece, (Text.split ':' a.text).head? = some piece :=
      ⟨_, List.head?_eq_some_head (List.splitOn_ne_nil _ _)⟩
    have hhost : piece = a.host.text := by
      rw [← h.host, HttpsInterceptor.targetHost, hpiece, Option.getD_some]
    -- The first piece has no colon, so a host that has one is never found.
    have hcolon := (Text.head_split_iff.mp hpiece).1
    rw [hhost, Host.colon_mem_text_iff] at hcolon
    exact Bool.eq_false_iff.mpr hcolon
  · intro h
    refine ⟨resolveHost_text h, ?_, targetAddr_text h⟩
    rw [HttpsInterceptor.targetHost, split_text h]
    rfl

namespace Concrete

/-- `[::1]:443`. -/
def ipv6Authority : HostPort where
  host := .ipv6 "::1" (by decide) (by decide)
  port := some ⟨"443", by decide, by decide⟩

end Concrete

/-- The host of `[::1]:443` is cut at its first colon, and its port is not found. -/
theorem splitRight_fails_ipv6 :
    ¬ SplitRight Concrete.ipv6Authority ∧
      HttpsInterceptor.targetHost Concrete.ipv6Authority.text = "[".toList ∧
      HttpInterceptor.lookupPort Concrete.ipv6Authority.text = none := by
  refine ⟨fun h => ?_, by decide, by decide⟩
  exact absurd h.host (by decide)

end Bifrost
