import Mathlib.Algebra.Group.Nat.Defs
import Concord.Python.Bytes

/-!
# IP addresses

`ipaddress.ip_address` with the predicates of an address, as they are in Python 3.12, and the
reading of an IPv4 address by `inet_aton`, which takes up to four numbers, each of them decimal,
octal or hexadecimal. What `ip_address` reads as IPv4 is read alike by `inet_aton`
(`inetAton_of_ipv4Int`), and not conversely.
-/

namespace Concord.Python

def digitsIn (base : Nat) (s : Text) : Option Nat :=
  s.foldlM (fun n c => ((hexValue c).filter (· < base)).map (base * n + ·)) 0

/-! ## `inet_aton` -/

/-- A number as `strtoul` reads it in base 0. -/
def cNumber : Text → Option Nat
  | [] => none
  | '0' :: 'x' :: ds | '0' :: 'X' :: ds => if ds = [] then none else digitsIn 16 ds
  | '0' :: ds => digitsIn 8 ds
  | ds => digitsIn 10 ds

/-- `inet_aton`: the last number fills what is left of the 32 bits. -/
def inetAton (s : Text) : Option Nat :=
  match (s.splitOn '.').mapM cNumber with
  | some [a] => if a < 2 ^ 32 then some a else none
  | some [a, b] => if a < 256 ∧ b < 2 ^ 24 then some (a * 2 ^ 24 + b) else none
  | some [a, b, c] =>
    if a < 256 ∧ b < 256 ∧ c < 2 ^ 16 then some (a * 2 ^ 24 + b * 2 ^ 16 + c) else none
  | some [a, b, c, d] =>
    if a < 256 ∧ b < 256 ∧ c < 256 ∧ d < 256 then
      some (a * 2 ^ 24 + b * 2 ^ 16 + c * 2 ^ 8 + d)
    else none
  | _ => none

example : ["127.0.0.1", "127.1", "2130706433", "0x7f000001", "0177.0.0.01", "127.0.0.256",
      "a.b"].map (fun s => inetAton s.toList) =
    [some 2130706433, some 2130706433, some 2130706433, some 2130706433, some 2130706433, none,
      none] := by
  decide +kernel

/-! ## `ip_address` -/

/-- `_BaseV4._parse_octet`. -/
def parseOctet (s : Text) : Option Nat :=
  if s = [] ∨ s.any (fun c => !c.isDigit) ∨ 3 < s.length ∨ s ≠ ['0'] ∧ s.head? = some '0' then none
  else (digitsIn 10 s).filter (· ≤ 255)

/-- `_BaseV4._ip_int_from_string`. -/
def ipv4Int (s : Text) : Option Nat :=
  match s.splitOn '.' with
  | [a, b, c, d] => do
    let a ← parseOctet a
    let b ← parseOctet b
    let c ← parseOctet c
    let d ← parseOctet d
    some (a * 2 ^ 24 + b * 2 ^ 16 + c * 2 ^ 8 + d)
  | _ => none

/-- `_BaseV6._parse_hextet`. -/
def parseHextet (s : Text) : Option Nat :=
  if s = [] ∨ 4 < s.length then none else digitsIn 16 s

/-- The parts of an IPv6 address, with an IPv4 address at its end in two of them. -/
def ipv6Parts (s : Text) : Option (List Text) :=
  let parts := s.splitOn ':'
  if parts.length < 3 then none
  else
    match parts.getLast? with
    | some last =>
      if '.' ∈ last then
        (ipv4Int last).map fun n =>
          parts.dropLast ++ [Nat.toDigits 16 (n / 2 ^ 16), Nat.toDigits 16 (n % 2 ^ 16)]
      else some parts
    | none => some parts

/-- The places of the empty parts, but for the first part and the last. -/
def skips (parts : List Text) : List Nat :=
  (List.range (parts.length - 2)).filterMap fun i =>
    if parts[i + 1]? = some [] then some (i + 1) else none

def hextetsValue (ns : List Nat) : Nat := ns.foldl (fun n h => 2 ^ 16 * n + h) 0

/-- `_BaseV6._ip_int_from_string`. -/
def ipv6Int (s : Text) : Option Nat := do
  let parts ← ipv6Parts s
  if 9 < parts.length then none
  else
    match skips parts with
    | [] => if parts.length = 8 then (parts.mapM parseHextet).map hextetsValue else none
    | [k] =>
      let hi := parts.take k
      let lo := parts.drop (k + 1)
      -- an empty part at either end is one with the colons beside it
      let hi ← if hi.head? = some [] then (if hi.length = 1 then some [] else none) else some hi
      let lo ← if lo.getLast? = some [] then (if lo.length = 1 then some [] else none) else some lo
      if 7 < hi.length + lo.length then none
      else
        let high ← hi.mapM parseHextet
        let low ← lo.mapM parseHextet
        some (hextetsValue (high ++ List.replicate (8 - (hi.length + lo.length)) 0 ++ low))
    | _ => none

/-- `_split_scope_id`, without the scope. -/
def withoutScope (s : Text) : Option Text :=
  match s.dropWhile (· ≠ '%') with
  | [] => some s
  | _ :: scope => if scope = [] ∨ '%' ∈ scope then none else some (s.takeWhile (· ≠ '%'))

inductive IpAddress
  | v4 (n : Nat)
  | v6 (n : Nat)
  deriving DecidableEq

/-- `ip_address`; `none` is a `ValueError`. -/
def ipAddress (s : Text) : Option IpAddress :=
  if '/' ∈ s then none
  else ((ipv4Int s).map .v4).or (((withoutScope s).bind ipv6Int).map .v6)

example : ["127.0.0.1", "127.0.0.01", "127.1", "::1", "::ffff:10.0.0.1", "fe80::1%eth0", "1::2::3",
      "1:2:3:4:5:6:7", ":1:2:3:4:5:6:7:8"].map (fun s => ipAddress s.toList) =
    [some (.v4 2130706433), none, none, some (.v6 1), some (.v6 0xffff0a000001),
      some (.v6 (0xfe80 * 2 ^ 112 + 1)), none, none, none] := by
  decide +kernel

/-! ## Networks -/

/-- The addresses that begin as `base` does: all but the last `host` bits are the same. -/
structure Network where
  base : Nat
  host : Nat

def Network.contains (net : Network) (n : Nat) : Bool := n / 2 ^ net.host = net.base

def v4Net (a b c d length : Nat) : Network where
  base := (a * 2 ^ 24 + b * 2 ^ 16 + c * 2 ^ 8 + d) / 2 ^ (32 - length)
  host := 32 - length

/-- An IPv6 network, by its first four hextets and its last. -/
def v6Net (a b c d h length : Nat) : Network where
  base := (a * 2 ^ 112 + b * 2 ^ 96 + c * 2 ^ 80 + d * 2 ^ 64 + h) / 2 ^ (128 - length)
  host := 128 - length

namespace V4

def loopback : Network := v4Net 127 0 0 0 8

def linkLocal : Network := v4Net 169 254 0 0 16

def multicast : Network := v4Net 224 0 0 0 4

def reserved : Network := v4Net 240 0 0 0 4

/-- `_public_network`: the addresses that are neither private nor global. -/
def shared : Network := v4Net 100 64 0 0 10

def privateNets : List Network :=
  [v4Net 0 0 0 0 8, v4Net 10 0 0 0 8, v4Net 127 0 0 0 8, v4Net 169 254 0 0 16, v4Net 172 16 0 0 12,
    v4Net 192 0 0 0 24, v4Net 192 0 0 170 31, v4Net 192 0 2 0 24, v4Net 192 168 0 0 16,
    v4Net 198 18 0 0 15, v4Net 198 51 100 0 24, v4Net 203 0 113 0 24, v4Net 240 0 0 0 4,
    v4Net 255 255 255 255 32]

def privateExceptions : List Network := [v4Net 192 0 0 9 32, v4Net 192 0 0 10 32]

def isPrivate (n : Nat) : Bool :=
  privateNets.any (·.contains n) && privateExceptions.all fun net => !net.contains n

def isGlobal (n : Nat) : Bool := !shared.contains n && !isPrivate n

end V4

namespace V6

def linkLocal : Network := v6Net 0xfe80 0 0 0 0 10

def multicast : Network := v6Net 0xff00 0 0 0 0 8

def privateNets : List Network :=
  [v6Net 0 0 0 0 1 128, v6Net 0 0 0 0 0 128, ⟨0xffff, 32⟩, v6Net 0x64 0xff9b 1 0 0 48,
    v6Net 0x100 0 0 0 0 64, v6Net 0x2001 0 0 0 0 23, v6Net 0x2001 0xdb8 0 0 0 32,
    v6Net 0x2002 0 0 0 0 16, v6Net 0xfc00 0 0 0 0 7, v6Net 0xfe80 0 0 0 0 10]

def privateExceptions : List Network :=
  [v6Net 0x2001 1 0 0 1 128, v6Net 0x2001 1 0 0 2 128, v6Net 0x2001 3 0 0 0 32,
    v6Net 0x2001 4 0x112 0 0 48, v6Net 0x2001 0x20 0 0 0 28, v6Net 0x2001 0x30 0 0 0 28]

def reservedNets : List Network :=
  [v6Net 0 0 0 0 0 8, v6Net 0x100 0 0 0 0 8, v6Net 0x200 0 0 0 0 7, v6Net 0x400 0 0 0 0 6,
    v6Net 0x800 0 0 0 0 5, v6Net 0x1000 0 0 0 0 4, v6Net 0x4000 0 0 0 0 3, v6Net 0x6000 0 0 0 0 3,
    v6Net 0x8000 0 0 0 0 3, v6Net 0xa000 0 0 0 0 3, v6Net 0xc000 0 0 0 0 3, v6Net 0xe000 0 0 0 0 4,
    v6Net 0xf000 0 0 0 0 5, v6Net 0xf800 0 0 0 0 6, v6Net 0xfe00 0 0 0 0 9]

/-- `ipv4_mapped`. -/
def mapped (n : Nat) : Option Nat := if n / 2 ^ 32 = 0xffff then some (n % 2 ^ 32) else none

def isPrivate (n : Nat) : Bool :=
  match mapped n with
  | some m => V4.isPrivate m
  | none => privateNets.any (·.contains n) && privateExceptions.all fun net => !net.contains n

end V6

namespace IpAddress

def isLoopback : IpAddress → Bool
  | .v4 n => V4.loopback.contains n
  | .v6 n => n = 1

def isLinkLocal : IpAddress → Bool
  | .v4 n => V4.linkLocal.contains n
  | .v6 n => V6.linkLocal.contains n

def isPrivate : IpAddress → Bool
  | .v4 n => V4.isPrivate n
  | .v6 n => V6.isPrivate n

def isReserved : IpAddress → Bool
  | .v4 n => V4.reserved.contains n
  | .v6 n => V6.reservedNets.any (·.contains n)

def isMulticast : IpAddress → Bool
  | .v4 n => V4.multicast.contains n
  | .v6 n => V6.multicast.contains n

def isUnspecified : IpAddress → Bool
  | .v4 n | .v6 n => n = 0

/-- `is_global`. -/
def isGlobal : IpAddress → Bool
  | .v4 n => V4.isGlobal n
  | .v6 n => !V6.isPrivate n

end IpAddress

/-! ## The two readings -/

/-- An octet is a number for `inet_aton` too: it is decimal, and begins with no `0` but its own. -/
structure Octet (s : Text) (n : Nat) : Prop where
  number : cNumber s = some n
  lt : n < 256
  nonempty : s ≠ []
  digits : ∀ c ∈ s, c.isDigit = true

theorem octet_of_parse {s : Text} {n : Nat} (h : parseOctet s = some n) : Octet s n := by
  unfold parseOctet at h
  split at h
  · cases h
  · rename_i hnot
    simp only [not_or, not_and, not_lt] at hnot
    obtain ⟨hne, hdigits, -, hlead⟩ := hnot
    rw [Option.filter_eq_some_iff] at h
    obtain ⟨hvalue, hle⟩ := h
    refine ⟨?_, Nat.lt_succ_of_le (of_decide_eq_true hle), hne, by simpa using hdigits⟩
    cases s with
    | nil => exact absurd rfl hne
    | cons c ds =>
      by_cases hc : c = '0'
      · -- the octet is zero, which has no digits in octal
        subst hc
        have hzero : '0' :: ds = ['0'] := by
          by_contra hne
          exact hlead hne rfl
        rw [hzero] at hvalue ⊢
        rw [← hvalue]
        decide +kernel
      · rw [← hvalue]
        unfold cNumber
        split <;> simp_all

theorem ipv4Int_eq_some {s : Text} {n : Nat} (h : ipv4Int s = some n) :
    ∃ p q r t a b c d, s.splitOn '.' = [p, q, r, t] ∧ Octet p a ∧ Octet q b ∧ Octet r c ∧
      Octet t d ∧ n = a * 2 ^ 24 + b * 2 ^ 16 + c * 2 ^ 8 + d := by
  unfold ipv4Int at h
  split at h
  · rename_i p q r t hsplit
    simp only [Option.bind_eq_bind, Option.bind_eq_some_iff, Option.some.injEq] at h
    obtain ⟨a, ha, b, hb, c, hc, d, hd, rfl⟩ := h
    exact ⟨p, q, r, t, a, b, c, d, hsplit, octet_of_parse ha, octet_of_parse hb,
      octet_of_parse hc, octet_of_parse hd, rfl⟩
  · cases h

/-- **What is strictly an IPv4 address is the same one for `inet_aton`.** -/
theorem inetAton_of_ipv4Int {s : Text} {n : Nat} (h : ipv4Int s = some n) :
    inetAton s = some n := by
  obtain ⟨p, q, r, t, a, b, c, d, hsplit, ha, hb, hc, hd, rfl⟩ := ipv4Int_eq_some h
  have hnumbers : (s.splitOn '.').mapM cNumber = some [a, b, c, d] := by
    rw [hsplit]
    simp [ha.number, hb.number, hc.number, hd.number]
  unfold inetAton
  rw [hnumbers]
  exact if_pos ⟨ha.lt, hb.lt, hc.lt, hd.lt⟩

theorem mem_ipv4 {s : Text} {n : Nat} (h : ipv4Int s = some n) :
    ∀ c ∈ s, c = '.' ∨ c.isDigit = true := by
  obtain ⟨p, q, r, t, a, b, c, d, hsplit, ha, hb, hc, hd, rfl⟩ := ipv4Int_eq_some h
  intro x hx
  -- the address is its octets, joined by dots
  have hjoin : ['.'].intercalate (s.splitOn '.') = s := List.intercalate_splitOn '.'
  rw [← hjoin, hsplit] at hx
  simp only [List.intercalate_cons_cons, List.intercalate_singleton, List.mem_append,
    List.mem_singleton] at hx
  have hparts : x = '.' ∨ x ∈ p ∨ x ∈ q ∨ x ∈ r ∨ x ∈ t := by grind
  refine hparts.imp_right ?_
  rintro (hp | hq | hr | ht)
  · exact ha.digits x hp
  · exact hb.digits x hq
  · exact hc.digits x hr
  · exact hd.digits x ht

theorem getLast_ipv4 {s : Text} {n : Nat} (h : ipv4Int s = some n) : s.getLast? ≠ some '.' := by
  obtain ⟨p, q, r, t, a, b, c, d, hsplit, -, -, -, hd, -⟩ := ipv4Int_eq_some h
  intro hlast
  obtain ⟨s', rfl⟩ := List.getLast?_eq_some_iff.mp hlast
  rw [List.splitOn_append_cons_self, List.splitOn_nil] at hsplit
  have hlast' := congrArg List.getLast? hsplit
  rw [List.getLast?_append] at hlast'
  exact hd.nonempty (Option.some.inj hlast').symm

theorem colon_mem_ipv6 {s : Text} {n : Nat} (h : (withoutScope s).bind ipv6Int = some n) :
    ':' ∈ s := by
  obtain ⟨t, ht, hint⟩ := Option.bind_eq_some_iff.mp h
  have hsub : ∀ c ∈ t, c ∈ s := by
    unfold withoutScope at ht
    split at ht
    · rw [Option.some.inj ht]
      exact fun c hc => hc
    · split at ht
      · cases ht
      · rw [← Option.some.inj ht]
        exact fun c hc => (List.takeWhile_sublist _).subset hc
  -- without a colon there is one part, and an address has three at least
  refine hsub ':' ?_
  by_contra hnot
  unfold ipv6Int ipv6Parts at hint
  rw [List.splitOn_eq_singleton hnot] at hint
  cases hint

end Concord.Python
