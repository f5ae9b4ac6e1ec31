import Concord.Python.UrlSplit

/-!
# The URL of a pack source

`validate_pack_source_url` of `ccf/packs/sync.py`: what may be polled is an https URL whose host is
not this machine and not in a private network. The host is read by `ipaddress.ip_address`, and the
resolver that connects to it reads more: `accepted_public_iff` says which hosts come through.
-/

namespace Concord.Packs.SourceUrl

open Concord.Python

/-- `PackSourceRejectedError`, or the `ValueError` of `urlsplit`. -/
inductive Rejection
  | rejected (reason : Text)
  | valueError

variable (py : Unicode)

/-- `localhost`, or a name below it. -/
def isLocalName (host : Text) : Bool :=
  py.lower host = "localhost".toList ∨ ".localhost".toList <:+ py.lower host

def disallowed (ip : IpAddress) : Bool :=
  ip.isLoopback || ip.isLinkLocal || ip.isPrivate || ip.isReserved || ip.isMulticast ||
    ip.isUnspecified

def validateHost (host : Text) : Except Rejection Unit :=
  if isLocalName py host then
    .error (.rejected ("pack source url host is not allowed: ".toList ++ py.repr host))
  else
    match ipAddress host with
    | none => .ok ()
    | some ip =>
      if disallowed ip then
        .error (.rejected
          ("pack source url resolves to a disallowed address: ".toList ++ py.repr host))
      else .ok ()

/-- `validate_pack_source_url`. -/
def validatePackSourceUrl (url : Text) : Except Rejection Unit :=
  match urlsplit py url with
  | none => .error .valueError
  | some parsed =>
    if parsed.scheme ≠ "https".toList then
      .error (.rejected ("pack source url must use https; got ".toList ++
        py.repr (if parsed.scheme = [] then "(none)".toList else parsed.scheme)))
    else
      match parsed.hostname py with
      | none => .error (.rejected ("pack source url has no host: ".toList ++ py.repr url))
      | some host => validateHost py host

/-- The host of a URL that `urlsplit` takes for https. -/
def httpsHost (url : Text) : Option Text :=
  ((urlsplit py url).filter fun parsed => parsed.scheme = "https".toList).bind fun parsed =>
    parsed.hostname py

/-! ## What the resolver reads -/

/-- A name, or an IPv4 address, without the dot of the root. -/
def withoutDot (host : Text) : Text :=
  if ':' ∉ host ∧ host.getLast? = some '.' then host.dropLast else host

/-- The address that a resolver with `inet_aton` reads, before it asks for a name. -/
def resolve (host : Text) : Option IpAddress :=
  if ':' ∈ host then ((withoutScope host).bind ipv6Int).map .v6
  else (inetAton (withoutDot host)).map .v4

/-- The IPv4 addresses within an IPv6 address: mapped, compatible, behind NAT64, of 6to4 and of
Teredo. -/
def embedded (n : Nat) : List Nat :=
  if n / 2 ^ 32 = 0xffff ∨ n / 2 ^ 32 = 0 ∨ n / 2 ^ 32 = 0x64ff9b * 2 ^ 64 then [n % 2 ^ 32]
  else if n / 2 ^ 112 = 0x2002 then [n / 2 ^ 80 % 2 ^ 32]
  else if n / 2 ^ 96 = 0x20010000 then [n / 2 ^ 64 % 2 ^ 32, (2 ^ 32 - 1) - n % 2 ^ 32]
  else []

/-- A global address, and so is what is within it. -/
def IsPublic : IpAddress → Prop
  | .v4 n => V4.isGlobal n = true
  | .v6 n => (IpAddress.v6 n).isGlobal = true ∧ ∀ m ∈ embedded n, V4.isGlobal m = true

/-- The host is this machine, or an address that is not global. -/
inductive NamesPrivate (host : Text) : Prop
  | localName (h : isLocalName py (withoutDot host) = true)
  | address (ip : IpAddress) (h : resolve host = some ip) (hip : ¬ IsPublic ip)

/-- How a host may name what it should not: as a local name with a dot behind it, as an address that
`ip_address` does not read, or as one that is neither private nor global. -/
inductive SlipsThrough (host : Text) : Prop
  | dotted (hread : ipAddress host = none) (h : isLocalName py (withoutDot host) = true)
  | spelled (ip : IpAddress) (hread : ipAddress host = none) (h : resolve host = some ip)
      (hip : ¬ IsPublic ip)
  | shared (n : Nat) (hread : ipAddress host = some (.v4 n)) (h : V4.shared.contains n = true)

variable {py}

/-! ## Addresses -/

theorem disallowed_v4 {n : Nat} (h : disallowed (.v4 n) = false) :
    V4.isGlobal n = true ∨ V4.shared.contains n = true := by
  unfold disallowed at h
  simp only [Bool.or_eq_false_iff] at h
  have hprivate : V4.isPrivate n = false := h.1.1.1.2
  unfold V4.isGlobal
  rw [hprivate]
  cases V4.shared.contains n <;> simp

theorem disallowed_shared {n : Nat} (h : V4.shared.contains n = true) :
    disallowed (.v4 n) = false := by
  have hn : n / 2 ^ 22 = 401 := by simpa [V4.shared, v4Net] using of_decide_eq_true h
  simp only [disallowed, IpAddress.isLoopback, IpAddress.isLinkLocal, IpAddress.isPrivate,
    IpAddress.isReserved, IpAddress.isMulticast, IpAddress.isUnspecified, V4.loopback,
    V4.linkLocal, V4.reserved, V4.multicast, V4.isPrivate, V4.privateNets, V4.privateExceptions]
  simp [Network.contains, v4Net]
  omega

theorem not_isGlobal_shared {n : Nat} (h : V4.shared.contains n = true) :
    V4.isGlobal n = false := by
  unfold V4.isGlobal
  rw [h]
  rfl

theorem prefix_of_not_reserved {n : Nat} (h : V6.reservedNets.any (·.contains n) = false) :
    n / 2 ^ 120 ≠ 0 := by
  intro hzero
  have hreserved : V6.reservedNets.any (·.contains n) = true :=
    List.any_eq_true.mpr ⟨v6Net 0 0 0 0 0 8, List.mem_cons_self, decide_eq_true hzero⟩
  rw [h] at hreserved
  cases hreserved

theorem prefix_of_not_private {n : Nat} (h : V6.isPrivate n = false)
    (hmapped : V6.mapped n = none) : n / 2 ^ 112 ≠ 0x2002 ∧ n / 2 ^ 96 ≠ 0x20010000 := by
  unfold V6.isPrivate at h
  rw [hmapped] at h
  simp [V6.privateNets, V6.privateExceptions, Network.contains, v6Net] at h
  omega

theorem disallowed_v6 {n : Nat} (h : disallowed (.v6 n) = false) : IsPublic (.v6 n) := by
  unfold disallowed at h
  simp only [Bool.or_eq_false_iff] at h
  have hprivate : V6.isPrivate n = false := h.1.1.1.2
  have hprefix := prefix_of_not_reserved h.1.1.2
  have hmapped : V6.mapped n = none := by
    unfold V6.mapped
    rw [if_neg (by omega)]
  obtain ⟨h6to4, hteredo⟩ := prefix_of_not_private hprivate hmapped
  have hembedded : embedded n = [] := by
    unfold embedded
    rw [if_neg (by omega), if_neg h6to4, if_neg hteredo]
  refine ⟨?_, fun m hm => ?_⟩
  · show (!V6.isPrivate n) = true
    rw [hprivate]
    rfl
  · rw [hembedded] at hm
    cases hm

/-! ## Hosts -/

theorem colon_notMem_ipv4 {host : Text} {n : Nat} (h : ipv4Int host = some n) : ':' ∉ host := by
  intro hmem
  rcases mem_ipv4 h ':' hmem with h | h
  · exact absurd h (by decide)
  · exact absurd h (by decide)

theorem ipAddress_eq_v4 {host : Text} {n : Nat} (h : ipAddress host = some (.v4 n)) :
    ipv4Int host = some n := by
  unfold ipAddress at h
  split at h
  · cases h
  · cases hint : ipv4Int host with
    | some m =>
      rw [hint] at h
      cases h
      rfl
    | none =>
      rw [hint, Option.map_none, Option.none_or, Option.map_eq_some_iff] at h
      obtain ⟨m, -, hm⟩ := h
      cases hm

theorem ipAddress_eq_v6 {host : Text} {n : Nat} (h : ipAddress host = some (.v6 n)) :
    (withoutScope host).bind ipv6Int = some n := by
  unfold ipAddress at h
  split at h
  · cases h
  · cases hint : ipv4Int host with
    | some m =>
      rw [hint] at h
      cases h
    | none =>
      rw [hint, Option.map_none, Option.none_or, Option.map_eq_some_iff] at h
      obtain ⟨m, hm, heq⟩ := h
      cases heq
      exact hm

theorem withoutDot_address {host : Text} {ip : IpAddress} (h : ipAddress host = some ip) :
    withoutDot host = host := by
  refine if_neg ?_
  rintro ⟨hcolon, hlast⟩
  cases ip with
  | v4 n => exact getLast_ipv4 (ipAddress_eq_v4 h) hlast
  | v6 n => exact hcolon (colon_mem_ipv6 (ipAddress_eq_v6 h))

/-- **What `ip_address` reads, the resolver reads alike.** -/
theorem resolve_of_ipAddress {host : Text} {ip : IpAddress} (h : ipAddress host = some ip) :
    resolve host = some ip := by
  unfold resolve
  cases ip with
  | v4 n =>
    have hint := ipAddress_eq_v4 h
    rw [if_neg (colon_notMem_ipv4 hint), withoutDot_address h, inetAton_of_ipv4Int hint]
    rfl
  | v6 n =>
    have hint := ipAddress_eq_v6 h
    rw [if_pos (colon_mem_ipv6 hint), hint]
    rfl

theorem validateHost_ok {host : Text} :
    validateHost py host = .ok () ↔ isLocalName py host = false ∧
      ∀ ip, ipAddress host = some ip → disallowed ip = false := by
  unfold validateHost
  cases isLocalName py host with
  | true => simp
  | false =>
    cases ipAddress host with
    | none => simp
    | some ip => cases hip : disallowed ip <;> simp [hip]

theorem slips_of_accepted {host : Text} (h : validateHost py host = .ok ())
    (hprivate : NamesPrivate py host) : SlipsThrough py host := by
  obtain ⟨hnot, hallowed⟩ := validateHost_ok.mp h
  cases hread : ipAddress host with
  | none =>
    rcases hprivate with hlocal | ⟨ip, hresolve, hip⟩
    · exact .dotted hread hlocal
    · exact .spelled ip hread hresolve hip
  | some ip =>
    -- the resolver reads the address that was checked
    rcases hprivate with hlocal | ⟨ip', hresolve, hip⟩
    · rw [withoutDot_address hread, hnot] at hlocal
      cases hlocal
    · obtain rfl : ip = ip' := Option.some.inj ((resolve_of_ipAddress hread).symm.trans hresolve)
      cases ip with
      | v4 n => exact .shared n hread ((disallowed_v4 (hallowed _ hread)).resolve_left hip)
      | v6 n => exact absurd (disallowed_v6 (hallowed _ hread)) hip

theorem accepted_of_slips {host : Text} (hlocal : isLocalName py host = false)
    (h : SlipsThrough py host) : validateHost py host = .ok () ∧ NamesPrivate py host := by
  have hnone : ipAddress host = none → validateHost py host = .ok () := fun hread =>
    validateHost_ok.mpr ⟨hlocal, fun ip hip => by rw [hread] at hip; cases hip⟩
  rcases h with ⟨hread, hdotted⟩ | ⟨ip, hread, hresolve, hip⟩ | ⟨n, hread, hshared⟩
  · exact ⟨hnone hread, .localName hdotted⟩
  · exact ⟨hnone hread, .address ip hresolve hip⟩
  · refine ⟨validateHost_ok.mpr ⟨hlocal, fun ip hip => ?_⟩,
      .address (.v4 n) (resolve_of_ipAddress hread) ?_⟩
    · obtain rfl : IpAddress.v4 n = ip := Option.some.inj (hread.symm.trans hip)
      exact disallowed_shared hshared
    · show ¬ V4.isGlobal n = true
      rw [not_isGlobal_shared hshared]
      exact Bool.false_ne_true

/-! ## URLs -/

theorem httpsHost_eq_some {url host : Text} :
    httpsHost py url = some host ↔ ∃ parsed, urlsplit py url = some parsed ∧
      parsed.scheme = "https".toList ∧ parsed.hostname py = some host := by
  unfold httpsHost
  simp only [Option.bind_eq_some_iff, Option.filter_eq_some_iff, decide_eq_true_eq, and_assoc]

theorem validate_ok {url : Text} :
    validatePackSourceUrl py url = .ok () ↔
      ∃ host, httpsHost py url = some host ∧ validateHost py host = .ok () := by
  simp only [httpsHost_eq_some]
  unfold validatePackSourceUrl
  cases urlsplit py url with
  | none =>
    constructor
    · intro h
      cases h
    · rintro ⟨_, ⟨_, h, -⟩, -⟩
      cases h
  | some parsed =>
    dsimp only
    constructor
    · intro h
      split at h
      · cases h
      · rename_i hscheme
        split at h
        · cases h
        · rename_i host hhost
          exact ⟨host, ⟨parsed, rfl, not_not.mp hscheme, hhost⟩, h⟩
    · rintro ⟨host, ⟨parsed', hsplit, hscheme, hhost⟩, hok⟩
      cases hsplit
      rw [if_neg (not_not_intro hscheme), hhost]
      exact hok

/-- **When an accepted URL names no private host**: unless its host is a local name with a dot
behind it, an address that is not global in a spelling that `ip_address` does not read, or one of
the shared addresses. -/
theorem accepted_public_iff (py : Unicode) (url : Text) :
    (validatePackSourceUrl py url = .ok () →
        ∀ host, httpsHost py url = some host → ¬ NamesPrivate py host) ↔
      ∀ host, httpsHost py url = some host → isLocalName py host = true ∨
        ¬ SlipsThrough py host := by
  constructor
  · intro h host hhost
    by_contra hnot
    rw [not_or, not_not, Bool.not_eq_true] at hnot
    obtain ⟨haccepted, hprivate⟩ := accepted_of_slips hnot.1 hnot.2
    exact h (validate_ok.mpr ⟨host, hhost, haccepted⟩) host hhost hprivate
  · intro h haccepted host hhost hprivate
    obtain ⟨host', hhost', hok⟩ := validate_ok.mp haccepted
    obtain rfl : host = host' := Option.some.inj (hhost.symm.trans hhost')
    rcases h host hhost with hlocal | hnot
    · rw [(validateHost_ok.mp hok).1] at hlocal
      cases hlocal
    · exact hnot (slips_of_accepted hok hprivate)

/-- The loopback address as one number. -/
theorem decimal_host_accepted :
    ¬∀ py url, validatePackSourceUrl py url = .ok () →
      ∀ host, httpsHost py url = some host → ¬ NamesPrivate py host := by
  intro h
  have hhost : httpsHost asciiText "https://2130706433/pack.json".toList =
      some "2130706433".toList := by decide +kernel
  refine h asciiText "https://2130706433/pack.json".toList ?_ _ hhost ?_
  · refine validate_ok.mpr ⟨_, hhost, validateHost_ok.mpr ⟨by decide +kernel, fun ip hip => ?_⟩⟩
    rw [show ipAddress "2130706433".toList = none by decide +kernel] at hip
    cases hip
  · refine .address (.v4 2130706433) (by decide +kernel) ?_
    show ¬ V4.isGlobal 2130706433 = true
    decide +kernel

end Concord.Packs.SourceUrl
