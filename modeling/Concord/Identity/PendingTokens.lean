import Mathlib.Algebra.Order.Ring.Unbundled.Rat
import Concord.Identity.Sessions

/-!
# Pending second factors

`mint_mfa_pending` and `read_mfa_pending` of `src/ccf/api/login_service.py`. A pending token
is a time in plain text, a dot, and a session that is signed with a key of its own and
expires after an hour. The five minutes are measured from the time in plain text, which the
code does not cover.

What a client can produce without the key is any string whose signed part, if it has one, is
of a token that was minted (`Unforged`). `pending_expires_iff`: it is accepted only of users
with a recent token, exactly if it is no old session behind a new time.
-/

namespace Concord.Identity

open Concord.Python

/-- `_MFA_PENDING_LABEL`. -/
def mfaPendingLabel : Bytes := utf8 "ccf-mfa-pending-v1".toList

/-- `MFA_PENDING_TTL_SECONDS`. -/
def mfaPendingTtlSeconds : Rat := 300

/-- `_mfa_pending_secret`. -/
def mfaPendingSecret (baseSecret : Text) : Text :=
  hex (hmacSha256 (utf8 baseSecret) mfaPendingLabel)

/-- A call of `mint_mfa_pending` that returned: for whom, of which session version and when. -/
structure Pending where
  uid : Int
  sv : Int
  now : Rat
  printable : Printable uid ∧ Printable (truncate now + 3600) ∧ Printable sv

def Pending.exp (p : Pending) : Int := truncate p.now + 3600

def Pending.session (p : Pending) (baseSecret : Text) : Text :=
  signSession p.uid (mfaPendingSecret baseSecret) 1 p.sv p.now

/-- `mint_mfa_pending`. -/
def mintMfaPending (baseSecret : Text) (p : Pending) : Text :=
  (Number.ofInt (truncate p.now)).text ++ '.' :: p.session baseSecret

def floatLimit : Nat := 2 ^ 1024 - 2 ^ 970

/-- The stamp is of the last five minutes, or of the next second. -/
def inWindow (stamp : Int) (t : Rat) : Bool :=
  !(decide (mfaPendingTtlSeconds < t - stamp) || decide (t + 1 < stamp))

/-- `read_mfa_pending`, at the time `t`. -/
def JsonReader.readMfaPending (r : JsonReader) (baseSecret token : Text) (t : Rat) :
    Except Raised (Option (Int × Int)) :=
  match (splitDot token).bind fun p => (pyInt p.1).map fun stamp => (stamp, p.2) with
  | none => .ok none
  | some (stamp, inner) =>
    if floatLimit ≤ stamp.natAbs then .error .overflowError
    else if !inWindow stamp t then .ok none
    else r.readSession inner (mfaPendingSecret baseSecret) t

/-! ## What a client can produce -/

def StampedWith (token : Text) (stamp : Int) (inner : Text) : Prop :=
  ∃ raw, splitDot token = some (raw, inner) ∧ pyInt raw = some stamp

/-- The code in the string, if there is one, is over a payload that was signed. -/
def Unforged (baseSecret : Text) (minted : List Pending) (token : Text) : Prop :=
  ∀ raw payload, splitDot token =
      some (raw, payload ++ '.' :: sign (mfaPendingSecret baseSecret) payload) →
    ∃ p ∈ minted, payload = sessionPayload p.uid p.exp p.sv

/-- A token was minted for the user not longer ago than the lifetime. -/
def RecentlyMinted (minted : List Pending) (uid : Int) (t : Rat) : Prop :=
  ∃ p ∈ minted, p.uid = uid ∧ t - p.now ≤ mfaPendingTtlSeconds

/-- The token is accepted only of a user with a recent one. -/
def Expires (r : JsonReader) (baseSecret : Text) (minted : List Pending) (token : Text)
    (t : Rat) : Prop :=
  ∀ uid sv, r.readMfaPending baseSecret token t = .ok (some (uid, sv)) →
    RecentlyMinted minted uid t

/-- An old session behind a new time: of a user without a recent token, and signed less than
an hour ago. -/
structure Restamped (baseSecret : Text) (minted : List Pending) (token : Text) (t : Rat)
    (p : Pending) (stamp : Int) : Prop where
  mem : p ∈ minted
  old : ¬RecentlyMinted minted p.uid t
  alive : t ≤ p.exp
  stamped : StampedWith token stamp (p.session baseSecret)
  window : inWindow stamp t = true
  small : stamp.natAbs < floatLimit

section Reading

variable {r : JsonReader} {baseSecret : Text} {minted : List Pending} {token : Text} {t : Rat}

theorem session_eq (p : Pending) (baseSecret : Text) :
    p.session baseSecret = sessionPayload p.uid p.exp p.sv ++ '.' ::
      sign (mfaPendingSecret baseSecret) (sessionPayload p.uid p.exp p.sv) := by
  have hexp : truncate p.now + 1 * 3600 = p.exp := by rw [Int.one_mul]; rfl
  rw [Pending.session, signSession, hexp]

theorem unforged_of_session {p : Pending} (hp : p ∈ minted) {raw : Text}
    (h : splitDot token = some (raw, p.session baseSecret)) :
    Unforged baseSecret minted token := by
  intro raw' payload hsplit
  rw [h, session_eq] at hsplit
  have heq := (Prod.mk.inj (Option.some.inj hsplit)).2
  have hlen : ∀ payload, ('.' :: sign (mfaPendingSecret baseSecret) payload).length = 65 := by
    intro payload
    rw [List.length_cons, sign, hex_length, hmacSha256_length]
  exact ⟨p, hp, (List.append_inj_left' heq (by rw [hlen, hlen])).symm⟩

theorem readMfaPending_stamped {stamp : Int} {inner : Text} (h : StampedWith token stamp inner) :
    r.readMfaPending baseSecret token t =
      if floatLimit ≤ stamp.natAbs then .error .overflowError
      else if !inWindow stamp t then .ok none
      else r.readSession inner (mfaPendingSecret baseSecret) t := by
  obtain ⟨raw, hsplit, hint⟩ := h
  simp only [JsonReader.readMfaPending, hsplit, Option.bind_some, hint, Option.map_some]

theorem stamped_of_readMfaPending {x : Int × Int}
    (h : r.readMfaPending baseSecret token t = .ok (some x)) :
    ∃ stamp inner, StampedWith token stamp inner := by
  unfold JsonReader.readMfaPending at h
  split at h
  · cases h
  · rename_i stamp inner hparts
    obtain ⟨⟨raw, inner'⟩, hsplit, hmap⟩ := Option.bind_eq_some_iff.mp hparts
    obtain ⟨stamp', hint, heq⟩ := Option.map_eq_some_iff.mp hmap
    obtain ⟨rfl, rfl⟩ := Prod.mk.inj heq
    exact ⟨stamp', inner', raw, hsplit, hint⟩

theorem readSession_session (p : Pending) :
    r.readSession (p.session baseSecret) (mfaPendingSecret baseSecret) t =
      .ok (if (p.exp : Rat) < t then none else some (p.uid, p.sv)) := by
  rw [session_eq]
  exact readSession_signed r _ p.printable.1 p.printable.2.1 p.printable.2.2 t

/-- **What is accepted**: a new time, and behind it a session that has not expired. -/
theorem accepted_iff (hforge : Unforged baseSecret minted token) {uid sv : Int} :
    r.readMfaPending baseSecret token t = .ok (some (uid, sv)) ↔
      ∃ p ∈ minted, ∃ stamp, StampedWith token stamp (p.session baseSecret) ∧
        inWindow stamp t = true ∧ stamp.natAbs < floatLimit ∧ t ≤ p.exp ∧ p.uid = uid ∧
          p.sv = sv := by
  constructor
  · intro h
    obtain ⟨stamp, inner, hstamped⟩ := stamped_of_readMfaPending h
    rw [readMfaPending_stamped hstamped] at h
    split at h
    · cases h
    · rename_i hsmall
      split at h
      · cases h
      · rename_i hwindow
        obtain ⟨payload, rfl⟩ := signed_of_readSession h
        obtain ⟨raw, hsplit, hint⟩ := hstamped
        obtain ⟨p, hp, rfl⟩ := hforge raw payload hsplit
        rw [← session_eq] at h hsplit
        rw [readSession_session] at h
        split at h
        · cases h
        · rename_i halive
          obtain ⟨huid, hsv⟩ := Prod.mk.inj (Option.some.inj (Except.ok.inj h))
          exact ⟨p, hp, stamp, ⟨raw, hsplit, hint⟩, by simpa using hwindow, not_le.mp hsmall,
            not_lt.mp halive, huid, hsv⟩
  · rintro ⟨p, -, stamp, hstamped, hwindow, hsmall, halive, rfl, rfl⟩
    rw [readMfaPending_stamped hstamped, if_neg (not_le.mpr hsmall), hwindow, if_neg (by decide),
      readSession_session, if_neg (not_lt.mpr halive)]

/-- **When a pending token expires**: unless it is an old session behind a new time. -/
theorem pending_expires_iff (r : JsonReader) (baseSecret : Text) (minted : List Pending)
    (token : Text) (t : Rat) (hforge : Unforged baseSecret minted token) :
    Expires r baseSecret minted token t ↔
      ∀ p stamp, ¬Restamped baseSecret minted token t p stamp := by
  constructor
  · intro h p stamp hp
    refine hp.old (h p.uid p.sv ((accepted_iff hforge).mpr ?_))
    exact ⟨p, hp.mem, stamp, hp.stamped, hp.window, hp.small, hp.alive, rfl, rfl⟩
  · intro h uid sv hread
    obtain ⟨p, hp, stamp, hstamped, hwindow, hsmall, halive, rfl, -⟩ :=
      (accepted_iff hforge).mp hread
    by_contra hold
    exact h p stamp ⟨hp, hold, halive, hstamped, hwindow, hsmall⟩

end Reading

/-! ## A new time -/

/-- Python's `json`, as far as integers go. -/
def integersOnly : JsonReader := ⟨fun _ => .ofNat 0, fun _ => none, fun _ _ => none⟩

def login : Pending := ⟨7, 0, 1000, by decide +kernel⟩

def loginSecret : Text := "secret".toList

def restamped : Text := "2800".toList ++ '.' :: login.session loginSecret

theorem restamped_accepted :
    ¬∀ (r : JsonReader) (baseSecret : Text) (minted : List Pending) (token : Text) (t : Rat),
      Unforged baseSecret minted token → Expires r baseSecret minted token t := by
  intro h
  have hsplit : splitDot restamped = some ("2800".toList, login.session loginSecret) :=
    splitDot_append (by decide)
  have hforge : Unforged loginSecret [login] restamped :=
    unforged_of_session List.mem_cons_self hsplit
  have hread : integersOnly.readMfaPending loginSecret restamped 2800 = .ok (some (7, 0)) := by
    refine (accepted_iff hforge).mpr ⟨login, List.mem_cons_self, 2800, ⟨_, hsplit, ?_⟩, ?_, ?_,
      ?_, rfl, rfl⟩ <;> decide +kernel
  obtain ⟨p, hp, -, hrecent⟩ := h integersOnly loginSecret [login] restamped 2800 hforge 7 0 hread
  rw [List.mem_singleton.mp hp] at hrecent
  exact absurd hrecent (by decide +kernel)

/-- The token as it was minted, a minute later. -/
theorem pending_expires_minute :
    Expires integersOnly loginSecret [login] (mintMfaPending loginSecret login) 1060 := by
  have hsplit : splitDot (mintMfaPending loginSecret login) =
      some ((Number.ofInt (truncate login.now)).text, login.session loginSecret) :=
    splitDot_append (by decide +kernel)
  refine (pending_expires_iff _ _ _ _ _ (unforged_of_session List.mem_cons_self hsplit)).mpr ?_
  intro p stamp hp
  refine hp.old ⟨login, List.mem_cons_self, ?_, by decide +kernel⟩
  rw [List.mem_singleton.mp hp.mem]

end Concord.Identity
