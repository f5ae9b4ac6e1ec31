import Mathlib.Algebra.Group.Int.Defs
import Concord.Base.Run
import Concord.Python.Text
import Concord.Python.Hmac

/-!
# Time-based one-time codes

`src/ccf/mfa.py`: the algorithm, over an explicit time. `verify` tries the steps of the drift
window in order, from the first one that is not spent, and returns the one the code is for.
`accepted_of_verify` is all that the rest of the development needs to know about it.

A call may raise: the secret may be no base32, the counter may not fit eight bytes, and
`hmac.compare_digest` takes ASCII strings only.
-/

namespace Concord.Identity

open Concord.Base Concord.Python

/-- `DIGITS`. -/
def digits : Nat := 6

/-- `PERIOD_SECONDS`. -/
def periodSeconds : Int := 30

/-- `DRIFT_STEPS`. -/
def driftSteps : Nat := 1

/-- What is outside this repository: `str.upper`, and the decryption of a stored secret
(`none` where it raises). -/
structure Library where
  upper : Text → Text
  decrypt : Text → Option Text

inductive MfaError where
  /-- `ValueError` of `base64.b32decode`: not ASCII, or no base32. -/
  | secret
  /-- `struct.error`. -/
  | counter
  /-- `TypeError` of `hmac.compare_digest`. -/
  | notAscii
  deriving DecidableEq

/-- `s.strip().replace(" ", "")`. -/
def withoutBlanks (s : Text) : Text := (strip s).filter (· ≠ ' ')

/-- `_decode_secret`. -/
def Library.decodeSecret (lib : Library) (secret : Text) : Except MfaError Bytes :=
  let cleaned := lib.upper (withoutBlanks secret)
  let padded := cleaned ++ List.replicate ((8 - cleaned.length % 8) % 8) '='
  if isAscii padded then
    match b32decode padded with
    | some key => .ok key
    | none => .error .secret
  else .error .secret

/-- `timestep`. -/
def timestep (now : Rat) : Int := truncate now / periodSeconds

/-- `struct.pack(">Q", counter)`. -/
def packCounter (counter : Int) : Except MfaError Bytes :=
  if 0 ≤ counter ∧ counter < 2 ^ 64 then
    .ok (wordBytes (counter.toNat / 2 ^ 32) ++ wordBytes counter.toNat)
  else .error .counter

/-- Dynamic truncation: four bytes from where the last one says, without their sign. -/
def dynamicTruncation (mac : Bytes) : Nat :=
  let offset := (mac.getLastD 0).toNat % 16
  fromBigEndian ((mac.drop offset).take 4) % 2 ^ 31

/-- `str(n).zfill(digits)`. -/
def zfill (n : Nat) : Text := List.replicate (digits - (natText n).length) '0' ++ natText n

/-- `hotp`. -/
def Library.hotp (lib : Library) (secret : Text) (counter : Int) : Except MfaError Text := do
  let key ← lib.decodeSecret secret
  let message ← packCounter counter
  return zfill (dynamicTruncation (hmacSha1 key message) % 10 ^ digits)

/-- `hmac.compare_digest`. -/
def compareDigest (a b : Text) : Except MfaError Bool :=
  if isAscii a && isAscii b then .ok (a = b) else .error .notAscii

/-- `range(current - drift, current + drift + 1)`. -/
def window (current : Int) (drift : Nat) : List Int :=
  (List.range (2 * drift + 1)).map fun k : Nat => current - drift + k

/-- The loop of `verify`. -/
def Library.firstMatch (lib : Library) (secret cleaned : Text) (lastUsedStep : Option Int) :
    List Int → Except MfaError (Option Int)
  | [] => .ok none
  | step :: steps =>
    if lastUsedStep.any (step ≤ ·) then lib.firstMatch secret cleaned lastUsedStep steps
    else do
      let code ← lib.hotp secret step
      if ← compareDigest code cleaned then return some step
      lib.firstMatch secret cleaned lastUsedStep steps

/-- `verify`, at the default drift. -/
def Library.verify (lib : Library) (secret code : Text) (now : Rat)
    (lastUsedStep : Option Int) : Except MfaError (Option Int) :=
  let cleaned := withoutBlanks code
  if !(!cleaned.isEmpty && cleaned.all isDigit) || cleaned.length ≠ digits then .ok none
  else lib.firstMatch secret cleaned lastUsedStep (window (timestep now) driftSteps)

/-- What an accepted step is. -/
structure Accepted (lib : Library) (secret code : Text) (now : Rat)
    (lastUsedStep : Option Int) (step : Int) : Prop where
  near : step ∈ window (timestep now) driftSteps
  unspent : ∀ last, lastUsedStep = some last → last < step
  code : lib.hotp secret step = .ok (withoutBlanks code)

section Verify

variable {lib : Library} {secret cleaned code : Text} {now : Rat} {lastUsedStep : Option Int}
  {step : Int}

theorem eq_of_compareDigest {a b : Text} (h : compareDigest a b = .ok true) : a = b := by
  unfold compareDigest at h
  split at h
  · exact of_decide_eq_true (Except.ok.inj h)
  · cases h

theorem accepted_of_firstMatch {steps : List Int}
    (h : lib.firstMatch secret cleaned lastUsedStep steps = .ok (some step)) :
    step ∈ steps ∧ (∀ last, lastUsedStep = some last → last < step) ∧
      lib.hotp secret step = .ok cleaned := by
  induction steps with
  | nil => cases h
  | cons s steps ih =>
    unfold Library.firstMatch at h
    split at h
    · obtain ⟨hmem, hrest⟩ := ih h
      exact ⟨List.mem_cons_of_mem s hmem, hrest⟩
    · rename_i hspent
      obtain ⟨c, hcode, h⟩ := bind_eq_ok.mp h
      obtain ⟨same, hsame, h⟩ := bind_eq_ok.mp h
      cases same with
      | true =>
        obtain rfl : s = step := Option.some.inj (Except.ok.inj h)
        refine ⟨List.mem_cons_self, ?_, hcode.trans (congrArg _ (eq_of_compareDigest hsame))⟩
        rintro last rfl
        simpa using hspent
      | false =>
        obtain ⟨hmem, hrest⟩ := ih h
        exact ⟨List.mem_cons_of_mem s hmem, hrest⟩

/-- **`verify`.** A code is accepted for a step of the window above the last one spent. -/
theorem accepted_of_verify (h : lib.verify secret code now lastUsedStep = .ok (some step)) :
    Accepted lib secret code now lastUsedStep step := by
  unfold Library.verify at h
  dsimp only at h
  split at h
  · cases h
  · obtain ⟨hnear, hunspent, hcode⟩ := accepted_of_firstMatch h
    exact ⟨hnear, hunspent, hcode⟩

end Verify

/-! ## Recovery codes -/

/-- `normalize_recovery_code`. -/
def Library.normalizeRecoveryCode (lib : Library) (code : Text) : Text :=
  lib.upper ((withoutBlanks code).filter (· ≠ '-'))

/-- `hash_recovery_code`. -/
def Library.hashRecoveryCode (lib : Library) (code : Text) : Text :=
  Sha256.hexdigest (lib.normalizeRecoveryCode code)

end Concord.Identity
