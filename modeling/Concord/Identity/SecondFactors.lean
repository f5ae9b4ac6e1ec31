import Concord.Identity.Lockout
import Concord.Python.Ints

/-!
# Is every wrong second factor counted?

The route `mfa_verify` of `src/ccf/api/routes/auth.py` for a user with a pending login, nobody
else signing in: what it commits is a spent code, or a failure that is counted. Where a call
raises, nothing is committed.

`spends_or_counts_iff`: `str.isdigit` lets digits through that `hmac.compare_digest` does not
take. Whether a call raises otherwise is up to what is stored, and to the clock.
-/

namespace Concord.Identity

open Concord.Base Concord.Python

/-- An attempt on its own: one statement after the other, on the same rows. -/
def Server.finish (sv : Server) : Nat → LoginStage → Account → LoginStage
  | 0, t, _ => t
  | n + 1, t, a => (sv.statement t a).elim t fun t' => sv.finish n t' a

/-- What `mfa_verify` commits, once the pending login is read; nothing where it raises. -/
def Server.mfaVerify (sv : Server) (a : Account) (code : Text) (clock : Clock) :
    Option LoginCommit :=
  sv.effect (sv.finish 5 (.code a.user code clock) a)

def Spent (f : Factors) : Spend → Prop
  | .step n => f.lastUsedStep = some n
  | .recoveryCode id usedAt => ∃ r ∈ f.codes, r.id = id ∧ r.usedAt = some usedAt

/-- The code is accepted, and spent. -/
structure AcceptsAndSpends (a : Account) (w : LoginCommit) : Prop where
  outcome : w.outcome = .ok
  spent : ∃ s, w.spend = some s ∧ Spent (w.apply a).factors s

/-- The failure is counted, and at the threshold the account locked. -/
structure CountsFailure (sv : Server) (a : Account) (clock : Clock) (w : LoginCommit) : Prop where
  factors : (w.apply a).factors = a.factors
  counted : (a.user.failedLoginAttempts + 1 : Int) < sv.authLockoutThreshold →
    w.outcome = .invalid clock.checked ∧
      (w.apply a).user.failedLoginAttempts = a.user.failedLoginAttempts + 1
  locked : sv.authLockoutThreshold ≤ a.user.failedLoginAttempts + 1 →
    (w.apply a).user.lockedUntil =
        some (clock.failed + sv.authLockoutMinutes * 60000000) ∧
      (w.apply a).user.failedLoginAttempts = 0

def SpendsOrCounts (sv : Server) (a : Account) (code : Text) (clock : Clock) : Prop :=
  ∃ w, sv.mfaVerify a code clock = some w ∧
    (AcceptsAndSpends a w ∨ CountsFailure sv a clock w)

/-! ## What can raise -/

def Unspent (lastUsedStep : Option Int) (step : Int) : Prop :=
  ∀ last, lastUsedStep = some last → last < step

/-- What `verify` compares: six characters, all of them `str.isdigit`. -/
def SixDigits (cleaned : Text) : Prop :=
  cleaned.all isDigit = true ∧ cleaned.length = digits

/-- There is a code for the step, and ASCII to compare with it. -/
structure Comparable (lib : Library) (secret cleaned : Text) (step : Int) : Prop where
  ascii : isAscii cleaned = true
  secret : ∃ key, lib.decodeSecret secret = .ok key
  counter : 0 ≤ step ∧ step < 2 ^ 64

/-- So it is at every step that is tried: one that is not spent, with no match before it. -/
def Comparisons (lib : Library) (secret cleaned : Text) (lastUsedStep : Option Int)
    (steps : List Int) : Prop :=
  ∀ s ∈ steps, Unspent lastUsedStep s →
    (∀ s' ∈ steps, s' < s → Unspent lastUsedStep s' → lib.hotp secret s' ≠ .ok cleaned) →
    Comparable lib secret cleaned s

/-- The secret can be decrypted, and six digits be compared. -/
def CodeChecks (lib : Library) (f : Factors) (code : Text) (now : Rat) : Prop :=
  ∀ cred, f.credential = some cred → cred.activatedAt.isSome = true →
    ∃ secret, lib.decrypt cred.secretEncrypted = some secret ∧
      (SixDigits (withoutBlanks code) →
        Comparisons lib secret (withoutBlanks code) cred.lastUsedStep
          (window (timestep now) driftSteps))

def IsTotp (lib : Library) (f : Factors) (code : Text) (now : Rat) : Prop :=
  SixDigits (withoutBlanks code) ∧ ∃ cred secret step, f.credential = some cred ∧
    lib.decrypt cred.secretEncrypted = some secret ∧
    Accepted lib secret code now cred.lastUsedStep step

/-- At most one recovery code that can be spent has the hash. -/
def OneRecoveryCode (lib : Library) (f : Factors) (code : Text) : Prop :=
  (f.codes.filter fun r =>
    r.codeHash = lib.hashRecoveryCode code ∧ r.usedAt = none ∧ r.revokedAt = none).length ≤ 1

/-- Nothing raises. -/
structure Checks (lib : Library) (f : Factors) (code : Text) (now : Rat) : Prop where
  totp : CodeChecks lib f code now
  recovery : f.isChallenged = true → ¬IsTotp lib f code now → OneRecoveryCode lib f code

section Verify

variable {lib : Library} {secret cleaned code : Text} {now : Rat} {lastUsedStep : Option Int}

theorem isAscii_zfill (n : Nat) : isAscii (zfill n) = true := by
  unfold isAscii zfill
  rw [List.all_append, Bool.and_eq_true]
  constructor
  · refine List.all_eq_true.mpr fun c hc => ?_
    rw [List.eq_of_mem_replicate hc]
    rfl
  · refine List.all_eq_true.mpr fun c hc => ?_
    have hdigit := isDigit_of_mem_natText c hc
    have hrange : 48 ≤ c.toNat ∧ c.toNat ≤ 57 := by
      simpa [Char.isDigit, UInt32.le_iff_toNat_le] using hdigit
    exact decide_eq_true (by omega)

theorem hotp_ok_iff {step : Int} :
    (∃ c, lib.hotp secret step = .ok c) ↔
      (∃ key, lib.decodeSecret secret = .ok key) ∧ 0 ≤ step ∧ step < 2 ^ 64 := by
  constructor
  · rintro ⟨c, h⟩
    obtain ⟨key, hkey, h⟩ := bind_eq_ok.mp h
    obtain ⟨message, hmessage, h⟩ := bind_eq_ok.mp h
    unfold packCounter at hmessage
    split at hmessage
    · rename_i hrange
      exact ⟨⟨key, hkey⟩, hrange⟩
    · cases hmessage
  · rintro ⟨⟨key, hkey⟩, hrange⟩
    have hmessage : packCounter step = .ok _ := if_pos hrange
    exact ⟨_, bind_eq_ok.mpr ⟨key, hkey, bind_eq_ok.mpr ⟨_, hmessage, rfl⟩⟩⟩

theorem isAscii_of_hotp {step : Int} {c : Text} (h : lib.hotp secret step = .ok c) :
    isAscii c = true := by
  obtain ⟨key, -, h⟩ := bind_eq_ok.mp h
  obtain ⟨message, -, h⟩ := bind_eq_ok.mp h
  obtain rfl := Except.ok.inj h
  exact isAscii_zfill _

theorem unspent_iff {step : Int} :
    lastUsedStep.any (step ≤ ·) = false ↔ Unspent lastUsedStep step := by
  cases lastUsedStep with
  | none => simp [Unspent]
  | some last => simp [Unspent]

theorem compareDigest_of_isAscii {a b : Text} (ha : isAscii a = true) (hb : isAscii b = true) :
    compareDigest a b = .ok (decide (a = b)) := by
  unfold compareDigest
  rw [ha, hb]
  rfl

theorem isAscii_of_compareDigest {a b : Text} {r : Bool} (h : compareDigest a b = .ok r) :
    isAscii b = true := by
  unfold compareDigest at h
  split at h
  · rename_i hascii
    exact (Bool.and_eq_true_iff.mp hascii).2
  · cases h

theorem firstMatch_spent {s : Int} (steps : List Int) (h : ¬Unspent lastUsedStep s) :
    lib.firstMatch secret cleaned lastUsedStep (s :: steps) =
      lib.firstMatch secret cleaned lastUsedStep steps := by
  refine if_pos ?_
  rw [← unspent_iff, Bool.not_eq_false] at h
  exact h

theorem firstMatch_comparable {s : Int} (steps : List Int) (hun : Unspent lastUsedStep s)
    (hc : Comparable lib secret cleaned s) :
    lib.firstMatch secret cleaned lastUsedStep (s :: steps) =
      if lib.hotp secret s = .ok cleaned then .ok (some s)
      else lib.firstMatch secret cleaned lastUsedStep steps := by
  obtain ⟨c, hcode⟩ := hotp_ok_iff.mpr ⟨hc.secret, hc.counter⟩
  have hcompare := compareDigest_of_isAscii (isAscii_of_hotp hcode) hc.ascii
  have hnot : ¬lastUsedStep.any (s ≤ ·) = true := by
    rw [unspent_iff.mpr hun]
    exact Bool.false_ne_true
  rw [Library.firstMatch, if_neg hnot, hcode]
  show (do
    if ← compareDigest c cleaned then return some s
    lib.firstMatch secret cleaned lastUsedStep steps) = _
  rw [hcompare]
  by_cases hsame : c = cleaned
  · rw [if_pos (congrArg Except.ok hsame), decide_eq_true hsame]
    rfl
  · rw [if_neg fun h => hsame (Except.ok.inj h), decide_eq_false hsame]
    rfl

theorem comparable_of_firstMatch {s : Int} {steps : List Int} {r : Option Int}
    (hun : Unspent lastUsedStep s)
    (h : lib.firstMatch secret cleaned lastUsedStep (s :: steps) = .ok r) :
    Comparable lib secret cleaned s := by
  have hnot : ¬lastUsedStep.any (s ≤ ·) = true := by
    rw [unspent_iff.mpr hun]
    exact Bool.false_ne_true
  rw [Library.firstMatch, if_neg hnot] at h
  obtain ⟨c, hcode, h⟩ := bind_eq_ok.mp h
  obtain ⟨same, hsame, _⟩ := bind_eq_ok.mp h
  obtain ⟨hkey, hrange⟩ := hotp_ok_iff.mp ⟨c, hcode⟩
  exact ⟨isAscii_of_compareDigest hsame, hkey, hrange⟩

theorem comparisons_cons {s : Int} {steps : List Int}
    (hcomparable : Unspent lastUsedStep s → Comparable lib secret cleaned s)
    (hskip : Unspent lastUsedStep s → lib.hotp secret s ≠ .ok cleaned) :
    Comparisons lib secret cleaned lastUsedStep (s :: steps) ↔
      Comparisons lib secret cleaned lastUsedStep steps := by
  constructor
  · intro h x hx hunx hbefore
    refine h x (List.mem_cons_of_mem s hx) hunx fun y hy hyx huny => ?_
    obtain rfl | hy := List.mem_cons.mp hy
    · exact hskip huny
    · exact hbefore y hy hyx huny
  · intro h x hx hunx hbefore
    obtain rfl | hx := List.mem_cons.mp hx
    · exact hcomparable hunx
    · exact h x hx hunx fun y hy => hbefore y (List.mem_cons_of_mem s hy)

theorem firstMatch_returns_iff {steps : List Int} (hsorted : steps.Pairwise (· < ·)) :
    (∃ r, lib.firstMatch secret cleaned lastUsedStep steps = .ok r) ↔
      Comparisons lib secret cleaned lastUsedStep steps := by
  induction steps with
  | nil => exact iff_of_true ⟨none, rfl⟩ fun s hs => absurd hs List.not_mem_nil
  | cons s steps ih =>
    obtain ⟨hlt, hrest⟩ := List.pairwise_cons.mp hsorted
    by_cases hun : Unspent lastUsedStep s
    · -- the first step that is tried is compared, whatever comes after it
      have hfirst : Comparisons lib secret cleaned lastUsedStep (s :: steps) →
          Comparable lib secret cleaned s := by
        refine fun h => h s List.mem_cons_self hun fun y hy hys => ?_
        obtain rfl | hy := List.mem_cons.mp hy
        · exact absurd hys (lt_irrefl _)
        · exact absurd hys (not_lt_of_gt (hlt y hy))
      by_cases hc : Comparable lib secret cleaned s
      · rw [firstMatch_comparable steps hun hc]
        by_cases hsame : lib.hotp secret s = .ok cleaned
        · rw [if_pos hsame]
          refine iff_of_true ⟨some s, rfl⟩ fun x hx _ hbefore => ?_
          obtain rfl | hx := List.mem_cons.mp hx
          · exact hc
          · exact absurd hsame (hbefore s List.mem_cons_self (hlt x hx) hun)
        · rw [if_neg hsame, ih hrest, comparisons_cons (fun _ => hc) fun _ => hsame]
      · refine iff_of_false ?_ fun h => hc (hfirst h)
        rintro ⟨r, h⟩
        exact hc (comparable_of_firstMatch hun h)
    · rw [firstMatch_spent steps hun, ih hrest,
        comparisons_cons (fun h => absurd h hun) fun h => absurd h hun]

theorem ne_of_firstMatch {steps : List Int}
    (h : lib.firstMatch secret cleaned lastUsedStep steps = .ok none) :
    ∀ s ∈ steps, Unspent lastUsedStep s → lib.hotp secret s ≠ .ok cleaned := by
  induction steps with
  | nil => exact fun s hs => absurd hs List.not_mem_nil
  | cons s steps ih =>
    by_cases hun : Unspent lastUsedStep s
    · rw [firstMatch_comparable steps hun (comparable_of_firstMatch hun h)] at h
      split at h
      · cases h
      · rename_i hne
        intro x hx hunx
        obtain rfl | hx := List.mem_cons.mp hx
        · exact hne
        · exact ih h x hx hunx
    · rw [firstMatch_spent steps hun] at h
      intro x hx hunx
      obtain rfl | hx := List.mem_cons.mp hx
      · exact absurd hunx hun
      · exact ih h x hx hunx

theorem window_sorted (current : Int) (drift : Nat) :
    (window current drift).Pairwise (· < ·) := by
  unfold window
  rw [List.pairwise_map]
  refine (List.pairwise_lt_range (n := 2 * drift + 1)).imp fun {j k} hjk => ?_
  omega

theorem verify_of_sixDigits (h : SixDigits (withoutBlanks code)) :
    lib.verify secret code now lastUsedStep =
      lib.firstMatch secret (withoutBlanks code) lastUsedStep
        (window (timestep now) driftSteps) := by
  obtain ⟨hdigits, hlength⟩ := h
  have hne : (withoutBlanks code).isEmpty = false := by
    rw [List.isEmpty_eq_false_iff, ← List.length_pos_iff, hlength]
    exact Nat.succ_pos 5
  refine if_neg ?_
  rw [hne, hdigits, hlength]
  exact Bool.false_ne_true

theorem verify_of_not_sixDigits (h : ¬SixDigits (withoutBlanks code)) :
    lib.verify secret code now lastUsedStep = .ok none := by
  refine if_pos ?_
  by_cases hdigits : (withoutBlanks code).all isDigit = true
  · have hlength : (withoutBlanks code).length ≠ digits := fun hlength => h ⟨hdigits, hlength⟩
    rw [decide_eq_true hlength, Bool.or_true]
  · rw [Bool.not_eq_true] at hdigits
    rw [hdigits, Bool.and_false]
    rfl

theorem verify_returns_iff :
    (∃ r, lib.verify secret code now lastUsedStep = .ok r) ↔
      (SixDigits (withoutBlanks code) → Comparisons lib secret (withoutBlanks code) lastUsedStep
        (window (timestep now) driftSteps)) := by
  by_cases h : SixDigits (withoutBlanks code)
  · rw [verify_of_sixDigits h, firstMatch_returns_iff (window_sorted _ _)]
    exact (true_imp_iff.symm.trans (by rw [eq_true h]))
  · rw [verify_of_not_sixDigits h]
    exact iff_of_true ⟨none, rfl⟩ fun hsix => absurd hsix h

theorem not_accepted_of_verify (h : lib.verify secret code now lastUsedStep = .ok none)
    (hsix : SixDigits (withoutBlanks code)) (step : Int) :
    ¬Accepted lib secret code now lastUsedStep step := by
  rw [verify_of_sixDigits hsix] at h
  exact fun ha => ne_of_firstMatch h step ha.near ha.unspent ha.code

end Verify

section Factors

variable {lib : Library} {f : Factors} {code : Text} {now : Rat}

theorem checkCode_of_active {cred : Credential} (hcred : f.credential = some cred)
    (hactive : cred.activatedAt.isSome = true) :
    lib.checkCode f code now =
      match lib.decrypt cred.secretEncrypted with
      | none => .error ()
      | some secret => (lib.verify secret code now cred.lastUsedStep).mapError fun _ => () := by
  unfold Library.checkCode
  rw [hcred]
  refine if_neg ?_
  rw [Option.isNone_eq_false_iff.mpr hactive]
  exact Bool.false_ne_true

theorem checkCode_of_not_challenged (h : ¬f.isChallenged = true) :
    lib.checkCode f code now = .ok none := by
  unfold Library.checkCode
  cases hcred : f.credential with
  | none => rfl
  | some cred =>
    refine if_pos ?_
    rw [Factors.isChallenged, hcred] at h
    simpa using h

theorem isChallenged_iff :
    f.isChallenged = true ↔ ∃ cred, f.credential = some cred ∧ cred.activatedAt.isSome = true := by
  unfold Factors.isChallenged
  rw [Option.any_eq_true]

theorem checkCode_returns_iff :
    (∃ r, lib.checkCode f code now = .ok r) ↔ CodeChecks lib f code now := by
  by_cases hchallenged : f.isChallenged = true
  · obtain ⟨cred, hcred, hactive⟩ := isChallenged_iff.mp hchallenged
    rw [checkCode_of_active hcred hactive]
    have hone : CodeChecks lib f code now ↔
        ∃ secret, lib.decrypt cred.secretEncrypted = some secret ∧
          ∃ r, lib.verify secret code now cred.lastUsedStep = .ok r := by
      constructor
      · intro h
        obtain ⟨secret, hsecret, hchecks⟩ := h cred hcred hactive
        exact ⟨secret, hsecret, verify_returns_iff.mpr hchecks⟩
      · rintro ⟨secret, hsecret, hverify⟩ cred' hcred' -
        obtain rfl := Option.some.inj (hcred.symm.trans hcred')
        exact ⟨secret, hsecret, verify_returns_iff.mp hverify⟩
    rw [hone]
    cases hsecret : lib.decrypt cred.secretEncrypted with
    | none => simp
    | some secret =>
      cases hverify : lib.verify secret code now cred.lastUsedStep with
      | error e => simp [hverify, Except.mapError]
      | ok r => simp [hverify, Except.mapError]
  · rw [checkCode_of_not_challenged hchallenged]
    refine iff_of_true ⟨none, rfl⟩ fun cred hcred hactive => ?_
    exact absurd (isChallenged_iff.mpr ⟨cred, hcred, hactive⟩) hchallenged

theorem checkCode_none_iff {r : Option Int} (hchallenged : f.isChallenged = true)
    (h : lib.checkCode f code now = .ok r) : r = none ↔ ¬IsTotp lib f code now := by
  obtain ⟨cred, hcred, hactive⟩ := isChallenged_iff.mp hchallenged
  rw [checkCode_of_active hcred hactive] at h
  cases hsecret : lib.decrypt cred.secretEncrypted with
  | none =>
    rw [hsecret] at h
    cases h
  | some secret =>
    rw [hsecret] at h
    dsimp only at h
    cases hverify : lib.verify secret code now cred.lastUsedStep with
    | error e =>
      rw [hverify] at h
      cases h
    | ok step =>
      rw [hverify] at h
      obtain rfl : step = r := Except.ok.inj h
      constructor
      · rintro rfl ⟨hsix, cred', secret', step, hcred', hsecret', haccepted⟩
        obtain rfl := Option.some.inj (hcred.symm.trans hcred')
        obtain rfl := Option.some.inj (hsecret.symm.trans hsecret')
        exact not_accepted_of_verify hverify hsix step haccepted
      · intro hnot
        cases step with
        | none => rfl
        | some step =>
          by_cases hsix : SixDigits (withoutBlanks code)
          · exact absurd ⟨hsix, cred, secret, step, hcred, hsecret, accepted_of_verify hverify⟩ hnot
          · rw [verify_of_not_sixDigits hsix] at hverify
            cases hverify

theorem findCode_returns_iff :
    (∃ r, lib.findCode f code = .ok r) ↔ OneRecoveryCode lib f code := by
  unfold Library.findCode OneRecoveryCode
  dsimp only
  split
  · rename_i hnil
    rw [hnil]
    exact iff_of_true ⟨none, rfl⟩ (Nat.zero_le 1)
  · rename_i r hr
    rw [hr]
    exact iff_of_true ⟨some r.id, rfl⟩ le_rfl
  · rename_i hnil hone
    refine iff_of_false ?_ fun hle => ?_
    · rintro ⟨r, hr⟩
      cases hr
    · cases hcodes : f.codes.filter fun r => decide
          (r.codeHash = lib.hashRecoveryCode code ∧ r.usedAt = none ∧ r.revokedAt = none) with
      | nil => exact hnil hcodes
      | cons r rs =>
        rw [hcodes] at hle
        obtain rfl : rs = [] := List.length_eq_zero_iff.mp (by simpa using hle)
        exact hone r hcodes

end Factors

/-! ## The route -/

section Route

variable {sv : Server} {a : Account} {code : Text} {clock : Clock} {w : LoginCommit}

theorem mfaVerify_eq (sv : Server) (a : Account) (code : Text) (clock : Clock) :
    sv.mfaVerify a code clock =
      match sv.lib.checkCode a.factors code clock.time with
      | .ok (some step) => some (completeLogin a.user (some (.step step)))
      | .ok none =>
        if a.factors.isChallenged then
          match sv.lib.findCode a.factors code with
          | .ok (some id) => some (completeLogin a.user (some (.recoveryCode id clock.usedAt)))
          | .ok none => some (sv.failedAttempt a.user clock.checked clock.failed)
          | .error _ => none
        else some (sv.failedAttempt a.user clock.checked clock.failed)
      | .error _ => none := by
  unfold Server.mfaVerify
  rcases hcheck : sv.lib.checkCode a.factors code clock.time with _ | (_ | step)
  · simp [Server.finish, Server.statement, Server.effect, hcheck]
  · by_cases hchallenged : a.factors.isChallenged = true
    · rcases hfind : sv.lib.findCode a.factors code with _ | (_ | id)
      all_goals
        simp [Server.finish, Server.statement, Server.effect, hcheck, hchallenged, hfind]
    · simp [Server.finish, Server.statement, Server.effect, hcheck, hchallenged]
  · simp [Server.finish, Server.statement, Server.effect, hcheck]

theorem failedAttempt_countsFailure (sv : Server) (a : Account) (clock : Clock) :
    CountsFailure sv a clock (sv.failedAttempt a.user clock.checked clock.failed) := by
  by_cases hreached : sv.authLockoutThreshold ≤ ((a.user.failedLoginAttempts + 1 : ℕ) : Int)
  · have hlock : sv.failedAttempt a.user clock.checked clock.failed =
        ⟨.locked clock.checked (clock.failed + sv.authLockoutMinutes * 60000000),
          dirty a.user.failedLoginAttempts 0,
          dirty a.user.lockedUntil
            (some (clock.failed + sv.authLockoutMinutes * 60000000)), none⟩ :=
      if_pos hreached
    -- a column is written only where its value changes
    rw [hlock]
    refine ⟨rfl, fun hlow => absurd hlow ?_, fun _ => ⟨?_, ?_⟩⟩
    · omega
    · show (dirty a.user.lockedUntil _).getD a.user.lockedUntil = _
      rw [dirty_getD]
      split
      · rename_i hsame
        exact hsame.symm
      · rfl
    · show (dirty a.user.failedLoginAttempts 0).getD a.user.failedLoginAttempts = 0
      rw [dirty_getD]
      split
      · rename_i hsame
        exact hsame.symm
      · rfl
  · obtain ⟨until_, hlock⟩ | ⟨_, hcount⟩ :=
      failedAttempt_cases sv a.user clock.checked clock.failed
    · have hcount : sv.failedAttempt a.user clock.checked clock.failed =
          ⟨.invalid clock.checked, _, none, none⟩ := if_neg hreached
      rw [hcount] at hlock
      cases hlock
    · rw [hcount]
      refine ⟨rfl, fun _ => ⟨rfl, rfl⟩, fun hlow => absurd hlow ?_⟩
      omega

theorem completeLogin_accepts {s : Spend} (hs : Stands a.factors s)
    (hcred : s.row = .credential → a.factors.credential.isSome = true) :
    AcceptsAndSpends a (completeLogin a.user (some s)) := by
  have hlogin : (completeLogin a.user (some s)).outcome = .ok ∧
      (completeLogin a.user (some s)).spend = some s := by
    unfold completeLogin
    split <;> exact ⟨rfl, rfl⟩
  refine ⟨hlogin.1, s, hlogin.2, ?_⟩
  have hfactors : ((completeLogin a.user (some s)).apply a).factors = s.apply a.factors := by
    unfold LoginCommit.apply
    rw [hlogin.2]
    rfl
  rw [hfactors]
  cases s with
  | step n => exact lastUsedStep_step a.factors n (hcred rfl)
  | recoveryCode id usedAt =>
    obtain ⟨r, hr, rfl, _⟩ := hs
    exact ⟨{ r with usedAt := some usedAt }, List.mem_map.mpr ⟨r, hr, if_pos rfl⟩, rfl, rfl⟩

theorem spendsOrCounts_of_mfaVerify (h : sv.mfaVerify a code clock = some w) :
    AcceptsAndSpends a w ∨ CountsFailure sv a clock w := by
  rw [mfaVerify_eq] at h
  split at h
  · rename_i step hcheck
    obtain rfl := Option.some.inj h
    obtain ⟨hcred, hstands⟩ := stands_of_checkCode hcheck
    exact .inl (completeLogin_accepts hstands fun _ => hcred)
  · split at h
    · split at h
      · rename_i id hfind
        obtain rfl := Option.some.inj h
        exact .inl (completeLogin_accepts (stands_of_findCode hfind) nofun)
      · obtain rfl := Option.some.inj h
        exact .inr (failedAttempt_countsFailure sv a clock)
      · cases h
    · obtain rfl := Option.some.inj h
      exact .inr (failedAttempt_countsFailure sv a clock)
  · cases h

/-- **When a second factor is spent or counted**: where its digits can be compared, and what is
stored be read. -/
theorem spends_or_counts_iff (sv : Server) (a : Account) (code : Text) (clock : Clock) :
    SpendsOrCounts sv a code clock ↔ Checks sv.lib a.factors code clock.time := by
  constructor
  · rintro ⟨w, hw, -⟩
    rw [mfaVerify_eq] at hw
    cases hcheck : sv.lib.checkCode a.factors code clock.time with
    | error e =>
      rw [hcheck] at hw
      cases hw
    | ok r =>
      refine ⟨checkCode_returns_iff.mp ⟨r, hcheck⟩, fun hchallenged hnot => ?_⟩
      obtain rfl := (checkCode_none_iff hchallenged hcheck).mpr hnot
      rw [hcheck] at hw
      dsimp only at hw
      rw [if_pos hchallenged] at hw
      refine findCode_returns_iff.mp ?_
      cases hfind : sv.lib.findCode a.factors code with
      | error e =>
        rw [hfind] at hw
        cases hw
      | ok id => exact ⟨id, rfl⟩
  · rintro ⟨htotp, hrecovery⟩
    obtain ⟨r, hcheck⟩ := checkCode_returns_iff.mpr htotp
    -- what returns is committed, one way or the other
    have hsome : ∃ w, sv.mfaVerify a code clock = some w := by
      rw [mfaVerify_eq, hcheck]
      cases r with
      | some step => exact ⟨_, rfl⟩
      | none =>
        dsimp only
        split
        · rename_i hchallenged
          have hnot := (checkCode_none_iff hchallenged hcheck).mp rfl
          obtain ⟨id, hfind⟩ := findCode_returns_iff.mpr (hrecovery hchallenged hnot)
          rw [hfind]
          cases id <;> exact ⟨_, rfl⟩
        · exact ⟨_, rfl⟩
    obtain ⟨w, hw⟩ := hsome
    exact ⟨w, hw, spendsOrCounts_of_mfaVerify hw⟩

end Route

/-! ## Digits that are not ASCII -/

/-- Six fullwidth digits are `str.isdigit`, and `hmac.compare_digest` raises on them. -/
theorem fullwidth_digits_uncounted :
    ¬∀ (sv : Server) (a : Account) (code : Text) (clock : Clock),
      SpendsOrCounts sv a code clock := by
  intro h
  obtain ⟨w, hw, -⟩ := h defaults { account with factors := enrolled } "１２３４５６".toList
    ⟨59, 59000000, 59, 59000000, 59000000⟩
  have hraise : defaults.mfaVerify { account with factors := enrolled } "１２３４５６".toList
      ⟨59, 59000000, 59, 59000000, 59000000⟩ = none := by
    decide +kernel
  rw [hraise] at hw
  cases hw

end Concord.Identity
