import Mathlib.Data.Finset.Card
import Concord.Base.ReadCommitted
import Concord.Identity.OneTimeCodes
import Concord.Identity.PendingTokens
import Concord.Python.Columns

/-!
# Account lockout

`authenticate`, `record_failed_factor` and `complete_login` of `src/ccf/api/login_service.py`
and the route `mfa_verify` of `src/ccf/api/routes/auth.py`, as transactions of one account.
Each loads the user, looks at the lock, checks the credential, and sets the counter and the
lock from what it has loaded. The `SELECT` takes no lock and the `UPDATE` writes a value, so
of two attempts that have loaded the same count one is lost.

`lockout_holds`: no attempt goes uncounted, and no lock is set later than the threshold, in
the runs where a credential is found wrong only while nothing was counted since the user was
loaded and no other wrong credential is still to be counted.
-/

namespace Concord.Identity

open Concord.Base Concord.Python

/-! ## Passwords -/

/-- `verify_password` of `src/ccf/auth.py`, of a stored hash whose salt has no blanks; an error
is an exception. -/
def verifyPassword (password : Text) (stored : Option Text) : Except Unit Bool :=
  match (stored.getD []).splitOn '$' with
  | [_, rounds, salt, digest] =>
    match fromHex salt, pyInt rounds with
    | some salt, some rounds =>
      if rounds < 1 then .ok false
      -- `OverflowError` of `pbkdf2_hmac`
      else if 2 ^ 31 ≤ rounds then .error ()
      else
        let dk := pbkdf2 (hmacSha256 (utf8 password)) salt rounds.toNat
        (compareDigest (hex dk) digest).mapError fun _ => ()
    | _, _ => .ok false
  | _ => .ok false

/-! ## The attempts -/

/-- `User`, as far as a login reads it. Times are in microseconds. -/
structure User where
  id : Int
  email : Text
  active : Bool
  passwordHash : Option Text
  failedLoginAttempts : Nat
  lockedUntil : Option Int
  sessionVersion : Int

def User.locked (u : User) (now : Int) : Bool := u.lockedUntil.any (now < ·)

/-- The rows of one account. -/
structure Account where
  user : User
  factors : Factors

/-- What the two surfaces run on. -/
structure Server where
  lib : Library
  reader : JsonReader
  authSessionSecret : Text
  authLockoutThreshold : Int
  authLockoutMinutes : Int

/-- The clock, at each place where `mfa_verify` reads it. -/
structure Clock where
  received : Rat
  checked : Int
  time : Rat
  usedAt : Int
  failed : Int

inductive LoginCall where
  | authenticate (email password : Text) (now : Int)
  | mfaVerify (mfaToken code : Text) (clock : Clock)

/-- How far an attempt is, with the user as it has loaded it. -/
inductive LoginStage where
  | authenticate (email password : Text) (now : Int)
  /-- `verify_password` is next. -/
  | password (user : User) (password : Text) (now : Int)
  /-- The password is right, and `is_challenged` is next. -/
  | correct (user : User)
  | mfaRequired
  | mfaVerify (mfaToken code : Text) (clock : Clock)
  /-- `verify_code` is next. -/
  | code (user : User) (code : Text) (clock : Clock)
  /-- `consume_recovery_code` is next. -/
  | recovery (user : User) (code : Text) (clock : Clock)
  | challenged (user : User) (code : Text) (clock : Clock)
  /-- The code is right, and its column is set. -/
  | spend (user : User) (s : Spend)
  /-- `complete_login` is next. -/
  | complete (user : User) (spend : Option Spend)
  | completed (user : User) (spend : Option Spend)
  /-- The credential is wrong: the lock was looked at, and the clock read to set one. -/
  | wrong (user : User) (checked now : Int)
  | counted (user : User) (checked now : Int)
  /-- Locked, not let in, or an exception. -/
  | refused

inductive LoginRow where
  | user
  | factor (row : Row)
  deriving DecidableEq

inductive LoginOutcome where
  /-- Counted, by an attempt that looked at the lock then. -/
  | invalid (checked : Int)
  /-- Counted, and the threshold is reached. -/
  | locked (checked lockedUntil : Int)
  | mfaRequired
  | ok
  deriving DecidableEq

/-- What an attempt commits: the columns that differ from the loaded ones. -/
structure LoginCommit where
  outcome : LoginOutcome
  failedLoginAttempts : Option Nat
  lockedUntil : Option (Option Int)
  spend : Option Spend
  deriving DecidableEq

def LoginCommit.apply (w : LoginCommit) (a : Account) : Account where
  user := { a.user with
    failedLoginAttempts := w.failedLoginAttempts.getD a.user.failedLoginAttempts
    lockedUntil := w.lockedUntil.getD a.user.lockedUntil }
  factors := w.spend.elim a.factors fun s => s.apply a.factors

def LoginCommit.rows (w : LoginCommit) : List LoginRow :=
  (if w.failedLoginAttempts.isSome || w.lockedUntil.isSome then [.user] else []) ++
    (w.spend.map fun s => .factor s.row).toList

/-- `complete_login`. -/
def completeLogin (user : User) (spend : Option Spend) : LoginCommit :=
  if user.failedLoginAttempts ≠ 0 || user.lockedUntil.isSome then
    { outcome := .ok
      failedLoginAttempts := dirty user.failedLoginAttempts 0
      lockedUntil := dirty user.lockedUntil none
      spend := spend }
  else ⟨.ok, none, none, spend⟩

namespace Server

variable (sv : Server)

/-- The wrong credential of `authenticate` or `record_failed_factor`. -/
def failedAttempt (user : User) (checked now : Int) : LoginCommit :=
  let failed := user.failedLoginAttempts + 1
  if sv.authLockoutThreshold ≤ failed then
    let until_ := now + sv.authLockoutMinutes * 60000000
    { outcome := .locked checked until_
      failedLoginAttempts := dirty user.failedLoginAttempts 0
      lockedUntil := dirty user.lockedUntil (some until_)
      spend := none }
  else
    { outcome := .invalid checked
      failedLoginAttempts := dirty user.failedLoginAttempts failed
      lockedUntil := none
      spend := none }

def statement : LoginStage → Account → Option LoginStage
  | .authenticate email password now, a =>
    some (if a.user.email = email && a.user.active && !a.user.locked now then
      .password a.user password now
    else .refused)
  | .password user password now, _ =>
    some (match verifyPassword password user.passwordHash with
      | .ok true => .correct user
      | .ok false => .wrong user now now
      | .error _ => .refused)
  | .correct user, a =>
    some (if a.factors.isChallenged then .mfaRequired else .complete user none)
  | .mfaVerify mfaToken code clock, a =>
    some (match sv.reader.readMfaPending sv.authSessionSecret mfaToken clock.received with
      | .ok (some (userId, sessionVersion)) =>
        if a.user.id = userId && a.user.active && a.user.sessionVersion = sessionVersion &&
            !a.user.locked clock.checked then
          .code a.user code clock
        else .refused
      | _ => .refused)
  | .code user code clock, a =>
    some (match sv.lib.checkCode a.factors code clock.time with
      | .ok (some step) => .spend user (.step step)
      | .ok none => .recovery user code clock
      | .error _ => .refused)
  | .recovery user code clock, a =>
    some (if a.factors.isChallenged then .challenged user code clock
    else .wrong user clock.checked clock.failed)
  | .challenged user code clock, a =>
    some (match sv.lib.findCode a.factors code with
      | .ok (some id) => .spend user (.recoveryCode id clock.usedAt)
      | .ok none => .wrong user clock.checked clock.failed
      | .error _ => .refused)
  -- what follows is what a flush writes
  | .spend user s, _ => some (.complete user (some s))
  | .complete user spend, _ => some (.completed user spend)
  | .wrong user checked now, _ => some (.counted user checked now)
  | .mfaRequired, _ | .completed _ _, _ | .counted _ _ _, _ | .refused, _ => none

/-- What is committed, once everything is flushed. -/
def effect : LoginStage → Option LoginCommit
  | .mfaRequired => some ⟨.mfaRequired, none, none, none⟩
  | .completed user spend => some (completeLogin user spend)
  | .counted user checked now => some (sv.failedAttempt user checked now)
  | _ => none

def logins : Program LoginCall Account LoginStage LoginRow LoginCommit where
  enter := fun _ => fun
    | .authenticate email password now => .authenticate email password now
    | .mfaVerify mfaToken code clock => .mfaVerify mfaToken code clock
  statement := sv.statement
  locks := fun
    | .complete _ (some s) => [.factor s.row]
    | t => (sv.effect t).elim [] LoginCommit.rows
  effect := sv.effect
  apply := LoginCommit.apply

end Server

/-! ## What the lockout is for -/

/-- The credential is wrong, and still to be counted. -/
def LoginStage.isWrong : LoginStage → Bool
  | .wrong .. | .counted .. => true
  | _ => false

/-- The wrong credentials that were counted since the last login, or the last lock. -/
def guesses (log : List LoginCommit) : Nat :=
  log.foldl (fun n w =>
    match w.outcome with
    | .invalid _ => n + 1
    | .mfaRequired => n
    | .locked _ _ | .ok => 0) 0

/-- A commit counts the attempt that it ends, on the rows as it finds them. No credential is
looked at while the lock is active, and a password alone changes nothing. -/
def LoginCommit.Counts (a : Account) (w : LoginCommit) : Prop :=
  match w.outcome with
  | .invalid checked => a.user.locked checked = false ∧
      a.user.failedLoginAttempts < (w.apply a).user.failedLoginAttempts
  | .locked checked lockedUntil => a.user.locked checked = false ∧
      (w.apply a).user.lockedUntil = some lockedUntil
  | .mfaRequired => (w.apply a).user = a.user
  | .ok => True

/-- The rows after commits that each count. -/
inductive Ledger (a₀ : Account) : Account → List LoginCommit → Prop
  | nil : Ledger a₀ a₀ []
  | snoc {a : Account} {log : List LoginCommit} {w : LoginCommit} (h : Ledger a₀ a log)
      (hw : w.Counts a) : Ledger a₀ (w.apply a) (log ++ [w])

abbrev Logins := Machine Account LoginStage LoginRow LoginCommit

/-- The attempts with a wrong credential that is still to be counted. -/
def wrongs (m : Logins) : Set ℕ := {i | ∃ t, m.txns i = some t ∧ t.isWrong = true}

/-- The lockout holds: no attempt is lost, and with those that are still to be counted there
are at most as many wrong credentials as the threshold since the last login or lock. -/
structure Lockout (threshold : Int) (a₀ : Account) (m : Logins) : Prop where
  ledger : Ledger a₀ m.store m.log
  counted : guesses m.log ≤ m.store.user.failedLoginAttempts
  bounded : ∀ attempts : Finset ℕ, (∀ i ∈ attempts, i ∈ wrongs m) →
    (guesses m.log + attempts.card : ℕ) ≤ threshold

/-- Nothing was counted and no lock set, that the attempt should have seen. -/
def LoginStage.Fresh (a : Account) : LoginStage → Prop
  | .wrong user checked _ | .counted user checked _ =>
    a.user.failedLoginAttempts ≤ user.failedLoginAttempts ∧ a.user.locked checked = false
  | _ => True

/-- The lock that is set is the one that was loaded only if that is still there. -/
def Server.Sets (sv : Server) (a : Account) : LoginStage → Prop
  | .counted user checked now =>
    match (sv.failedAttempt user checked now).outcome with
    | .locked _ lockedUntil => user.lockedUntil = some lockedUntil →
        a.user.lockedUntil = user.lockedUntil
    | _ => True
  | _ => True

/-- The attempts do not get in each other's way: one whose credential is found wrong finds
the rows as fresh as that takes, and no other such attempt under way. -/
def Server.Undisturbed (sv : Server) (m : Logins) : TxnAction LoginCall → Prop
  | .statement i => ∀ t t', m.txns i = some t → sv.statement t m.store = some t' →
      t.isWrong = false → t'.isWrong = true →
        t'.Fresh m.store ∧ ∀ j u, m.txns j = some u → u.isWrong = false
  | .commit i => ∀ t, m.txns i = some t → sv.Sets m.store t
  | _ => True

/-! ## One step -/

section Step

variable {sv : Server} {a₀ a : Account} {m m' : Logins} {t t' : LoginStage} {w : LoginCommit}

theorem guesses_concat (log : List LoginCommit) (w : LoginCommit) :
    guesses (log ++ [w]) =
      match w.outcome with
      | .invalid _ => guesses log + 1
      | .mfaRequired => guesses log
      | .locked _ _ | .ok => 0 := by
  rw [guesses, List.foldl_append]
  rfl

/-- A commit that frees the account, as far as it changes it. -/
structure LoginCommit.Eases (a : Account) (w : LoginCommit) : Prop where
  failedLoginAttempts : (w.apply a).user.failedLoginAttempts ≤ a.user.failedLoginAttempts
  locked : ∀ now, a.user.locked now = false → (w.apply a).user.locked now = false

theorem LoginCommit.Eases.fresh (h : w.Eases a) (ht : t.Fresh a) : t.Fresh (w.apply a) := by
  cases t with
  | wrong user checked now | counted user checked now =>
    exact ⟨h.failedLoginAttempts.trans ht.1, h.locked checked ht.2⟩
  | _ => trivial

theorem completeLogin_eases (user : User) (spend : Option Spend) (a : Account) :
    (completeLogin user spend).Eases a := by
  unfold completeLogin
  split
  · constructor
    · show (dirty user.failedLoginAttempts 0).getD a.user.failedLoginAttempts ≤ _
      rw [dirty_getD]
      split
      · exact le_rfl
      · exact Nat.zero_le _
    · intro now hnow
      show ((dirty user.lockedUntil none).getD a.user.lockedUntil).any _ = false
      rw [dirty_getD]
      split
      · exact hnow
      · rfl
  · exact ⟨le_rfl, fun now hnow => hnow⟩

theorem effect_eases (ht : t.isWrong = false) (hw : sv.effect t = some w) (a : Account) :
    w.Eases a ∧ w.Counts a ∧ ∀ log, guesses (log ++ [w]) = guesses log ∧
      (w.apply a).user.failedLoginAttempts = a.user.failedLoginAttempts ∨
        guesses (log ++ [w]) = 0 := by
  cases t with
  | mfaRequired =>
    obtain rfl := Option.some.inj hw
    exact ⟨⟨le_rfl, fun now hnow => hnow⟩, rfl, fun log => .inl ⟨guesses_concat log _, rfl⟩⟩
  | completed user spend =>
    obtain rfl := Option.some.inj hw
    have hok : (completeLogin user spend).outcome = .ok := by
      unfold completeLogin
      split <;> rfl
    refine ⟨completeLogin_eases user spend a, ?_, fun log => .inr ?_⟩
    · rw [LoginCommit.Counts, hok]
      trivial
    · rw [guesses_concat, hok]
  | counted user checked now => cases ht
  | _ => cases hw

theorem failedAttempt_cases (sv : Server) (user : User) (checked now : Int) :
    (∃ until_, sv.failedAttempt user checked now =
        ⟨.locked checked until_, dirty user.failedLoginAttempts 0,
          dirty user.lockedUntil (some until_), none⟩) ∨
      (user.failedLoginAttempts + 1 : ℕ) < sv.authLockoutThreshold ∧
        sv.failedAttempt user checked now =
          ⟨.invalid checked, some (user.failedLoginAttempts + 1), none, none⟩ := by
  unfold Server.failedAttempt
  dsimp only
  split
  · exact .inl ⟨_, rfl⟩
  · rename_i hlow
    have hdirty : dirty user.failedLoginAttempts (user.failedLoginAttempts + 1) =
        some (user.failedLoginAttempts + 1) :=
      if_neg (Nat.succ_ne_self _)
    refine .inr ⟨?_, by rw [hdirty]⟩
    push_cast
    omega

theorem failedAttempt_counts {user : User} {checked now : Int} {log : List LoginCommit}
    (hthreshold : 1 ≤ sv.authLockoutThreshold) (hw : w = sv.failedAttempt user checked now)
    (hfresh : (LoginStage.counted user checked now).Fresh a)
    (hsets : sv.Sets a (.counted user checked now))
    (hcounted : guesses log ≤ a.user.failedLoginAttempts) :
    w.Counts a ∧ guesses (log ++ [w]) ≤ (w.apply a).user.failedLoginAttempts ∧
      (guesses (log ++ [w]) : Int) < sv.authLockoutThreshold := by
  obtain ⟨hfailed, hlocked⟩ := hfresh
  rw [guesses_concat]
  simp only [Server.Sets, ← hw] at hsets
  obtain ⟨until_, hlock⟩ | ⟨hlow, hcount⟩ := failedAttempt_cases sv user checked now
  · -- the lock is written, or it is the one that is there
    obtain rfl := hw.trans hlock
    have huntil : (dirty user.lockedUntil (some until_)).getD a.user.lockedUntil =
        some until_ := by
      rw [dirty_getD]
      split
      · rename_i hsame
        rw [hsets hsame.symm, ← hsame]
      · rfl
    exact ⟨⟨hlocked, huntil⟩, Nat.zero_le _, by show (0 : Int) < _; omega⟩
  · obtain rfl := hw.trans hcount
    have hmore : guesses log + 1 ≤ user.failedLoginAttempts + 1 :=
      Nat.succ_le_succ (hcounted.trans hfailed)
    refine ⟨⟨hlocked, Nat.lt_succ_of_le hfailed⟩, hmore, ?_⟩
    show ((guesses log + 1 : ℕ) : Int) < _
    omega

theorem statement_of_wrong (ht : t.isWrong = true) (h : sv.statement t a = some t') :
    ∃ user checked now, t = .wrong user checked now ∧ t' = .counted user checked now := by
  cases t with
  | wrong user checked now => exact ⟨user, checked, now, rfl, (Option.some.inj h).symm⟩
  | counted user checked now => cases h
  | _ => cases ht

theorem effect_of_wrong (ht : t.isWrong = true) (hw : sv.effect t = some w) :
    ∃ user checked now, t = .counted user checked now ∧ w = sv.failedAttempt user checked now := by
  cases t with
  | wrong user checked now => cases hw
  | counted user checked now => exact ⟨user, checked, now, rfl, (Option.some.inj hw).symm⟩
  | _ => cases ht

theorem wrongs_update {i : ℕ} {x : Option LoginStage}
    (h : m'.txns = Function.update m.txns i x)
    (hx : ∀ t, x = some t → t.isWrong = true → i ∈ wrongs m) : wrongs m' ⊆ wrongs m := by
  rintro j ⟨t, ht, hwrong⟩
  rw [h] at ht
  by_cases hji : j = i
  · subst hji
    rw [Function.update_self] at ht
    exact hx t ht hwrong
  · rw [Function.update_of_ne hji] at ht
    exact ⟨t, ht, hwrong⟩

/-! ## Every run -/

/-- What the attempts keep while none gets in another's way. -/
structure Counting (sv : Server) (a₀ : Account) (m : Logins) : Prop where
  ledger : Ledger a₀ m.store m.log
  counted : guesses m.log ≤ m.store.user.failedLoginAttempts
  below : (guesses m.log : Int) < sv.authLockoutThreshold
  fresh : ∀ i t, m.txns i = some t → t.Fresh m.store
  alone : (wrongs m).Subsingleton

theorem Counting.init (hthreshold : 1 ≤ sv.authLockoutThreshold) :
    Counting sv a₀ (Machine.init a₀) where
  ledger := .nil
  counted := Nat.zero_le _
  below := by
    show (0 : Int) < _
    omega
  fresh := fun _ _ h => nomatch h
  alone := by
    rintro i ⟨t, ht, -⟩
    cases ht

theorem Counting.lockout (h : Counting sv a₀ m) : Lockout sv.authLockoutThreshold a₀ m where
  ledger := h.ledger
  counted := h.counted
  bounded := by
    intro attempts hattempts
    have hone : attempts.card ≤ 1 :=
      Finset.card_le_one.mpr fun i hi j hj => h.alone (hattempts i hi) (hattempts j hj)
    have hbelow := h.below
    push_cast
    omega

theorem Counting.of_same (h : Counting sv a₀ m) {i : ℕ} {x : Option LoginStage}
    (hstore : m'.store = m.store) (hlog : m'.log = m.log)
    (htxns : m'.txns = Function.update m.txns i x)
    (hx : ∀ t, x = some t → t.Fresh m.store) (halone : (wrongs m').Subsingleton) :
    Counting sv a₀ m' where
  ledger := hstore ▸ hlog ▸ h.ledger
  counted := hstore ▸ hlog ▸ h.counted
  below := hlog ▸ h.below
  fresh := by
    rw [hstore, htxns]
    exact Program.forall_update h.fresh hx
  alone := halone

theorem Counting.statement (h : Counting sv a₀ m) {i : ℕ}
    (hguard : sv.Undisturbed m (.statement i))
    (hstep : sv.logins.step m (.statement i) = some m') : Counting sv a₀ m' := by
  obtain ⟨t, t', ht, ht', htxns, hstore, hlog⟩ := Program.step_statement hstep
  by_cases hwrong : t.isWrong = true
  · obtain ⟨user, checked, now, rfl, rfl⟩ := statement_of_wrong hwrong ht'
    refine h.of_same hstore hlog htxns ?_ (h.alone.anti (wrongs_update htxns ?_))
    · intro u hu
      obtain rfl := Option.some.inj hu
      have hfresh : (LoginStage.wrong user checked now).Fresh m.store := h.fresh i _ ht
      exact hfresh
    · exact fun _ _ _ => ⟨_, ht, rfl⟩
  · have hright : t.isWrong = false := by simpa using hwrong
    by_cases hwrong' : t'.isWrong = true
    · -- the credential is found wrong, and the guard is about this step
      obtain ⟨hfresh, hnone⟩ := hguard t t' ht ht' hright hwrong'
      refine h.of_same hstore hlog htxns (fun u hu => Option.some.inj hu ▸ hfresh) ?_
      have honly : wrongs m' ⊆ {i} := by
        rintro j ⟨u, hu, hju⟩
        by_contra hji
        rw [htxns, Function.update_of_ne hji] at hu
        rw [hnone j u hu] at hju
        cases hju
      exact Set.subsingleton_singleton.anti honly
    · refine h.of_same hstore hlog htxns ?_ (h.alone.anti (wrongs_update htxns ?_))
      · intro u hu
        obtain rfl := Option.some.inj hu
        cases t' with
        | wrong user checked now | counted user checked now => exact absurd rfl hwrong'
        | _ => trivial
      · intro u hu hju
        obtain rfl := Option.some.inj hu
        exact absurd hju hwrong'

theorem Counting.commit_wrong (hthreshold : 1 ≤ sv.authLockoutThreshold) (h : Counting sv a₀ m)
    {i : ℕ} {user : User} {checked now : Int}
    (ht : m.txns i = some (.counted user checked now))
    (hw : w = sv.failedAttempt user checked now)
    (hsets : sv.Sets m.store (.counted user checked now))
    (htxns : m'.txns = Function.update m.txns i none) (hstore : m'.store = w.apply m.store)
    (hlog : m'.log = m.log ++ [w]) : Counting sv a₀ m' := by
  obtain ⟨hcounts, hcounted, hbelow⟩ :=
    failedAttempt_counts hthreshold hw (h.fresh i _ ht) hsets h.counted
  constructor
  · rw [hstore, hlog]
    exact h.ledger.snoc hcounts
  · rw [hstore, hlog]
    exact hcounted
  · rw [hlog]
    exact hbelow
  · rw [htxns]
    intro j u hu
    by_cases hji : j = i
    · subst hji
      rw [Function.update_self] at hu
      cases hu
    · rw [Function.update_of_ne hji] at hu
      cases u with
      | wrong _ _ _ | counted _ _ _ => exact absurd (h.alone ⟨_, hu, rfl⟩ ⟨_, ht, rfl⟩) hji
      | _ => trivial
  · exact h.alone.anti (wrongs_update htxns fun _ hnone => nomatch hnone)

theorem Counting.commit_right (hthreshold : 1 ≤ sv.authLockoutThreshold) (h : Counting sv a₀ m)
    {i : ℕ} (hright : t.isWrong = false) (hw : sv.effect t = some w)
    (htxns : m'.txns = Function.update m.txns i none) (hstore : m'.store = w.apply m.store)
    (hlog : m'.log = m.log ++ [w]) : Counting sv a₀ m' := by
  obtain ⟨heases, hcounts, hguesses⟩ := effect_eases hright hw m.store
  constructor
  · rw [hstore, hlog]
    exact h.ledger.snoc hcounts
  · rw [hstore, hlog]
    obtain ⟨hsame, hfailed⟩ | hzero := hguesses m.log
    · rw [hsame, hfailed]
      exact h.counted
    · rw [hzero]
      exact Nat.zero_le _
  · rw [hlog]
    obtain ⟨hsame, -⟩ | hzero := hguesses m.log
    · rw [hsame]
      exact h.below
    · rw [hzero]
      show (0 : Int) < _
      omega
  · rw [htxns, hstore]
    exact Program.forall_update (fun j u hu => heases.fresh (h.fresh j u hu))
      fun u hu => nomatch hu
  · exact h.alone.anti (wrongs_update htxns fun _ hnone => nomatch hnone)

theorem Counting.commit (hthreshold : 1 ≤ sv.authLockoutThreshold) (h : Counting sv a₀ m) {i : ℕ}
    (hguard : sv.Undisturbed m (.commit i))
    (hstep : sv.logins.step m (.commit i) = some m') : Counting sv a₀ m' := by
  obtain ⟨t, w, ht, hw, htxns, hstore, hlog⟩ := Program.step_commit hstep
  by_cases hwrong : t.isWrong = true
  · obtain ⟨user, checked, now, rfl, heq⟩ := effect_of_wrong hwrong hw
    exact h.commit_wrong hthreshold ht heq (hguard _ ht) htxns hstore hlog
  · have hright : t.isWrong = false := by simpa using hwrong
    exact h.commit_right hthreshold hright hw htxns hstore hlog

theorem Counting.step (hthreshold : 1 ≤ sv.authLockoutThreshold) (h : Counting sv a₀ m)
    {act : TxnAction LoginCall} (hguard : sv.Undisturbed m act)
    (hstep : sv.logins.step m act = some m') : Counting sv a₀ m' := by
  cases act with
  | enter call =>
    obtain rfl := Option.some.inj hstep
    have hright : ∀ t, some (sv.logins.enter m.next call) = some t → t.isWrong = false := by
      intro t ht
      rw [← Option.some.inj ht]
      cases call <;> rfl
    refine h.of_same rfl rfl rfl ?_ (h.alone.anti (wrongs_update rfl ?_))
    · intro t ht
      rw [← Option.some.inj ht]
      cases call <;> trivial
    · intro t ht hwrong
      rw [hright t ht] at hwrong
      cases hwrong
  | statement i => exact h.statement hguard hstep
  | commit i => exact h.commit hthreshold hguard hstep
  | rollback i =>
    obtain ⟨htxns, hstore, hlog⟩ := Program.step_rollback hstep
    exact h.of_same hstore hlog htxns (fun t ht => nomatch ht)
      (h.alone.anti (wrongs_update htxns fun t ht => nomatch ht))

end Step

/-- **The lockout holds** in every run in which no attempt gets in another's way. -/
theorem lockout_holds (sv : Server) (hthreshold : 1 ≤ sv.authLockoutThreshold) (a₀ : Account)
    {as : List (TxnAction LoginCall)} {m : Logins}
    (hguard : Guarded sv.logins.step sv.Undisturbed (Machine.init a₀) as)
    (hrun : exec sv.logins.step (Machine.init a₀) as = some m) :
    Lockout sv.authLockoutThreshold a₀ m :=
  (guarded_invariant (fun _ _ _ h hg hstep => h.step hthreshold hg hstep)
    (Counting.init hthreshold) hguard hrun).lockout

/-! ## One password, six guesses -/

def defaults : Server where
  lib := ascii
  reader := integersOnly
  authSessionSecret := loginSecret
  authLockoutThreshold := 5
  authLockoutMinutes := 15

def account : Account where
  user :=
    { id := 7
      email := "a@example.org".toList
      active := true
      passwordHash := some ("pbkdf2_sha256$1$00$".toList ++ List.replicate 64 '0')
      failedLoginAttempts := 0
      lockedUntil := none
      sessionVersion := 0 }
  factors := ⟨none, []⟩

def guess : LoginCall := .authenticate "a@example.org".toList "guess".toList 0

def sixAtOnce : List (TxnAction LoginCall) :=
  List.replicate 6 (.enter guess) ++ (List.range 6).map .statement ++
    (List.range 6).map .statement ++ (List.range 6).flatMap fun i => [.statement i, .commit i]

/-- Six wrong passwords count as one, and there is no lock. -/
theorem six_guesses_unlocked :
    ¬∀ (sv : Server) (a₀ : Account) (as : List (TxnAction LoginCall)) (m : Logins),
      1 ≤ sv.authLockoutThreshold → exec sv.logins.step (Machine.init a₀) as = some m →
        Lockout sv.authLockoutThreshold a₀ m := by
  intro h
  have hend : (exec defaults.logins.step (Machine.init account) sixAtOnce).map
        (fun m => (guesses m.log, m.store.user.failedLoginAttempts, m.store.user.lockedUntil)) =
      some (6, 1, none) := by
    decide +kernel
  obtain ⟨m, hrun, hm⟩ := Option.map_eq_some_iff.mp hend
  obtain ⟨hguesses, hfailed, -⟩ := Prod.mk.inj hm |>.imp_right Prod.mk.inj
  have hcounted := (h defaults account sixAtOnce m (by decide) hrun).counted
  rw [hguesses, hfailed] at hcounted
  exact absurd hcounted (by decide)

theorem undisturbed_of_right {sv : Server} {m : Logins} {i : ℕ} {t t' : LoginStage}
    (ht : m.txns i = some t) (ht' : sv.statement t m.store = some t')
    (h : t.isWrong = false → t'.isWrong = false) : sv.Undisturbed m (.statement i) := by
  intro u u' hu hu' hright hwrong
  obtain rfl := Option.some.inj (ht.symm.trans hu)
  obtain rfl := Option.some.inj (ht'.symm.trans hu')
  rw [h hright] at hwrong
  cases hwrong

def passwordless : Account := { account with user := { account.user with passwordHash := none } }

/-- One guess alone. -/
theorem lockout_one_guess :
    ∃ m, exec defaults.logins.step (Machine.init passwordless)
        [.enter guess, .statement 0, .statement 0, .statement 0, .commit 0] = some m ∧
      Lockout 5 passwordless m := by
  have hsome : (exec defaults.logins.step (Machine.init passwordless)
      [.enter guess, .statement 0, .statement 0, .statement 0, .commit 0]).isSome = true := by
    decide +kernel
  obtain ⟨m, hrun⟩ := Option.isSome_iff_exists.mp hsome
  refine ⟨m, hrun, lockout_holds defaults (by decide) passwordless ?_ hrun⟩
  refine .cons rfl trivial (.cons rfl ?_ (.cons rfl ?_ (.cons rfl ?_ (.cons rfl ?_ trivial))))
  · exact undisturbed_of_right rfl rfl fun _ => rfl
  · intro t t' ht ht' _ _
    obtain rfl := Option.some.inj ht
    obtain rfl := Option.some.inj ht'
    refine ⟨⟨le_rfl, rfl⟩, Program.forall_update (Program.forall_update ?_ ?_) ?_⟩
    · exact fun _ _ hnone => nomatch hnone
    · intro u hu
      obtain rfl := Option.some.inj hu
      rfl
    · intro u hu
      obtain rfl := Option.some.inj hu
      rfl
  · exact undisturbed_of_right rfl rfl fun h => nomatch h
  · intro t ht
    obtain rfl := Option.some.inj ht
    trivial

end Concord.Identity
