import Mathlib.Data.List.Chain
import Mathlib.Data.List.Nodup
import Concord.Base.ReadCommitted
import Concord.Identity.Mfa

/-!
# Spending a one-time code

`verify_code` and `consume_recovery_code` of `src/ccf/identity/mfa_service.py`, as
transactions of one user's sign-ins. Each selects a row, checks it, sets a column and
flushes; the route commits. The `SELECT` takes no lock and the `UPDATE` names the row by its
key alone, so a check may be of a row that has been spent since.

`one_time_iff`: steps are accepted in increasing order and no recovery code twice, exactly in
the runs in which every check still stands when its transaction commits. `unspent_of_run`: what
was spent before they all began is never accepted.
-/

namespace Concord.Identity

open Concord.Base Concord.Python

/-- `UserMfaCredential`. -/
structure Credential where
  secretEncrypted : Text
  activatedAt : Option Int
  lastUsedStep : Option Int

/-- `UserMfaRecoveryCode`. -/
structure RecoveryCode where
  id : Nat
  codeHash : Text
  usedAt : Option Int
  revokedAt : Option Int

/-- The rows of one user. There is at most one credential (`uq_user_mfa_credential`). -/
structure Factors where
  credential : Option Credential
  codes : List RecoveryCode

/-- What an accepted code writes. -/
inductive Spend where
  | step (step : Int)
  | recoveryCode (id : Nat) (usedAt : Int)
  deriving DecidableEq

inductive Row where
  | credential
  | recoveryCode (id : Nat)
  deriving DecidableEq

def Spend.row : Spend → Row
  | .step _ => .credential
  | .recoveryCode id _ => .recoveryCode id

/-- A call, with the time it reads. -/
inductive Call where
  | verifyCode (code : Text) (now : Rat)
  | consumeRecoveryCode (code : Text) (now : Int)
  /-- What the routes run: the second where the first returns `False`. -/
  | mfaVerify (code : Text) (now : Rat) (usedAt : Int)

/-- How far a transaction is. -/
inductive Attempt where
  | verifyCode (code : Text) (now : Rat) (fallback : Option Int)
  | consumeRecoveryCode (code : Text) (now : Int)
  /-- `is_challenged` was true. -/
  | challenged (code : Text) (now : Int)
  /-- The check passed and the column is set. -/
  | checked (s : Spend)
  | flushed (s : Spend)
  /-- `False`, or an exception. -/
  | refused

def enter : Call → Attempt
  | .verifyCode code now => .verifyCode code now none
  | .consumeRecoveryCode code now => .consumeRecoveryCode code now
  | .mfaVerify code now usedAt => .verifyCode code now (some usedAt)

/-- `is_challenged`. -/
def Factors.isChallenged (f : Factors) : Bool :=
  f.credential.any fun cred => cred.activatedAt.isSome

/-- The check of `verify_code`; an error is an exception. -/
def Library.checkCode (lib : Library) (f : Factors) (code : Text) (now : Rat) :
    Except Unit (Option Int) :=
  match f.credential with
  | none => .ok none
  | some cred =>
    if cred.activatedAt.isNone then .ok none
    else
      match lib.decrypt cred.secretEncrypted with
      | none => .error ()
      | some secret =>
        (lib.verify secret code now cred.lastUsedStep).mapError fun _ => ()

/-- The `SELECT` of `consume_recovery_code`. -/
def Library.findCode (lib : Library) (f : Factors) (code : Text) : Except Unit (Option Nat) :=
  let digest := lib.hashRecoveryCode code
  match f.codes.filter fun r => r.codeHash = digest ∧ r.usedAt = none ∧ r.revokedAt = none with
  | [] => .ok none
  | [r] => .ok (some r.id)
  -- `scalar_one_or_none`
  | _ => .error ()

def Library.statement (lib : Library) : Attempt → Factors → Option Attempt
  | .verifyCode code now fallback, f =>
    match lib.checkCode f code now with
    | .ok (some step) => some (.checked (.step step))
    | .ok none =>
      match fallback with
      | some usedAt => some (.consumeRecoveryCode code usedAt)
      | none => some .refused
    | .error _ => some .refused
  | .consumeRecoveryCode code now, f =>
    some (if f.isChallenged then .challenged code now else .refused)
  | .challenged code now, f =>
    match lib.findCode f code with
    | .ok (some id) => some (.checked (.recoveryCode id now))
    | _ => some .refused
  | .checked s, _ => some (.flushed s)
  | .flushed _, _ => none
  | .refused, _ => none

/-- What is committed: the one column that was set. -/
def Spend.apply : Spend → Factors → Factors
  | .step n, f =>
    { f with credential := f.credential.map fun cred => { cred with lastUsedStep := some n } }
  | .recoveryCode id usedAt, f =>
    { f with codes := f.codes.map fun r => if r.id = id then { r with usedAt := some usedAt } else r }

def Library.signIns (lib : Library) : Program Call Factors Attempt Row Spend where
  enter := fun _ => enter
  statement := lib.statement
  locks := fun
    | .flushed s => [s.row]
    | _ => []
  effect := fun
    | .flushed s => some s
    | _ => none
  apply := Spend.apply

/-! ## What was accepted -/

def steps (log : List Spend) : List Int :=
  log.filterMap fun
    | .step n => some n
    | _ => none

def recoveryCodes (log : List Spend) : List Nat :=
  log.filterMap fun
    | .recoveryCode id _ => some id
    | _ => none

/-- One-time codes are used once: the steps increase, and no recovery code is there twice. -/
structure OneTime (log : List Spend) : Prop where
  increasing : (steps log).Pairwise (· < ·)
  once : (recoveryCodes log).Nodup

theorem oneTime_nil : OneTime [] := ⟨List.Pairwise.nil, List.nodup_nil⟩

def Factors.lastUsedStep (f : Factors) : Option Int := f.credential.bind Credential.lastUsedStep

/-- The row is there, and has no `used_at`. -/
def Factors.Unused (f : Factors) (id : Nat) : Prop := ∃ r ∈ f.codes, r.id = id ∧ r.usedAt = none

/-- A check still stands: the row it read has not been spent since, as far as it matters. -/
def Stands (f : Factors) : Spend → Prop
  | .step n => ∀ last, f.lastUsedStep = some last → last < n
  | .recoveryCode id _ => f.Unused id

/-- The check of a transaction that is about to commit still stands. -/
def StandsAtCommit (f : Factors) : Attempt → Prop
  | .flushed s => Stands f s
  | _ => True

/-! ## Invariants -/

section Checks

variable {lib : Library} {f : Factors} {code : Text} {now : Rat}

theorem stands_of_checkCode {n : Int} (h : lib.checkCode f code now = .ok (some n)) :
    f.credential.isSome ∧ Stands f (.step n) := by
  unfold Library.checkCode at h
  cases hcred : f.credential with
  | none =>
    rw [hcred] at h
    cases h
  | some cred =>
    rw [hcred] at h
    dsimp only at h
    split at h
    · cases h
    · cases hsecret : lib.decrypt cred.secretEncrypted with
      | none =>
        rw [hsecret] at h
        cases h
      | some secret =>
        rw [hsecret] at h
        dsimp only at h
        refine ⟨rfl, fun last hlast => ?_⟩
        rw [Factors.lastUsedStep, hcred, Option.bind_some] at hlast
        cases hv : lib.verify secret code now cred.lastUsedStep with
        | error e =>
          rw [hv] at h
          cases h
        | ok step =>
          rw [hv] at h
          obtain rfl : step = some n := Except.ok.inj h
          exact (accepted_of_verify hv).unspent last hlast

theorem stands_of_findCode {id : Nat} (h : lib.findCode f code = .ok (some id)) :
    f.Unused id := by
  unfold Library.findCode at h
  dsimp only at h
  split at h
  · cases h
  · rename_i r hr
    obtain rfl : r.id = id := Option.some.inj (Except.ok.inj h)
    have hmem : r ∈ [r] := List.mem_singleton_self r
    rw [← hr, List.mem_filter, decide_eq_true_iff] at hmem
    exact ⟨r, hmem.1, rfl, hmem.2.2.1⟩
  · cases h

end Checks

theorem lastUsedStep_step (f : Factors) (n : Int) (h : f.credential.isSome) :
    ((Spend.step n).apply f).lastUsedStep = some n := by
  obtain ⟨cred, hcred⟩ := Option.isSome_iff_exists.mp h
  simp [Spend.apply, Factors.lastUsedStep, hcred]

theorem unused_recoveryCode (f : Factors) (id id' : Nat) (t : Int) :
    ((Spend.recoveryCode id t).apply f).Unused id' ↔ f.Unused id' ∧ id' ≠ id := by
  constructor
  · rintro ⟨r, hr, rfl, hunused⟩
    obtain ⟨q, hq, rfl⟩ := List.mem_map.mp hr
    split at hunused
    · cases hunused
    · rename_i hne
      rw [if_neg hne]
      exact ⟨⟨q, hq, rfl, hunused⟩, hne⟩
  · rintro ⟨⟨r, hr, rfl, hunused⟩, hne⟩
    refine ⟨r, List.mem_map.mpr ⟨r, hr, if_neg hne⟩, rfl, hunused⟩

@[simp] theorem steps_step (log : List Spend) (n : Int) :
    steps (log ++ [.step n]) = steps log ++ [n] := List.filterMap_append

@[simp] theorem steps_recoveryCode (log : List Spend) (id : Nat) (t : Int) :
    steps (log ++ [.recoveryCode id t]) = steps log := by
  simp [steps]

@[simp] theorem recoveryCodes_step (log : List Spend) (n : Int) :
    recoveryCodes (log ++ [.step n]) = recoveryCodes log := by
  simp [recoveryCodes]

@[simp] theorem recoveryCodes_recoveryCode (log : List Spend) (id : Nat) (t : Int) :
    recoveryCodes (log ++ [.recoveryCode id t]) = recoveryCodes log ++ [id] :=
  List.filterMap_append

theorem mem_steps {log : List Spend} {n : Int} : n ∈ steps log ↔ Spend.step n ∈ log := by
  rw [steps, List.mem_filterMap]
  constructor
  · rintro ⟨s, hs, heq⟩
    cases s with
    | step m => exact Option.some.inj heq ▸ hs
    | recoveryCode id t => cases heq
  · exact fun h => ⟨_, h, rfl⟩

/-- What was spent since `f₀` is what the rows say, and was unspent then. -/
structure Recorded (f₀ f : Factors) (log : List Spend) : Prop where
  credential : f.credential.isSome = f₀.credential.isSome
  last : f.lastUsedStep = (steps log).getLast?.or f₀.lastUsedStep
  stood : ∀ s ∈ log, Stands f₀ s
  unused : ∀ id, f.Unused id ↔ f₀.Unused id ∧ id ∉ recoveryCodes log

/-- What a transaction is about to spend was unspent at first. -/
def Attempt.Sound (f₀ : Factors) : Attempt → Prop
  | .checked s | .flushed s => Stands f₀ s ∧ (s.row = .credential → f₀.credential.isSome)
  | _ => True

theorem recorded_nil (f₀ : Factors) : Recorded f₀ f₀ [] where
  credential := rfl
  last := rfl
  stood := fun _ h => nomatch h
  unused := fun _ => ⟨fun h => ⟨h, List.not_mem_nil⟩, And.left⟩

section Recorded

variable {f₀ f : Factors} {log : List Spend}

theorem Recorded.stands (h : Recorded f₀ f log) {s : Spend} (hs : Stands f s) :
    Stands f₀ s := by
  cases s with
  | step n =>
    intro last hlast
    cases hsteps : (steps log).getLast? with
    | none =>
      refine hs last ?_
      rw [h.last, hsteps, Option.none_or, hlast]
    | some m =>
      have hlog : Spend.step m ∈ log := mem_steps.mp (List.mem_of_getLast? hsteps)
      have hm : last < m := h.stood _ hlog last hlast
      have hn : m < n := hs m (by rw [h.last, hsteps, Option.some_or])
      exact hm.trans hn
  | recoveryCode id t => exact ((h.unused id).mp hs).1

theorem Recorded.apply (h : Recorded f₀ f log) {s : Spend} (hs : Stands f₀ s)
    (hcred : s.row = .credential → f₀.credential.isSome) :
    Recorded f₀ (s.apply f) (log ++ [s]) := by
  have hstood : ∀ s' ∈ log ++ [s], Stands f₀ s' := by
    intro s' hs'
    rcases List.mem_append.mp hs' with hs' | hs'
    · exact h.stood s' hs'
    · exact List.mem_singleton.mp hs' ▸ hs
  cases s with
  | step n =>
    have hsome : f.credential.isSome := h.credential.trans (hcred rfl)
    refine ⟨?_, ?_, hstood, ?_⟩
    · rw [← h.credential]
      exact Option.isSome_map
    · rw [lastUsedStep_step f n hsome, steps_step, List.getLast?_concat, Option.some_or]
    · intro id
      rw [recoveryCodes_step]
      exact h.unused id
  | recoveryCode id t =>
    refine ⟨h.credential, ?_, hstood, ?_⟩
    · rw [steps_recoveryCode]
      exact h.last
    · intro id'
      rw [unused_recoveryCode, h.unused, recoveryCodes_recoveryCode, List.mem_append,
        List.mem_singleton, not_or, and_assoc]

theorem Recorded.oneTime_iff (h : Recorded f₀ f log) {s : Spend} (hs : Stands f₀ s)
    (hlog : OneTime log) : Stands f s ↔ OneTime (log ++ [s]) := by
  cases s with
  | step n =>
    have hincreasing : (steps (log ++ [.step n])).Pairwise (· < ·) ↔
        ∀ m, (steps log).getLast? = some m → m < n := by
      rw [steps_step, ← List.isChain_iff_pairwise, List.isChain_append]
      simp [List.isChain_iff_pairwise, hlog.increasing]
    calc Stands f (.step n)
        ↔ ∀ m, (steps log).getLast? = some m → m < n := by
          show (∀ last, f.lastUsedStep = some last → last < n) ↔ _
          rw [h.last]
          cases (steps log).getLast? with
          | none => exact ⟨fun _ _ hm => (nomatch hm), fun _ => hs⟩
          | some m => rfl
      _ ↔ OneTime (log ++ [.step n]) := by
          rw [← hincreasing]
          refine ⟨fun hinc => OneTime.mk hinc ?_, OneTime.increasing⟩
          rw [recoveryCodes_step]
          exact hlog.once
  | recoveryCode id t =>
    have hunused : Stands f (.recoveryCode id t) ↔ id ∉ recoveryCodes log :=
      (h.unused id).trans (and_iff_right hs)
    have honce : (recoveryCodes (log ++ [.recoveryCode id t])).Nodup ↔
        id ∉ recoveryCodes log := by
      rw [recoveryCodes_recoveryCode, ← List.concat_eq_append, List.nodup_concat]
      exact and_iff_left hlog.once
    rw [hunused, ← honce]
    refine ⟨fun hnodup => OneTime.mk ?_ hnodup, OneTime.once⟩
    rw [steps_recoveryCode]
    exact hlog.increasing

end Recorded

theorem signIns_stable (lib : Library) (f₀ : Factors) :
    lib.signIns.Stable (Recorded f₀) (Attempt.Sound f₀) where
  enter := by
    intro i call
    cases call <;> trivial
  statement := by
    intro f log t t' hlog ht hstep
    cases t with
    | verifyCode code now fallback =>
      have h : lib.statement (.verifyCode code now fallback) f = some t' := hstep
      simp only [Library.statement] at h
      split at h
      · rename_i step hcheck
        obtain rfl := Option.some.inj h
        obtain ⟨hcred, hstands⟩ := stands_of_checkCode hcheck
        exact ⟨hlog.stands hstands, fun _ => hlog.credential ▸ hcred⟩
      · cases fallback <;> cases h <;> trivial
      · cases h
        trivial
    | consumeRecoveryCode code now =>
      have h : some (if f.isChallenged then Attempt.challenged code now else .refused) = some t' :=
        hstep
      obtain rfl := Option.some.inj h
      split <;> trivial
    | challenged code now =>
      have h : lib.statement (.challenged code now) f = some t' := hstep
      simp only [Library.statement] at h
      split at h
      · rename_i id hfind
        obtain rfl := Option.some.inj h
        exact ⟨hlog.stands (stands_of_findCode hfind), fun hrow => nomatch hrow⟩
      · cases h
        trivial
    | checked s =>
      cases hstep
      exact ht
    | flushed s => cases hstep
    | refused => cases hstep
  commit := by
    intro f log t s hlog ht heffect
    cases t with
    | flushed s' =>
      obtain rfl : s' = s := Option.some.inj heffect
      exact hlog.apply ht.1 ht.2
    | _ => cases heffect

/-- What was spent before any of the sign-ins began is accepted in none of them, whatever
their interleaving. -/
theorem unspent_of_run {lib : Library} {f₀ : Factors} {as : List (TxnAction Call)}
    {m : Machine Factors Attempt Row Spend}
    (hrun : exec lib.signIns.step (Machine.init f₀) as = some m) : ∀ s ∈ m.log, Stands f₀ s :=
  ((signIns_stable lib f₀).run (recorded_nil f₀) hrun).store.stood

/-- **When one-time codes are used once**: exactly in the runs in which every check still
stands when its transaction commits. -/
theorem one_time_iff (lib : Library) (f₀ : Factors) (as : List (TxnAction Call)) :
    Guarded lib.signIns.step (lib.signIns.AtCommit StandsAtCommit) (Machine.init f₀) as ↔
      ∀ bs m, bs <+: as → exec lib.signIns.step (Machine.init f₀) bs = some m →
        OneTime m.log := by
  refine (signIns_stable lib f₀).guarded_iff (J := fun _ log => OneTime log) ?_
    (recorded_nil f₀) oneTime_nil
  intro f log t s hlog ht hone heffect
  cases t with
  | flushed s' =>
    obtain rfl : s' = s := Option.some.inj heffect
    exact hlog.oneTime_iff ht.1 hone
  | _ => cases heffect

/-! ## One code, two sign-ins -/

/-- Python, as far as these inputs go: an ASCII `upper`, and a secret stored as it is. -/
def ascii : Library := ⟨List.map Char.toUpper, some⟩

def enrolled : Factors where
  credential := some ⟨"GEZDGNBVGY3TQOJQGEZDGNBVGY3TQOJQ".toList, some 0, none⟩
  codes := []

def overlapping : List (TxnAction Call) :=
  let call := Call.verifyCode "287082".toList 59
  [.enter call, .enter call, .statement 0, .statement 1, .statement 0, .commit 0, .statement 1,
    .commit 1]

/-- The code that both present is one that nobody has presented before. -/
theorem unspent_of_overlapping :
    ∃ m, exec ascii.signIns.step (Machine.init enrolled) overlapping = some m ∧
      ∀ s ∈ m.log, Stands enrolled s := by
  have hrun : (exec ascii.signIns.step (Machine.init enrolled) overlapping).isSome := by
    decide +kernel
  obtain ⟨m, hm⟩ := Option.isSome_iff_exists.mp hrun
  exact ⟨m, hm, unspent_of_run hm⟩

theorem step_spent_twice :
    ¬∀ (lib : Library) (f₀ : Factors) (as : List (TxnAction Call)) m,
      exec lib.signIns.step (Machine.init f₀) as = some m → OneTime m.log := by
  intro h
  have hlog : (exec ascii.signIns.step (Machine.init enrolled) overlapping).map Machine.log =
      some [.step 1, .step 1] := by
    decide +kernel
  obtain ⟨m, hrun, hm⟩ := Option.map_eq_some_iff.mp hlog
  have hinc := (h ascii enrolled overlapping m hrun).increasing
  rw [hm] at hinc
  exact absurd hinc (by decide)

end Concord.Identity
