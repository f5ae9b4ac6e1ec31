import Concord.Base.ReadCommitted
import Concord.Evidence.Service

/-!
# Approval and new versions

The routes of one evidence object as transactions. Each loads the object, and what it checks
and copies is the object as loaded: `add_version` looks at the lock, and `review_object`
writes the current version into the review. At the end the session writes the columns that
differ from the loaded ones. Nothing locks the row before that, and the row a version is
inserted for is not changed by the `INSERT`, so it does not wait for one that is.

`approval_freezes_iff`: the versions of an approved object stay as they are, and are those
that were reviewed, exactly in the runs where no version is committed over an approval and no
approval over a version that it has not read.
-/

namespace Concord.Evidence

open Concord.Base Concord.Python

/-- The committed rows of one object. -/
structure Artifact where
  object : EvidenceObject
  versions : List EvidenceVersion
  reviews : List EvidenceReview

/-- A call of a route. -/
inductive Request where
  | addVersion (u : Upload)
  | submit
  | review (decision : Text) (reviewer note : Option Text)

/-- The columns of an `UPDATE`: those that differ from the loaded ones. -/
structure Columns where
  status : Option Status
  currentVersionId : Option (Option Nat)
  immutableLock : Option Bool
  deriving DecidableEq

def changed {α : Type} [DecidableEq α] (loaded set : α) : Option α :=
  if set = loaded then none else some set

def columns (loaded obj : EvidenceObject) : Columns where
  status := changed loaded.status obj.status
  currentVersionId := changed loaded.currentVersionId obj.currentVersionId
  immutableLock := changed loaded.immutableLock obj.immutableLock

def Columns.any (c : Columns) : Bool :=
  c.status.isSome || c.currentVersionId.isSome || c.immutableLock.isSome

def Columns.write (c : Columns) (obj : EvidenceObject) : EvidenceObject :=
  { obj with
    status := c.status.getD obj.status
    currentVersionId := c.currentVersionId.getD obj.currentVersionId
    immutableLock := c.immutableLock.getD obj.immutableLock }

/-- What a transaction commits: the row it has inserted, and the `UPDATE` of the object. -/
inductive Commit where
  | version (v : EvidenceVersion) (c : Columns)
  | submission (c : Columns)
  | review (r : EvidenceReview) (c : Columns)
  deriving DecidableEq

def Commit.columns : Commit → Columns
  | .version _ c | .submission c | .review _ c => c

def Commit.apply (w : Commit) (a : Artifact) : Artifact where
  object := w.columns.write a.object
  versions :=
    match w with
    | .version v _ => a.versions ++ [v]
    | _ => a.versions
  reviews :=
    match w with
    | .review r _ => a.reviews ++ [r]
    | _ => a.reviews

/-- How far a transaction is. -/
inductive Stage where
  | begun (txn : Nat) (r : Request)
  /-- `add_version` after its check. -/
  | unlocked (txn : Nat) (loaded : EvidenceObject) (u : Upload)
  /-- What is to be written, before the `UPDATE`. -/
  | pending (w : Commit)
  | flushed (w : Commit)
  /-- `EvidenceError`. -/
  | refused

/-- The statements of a transaction. The id of a version comes from a sequence, so no two
transactions get the same. -/
def statement (b : LocalStorage) : Stage → Artifact → Option Stage
  | .begun txn (.addVersion u), a =>
    match a.object.checkUnlocked with
    | .ok _ => some (.unlocked txn a.object u)
    | .error _ => some .refused
  | .begun _ .submit, a =>
    match a.object.submit with
    | .ok obj => some (.pending (.submission (columns a.object obj)))
    | .error _ => some .refused
  | .begun _ (.review decision reviewer note), a =>
    match a.object.review decision reviewer note with
    | .ok (r, obj) => some (.pending (.review r (columns a.object obj)))
    | .error _ => some .refused
  | .unlocked txn loaded u, a =>
    -- the `SELECT` of the last number, and the `INSERT`
    let v := loaded.newVersion b u (txn + 1) (nextNumber loaded.id a.versions)
    some (.pending (.version v (columns loaded (loaded.withVersion v.id))))
  | .pending w, _ => some (.flushed w)
  | .flushed _, _ => none
  | .refused, _ => none

def routes (b : LocalStorage) : Program Request Artifact Stage Unit Commit where
  enter := .begun
  statement := statement b
  locks := fun
    | .flushed w => if w.columns.any then [()] else []
    | _ => []
  effect := fun
    | .flushed w => some w
    | _ => none
  apply := Commit.apply

/-! ## What approval promises -/

/-- The versions of an object that stays approved stay. -/
def Frozen (a a' : Artifact) : Prop :=
  a.object.status = .approved → a'.object.status = .approved →
    a'.versions = a.versions ∧ a'.object.currentVersionId = a.object.currentVersionId

def Artifact.approval (a : Artifact) : Option EvidenceReview :=
  (a.reviews.filter fun r => r.decision = approved).getLast?

/-- Of an approved object it is the current version that was reviewed. -/
def Reviewed (a : Artifact) : Prop :=
  a.object.status = .approved →
    ∃ r, a.approval = some r ∧ r.versionId = a.object.currentVersionId

def created (id : Nat) : Artifact := ⟨createObject id, [], []⟩

/-- A commit finds the object as its transaction assumed. -/
def Commit.Undisturbed (a : Artifact) : Commit → Prop
  /- the object is not approved, or the transaction reopens it -/
  | .version _ c => a.object.status = .approved → c.status = some .draft
  | .submission _ => True
  /- an approval, if it is one afterwards, is of the version that is current -/
  | .review r c => r.decision = approved → c.status.getD a.object.status = .approved →
      r.versionId = a.object.currentVersionId

def UndisturbedAtCommit (a : Artifact) : Stage → Prop
  | .flushed w => w.Undisturbed a
  | _ => True

/-! ## What the transactions write -/

/-- The columns each kind of transaction leaves alone. -/
def Commit.Form : Commit → Prop
  | .version _ c => c.status = none ∨ c.status = some .draft
  | .submission c => c.currentVersionId = none ∧ c.status ≠ some .approved
  | .review r c => c.currentVersionId = none ∧
      (r.decision ≠ approved → c.status ≠ some .approved)

def Stage.Sound : Stage → Prop
  | .pending w | .flushed w => w.Form
  | _ => True

section Columns

variable {α : Type} [DecidableEq α]

@[simp] theorem changed_self (x : α) : changed x x = none := if_pos rfl

theorem changed_eq_some {x y z : α} (h : changed x y = some z) : y = z := by
  unfold changed at h
  split at h
  · cases h
  · exact Option.some.inj h

end Columns

theorem form_version (v : EvidenceVersion) (loaded : EvidenceObject) (id : Nat) :
    (Commit.version v (columns loaded (loaded.withVersion id))).Form := by
  show changed loaded.status (loaded.withVersion id).status = none ∨
    changed loaded.status (loaded.withVersion id).status = some .draft
  unfold EvidenceObject.withVersion
  dsimp only
  split
  · unfold changed
    split
    · exact .inl rfl
    · exact .inr rfl
  · exact .inl (changed_self _)

theorem form_submission {loaded obj : EvidenceObject} (h : loaded.submit = .ok obj) :
    (Commit.submission (columns loaded obj)).Form := by
  unfold EvidenceObject.submit at h
  split at h
  · cases h
  · cases h
    refine ⟨changed_self _, fun hstatus => ?_⟩
    cases changed_eq_some hstatus

theorem form_review {loaded obj : EvidenceObject} {decision : Text} {reviewer note : Option Text}
    {r : EvidenceReview} (h : loaded.review decision reviewer note = .ok (r, obj)) :
    (Commit.review r (columns loaded obj)).Form := by
  unfold EvidenceObject.review at h
  dsimp only at h
  split at h
  · rename_i hdecision
    cases h
    exact ⟨changed_self _, fun hne => absurd hdecision hne⟩
  · split at h
    · cases h
      refine ⟨changed_self _, fun _ hstatus => ?_⟩
      cases changed_eq_some hstatus
    · cases h

theorem routes_stable (b : LocalStorage) :
    (routes b).Stable (fun _ _ => True) Stage.Sound where
  enter := fun _ _ => trivial
  statement := by
    intro a log t t' _ ht hstep
    have h : statement b t a = some t' := hstep
    cases t with
    | begun txn r =>
      cases r with
      | addVersion u =>
        simp only [statement] at h
        split at h <;> cases h <;> trivial
      | submit =>
        simp only [statement] at h
        split at h
        · rename_i obj hsubmit
          cases h
          exact form_submission hsubmit
        · cases h
          trivial
      | review decision reviewer note =>
        simp only [statement] at h
        split at h
        · rename_i r obj hreview
          cases h
          exact form_review hreview
        · cases h
          trivial
    | unlocked txn loaded u =>
      cases h
      exact form_version (loaded.newVersion b u (txn + 1) (nextNumber loaded.id a.versions)) loaded
        (txn + 1)
    | pending w =>
      cases h
      exact ht
    | flushed w => cases h
    | refused => cases h
  commit := fun _ _ _ _ _ _ _ => trivial

/-! ## Approval -/

section Apply

variable {a : Artifact} {w : Commit} {c : Columns} {obj : EvidenceObject}

theorem approved_of_write (hc : c.status ≠ some .approved)
    (h : (c.write obj).status = .approved) : obj.status = .approved := by
  have hstatus : c.status.getD obj.status = .approved := h
  cases hs : c.status with
  | none => rwa [hs, Option.getD_none] at hstatus
  | some x =>
    rw [hs, Option.getD_some] at hstatus
    exact absurd (hs.trans (congrArg some hstatus)) hc

theorem currentVersionId_write (hc : c.currentVersionId = none) :
    (c.write obj).currentVersionId = obj.currentVersionId := by
  show c.currentVersionId.getD _ = _
  rw [hc, Option.getD_none]

theorem approval_review (r : EvidenceReview) :
    ((Commit.review r c).apply a).approval =
      if r.decision = approved then some r else a.approval := by
  show ((a.reviews ++ [r]).filter fun r => r.decision = approved).getLast? = _
  rw [List.filter_append]
  split
  · rename_i h
    simp [h]
  · rename_i h
    simp [h, Artifact.approval]

theorem kept (hstatus : w.columns.status ≠ some .approved)
    (hcurrent : w.columns.currentVersionId = none) (hversions : (w.apply a).versions = a.versions)
    (happroval : (w.apply a).approval = a.approval) (ha : Reviewed a) :
    Reviewed (w.apply a) ∧ Frozen a (w.apply a) := by
  constructor
  · intro happroved
    obtain ⟨r, hr, hversion⟩ := ha (approved_of_write hstatus happroved)
    refine ⟨r, happroval.trans hr, ?_⟩
    exact hversion.trans (currentVersionId_write hcurrent).symm
  · exact fun _ _ => ⟨hversions, currentVersionId_write hcurrent⟩

/-- **One commit**: it keeps an approval as it should exactly if the object is as the
transaction assumed. -/
theorem undisturbed_iff (hform : w.Form) (ha : Reviewed a) :
    w.Undisturbed a ↔ Reviewed (w.apply a) ∧ Frozen a (w.apply a) := by
  cases w with
  | version v c =>
    have hgrown : ((Commit.version v c).apply a).versions = a.versions ++ [v] := rfl
    constructor
    · intro h
      -- the object is not approved afterwards
      have hnot : ((Commit.version v c).apply a).object.status ≠ .approved := by
        intro happroved
        have hc : c.status ≠ some .approved := by
          rcases hform with hc | hc <;> rw [hc] <;> decide
        have hdraft := h (approved_of_write hc happroved)
        have hstatus : c.status.getD a.object.status = .approved := happroved
        rw [hdraft, Option.getD_some] at hstatus
        cases hstatus
      exact ⟨fun happroved => absurd happroved hnot, fun _ happroved => absurd happroved hnot⟩
    · rintro ⟨-, hfrozen⟩ happroved
      rcases hform with hc | hc
      · have hstatus : ((Commit.version v c).apply a).object.status = .approved := by
          show c.status.getD a.object.status = .approved
          rw [hc, Option.getD_none, happroved]
        exact absurd (hfrozen happroved hstatus).1 (by simp [hgrown])
      · exact hc
  | submission c =>
    exact ⟨fun _ => kept hform.2 hform.1 rfl rfl ha, fun _ => trivial⟩
  | review r c =>
    by_cases hdecision : r.decision = approved
    · have hlast : ((Commit.review r c).apply a).approval = some r := by
        rw [approval_review, if_pos hdecision]
      have hcurrent : ((Commit.review r c).apply a).object.currentVersionId =
          a.object.currentVersionId := currentVersionId_write hform.1
      constructor
      · exact fun h => ⟨fun happroved => ⟨r, hlast, (h hdecision happroved).trans hcurrent.symm⟩,
          fun _ _ => ⟨rfl, hcurrent⟩⟩
      · rintro ⟨hreviewed, -⟩ - happroved
        obtain ⟨r', hr', hversion⟩ := hreviewed happroved
        obtain rfl : r = r' := Option.some.inj (hlast.symm.trans hr')
        exact hversion.trans hcurrent
    · have hsame : ((Commit.review r c).apply a).approval = a.approval := by
        rw [approval_review, if_neg hdecision]
      constructor
      · exact fun _ => kept (hform.2 hdecision) hform.1 rfl hsame ha
      · exact fun _ h => absurd h hdecision

end Apply

/-- **When approval freezes**: exactly in the runs where no version is committed over an
approval, and no approval over a version that was not read. -/
theorem approval_freezes_iff (b : LocalStorage) (id : Nat) (as : List (TxnAction Request)) :
    Guarded (routes b).step ((routes b).AtCommit UndisturbedAtCommit)
        (Machine.init (created id)) as ↔
      ∀ bs m, bs <+: as → exec (routes b).step (Machine.init (created id)) bs = some m →
        Reviewed m.store ∧ ((routes b).history (created id) m.log).IsChain Frozen := by
  refine (routes_stable b).guarded_iff_history ?_ trivial fun h => nomatch h
  intro a t w ht ha hw
  cases t with
  | flushed w' =>
    obtain rfl : w' = w := Option.some.inj hw
    exact undisturbed_iff ht ha
  | _ => cases hw

/-! ## A version over an approval -/

def uploadedLate : List (TxnAction Request) :=
  [.enter (.addVersion report), .statement 0, .statement 0, .statement 0, .commit 0,
    .enter (.addVersion report), .statement 1,
    .enter (.review approved none none), .statement 2, .statement 2, .commit 2,
    .statement 1, .statement 1, .commit 1]

theorem approved_changes :
    ¬∀ (b : LocalStorage) (id : Nat) (as : List (TxnAction Request)) m,
      exec (routes b).step (Machine.init (created id)) as = some m →
        Reviewed m.store ∧ ((routes b).history (created id) m.log).IsChain Frozen := by
  intro h
  have hrun : (exec (routes disk).step (Machine.init (created 1)) uploadedLate).map
      (fun m => (m.store.object.status, m.store.approval.map EvidenceReview.versionId,
        m.store.object.currentVersionId)) = some (.approved, some (some 1), some 2) := by
    decide +kernel
  obtain ⟨m, hm, hstate⟩ := Option.map_eq_some_iff.mp hrun
  simp only [Prod.mk.injEq] at hstate
  obtain ⟨hstatus, happroval, hcurrent⟩ := hstate
  -- the version that was reviewed is not the one that is current
  obtain ⟨r, hr, hversion⟩ := (h disk 1 uploadedLate m hm).1 hstatus
  rw [hr, Option.map_some, hversion, hcurrent] at happroval
  cases happroval

end Concord.Evidence
