import Mathlib.Data.List.Dedup
import Mathlib.Data.List.Sort
import Concord.Governance.Inventory

/-!
# Waivers

`ccf/governance/waivers.py`: which accepted findings silence the consequence of a
failing result. `cover` is pure; `waiversForTest` finds the candidates.
-/

namespace Concord.Governance

open Concord.Python

/-- `WAIVER_STATUSES`. -/
inductive WaiverStatus
  | requested | approved | revoked
  deriving DecidableEq

/-- A row of `waivers`. -/
structure Waiver where
  id : Nat
  organizationId : Option Nat
  systemId : Nat
  checkKey : Option Text
  controlId : Option Text
  resourceId : Option Text
  status : WaiverStatus
  expiresOn : Option Int
  deriving DecidableEq

/-- `REQUIRES_COVER`. -/
def requiresCover : List ValidationStatus :=
  validationStatuses.filter fun s => s ∉ [.pass, .notApplicable, .notTested]

/-- Whether a result is fully accepted, and by which waiver per resource. -/
structure Coverage where
  suppress : Bool
  waived : Nat
  byResource : List (Text × Nat)
  uncovered : List Text
  deriving DecidableEq

/-- `is_active`: the last day counts. -/
def isActive (today : Int) (w : Waiver) : Bool :=
  decide (w.status = .approved) &&
    match w.expiresOn with
    | none => true
    | some d => decide (today ≤ d)

/-- `cover`. Of the waivers of one resource the last is used, of those of the whole
check the first. -/
def cover (findings : List ResourceFinding) (waivers : List Waiver) (today : Int) :
    Coverage :=
  let active := waivers.filter (isActive today)
  let whole := active.find? fun w => w.resourceId = none
  let specific := fun r : Text => active.reverse.find? fun w => w.resourceId = some r
  let waiverFor := fun r : Text => ((specific r).or whole).map Waiver.id
  let needing := (findings.filter fun f => f.verdict ∈ requiresCover.map
    ValidationStatus.text).map ResourceFinding.resourceId
  if needing = [] then
    { suppress := whole.isSome && findings.isEmpty, waived := 0, byResource := [],
      uncovered := [] }
  else
    let attributed := needing.dedup.filterMap fun r => (waiverFor r).map fun id => (r, id)
    let uncovered := needing.filter fun r => (waiverFor r).isNone
    { suppress := uncovered.isEmpty, waived := attributed.length, byResource := attributed,
      uncovered := uncovered }

/-- `waiver_matches`. -/
def waiverMatches (w : Waiver) (t : ControlTest) : Bool :=
  match t.systemId with
  | none => false
  | some system =>
    decide (w.organizationId = t.organizationId ∧ w.systemId = system) &&
      (decide (w.controlId = some t.controlId) ||
        decide (orElse t.checkKey none ≠ none ∧ w.checkKey = t.checkKey))

/-- `waivers_for_test`: the candidates by id, whatever their status. -/
def waiversForTest (waivers : List Waiver) (t : ControlTest) : List Waiver :=
  (waivers.insertionSort fun v w => v.id ≤ w.id).filter fun w => waiverMatches w t

/-- `can_approve`: nobody approves what they asked for, but a global principal. -/
def canApprove (requestedBy approver : Option Text) (isGlobal : Bool) : Bool :=
  isGlobal || ((orElse approver none).isSome && decide (requestedBy ≠ approver))

end Concord.Governance
