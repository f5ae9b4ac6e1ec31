import Mathlib.Data.List.Nodup
import Concord.Python.Text

/-!
# What is monitored

The tables the monitors read: systems, controls, their implementations and the
evidence for these (`ccf/models.py`), and control tests (`ccf/models_grc.py`).
An `Inventory` carries the unique constraints of the schema as fields. Dates are
day numbers.
-/

namespace Concord.Governance

open Concord.Python

/-- A reading of the clock: `date()` and `isoformat()`. -/
structure Moment where
  date : Int
  isoformat : Text
  deriving DecidableEq

/-- A row of `systems`. -/
structure System where
  id : Nat
  organizationId : Option Nat

/-- A row of `controls`. -/
structure Control where
  id : Nat
  identifier : Text

/-- The `impl_status` enumeration. -/
inductive ImplStatus
  | notImplemented | planned | partially | implemented | inherited | notApplicable
  deriving DecidableEq

def ImplStatus.text : ImplStatus → Text
  | .notImplemented => "not_implemented".toList
  | .planned => "planned".toList
  | .partially => "partial".toList
  | .implemented => "implemented".toList
  | .inherited => "inherited".toList
  | .notApplicable => "not_applicable".toList

/-- A row of `control_implementations`. -/
structure ControlImplementation where
  id : Nat
  systemId : Nat
  controlId : Nat
  status : ImplStatus
  nextAssessmentDue : Option Int
  deriving DecidableEq

def ControlImplementation.key (i : ControlImplementation) : Nat × Nat :=
  (i.systemId, i.controlId)

/-- A row of `evidence`. -/
structure Evidence where
  implementationId : Option Nat
  collectedOn : Option Int
  expiresOn : Option Int
  deriving DecidableEq

/-- The tables the monitors only read. -/
structure Inventory where
  systems : List System
  controls : List Control
  implementations : List ControlImplementation
  evidence : List Evidence
  /-- the primary key -/
  ids : (implementations.map ControlImplementation.id).Nodup
  /-- `uq_impl_system_control` -/
  keys : (implementations.map ControlImplementation.key).Nodup
  /-- `identifier` is unique -/
  identifiers : (controls.map Control.identifier).Nodup

def noInventory : Inventory where
  systems := []
  controls := []
  implementations := []
  evidence := []
  ids := List.nodup_nil
  keys := List.nodup_nil
  identifiers := List.nodup_nil

/-- The implementations of a scan: all of them, or those of one organization. -/
def Inventory.inScope (inv : Inventory) (orgId : Option Nat) : List ControlImplementation :=
  match orgId with
  | none => inv.implementations
  | some org => inv.implementations.filter fun i =>
      inv.systems.any fun s => s.id = i.systemId ∧ s.organizationId = some org

/-- The evidence of one implementation. Rows that hang off a capability have none. -/
def Inventory.evidenceFor (inv : Inventory) (impl : Nat) : List Evidence :=
  inv.evidence.filter fun e => e.implementationId = some impl

/-- `select(Control.id).where(Control.identifier == …)`. -/
def Inventory.controlIdOf (inv : Inventory) (identifier : Text) : Option Nat :=
  (inv.controls.find? fun c => c.identifier = identifier).map Control.id

theorem Inventory.inScope_sublist (inv : Inventory) (orgId : Option Nat) :
    (inv.inScope orgId).Sublist inv.implementations := by
  cases orgId with
  | none => exact List.Sublist.refl _
  | some org => exact List.filter_sublist

theorem Inventory.inScope_ids (inv : Inventory) (orgId : Option Nat) :
    ((inv.inScope orgId).map ControlImplementation.id).Nodup :=
  inv.ids.sublist ((inv.inScope_sublist orgId).map _)

theorem Inventory.inScope_keys (inv : Inventory) (orgId : Option Nat) :
    ((inv.inScope orgId).map ControlImplementation.key).Nodup :=
  inv.keys.sublist ((inv.inScope_sublist orgId).map _)

/-! ## Control tests -/

/-- `VALIDATION_STATUSES`. -/
inductive ValidationStatus
  | pass | warn | fail | notTested | manualReviewRequired | notApplicable
  deriving DecidableEq

def ValidationStatus.text : ValidationStatus → Text
  | .pass => "pass".toList
  | .warn => "warn".toList
  | .fail => "fail".toList
  | .notTested => "not_tested".toList
  | .manualReviewRequired => "manual_review_required".toList
  | .notApplicable => "not_applicable".toList

def validationStatuses : List ValidationStatus :=
  [.pass, .warn, .fail, .notTested, .manualReviewRequired, .notApplicable]

def parseStatus (text : Text) : Option ValidationStatus :=
  validationStatuses.find? fun s => s.text = text

/-- A row of `control_tests`. -/
structure ControlTest where
  id : Nat
  organizationId : Option Nat
  systemId : Option Nat
  controlId : Text
  name : Text
  connectorType : Option Text
  expected : Option Text
  checkKey : Option Text
  lastStatus : Option ValidationStatus
  lastTestedAt : Option Moment
  deriving DecidableEq

/-- What one resource reported. -/
structure ResourceFinding where
  resourceId : Text
  resourceType : Text
  verdict : Text
  observed : Text
  deriving DecidableEq

end Concord.Governance
