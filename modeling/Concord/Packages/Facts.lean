import Mathlib.Algebra.GroupWithZero.Nat
import Concord.Python.Dict
import Concord.Python.Text

/-!
# Authorization package facts

`ccf/packages/service.py`, the captured half: a package is the list of facts its system
showed when it was exported. A fact is a value and a digest under a type and a key.

The live system is what the queries of `capture_facts` answer. A source that raises is a
slice that is left out, as `source` leaves it out; the readiness score is the answer of
`score_system`, which is read here only as the text it is stored as.
-/

namespace Concord.Packages

open Concord.Python

/-- `fact_type`. -/
inductive FactType where
  | ksi | control | evidence | dependency | risk | poam | readiness
  deriving DecidableEq

/-- What a fact says. -/
structure FactValue where
  value : Option Text
  digest : Option Text
  deriving DecidableEq

abbrev FactKey := FactType × Text

/-- `_fact`. -/
structure Fact where
  factType : FactType
  factKey : Text
  value : Option Text
  digest : Option Text := none
  metadata : List (Text × Text) := []

def Fact.key (f : Fact) : FactKey := (f.factType, f.factKey)

def Fact.says (f : Fact) : FactValue := ⟨f.value, f.digest⟩

/-! ## The live system -/

structure KSIState where
  ksiId : Nat
  status : Text

/-- With the identifier of its control, when it has one. -/
structure ControlImplementation where
  id : Nat
  control : Option Text
  status : Text

structure EvidenceVersion where
  id : Nat
  sha256 : Text

structure EvidenceObject where
  id : Nat
  title : Text
  status : Text
  currentVersionId : Option Nat

structure FedRAMPDependency where
  name : Text
  fedrampStatus : Text

structure Risk where
  id : Nat
  title : Text
  status : Text

structure Poam where
  id : Nat
  severity : Text
  status : Text

/-- What the sources of one system answer now. -/
structure Live where
  ksis : Except Text (List KSIState)
  controls : Except Text (List ControlImplementation)
  evidence : Except Text (List EvidenceObject × List EvidenceVersion)
  dependencies : Except Text (List FedRAMPDependency)
  risks : Except Text (List Risk)
  poams : Except Text (List Poam)
  readiness : Except Text (Option Text)

/-- `_ksi_facts`. -/
def ksiFacts (rows : List KSIState) : List Fact :=
  rows.map fun r => { factType := .ksi, factKey := natText r.ksiId, value := some r.status }

/-- `_control_facts`. -/
def controlFacts (rows : List ControlImplementation) : List Fact :=
  rows.map fun r =>
    { factType := .control
      factKey := r.control.getD ("impl-".toList ++ natText r.id)
      value := some r.status }

/-- `_evidence_facts`. -/
def evidenceFacts (objs : List EvidenceObject) (versions : List EvidenceVersion) :
    List Fact :=
  objs.map fun o =>
    { factType := .evidence
      factKey := natText o.id
      value := some o.status
      digest := o.currentVersionId.bind fun i =>
        (versions.find? fun v => v.id = i).map EvidenceVersion.sha256
      metadata := [("title".toList, o.title)] }

/-- `_dependency_facts`. -/
def dependencyFacts (rows : List FedRAMPDependency) : List Fact :=
  rows.map fun r => { factType := .dependency, factKey := r.name, value := some r.fedrampStatus }

/-- `_risk_facts`. -/
def riskFacts (rows : List Risk) : List Fact :=
  rows.map fun r =>
    { factType := .risk, factKey := natText r.id, value := some r.status
      metadata := [("title".toList, r.title)] }

/-- `_poam_facts`. -/
def poamFacts (rows : List Poam) : List Fact :=
  rows.map fun r =>
    { factType := .poam, factKey := natText r.id, value := some r.status
      metadata := [("severity".toList, r.severity)] }

/-- `_readiness_fact`. -/
def readinessFact (pct : Option Text) : List Fact :=
  match pct with
  | some p => [{ factType := .readiness, factKey := "readiness_pct".toList, value := some p }]
  | none => []

/-- `source`: a slice that fails is skipped. -/
def source {α : Type} (rows : Except Text α) (facts : α → List Fact) : List Fact :=
  match rows with
  | .ok rows => facts rows
  | .error _ => []

/-- `capture_facts`. -/
def captureFacts (live : Live) : List Fact :=
  source live.ksis ksiFacts ++ source live.controls controlFacts ++
    source live.evidence (fun rows => evidenceFacts rows.1 rows.2) ++
    source live.dependencies dependencyFacts ++ source live.risks riskFacts ++
    source live.poams poamFacts ++ source live.readiness readinessFact

/-! ## Fact maps -/

abbrev FactMap := Dict FactKey FactValue

/-- `{(fact_type, fact_key): {"value": ..., "digest": ...}}`. -/
def factMap (facts : List Fact) : FactMap := Dict.ofPairs (facts.map fun f => (f.key, f.says))

/-- `==` of two fact maps. -/
def SameFacts (a b : FactMap) : Prop := ∀ k, a.get? k = b.get? k

/-! ## What a diff records -/

/-- The changes of one fact type. -/
structure Bucket where
  added : List (Text × FactValue) := []
  removed : List (Text × FactValue) := []
  changed : List (Text × FactValue × FactValue) := []

abbrev Changes := Dict FactType Bucket

/-- `bucket(ftype)`. -/
def Changes.bucket (changes : Changes) (t : FactType) : Bucket := (changes.get? t).getD {}

/-- `bucket(ftype)`, and what is done with it. -/
def Changes.update (changes : Changes) (t : FactType) (f : Bucket → Bucket) : Changes :=
  changes.set t (f (changes.bucket t))

/-- One item of `b`, in the first loop of `_diff_maps`. -/
def diffPresent (a : FactMap) (changes : Changes) (item : FactKey × FactValue) : Changes :=
  match a.get? item.1 with
  | none => changes.update item.1.1 fun b => { b with added := b.added ++ [(item.1.2, item.2)] }
  | some was =>
    if was ≠ item.2 then
      changes.update item.1.1 fun b =>
        { b with changed := b.changed ++ [(item.1.2, was, item.2)] }
    else changes

/-- One item of `a`, in the second. -/
def diffAbsent (b : FactMap) (changes : Changes) (item : FactKey × FactValue) : Changes :=
  if (b.get? item.1).isNone then
    changes.update item.1.1 fun b => { b with removed := b.removed ++ [(item.1.2, item.2)] }
  else changes

/-- `_diff_maps`. -/
def diffMaps (a b : FactMap) : Changes :=
  a.items.foldl (diffAbsent b) (b.items.foldl (diffPresent a) Dict.empty)

structure Summary where
  added : Nat
  removed : Nat
  changed : Nat
  total : Nat

def Changes.count (changes : Changes) (size : Bucket → Nat) : Nat :=
  (changes.items.map fun p => size p.2).sum

/-- `_summary`. -/
def summary (changes : Changes) : Summary :=
  let added := changes.count fun b => b.added.length
  let removed := changes.count fun b => b.removed.length
  let changed := changes.count fun b => b.changed.length
  { added := added, removed := removed, changed := changed,
    total := added + removed + changed }

end Concord.Packages
