import Concord.Python.JsonEdit
import Concord.Python.Dict
import Concord.Python.Dates
import Mathlib.Data.List.Sort
import Mathlib.Data.List.Dedup

/-!
# Seeding the Security Decision Record

`merge_indicators`, `merge_requirements` and `seed_sdr` of `ccf/cr26/sdr.py`, over a stored
document that may be any JSON. The control half is derived from the SSP alone and is taken as
rendered. An indicator's facts are those `_derived_indicators` builds (`derivedFacts`); a
mapping without one of the four required arrays would raise, and no mapping it builds lacks
one (`FactMap`).
-/

namespace Concord.Cr26.Sdr

open Concord.Python

/-- `_implementation_status_enum()`, as vendored. -/
def statusEnum : List Text :=
  ["Implemented".toList, "Not Implemented".toList, "Partially Implemented".toList]

/-- `isinstance(item, str) and item.strip()`. -/
def isStatement : Json → Bool
  | .str s => strip s ≠ []
  | _ => false

def isStr : Json → Bool
  | .str _ => true
  | _ => false

/-- `_has_narrative`. -/
def hasNarrative : Option Json → Bool
  | some (.arr items) => items.any isStatement
  | _ => false

/-- `isinstance(status, str) and status in enum`. -/
def isStatus : Option Json → Bool
  | some (.str s) => s ∈ statusEnum
  | _ => false

/-! ## The derived facts -/

/-- A run of `ksi_validation_results`: the latest of an indicator. -/
structure ValidationResult where
  status : Text
  /-- `validated_at.isoformat()` -/
  validatedAt : Text
  validatedOn : Date
  source : Option Text
  evidenceRefs : List Text

/-- The latest review of an indicator. -/
structure AssessorReview where
  status : Text
  assessor : Option Text
  finding : Option Text

/-- A `KSI` with what is recorded of it. -/
structure Indicator where
  identifier : Text
  validationMethod : Option Text
  ruleKind : Text
  verdict : Option Text
  result : Option ValidationResult
  review : Option AssessorReview

/-- `_validation_statements`. -/
def validationStatements : Option ValidationResult → List Text
  | none => []
  | some r =>
    let statement := r.status ++ " at ".toList ++ r.validatedAt
    match orElse r.source none with
    | none => [statement]
    | some source => [statement ++ " (source: ".toList ++ source ++ [')']]

/-- `_assessment_statements`. -/
def assessmentStatements : Option AssessorReview → List Text
  | none => []
  | some r =>
    let statement := match orElse r.assessor none with
      | none => r.status
      | some assessor => r.status ++ " by ".toList ++ assessor
    match orElse r.finding none with
    | none => [statement]
    | some finding => [statement ++ ": ".toList ++ finding]

/-- `_tests`. -/
def tests (i : Indicator) : List Text :=
  let method := strip (i.validationMethod.getD [])
  let kind := strip i.ruleKind
  if method ≠ [] ∧ kind ≠ [] then
    [method ++ " validation (rule kind: ".toList ++ kind ++ [')']]
  else if method ≠ [] then [method ++ " validation".toList]
  else if kind ≠ [] then ["rule kind: ".toList ++ kind]
  else []

/-- `_evidence`. -/
def evidence : Option ValidationResult → List Json
  | none => []
  | some r => r.evidenceRefs.map fun ref => Json.ofItems
      [("evidenceDescription".toList, .str ref), ("lastUpdated".toList, .str r.validatedOn.isoformat)]

/-- `_implementation_status`. -/
def implementationStatus (verdict : Option Text) : Option Text :=
  if verdict = some "pass".toList then some "Implemented".toList
  else if verdict = some "fail".toList then some "Not Implemented".toList
  else none

def texts (items : List Text) : Json := .arr (items.map Json.str)

def derivedFacts (i : Indicator) : Json :=
  let facts := Json.ofItems
    [("ksiValidation".toList, texts (validationStatements i.result)),
     ("ksiAssessment".toList, texts (assessmentStatements i.review)),
     ("ksiTests".toList, texts (tests i)),
     ("ksiEvidence".toList, .arr (evidence i.result))]
  match implementationStatus i.verdict with
  | none => facts
  | some status => facts.set "ksiImplementationStatus".toList (.str status)

/-! ## `merge_indicators` -/

/-- `_REQUIRED_ARRAY_FIELDS`. -/
def requiredArrayFields : List Text :=
  ["ksiValidation".toList, "ksiAssessment".toList, "ksiTests".toList, "ksiEvidence".toList]

theorem derivedFacts_complete (i : Indicator) :
    ∀ field ∈ requiredArrayFields, ∃ items, (derivedFacts i).get? field = some (.arr items) := by
  intro field hfield
  unfold derivedFacts
  simp only [requiredArrayFields, List.mem_cons, List.not_mem_nil, or_false] at hfield
  cases implementationStatus i.verdict <;> obtain rfl | rfl | rfl | rfl := hfield <;>
    exact ⟨_, rfl⟩

/-- The facts by indicator, each with the four required arrays. -/
structure FactMap where
  facts : Dict Text Json
  complete : ∀ id f, facts.get? id = some f →
    ∀ field ∈ requiredArrayFields, ∃ items, f.get? field = some (.arr items)

/-- `_derived_indicators`. -/
def derivedIndicators (catalog : List Indicator) : FactMap where
  facts := Dict.ofPairs (catalog.map fun i => (i.identifier, derivedFacts i))
  complete id f h := by
    rw [Dict.get?_ofPairs] at h
    obtain ⟨p, hp, rfl⟩ := Option.map_eq_some_iff.mp h
    obtain ⟨i, -, rfl⟩ := List.mem_map.mp (List.mem_reverse.mp (List.mem_of_find?_eq_some hp))
    exact derivedFacts_complete i

/-- A `KeyError` of `merge_indicators`. -/
inductive FactError
  | missing (ksiId field : Text)
  | noneValue (ksiId field : Text)

/-- `entry["ksiId"]`, where it is usable. -/
def ksiId (entry : Json) : Option Text :=
  match entry.get? "ksiId".toList with
  | some (.str id) => if id = [] then none else some id
  | _ => none

def narrative (entry : Json) : Option Json := entry.get? "ksiImplementation".toList

/-- An authored entry: the last for its id, but none without a narrative after one with. -/
def readIndicator (byId : Dict Text Json) (entry : Json) : Dict Text Json :=
  match ksiId entry with
  | none => byId
  | some id =>
    if (byId.get? id).any (fun prior => hasNarrative (narrative prior)) &&
        !hasNarrative (narrative entry) then byId
    else byId.set id entry

def refreshField (id : Text) (facts out : Json) (field : Text) : Except FactError Json :=
  match facts.get? field with
  | none => .error (.missing id field)
  | some .null => .error (.noneValue id field)
  | some value => .ok (out.set field value)

def refreshStatus (facts out : Json) : Json :=
  match facts.get? "ksiImplementationStatus".toList with
  | none => out.pop "ksiImplementationStatus".toList
  | some .null => out.pop "ksiImplementationStatus".toList
  | some status => out.set "ksiImplementationStatus".toList status

/-- `_copied(carried) if isinstance(carried, list) else []`. -/
def carryArray (out : Json) (field : Text) : Json :=
  out.set field (.arr (Json.listOrEmpty (out.get? field)))

/-- The status of an entry whose indicator is not known. -/
def carryStatus (out : Json) : Json :=
  if isStatus (out.get? "ksiImplementationStatus".toList) then out
  else out.pop "ksiImplementationStatus".toList

/-- The entry of an indicator that has a narrative. -/
def mergedEntry (derived : Dict Text Json) (id : Text) (entry statements : Json) :
    Except FactError Json := do
  let out := (entry.set "ksiId".toList (.str id)).set "ksiImplementation".toList statements
  match derived.get? id with
  | some facts =>
    let out ← requiredArrayFields.foldlM (refreshField id facts) out
    return refreshStatus facts out
  | none => return carryStatus (requiredArrayFields.foldl carryArray out)

/-- One turn of the second loop; `none` is an omission. -/
def mergeIndicator (byId derived : Dict Text Json) (id : Text) : Except FactError (Option Json) :=
  match byId.get? id with
  | none => .ok none
  | some entry =>
    match narrative entry with
    | none => .ok none
    | some statements =>
      if hasNarrative (some statements) then
        (mergedEntry derived id entry statements).map some
      else .ok none

def Keys (d : Dict Text Json) : List Text := d.items.map Prod.fst

/-- `sorted(set(by_id) | set(derived))`. -/
def indicatorIds (byId derived : Dict Text Json) : List Text :=
  (Keys byId ++ Keys derived).dedup.insertionSort Json.keyLe

/-- `merge_indicators`: the merged entries, and the ids that are omitted. -/
def mergeIndicators (authored : List Json) (derived : Dict Text Json) :
    Except FactError (List Json × List Text) := do
  let byId := authored.foldl readIndicator .empty
  let turns ← (indicatorIds byId derived).mapM fun id =>
    (mergeIndicator byId derived id).map fun out => (id, out)
  return (turns.filterMap Prod.snd,
    turns.filterMap fun turn => if turn.2.isNone then some turn.1 else none)

/-! ## `merge_requirements` -/

abbrev Note := Text × Text

def requirementLocator (index : Nat) : Text :=
  "fedRampRequirements[".toList ++ natText index ++ [']']

def notAString : Text := "frrImplementation entry dropped: not a string".toList

/-- The status of an entry, and what is to be said of it. -/
def repairStatus (entry : Json) : Json × List Text :=
  match entry.get? "frrImplementationStatus".toList with
  | none => (entry, [])
  | some status =>
    if isStatus (some status) then (entry, [])
    else (entry.pop "frrImplementationStatus".toList,
      ["implementation status dropped: not a schema enum member".toList])

/-- `frrValidation` or `frrAssessment`. -/
def repairField (entry : Json) (field : Text) : Json × List Text :=
  match entry.get? field with
  | none => (entry, [])
  | some (.arr items) =>
    -- `cleaned == value`
    if items.all isStatement then (entry, [])
    else (entry.set field (.arr (items.filter isStatement)),
      if items.all isStr then [] else [field ++ " entry dropped: not a string".toList])
  | some _ => (entry.pop field, [field ++ " dropped: not a list".toList])

def repairEntry (entry : Json) : Json × List Text :=
  let status := repairStatus entry
  let validation := repairField status.1 "frrValidation".toList
  let assessment := repairField validation.1 "frrAssessment".toList
  (assessment.1, status.2 ++ validation.2 ++ assessment.2)

/-- One authored entry at its position: the id and the entry that is kept, and the notes. -/
def repairRequirement (raw : Json) (index : Nat) : Option (Text × Json) × List Note :=
  if !raw.isDict then (none, [(requirementLocator index, "not an object".toList)])
  else
    match Json.written (raw.get? "frrID".toList) with
    | none => (none, [(requirementLocator index, "no frrID".toList)])
    | some frrId =>
      match raw.get? "frrImplementation".toList with
      | some (.arr items) =>
        let statements := items.filter isStatement
        let dropped := if items.all isStr then [] else [(frrId, notAString)]
        if statements = [] then
          (none, (frrId, "no implementation statement".toList) :: dropped)
        else
          let repaired := repairEntry ((raw.set "frrID".toList (.str frrId)).set
            "frrImplementation".toList (.arr statements))
          (some (frrId, repaired.1), dropped ++ repaired.2.map fun reason => (frrId, reason))
      | _ => (none, [(frrId, "frrImplementation is not a list".toList)])

/-- What the loop has so far. -/
structure Requirements where
  rendered : List (Text × Json) := []
  notes : List Note := []

/-- One turn of the loop; the ids seen are those rendered. -/
def Requirements.add (out : Requirements) (item : Json × Nat) : Requirements :=
  match repairRequirement item.1 item.2 with
  | (none, notes) => { out with notes := out.notes ++ notes }
  | (some (frrId, entry), notes) =>
    let seen := out.rendered.any fun r => r.1 = frrId
    { rendered := out.rendered ++ [(frrId, entry)]
      notes := out.notes ++ notes ++
        if seen then [(frrId, "duplicate authored entry kept".toList)] else [] }

/-- `rendered.sort(key=lambda entry: entry["frrID"])`. -/
def sortRendered (rendered : List (Text × Json)) : List (Text × Json) :=
  rendered.insertionSort fun a b => Json.keyLe a.1 b.1

/-- `merge_requirements`. -/
def mergeRequirements (authored : List Json) : List Json × List Note :=
  let out := authored.zipIdx.foldl Requirements.add {}
  ((sortRendered out.rendered).map Prod.snd, out.notes)

/-! ## `seed_sdr` -/

/-- What `_rendered_controls` makes of the SSP project that was found. -/
structure RenderedControls where
  sspProjectId : Option Nat
  controls : List Json
  missingDescription : List Text
  droppedParts : List Text

/-- `SdrSeedResult`. -/
structure SdrSeedResult where
  document : Json
  omittedKsiIds : List Text
  sspProjectId : Option Nat
  controlsMissingDescription : List Text
  controlsWithDroppedParts : List Text
  renderedControlCount : Nat
  omittedRequirements : List Note

def indicatorsOf (document : Json) : List Json :=
  Json.listOrEmpty (document.get? "keySecurityIndicators".toList)

def requirementsOf (document : Json) : List Json :=
  Json.listOrEmpty (document.get? "fedRampRequirements".toList)

/-- `seed_sdr`, of the stored body. -/
def seedSdr (existing : Option Json) (ssp : RenderedControls) (derived : FactMap) :
    Except FactError SdrSeedResult := do
  let document := existing.getD (.obj [])
  let document := document.set "securityControls".toList (.arr ssp.controls)
  let merged ← mergeIndicators ((indicatorsOf document).filter Json.isDict) derived.facts
  let document := document.set "keySecurityIndicators".toList (.arr merged.1)
  let requirements := mergeRequirements (requirementsOf document)
  let document := document.set "fedRampRequirements".toList (.arr requirements.1)
  return {
    document := document
    omittedKsiIds := merged.2
    sspProjectId := ssp.sspProjectId
    controlsMissingDescription := ssp.missingDescription
    controlsWithDroppedParts := ssp.droppedParts
    renderedControlCount := ssp.controls.length
    omittedRequirements := requirements.2 }

end Concord.Cr26.Sdr
