import Mathlib.Data.List.Dedup
import Mathlib.Data.List.Sort
import Concord.Python.Dict
import Concord.Governance.Inventory

/-!
# KSI rules

`ccf/fedramp20x/validation.py`: a KSI carries a rule, a JSON object that the catalog loader
takes as it is, and `evaluate_rule` evaluates it against what is known of one system. A rule
of kind `any_of` has rules below it; every other kind reads the context.

A key that is missing from the object has the value `rule.get` falls back to. `str.upper` and
`str.__repr__` are taken as they come (`Strings`).
-/

namespace Concord.Fedramp20x

open Concord.Python Concord.Governance

/-- The two string methods whose Unicode tables do not matter here. -/
structure Strings where
  upper : Text → Text
  repr : Text → Text

/-- `rule["kind"]`. -/
inductive Kind
  | manual | anyOf | controlState | controlAny | evidencePresent | dependencyAuthorized
  | profileField | connectorCapture
  | unknown (name : Text)
  deriving DecidableEq

def Kind.text : Kind → Text
  | .manual => "manual".toList
  | .anyOf => "any_of".toList
  | .controlState => "control_state".toList
  | .controlAny => "control_any".toList
  | .evidencePresent => "evidence_present".toList
  | .dependencyAuthorized => "dependency_authorized".toList
  | .profileField => "profile_field".toList
  | .connectorCapture => "connector_capture".toList
  | .unknown name => name

/-- A rule. -/
inductive Rule
  | mk (kind : Kind) (states controls : List Text) (rules : List Rule) (field : Text)
      (captures : List Text)

structure Dependency where
  name : Text
  fedrampStatus : Option Text

/-- What the evaluator knows of a system. -/
structure SystemContext where
  implStatus : Dict Text Text
  controlEvidence : Dict Text Bool
  evidenceRefs : Dict Text (List Text)
  dependencies : List Dependency
  profile : Dict Text (Option Text)
  captures : List Text
  controlTests : Dict Text Text

inductive Confidence
  | low | medium | high
  deriving DecidableEq

structure Verdict where
  status : ValidationStatus
  confidence : Confidence
  source : Text
  evidenceRefs : List Text := []
  failureReason : Option Text := none
  remediationHint : Option Text := none
  assessorReviewRequired : Bool := false

/-- `VERDICT_RANK`. -/
def verdictRank : ValidationStatus → Nat
  | .pass => 4
  | .warn => 3
  | .manualReviewRequired => 2
  | .fail => 1
  | .notApplicable | .notTested => 0

/-- `_ACCEPTABLE_DEFAULT`. -/
def acceptableDefault : List Text := ["implemented".toList, "inherited".toList]

/-- The `([A-Z]{2,3})-?0*([0-9]+)` of `normalize_control`, where it matches: the letters, and
the digits without their leading zeros. -/
def matchControl (base : Text) : Option (Text × Text) :=
  let letters := base.takeWhile fun c => 'A' ≤ c ∧ c ≤ 'Z'
  let rest := base.drop letters.length
  let digits := (if rest.head? = some '-' then rest.tail else rest).takeWhile Char.isDigit
  if (letters.length = 2 ∨ letters.length = 3) ∧ digits ≠ [] then
    let significant := digits.dropWhile (· = '0')
    some (letters, if significant = [] then ['0'] else significant)
  else none

/-- `normalize_control`. -/
def normalizeControl (lib : Strings) (cid : Text) : Text :=
  let base := (lib.upper (strip cid)).takeWhile (· ≠ '(')
  match matchControl base with
  | some (letters, digits) => letters ++ '-' :: digits
  | none => base

/-- `sep.join(items)`. -/
def join (sep : Text) (items : List Text) : Text := (items.intersperse sep).flatten

/-- `repr` of a list of strings. -/
def reprList (lib : Strings) (items : List Text) : Text :=
  '[' :: join ", ".toList (items.map lib.repr) ++ [']']

def textLe (s t : Text) : Prop := s = t ∨ Json.keyLt s t = true

instance : DecidableRel textLe := fun s t => inferInstanceAs (Decidable (s = t ∨ _))

/-- `sorted(set(items))`. -/
def sortedSet (items : List Text) : List Text := items.dedup.insertionSort textLe

def truthy (t : Option Text) : Bool := (orElse t none).isSome

/-! ## The kinds -/

section Kinds

variable (lib : Strings) (ctx : SystemContext)

def manualVerdict : Verdict where
  status := .manualReviewRequired
  confidence := .low
  source := Kind.manual.text
  failureReason := some "Requires assessor review — no deterministic signal available.".toList
  assessorReviewRequired := true

/-- `_status_ok`. -/
def statusOk (status : Option Text) (states : List Text) : Bool :=
  status.any fun s => s ∈ states

/-- `ctx.control_tests.get(c) == "pass"`. -/
def testedOk (c : Text) : Bool := ctx.controlTests.get? c = some "pass".toList

def controlOk (states : List Text) (c : Text) : Bool :=
  statusOk (ctx.implStatus.get? c) states || testedOk ctx c

/-- `present`. -/
def present (controls : List Text) : Dict Text (Option Text) :=
  Dict.ofPairs (controls.map fun c => (c, ctx.implStatus.get? c))

/-- The references of a control rule: statuses, then tests. -/
def controlRefs (controls : List Text) : List Text :=
  (present ctx controls).items.filterMap (fun p =>
      if truthy p.2 then some (p.1 ++ ':' :: p.2.getD []) else none) ++
    (sortedSet (controls.filter (testedOk ctx))).map fun c => c ++ ":test:pass".toList

/-- `ok`. -/
def enoughControls (kind : Kind) (satisfied missing : List Text) : Bool :=
  if kind = .controlState then missing.length = 0 else satisfied.length > 0

/-- `control_state`, which needs all of its controls, and `control_any`. -/
def controlVerdict (kind : Kind) (states controls : List Text) : Verdict :=
  let refs := controlRefs ctx controls
  let satisfied := controls.filter (controlOk ctx states)
  let missing := controls.filter fun c => !controlOk ctx states c
  let hint := "Implement or inherit ".toList ++ join ", ".toList missing ++ ['.']
  if enoughControls kind satisfied missing then
    { status := .pass, confidence := .medium, source := kind.text, evidenceRefs := refs }
  else if satisfied ≠ [] then
    { status := .warn
      confidence := .medium
      source := kind.text
      evidenceRefs := refs
      failureReason := some ("Not all supporting controls satisfied: missing ".toList ++
        reprList lib missing ++ ['.'])
      remediationHint := some hint }
  else
    { status := .fail
      confidence := .medium
      source := kind.text
      evidenceRefs := refs
      failureReason := some ("Supporting controls not implemented: ".toList ++
        reprList lib missing ++ ['.'])
      remediationHint := some hint }

/-- `evidence_present`. -/
def evidenceVerdict (controls : List Text) : Verdict :=
  let current := controls.filter fun c => ctx.controlEvidence.get? c = some true
  if current ≠ [] then
    { status := .pass
      confidence := .medium
      source := Kind.evidencePresent.text
      evidenceRefs := controls.flatMap fun c => (ctx.evidenceRefs.get? c).getD [] }
  else
    { status := .fail
      confidence := .medium
      source := Kind.evidencePresent.text
      failureReason := some ("No current evidence for ".toList ++ reprList lib controls ++ ['.'])
      remediationHint :=
        some "Collect and attach evidence to a supporting control.".toList }

def Dependency.authorized (d : Dependency) : Bool := d.fedrampStatus = some "authorized".toList

def Dependency.label (d : Dependency) : Text :=
  d.name ++ ':' :: d.fedrampStatus.getD "None".toList

/-- `dependency_authorized`. -/
def dependencyVerdict : Verdict :=
  let unauth := (ctx.dependencies.filter fun d => !d.authorized).map Dependency.name
  let refs := ctx.dependencies.map Dependency.label
  if ctx.dependencies = [] then
    { status := .manualReviewRequired
      confidence := .low
      source := Kind.dependencyAuthorized.text
      failureReason := some "No dependency inventory recorded.".toList
      remediationHint := some "Record underlying IaaS/PaaS/SaaS dependencies.".toList
      assessorReviewRequired := true }
  else if unauth = [] then
    { status := .pass, confidence := .high, source := Kind.dependencyAuthorized.text
      evidenceRefs := refs }
  else
    { status := .fail
      confidence := .high
      source := Kind.dependencyAuthorized.text
      evidenceRefs := refs
      failureReason := some ("Non-authorized dependencies: ".toList ++ reprList lib unauth ++
        ['.'])
      remediationHint :=
        some "Replace with, or obtain authorization for, these services.".toList }

/-- `profile_field`. -/
def profileVerdict (field : Text) : Verdict :=
  if truthy ((ctx.profile.get? field).getD none) then
    { status := .pass, confidence := .medium, source := Kind.profileField.text
      evidenceRefs := ["profile.".toList ++ field] }
  else
    { status := .fail
      confidence := .medium
      source := Kind.profileField.text
      failureReason := some ("CSO profile field '".toList ++ field ++ "' is not set.".toList)
      remediationHint := some ("Complete the '".toList ++ field ++
        "' field on the 20x profile.".toList) }

/-- `connector_capture`. -/
def captureVerdict (captures : List Text) : Verdict :=
  if captures ≠ [] ∧ captures ⊆ ctx.captures then
    { status := .pass, confidence := .high, source := Kind.connectorCapture.text
      evidenceRefs := sortedSet captures }
  else
    { status := .manualReviewRequired
      confidence := .low
      source := Kind.connectorCapture.text
      failureReason := some "No connector capture data available.".toList
      remediationHint := some "Configure a cloud connector or import capture data.".toList
      assessorReviewRequired := true }

def unknownVerdict (kind : Kind) : Verdict where
  status := .manualReviewRequired
  confidence := .low
  source := Kind.manual.text
  failureReason := some ("Unknown rule kind '".toList ++ kind.text ++ "'.".toList)
  assessorReviewRequired := true

/-- `any_of` of nothing. -/
def noSubRules : Verdict where
  status := .manualReviewRequired
  confidence := .low
  source := Kind.anyOf.text
  failureReason := some "any_of rule has no sub-rules.".toList
  assessorReviewRequired := true

/-- `max(sub, key=...)`: the first of the best. -/
def best (v : Verdict) (rest : List Verdict) : Verdict :=
  rest.foldl (fun m v => if verdictRank m.status < verdictRank v.status then v else m) v

/-- Every kind but `any_of`. -/
def leafVerdict (kind : Kind) (states controls : List Text) (field : Text)
    (captures : List Text) : Verdict :=
  let states := if states = [] then acceptableDefault else states
  let controls := controls.map (normalizeControl lib)
  match kind with
  | .manual => manualVerdict
  | .controlState | .controlAny => controlVerdict lib ctx kind states controls
  | .evidencePresent => evidenceVerdict lib ctx controls
  | .dependencyAuthorized => dependencyVerdict lib ctx
  | .profileField => profileVerdict ctx field
  | .connectorCapture => captureVerdict ctx captures
  | .anyOf => noSubRules
  | .unknown _ => unknownVerdict kind

mutual

/-- `evaluate_rule`. -/
def evaluateRule : Rule → Verdict
  | .mk kind states controls rules field captures =>
    if kind = .anyOf then
      match evaluateRules rules with
      | [] => noSubRules
      | v :: rest => best v rest
    else leafVerdict lib ctx kind states controls field captures

/-- `[evaluate_rule(r, ctx) for r in rules]`. -/
def evaluateRules : List Rule → List Verdict
  | [] => []
  | r :: rules => evaluateRule r :: evaluateRules rules

end

end Kinds

end Concord.Fedramp20x
