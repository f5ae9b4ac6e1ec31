import Concord.Governance.Register
import Concord.Python.Dates
import Concord.Ssp.Statements

/-!
# Writing the statements of a project

`generate_statements` of `ccf/governance/automation.py`: every entry of an SSP project gets the
statement that `compose` gives it, unless a person has cleared what is stored. An entry is
classified as a whole (`handling`): one part with the marker makes all of its parts a draft, and
what is written replaces all of them.

So no call destroys authored text exactly when no entry holds a draft beside an authored part
(`authored_kept_iff`).
-/

namespace Concord.Ssp

open Concord.Python
open Concord.Scoring

/-! ## What a call reads -/

/-- A row of `ssp_control_entries`. -/
structure Entry where
  controlId : Text
  nistId : Option Text
  domain : Option Text
  requirement : Option Text
  responsibleRole : Option Text
  status : List Text
  parts : List Part
  odpValues : List (Text × Text)
  deriving DecidableEq

/-- A project: an entry per control (`uq_ssp_project_control`). -/
structure Project where
  systemId : Option Nat
  organizationId : Option Nat
  entries : List Entry
  nodup : (entries.map Entry.controlId).Nodup

/-- A row of `systems`. -/
structure System where
  id : Nat
  organizationId : Option Nat
  deleted : Bool
  deriving DecidableEq

/-- A row of `control_tests`, with its last result. -/
structure ControlTest where
  id : Nat
  systemId : Option Nat
  controlId : Text
  controlIds : List Text
  checkKey : Option Text
  name : Text
  lastStatus : Option Governance.ValidationStatus
  lastTestedAt : Option Date

/-- A row of `derivation`. -/
structure DerivationRow where
  responsibility : Option Responsibility
  source : Option Text
  deriving DecidableEq

/-- What is read of a vendor. -/
structure VendorTerms where
  authorization : Option Text
  reviewFrequency : Option Text
  deriving DecidableEq

/-- What is read of a policy. -/
structure PolicyTerms where
  name : Text
  reviewFrequency : Option Text
  deriving DecidableEq

/-- A capability that covers a control. -/
structure CapabilityRow where
  key : Text
  statement : Text
  status : Text
  deriving DecidableEq

/-- What a call reads beside the project: the tables of the platform, and the lookups the call
builds, under their names. -/
structure Surroundings where
  environment : Text
  connectorBacked : Bool
  manualEvidenceNote : Text
  servicesFor : Option Text → Text
  practicesForCheck : Text → List Text
  canonicalize : Text → Option Text
  derivation : Text → Option DerivationRow
  systems : List System
  tests : List ControlTest
  poamByTest : Nat → Option Nat
  capsByNist : Text → List Capture
  capsByControl : Text → List CapabilityRow
  vendorsByName : Text → Option VendorTerms
  policyByControl : Text → Option PolicyTerms
  aiConfigured : Bool
  draftNarrative : Entry → Option Text

/-- The keyword arguments. -/
structure Options where
  useAi : Bool := false
  style : Style := .standard
  includeCaptured : Bool := true
  markDraft : Bool := true
  overwriteAuthored : Bool := false
  deriving DecidableEq

/-! ## The evidence of a control -/

/-- `evidenced_controls`. -/
def evidencedControls (controlId : Text) (controlIds : List Text) : List Text :=
  let primary := strip controlId
  controlIds.foldl (fun out raw =>
    if strip raw = [] ∨ strip raw ∈ out then out else out ++ [strip raw])
    (if primary = [] then [] else [primary])

/-- `practices_for_check`, of a test that may have no check. -/
def Surroundings.practices (w : Surroundings) (t : ControlTest) : List Text :=
  match orElse t.checkKey none with
  | some key => w.practicesForCheck key
  | none => []

/-- The controls a verdict that is no pass reaches, in both vocabularies. -/
def Surroundings.attributed (w : Surroundings) (t : ControlTest) : List Text :=
  evidencedControls t.controlId t.controlIds ++ w.practices t

/-- The controls a pass credits: the first of each vocabulary. -/
def Surroundings.credited (w : Surroundings) (t : ControlTest) : List Text :=
  evidencedControls t.controlId [] ++ (w.practices t).take 1

/-- `system_scope`, of a system that is not deleted. -/
def Project.covers (p : Project) (s : System) : Bool :=
  (match p.systemId with
    | some id => s.id = id
    | none => s.organizationId = p.organizationId) && !s.deleted

def Surroundings.scoped (w : Surroundings) (p : Project) : List ControlTest :=
  w.tests.filter fun t => w.systems.any fun s => p.covers s && t.systemId = some s.id

def Surroundings.finding (w : Surroundings) (t : ControlTest) : Finding where
  check := t.name
  observedOn := (t.lastTestedAt.map Date.isoformat).getD []
  poamId := (w.poamByTest t.id).map natText

/-- The rows filed under a control, once for each time a test names it. -/
def filed (names : ControlTest → List Text) (row : ControlTest → Finding)
    (tests : List ControlTest) (controlId : Text) : List Finding :=
  tests.flatMap fun t => ((names t).filter (· = controlId)).map fun _ => row t

def ControlTest.passing (t : ControlTest) : Bool := t.lastStatus = some .pass

def ControlTest.unjudged (t : ControlTest) : Bool := t.lastStatus = some .manualReviewRequired

/-- A test that found the control not operating as expected. -/
def ControlTest.contrary (t : ControlTest) : Bool :=
  t.lastStatus = some .fail || t.lastStatus = some .warn

/-- `verified_by_control`. -/
def Surroundings.verifiedByControl (w : Surroundings) (p : Project) : Text → List Finding :=
  filed w.credited (fun t => { w.finding t with poamId := none })
    ((w.scoped p).filter ControlTest.passing)

/-- `failing_by_control`. -/
def Surroundings.failingByControl (w : Surroundings) (p : Project) : Text → List Finding :=
  filed w.attributed w.finding ((w.scoped p).filter ControlTest.contrary)

/-- `unassessed_by_control`. -/
def Surroundings.unassessedByControl (w : Surroundings) (p : Project) : Text → List Finding :=
  filed w.attributed (fun t => { w.finding t with poamId := none })
    ((w.scoped p).filter ControlTest.unjudged)

/-! ## The statement of an entry -/

section

variable (w : Surroundings) (p : Project) (o : Options) (e : Entry)

def Surroundings.responsibility : Responsibility :=
  (((w.derivation e.controlId).bind DerivationRow.responsibility).getD .customer)

def Surroundings.source : Option Text := (w.derivation e.controlId).bind DerivationRow.source

/-- `_cap_key`. -/
def Surroundings.capKey : Option Text :=
  (w.canonicalize e.controlId).or (w.canonicalize (e.nistId.getD []))

def Surroundings.capRows : List CapabilityRow :=
  match w.capKey e with
  | some key => if p.systemId.isSome then w.capsByControl key else []
  | none => []

/-- The capabilities of one kind: those whose status is `partial`, or the others. -/
def Surroundings.capStatements (partially : Bool) : List (Text × Text) :=
  ((w.capRows p e).filter fun c => (c.status = "partial".toList) = partially).map fun c =>
    (c.key, c.statement)

def Surroundings.vendor : Option VendorTerms :=
  match w.source e with
  | some s => if "vendor:".toList.isPrefixOf s then w.vendorsByName (afterColon s) else none
  | none => none

/-- The call of `compose`. -/
def Surroundings.composition : Composition where
  controlId := e.controlId
  requirement := e.requirement
  responsibility := w.responsibility e
  source := w.source e
  environment := w.environment
  services := w.servicesFor e.domain
  odpValues := e.odpValues
  captured := w.capsByNist (e.nistId.getD [])
  verified := w.verifiedByControl p e.controlId
  failing := w.failingByControl p e.controlId
  unassessed := w.unassessedByControl p e.controlId
  style := o.style
  includeCaptured := o.includeCaptured
  markDraft := o.markDraft
  responsibleRole := e.responsibleRole
  frequency :=
    ((w.vendor e).bind fun v => orElse v.reviewFrequency none).or
      ((w.policyByControl e.controlId).bind PolicyTerms.reviewFrequency)
  policyRef := (w.policyByControl e.controlId).map PolicyTerms.name
  crmRef := ((w.vendor e).bind fun v => orElse v.authorization none).map strip
  capabilityStatements := w.capStatements p e false
  partialCapabilityStatements := w.capStatements p e true

def Surroundings.aiText : Option Text :=
  if o.useAi && w.aiConfigured &&
      decide (w.responsibility e ∈ [.customer, .shared, .unknown]) then
    orElse (w.draftNarrative e) none
  else none

/-- The statement before the caveat. The text of the AI takes the place of what was composed, the
capabilities apart. -/
def Surroundings.drafted : Text × Bool :=
  let composed := compose (w.composition p o e)
  match w.aiText o e with
  | some ai => (draftPrefix ++ ai ++
      capabilityClause (w.capStatements p e false) (w.capStatements p e true) false, composed.2)
  | none => composed

def Surroundings.statement : Text × Bool :=
  let (text, needsReview) := w.drafted p o e
  if w.connectorBacked then (text, needsReview)
  else
    ((if o.markDraft && !draftPrefix.isPrefixOf text then draftPrefix ++ text else text) ++
      " ".toList ++ w.manualEvidenceNote, true)

end

def implementedStatus : Text := "Implemented".toList

def partiallyImplemented : List Text := ["Partially Implemented".toList]

def Surroundings.backedStatus (w : Surroundings) (e : Entry) : List Text :=
  let platformSourced := (w.source e).any fun s => "platform:".toList.isPrefixOf s
  if !w.connectorBacked && platformSourced && implementedStatus ∈ e.status then
    partiallyImplemented
  else e.status

def Surroundings.contradicted (w : Surroundings) (p : Project) (e : Entry) : Bool :=
  decide (w.failingByControl p e.controlId ≠ []) && implementedStatus ∈ w.backedStatus e

def Surroundings.statusOf (w : Surroundings) (p : Project) (e : Entry) : List Text :=
  if w.contradicted p e then partiallyImplemented else w.backedStatus e

def Surroundings.write (w : Surroundings) (p : Project) (o : Options) (e : Entry) : Entry :=
  { e with
    status := w.statusOf p e
    parts := [⟨"Implementation".toList, (w.statement p o e).1⟩] }

/-! ## The call -/

/-- What is done with an entry. -/
inductive Handling
  | generated | preserved | replaced
  deriving DecidableEq

def handling (o : Options) (e : Entry) : Handling :=
  if hasNarrative e.parts && !isDraftNarrative e.parts then
    if o.overwriteAuthored then .replaced else .preserved
  -- also where an authored part stands beside a draft
  else .generated

def Surroundings.generateEntry (w : Surroundings) (p : Project) (o : Options) (e : Entry) :
    Entry :=
  if handling o e = .preserved then e else w.write p o e

/-- What the call returns. -/
structure Report where
  entries : Nat
  drafts : Nat
  aiUsed : Nat
  manualEvidenceRequired : Nat
  statusDowngradedByFindings : Nat
  preservedAuthored : List Text
  replacedAuthored : List Text
  controlsWithOpenFindings : Nat
  controlsNotMachineVerified : Nat
  deriving DecidableEq

@[simp] theorem generateEntry_controlId (w : Surroundings) (p : Project) (o : Options) (e : Entry) :
    (w.generateEntry p o e).controlId = e.controlId := by
  unfold Surroundings.generateEntry
  split <;> rfl

theorem nodup_generateEntry (w : Surroundings) (p : Project) (o : Options) :
    ((p.entries.map (w.generateEntry p o)).map Entry.controlId).Nodup := by
  have hsame : (p.entries.map (w.generateEntry p o)).map Entry.controlId =
      p.entries.map Entry.controlId := by
    rw [List.map_map]
    exact List.map_congr_left fun e _ => generateEntry_controlId w p o e
  rw [hsame]
  exact p.nodup

/-- `generate_statements`: the loop handles each entry by itself. -/
def Surroundings.generateStatements (w : Surroundings) (p : Project) (o : Options) :
    Report × Project :=
  let written := p.entries.filter fun e => handling o e ≠ .preserved
  ({ entries := p.entries.length
     drafts := (written.filter fun e => (w.statement p o e).2).length
     aiUsed := (written.filter fun e => (w.aiText o e).isSome).length
     manualEvidenceRequired := if w.connectorBacked then 0 else written.length
     statusDowngradedByFindings := (written.filter (w.contradicted p)).length
     preservedAuthored :=
       (p.entries.filter fun e => handling o e = .preserved).map Entry.controlId
     replacedAuthored :=
       (p.entries.filter fun e => handling o e = .replaced).map Entry.controlId
     controlsWithOpenFindings :=
       (p.entries.filter fun e => w.failingByControl p e.controlId ≠ []).length
     controlsNotMachineVerified :=
       (p.entries.filter fun e => w.unassessedByControl p e.controlId ≠ []).length },
   { p with
     entries := p.entries.map (w.generateEntry p o)
     nodup := nodup_generateEntry w p o })

/-! ## Authored text -/

/-- A part a person has written, or cleared: it says something, without the marker. -/
def Part.authored (q : Part) : Bool :=
  !(strip q.text).isEmpty && !draftPrefix.isPrefixOf q.text

def Project.texts (p : Project) (controlId : Text) : List Text :=
  (p.entries.filter fun e => e.controlId = controlId).flatMap fun e => e.parts.map Part.text

/-- Every authored text is still a text of its entry. -/
def KeepsAuthored (before after : Project) : Prop :=
  ∀ e ∈ before.entries, ∀ q ∈ e.parts, q.authored = true → q.text ∈ after.texts e.controlId

/-- Every entry that lost an authored text is named. -/
def NamesReplaced (before after : Project) (report : Report) : Prop :=
  ∀ e ∈ before.entries, ∀ q ∈ e.parts, q.authored = true → q.text ∉ after.texts e.controlId →
    e.controlId ∈ report.replacedAuthored

/-- What the caller is promised of authored narrative. -/
def Respects (w : Surroundings) (p : Project) (o : Options) : Prop :=
  let (report, after) := w.generateStatements p o
  if o.overwriteAuthored then NamesReplaced p after report else KeepsAuthored p after

def Entry.mixed (e : Entry) : Bool := isDraftNarrative e.parts && e.parts.any Part.authored

theorem eq_of_controlId {p : Project} {e e' : Entry} (he : e ∈ p.entries) (he' : e' ∈ p.entries)
    (h : e.controlId = e'.controlId) : e = e' :=
  List.inj_on_of_nodup_map p.nodup he he' h

theorem mem_texts_generate {w : Surroundings} {p : Project} {o : Options} {e : Entry}
    (he : e ∈ p.entries) {text : Text} :
    text ∈ (w.generateStatements p o).2.texts e.controlId ↔
      text ∈ (w.generateEntry p o e).parts.map Part.text := by
  constructor
  · intro h
    obtain ⟨e', he', htext⟩ := List.mem_flatMap.mp h
    obtain ⟨hmem, hid⟩ := List.mem_filter.mp he'
    obtain ⟨d, hd, rfl⟩ := List.mem_map.mp hmem
    have hsame : d.controlId = e.controlId :=
      (generateEntry_controlId w p o d).symm.trans (of_decide_eq_true hid)
    rw [eq_of_controlId hd he hsame] at htext
    exact htext
  · intro h
    refine List.mem_flatMap.mpr ⟨w.generateEntry p o e, List.mem_filter.mpr ⟨?_, ?_⟩, h⟩
    · exact List.mem_map_of_mem he
    · exact decide_eq_true (generateEntry_controlId w p o e)

theorem hasNarrative_of_authored {e : Entry} {q : Part} (hq : q ∈ e.parts)
    (hauth : q.authored = true) : hasNarrative e.parts = true := by
  rw [Part.authored, Bool.and_eq_true] at hauth
  exact List.any_eq_true.mpr ⟨q, hq, hauth.1⟩

theorem handling_of_cleared {e : Entry} {q : Part} (o : Options) (hq : q ∈ e.parts)
    (hauth : q.authored = true) (hclear : e.mixed = false) :
    handling o e = if o.overwriteAuthored then .replaced else .preserved := by
  have hany : e.parts.any Part.authored = true := List.any_eq_true.mpr ⟨q, hq, hauth⟩
  have hdraft : isDraftNarrative e.parts = false := by
    rw [Entry.mixed, hany, Bool.and_true] at hclear
    exact hclear
  rw [handling, hasNarrative_of_authored hq hauth, hdraft]
  rfl

theorem handling_of_draft {e : Entry} (o : Options) (h : isDraftNarrative e.parts = true) :
    handling o e = .generated := by
  rw [handling, h, Bool.not_true, Bool.and_false]
  rfl

theorem respects_of_clear (w : Surroundings) {p : Project} (o : Options)
    (h : ∀ e ∈ p.entries, e.mixed = false) : Respects w p o := by
  show if o.overwriteAuthored then _ else _
  split
  case isTrue hover =>
    intro e he q hq hauth _
    refine List.mem_map_of_mem (List.mem_filter.mpr ⟨he, decide_eq_true ?_⟩)
    rw [handling_of_cleared o hq hauth (h e he), if_pos hover]
  case isFalse hover =>
    intro e he q hq hauth
    have hkept : w.generateEntry p o e = e := by
      rw [Surroundings.generateEntry, handling_of_cleared o hq hauth (h e he), if_neg hover,
        if_pos rfl]
    refine (mem_texts_generate he).mpr ?_
    rw [hkept]
    exact List.mem_map_of_mem hq

theorem not_respects_of_mixed {w : Surroundings} {p : Project} {o : Options} {e : Entry}
    (he : e ∈ p.entries) (hmixed : e.mixed = true)
    (hmark : draftPrefix.isPrefixOf (w.statement p o e).1 = true) : ¬Respects w p o := by
  rw [Entry.mixed, Bool.and_eq_true] at hmixed
  obtain ⟨q, hq, hauth⟩ := List.any_eq_true.mp hmixed.2
  have hdraft := handling_of_draft o hmixed.1
  have hlost : q.text ∉ (w.generateStatements p o).2.texts e.controlId := by
    rw [mem_texts_generate he, Surroundings.generateEntry, hdraft, if_neg (by decide)]
    intro hmem
    have htext : q.text = (w.statement p o e).1 := List.mem_singleton.mp hmem
    rw [← htext] at hmark
    rw [Part.authored, hmark, Bool.not_true, Bool.and_false] at hauth
    exact Bool.false_ne_true hauth
  show ¬if o.overwriteAuthored then _ else _
  split
  case isTrue =>
    intro hnames
    obtain ⟨d, hd, hid⟩ := List.mem_map.mp (hnames e he q hq hauth hlost)
    obtain ⟨hmem, hreplaced⟩ := List.mem_filter.mp hd
    rw [eq_of_controlId hmem he hid, hdraft] at hreplaced
    exact absurd hreplaced (by decide)
  case isFalse =>
    exact fun hkeeps => hlost (hkeeps e he q hq hauth)

def unexamined : Surroundings where
  environment := "the environment".toList
  connectorBacked := true
  manualEvidenceNote := []
  servicesFor := fun _ => "its services".toList
  practicesForCheck := fun _ => []
  canonicalize := fun _ => none
  derivation := fun _ => none
  systems := []
  tests := []
  poamByTest := fun _ => none
  capsByNist := fun _ => []
  capsByControl := fun _ => []
  vendorsByName := fun _ => none
  policyByControl := fun _ => none
  aiConfigured := false
  draftNarrative := fun _ => none

theorem unexamined_marks (p : Project) (o : Options) (hmark : o.markDraft = true) (e : Entry) :
    draftPrefix.isPrefixOf (unexamined.statement p o e).1 = true := by
  have hplain : unexamined.aiText o e = none := by
    rw [Surroundings.aiText, show unexamined.aiConfigured = false from rfl, Bool.and_false,
      Bool.false_and, if_neg Bool.false_ne_true]
  have hsame : unexamined.statement p o e = compose (unexamined.composition p o e) := by
    rw [Surroundings.statement, Surroundings.drafted, hplain]
    rfl
  rw [hsame]
  have hreview : (unexamined.composition p o e).body.needsReview = true := rfl
  have hshown : (unexamined.composition p o e).markDraft = true := hmark
  rw [compose, Composition.finish, hreview, hshown, Bool.true_or, Bool.true_and, if_pos rfl]
  exact List.isPrefixOf_iff_prefix.mpr (List.prefix_append _ _)

/-- **Authored text survives every call**, with or without the authority to overwrite, if and
only if no entry of the project holds a draft beside an authored part. -/
theorem authored_kept_iff (p : Project) (overwrite : Bool) :
    (∀ (w : Surroundings) (o : Options), o.overwriteAuthored = overwrite → Respects w p o) ↔
      ∀ e ∈ p.entries, e.mixed = false := by
  constructor
  · intro h e he
    rw [Bool.eq_false_iff]
    intro hmixed
    let o : Options := { overwriteAuthored := overwrite }
    exact not_respects_of_mixed he hmixed (unexamined_marks p o rfl e) (h unexamined o rfl)
  · exact fun h w o _ => respects_of_clear w o h

def halfReviewed : Project where
  systemId := some 1
  organizationId := some 1
  entries := [{
    controlId := "AC.L2-3.1.1".toList
    nistId := some "AC-2".toList
    domain := some "AC".toList
    requirement := some "Limit system access to authorized users.".toList
    responsibleRole := none
    status := []
    parts := [⟨"a".toList, "[DRAFT] Accounts are managed centrally.".toList⟩,
      ⟨"b".toList, "Access is reviewed by the ISSO each quarter.".toList⟩]
    odpValues := [] }]
  nodup := List.nodup_singleton _

/-- The reviewed part is lost, and nobody is told. -/
theorem halfReviewed_not_kept :
    ¬Respects unexamined halfReviewed {} ∧
      (unexamined.generateStatements halfReviewed {}).1.replacedAuthored = [] :=
  ⟨not_respects_of_mixed List.mem_cons_self (by decide) (unexamined_marks _ {} rfl _),
    by decide⟩

end Concord.Ssp
