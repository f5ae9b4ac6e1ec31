import Concord.Python.KeyOrder
import Concord.Python.Text
import Concord.Scoring.Derivation

/-!
# Composing an implementation statement

`ccf/ssp/statements.py`: `compose` builds the statement of a control from its responsibility, the
environment, the parameters, the captured configuration and what automated testing found.

Every statement, of whatever responsibility and style, carries the clause of its open findings
(`compose_discloses`): a failing check that has a name and a date is named with it.
-/

namespace Concord.Ssp

open Concord.Python
open Concord.Scoring

/-- `DRAFT_PREFIX`. -/
def draftPrefix : Text := "[DRAFT] ".toList

/-- An element of `part_narratives`. -/
structure Part where
  label : Text
  text : Text
  deriving DecidableEq

/-- `is_draft_narrative`: one part that carries the marker is enough. -/
def isDraftNarrative (parts : List Part) : Bool :=
  parts.any fun p => draftPrefix.isPrefixOf p.text

/-- `_has_narrative`. -/
def hasNarrative (parts : List Part) : Bool := parts.any fun p => !(strip p.text).isEmpty

/-- `STYLES`. -/
inductive Style
  | concise | standard | detailed
  deriving DecidableEq

/-- A captured value. -/
structure Capture where
  odpKey : Text
  value : Text
  connector : Text
  deriving DecidableEq

/-- A result of automated testing, with the POA&M that tracks it. -/
structure Finding where
  check : Text
  observedOn : Text
  poamId : Option Text := none
  deriving DecidableEq

def Finding.dated (f : Finding) : Bool := !f.check.isEmpty && !f.observedOn.isEmpty

/-- The arguments of `compose`. -/
structure Composition where
  controlId : Text
  requirement : Option Text
  responsibility : Responsibility
  source : Option Text
  environment : Text
  services : Text
  odpValues : List (Text × Text)
  captured : List Capture
  verified : List Finding
  failing : List Finding
  unassessed : List Finding
  style : Style
  includeCaptured : Bool
  markDraft : Bool
  responsibleRole : Option Text
  frequency : Option Text
  policyRef : Option Text
  crmRef : Option Text
  capabilityStatements : List (Text × Text)
  partialCapabilityStatements : List (Text × Text)

/-! ## The clauses -/

/-- `sep.join(parts)`. -/
def join (sep : Text) (parts : List Text) : Text := (parts.intersperse sep).flatten

/-- `s.rstrip(chars)`. -/
def rstripOf (chars s : Text) : Text := (s.reverse.dropWhile fun c => c ∈ chars).reverse

/-- `s.replace("_", " ")`. -/
def spaced (s : Text) : Text := s.map fun c => if c = '_' then ' ' else c

/-- `s.split(":", 1)[1]`. -/
def afterColon (s : Text) : Text := (s.dropWhile fun c => c ≠ ':').drop 1

/-- `source_label`. -/
def sourceLabel (source : Option Text) (environment : Text) : Text :=
  match source with
  | some s => if "vendor:".toList.isPrefixOf s then afterColon s else environment
  | none => environment

/-- `_params_clause`. -/
def paramsClause (odpValues : List (Text × Text)) (captured : List Capture) : Text :=
  let parts := ((odpValues.filter fun kv => !kv.2.isEmpty).map fun kv =>
      spaced kv.1 ++ ": ".toList ++ kv.2) ++
    captured.map fun c => spaced c.odpKey ++ " = ".toList ++ c.value ++
      " (captured from ".toList ++ c.connector ++ ")".toList
  if parts.isEmpty then []
  else " Organization-defined parameters — ".toList ++ join "; ".toList parts ++ ".".toList

/-- `_verification_clause`. -/
def verificationClause (verified : List Finding) : Text :=
  let parts := (verified.filter Finding.dated).map fun v =>
    v.check ++ " (".toList ++ v.observedOn ++ ")".toList
  if parts.isEmpty then []
  else " Verified by automated testing against the live environment — ".toList ++
    join "; ".toList parts ++ ".".toList

/-- What a finding is disclosed by: the check and the day it failed. -/
def Finding.line (f : Finding) : Text := f.check ++ " failed on ".toList ++ f.observedOn

def Finding.entry (f : Finding) : Text :=
  f.line ++ (match f.poamId with
    | some poam => ", tracked by POA&M #".toList ++ poam
    | none => ", with no POA&M on file".toList)

/-- `_gap_clause`. -/
def gapClause (failing unassessed : List Finding) : Text × Bool :=
  let parts := (failing.filter Finding.dated).map Finding.entry
  let unresolved := (unassessed.filter fun u => !u.check.isEmpty).map Finding.check
  ((if parts.isEmpty then []
    else " Open finding — automated testing against the live environment found ".toList ++
      join "; ".toList parts ++
      ". Until closed, this control is not fully operating as described above.".toList) ++
    (if unresolved.isEmpty then []
    else " Not machine-verified — Concord could not assess ".toList ++
      join "; ".toList unresolved ++
      " automatically, so this control's implementation rests on manual evidence.".toList),
    !parts.isEmpty || !unresolved.isEmpty)

/-- `DOMAINS`, the names. -/
def domainNames : List (Text × Text) :=
  [("AC".toList, "Access Control".toList), ("AT".toList, "Awareness and Training".toList),
    ("AU".toList, "Audit and Accountability".toList),
    ("CM".toList, "Configuration Management".toList),
    ("IA".toList, "Identification and Authentication".toList),
    ("IR".toList, "Incident Response".toList), ("MA".toList, "Maintenance".toList),
    ("MP".toList, "Media Protection".toList), ("PS".toList, "Personnel Security".toList),
    ("PE".toList, "Physical Protection".toList), ("RA".toList, "Risk Assessment".toList),
    ("CA".toList, "Security Assessment".toList),
    ("SC".toList, "System and Communications Protection".toList),
    ("SI".toList, "System and Information Integrity".toList)]

/-- `domain_name`. -/
def domainName (domain : Text) : Text :=
  ((domainNames.find? fun d => d.1 = domain).map Prod.snd).getD domain

/-- `GENERIC_ROLE_FLAG`. -/
def genericRoleFlag : Text := "Generic Role — No Named Party on File".toList

/-- `responsible_role_for`, where no role is named. -/
def responsibleRoleFor (domain : Text) : Text :=
  domainName domain ++ " Lead / System Owner — ".toList ++ genericRoleFlag

def nonBlank (s : Option Text) : Option Text :=
  match s with
  | some t => if (strip t).isEmpty then none else some (strip t)
  | none => none

/-- `_resolved_role`. -/
def resolvedRole (controlId : Text) (role : Option Text) : Text :=
  (nonBlank role).getD (responsibleRoleFor (controlId.takeWhile fun c => c ≠ '.'))

/-- `_resolved_frequency`. -/
def resolvedFrequency (frequency : Option Text) : Text :=
  (nonBlank frequency).getD "[ORGANIZATION-DEFINED: frequency]".toList

/-- `_policy_clause`. -/
def policyClause (policyRef : Option Text) : Text :=
  match nonBlank policyRef with
  | some p => " Governing policy/procedure: ".toList ++ p ++ ".".toList
  | none => []

/-- `_evidence_clause`. -/
def evidenceClause : Responsibility → Text
  | .shared => " Evidence: provider CRM plus the organization's configuration export.".toList
  | .customer => " Evidence: configuration export and screenshots from the tenant.".toList
  | _ => []

/-- `_inherited_evidence_clause`. -/
def inheritedEvidenceClause (provider : Text) (crmRef : Option Text) : Text × Bool :=
  match nonBlank crmRef with
  | some ref => (" Evidence: ".toList ++ provider ++ ("'s authorization package and customer " ++
      "responsibility matrix (reference: ").toList ++ ref ++
      ") are linked and retained as evidence.".toList, false)
  | none => (" Evidence: no leveraged-authorization or CRM reference is linked for ".toList ++
      provider ++ ("; this control cannot be considered evidenced until one is on " ++
      "file.").toList, true)

/-- `_SENTENCE_END_CHARS`. -/
def sentenceEndChars : Text := ".?!…".toList

/-- `_join_statements`. -/
def joinStatements (cleaned : List Text) : Text :=
  if cleaned.any fun s => s.any fun c => c ∈ sentenceEndChars then
    join " ".toList (cleaned.map fun s => s ++ ".".toList)
  else join "; ".toList cleaned ++ ".".toList

/-- `<=` of pairs of strings. -/
def pairLe (a b : Text × Text) : Prop :=
  if a.1 = b.1 then Json.keyLe a.2 b.2 else Json.keyLe a.1 b.1

instance : DecidableRel pairLe := fun a b => by
  unfold pairLe
  infer_instance

/-- `_usable_statements`. -/
def usableStatements (statements : List (Text × Text)) : List Text :=
  let ordered := ((statements.filter fun ks => !(strip ks.2).isEmpty).map fun ks =>
    (ks.1, strip ks.2)).insertionSort pairLe
  ordered.foldl (fun out ks =>
    let cleaned := strip (rstripOf sentenceEndChars ks.2)
    if cleaned.isEmpty || cleaned ∈ out then out else out ++ [cleaned]) []

/-- `capability_clause`. -/
def capabilityClause (full partially : List (Text × Text)) (residual : Bool) : Text :=
  let full := usableStatements full
  let partially := usableStatements partially
  (if full.isEmpty then []
    else " ".toList ++
      (if residual then "The organization's residual implementation".toList
        else "Implementation".toList) ++ ": ".toList ++ joinStatements full) ++
  (if partially.isEmpty then []
    else " ".toList ++
      (if residual then "The organization's partial residual implementation".toList
        else "Partial implementation".toList) ++ ": ".toList ++ joinStatements partially)

/-! ## The statement -/

/-- `obj`: what the control asks for. -/
def Composition.obj (c : Composition) : Text :=
  rstripOf ".".toList (strip (orElse c.requirement (some "the control requirement".toList)|>.getD
    []))

/-- `_finish`. -/
def Composition.finish (c : Composition) (text : Text) (needsReview : Bool) (evidence : Text)
    (includeRoleFreq : Bool) : Text × Bool :=
  let caps := if c.includeCaptured then c.captured else []
  let params := if c.style = .concise then [] else paramsClause c.odpValues caps
  let roleFreq := if includeRoleFreq then
      " Responsible role: ".toList ++ resolvedRole c.controlId c.responsibleRole ++ ".".toList ++
        " Frequency: ".toList ++ resolvedFrequency c.frequency ++ ".".toList
    else []
  let gaps := gapClause c.failing c.unassessed
  let text := text ++ (params ++ roleFreq ++
    (verificationClause (if c.includeCaptured then c.verified else []) ++ gaps.1 ++ evidence ++
      policyClause c.policyRef))
  let needsReview := needsReview || gaps.2
  (if needsReview && c.markDraft then draftPrefix ++ text else text, needsReview)

/-- The body of a statement, what it asks for review by itself, its evidence, and whether the
role and the frequency are named. -/
structure Body where
  text : Text
  needsReview : Bool
  evidence : Text
  includeRoleFreq : Bool

/-- The branches of `compose`. -/
def Composition.body (c : Composition) : Body :=
  match c.responsibility with
  | .notApplicable =>
    ⟨"Control ".toList ++ c.controlId ++ (" is not applicable to this system's authorization " ++
      "boundary and scope.").toList, false, [], false⟩
  | .inherited =>
    let provider := sourceLabel c.source c.environment
    let evidence := inheritedEvidenceClause provider c.crmRef
    ⟨"Control ".toList ++ c.controlId ++ " is inherited from ".toList ++ provider ++
      ". The organization relies on the provider's authorized implementation to ".toList ++
      c.obj ++ ". Customer responsibility: ".toList ++
      resolvedRole c.controlId c.responsibleRole ++ " monitors ".toList ++ provider ++
      ("'s continued authorization and performs any residual configuration or hybrid actions " ++
        "needed to ").toList ++ c.obj ++ " that ".toList ++ provider ++
      " does not fully cover.".toList ++
      capabilityClause c.capabilityStatements c.partialCapabilityStatements true,
      evidence.2, evidence.1, true⟩
  | .shared =>
    ⟨"Control ".toList ++ c.controlId ++ " is a shared responsibility on ".toList ++
      c.environment ++ (". The platform provides the underlying capability, and the " ++
        "organization configures ").toList ++ c.services ++ " to ".toList ++ c.obj ++ ".".toList ++
      capabilityClause c.capabilityStatements c.partialCapabilityStatements false,
      true, evidenceClause .shared, true⟩
  | .customer | .unknown =>
    ⟨(if c.style = .concise then
        "The organization configures ".toList ++ c.services ++ " on ".toList ++ c.environment
      else
        "The organization implements Control ".toList ++ c.controlId ++ " on ".toList ++
          c.environment ++ " by configuring ".toList ++ c.services) ++
      " to ".toList ++ c.obj ++ ".".toList ++
      capabilityClause c.capabilityStatements c.partialCapabilityStatements false,
      true, evidenceClause .customer, true⟩

/-- `compose`. -/
def compose (c : Composition) : Text × Bool :=
  c.finish c.body.text c.body.needsReview c.body.evidence c.body.includeRoleFreq

/-! ## What every statement discloses -/

theorem infix_join (sep : Text) {parts : List Text} {p : Text} (h : p ∈ parts) :
    p <:+: join sep parts := by
  induction parts with
  | nil => cases h
  | cons q parts ih =>
    cases parts with
    | nil =>
      rw [List.mem_singleton.mp h]
      show q <:+: q ++ []
      exact (List.prefix_append q []).isInfix
    | cons r parts =>
      show p <:+: q ++ (sep ++ join sep (r :: parts))
      rcases List.mem_cons.mp h with rfl | h
      · exact (List.prefix_append p _).isInfix
      · exact (ih h).trans ((List.suffix_append sep _).isInfix.trans
          (List.suffix_append q _).isInfix)

theorem gapClause_discloses {failing : List Finding} (unassessed : List Finding) {f : Finding}
    (hf : f ∈ failing) (hdated : f.dated = true) :
    f.line <:+: (gapClause failing unassessed).1 := by
  have hmem : f.entry ∈ (failing.filter Finding.dated).map Finding.entry :=
    List.mem_map_of_mem (List.mem_filter.mpr ⟨hf, hdated⟩)
  have hne : ((failing.filter Finding.dated).map Finding.entry).isEmpty = false := by
    rw [List.isEmpty_eq_false_iff]
    exact List.ne_nil_of_mem hmem
  have hline : f.line <:+: f.entry := (List.prefix_append f.line _).isInfix
  unfold gapClause
  dsimp only
  rw [hne, if_neg Bool.false_ne_true, List.append_assoc, List.append_assoc]
  refine hline.trans ((infix_join "; ".toList hmem).trans ?_)
  exact (List.prefix_append _ _).isInfix.trans (List.suffix_append _ _).isInfix

/-- **No statement hides a finding**: whatever the responsibility and the options, the composed
text names every failing check that has a name and a date. -/
theorem compose_discloses (c : Composition) {f : Finding} (hf : f ∈ c.failing)
    (hdated : f.dated = true) : f.line <:+: (compose c).1 := by
  have hgap := gapClause_discloses c.unassessed hf hdated
  have htail : ∀ a b d e g : Text,
      f.line <:+: a ++ (b ++ (d ++ (gapClause c.failing c.unassessed).1 ++ e ++ g)) := by
    intro a b d e g
    refine hgap.trans ?_
    refine (List.suffix_append d _).isInfix.trans ?_
    refine (List.prefix_append _ e).isInfix.trans ?_
    refine (List.prefix_append _ g).isInfix.trans ?_
    exact (List.suffix_append b _).isInfix.trans (List.suffix_append a _).isInfix
  unfold compose Composition.finish
  dsimp only
  split
  · exact (htail _ _ _ _ _).trans (List.suffix_append draftPrefix _).isInfix
  · exact htail _ _ _ _ _

end Concord.Ssp
