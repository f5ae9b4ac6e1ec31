import Concord.Cr26.Store
import Concord.Packs.Catalog
import Concord.Python.Dates

/-!
# The reports of an incident

`seed_incident` of `src/ccf/cr26/incident.py`. An incident is reported up to three times, each
report under a key of its own. A seed keeps what the report says, and fills it up from the
closest report that was filed before. Texts are taken to fit their columns.

`incident_continuity`: in every run of seeds and edits, a seed writes this report and no other,
and says nothing that neither of the two says. Space around a tracking id makes no other
incident, and is not kept around the URI.
-/

namespace Concord.Cr26.Incident

open Concord.Python Concord.Base
open Concord.Governance (Raised)
open Concord.Packs.Catalog (Printer)

/-- `_LIFECYCLE`. -/
def lifecycle : List Text := ["Initial".toList, "Ongoing".toList, "Final".toList]

/-- `_CARRY_FIELDS`. -/
def carryFields : List Text :=
  ["federalIncidentCoordinator".toList, "incidentDescription".toList, "timeline".toList,
    "potentialImpact".toList, "functionalImpact".toList, "recoveryPlan".toList,
    "affectedAgencies".toList, "observedActivity".toList, "indicatorsOfCompromise".toList,
    "relatedCveIds".toList, "rootCause".toList, "responseAndRecoveryActivities".toList]

/-- `f"{tracking_id}/{report_type}"`. -/
def documentKey (trackingId reportType : Text) : Text := trackingId ++ '/' :: reportType

/-- `_validate_tracking_id`. -/
def validateTrackingId (providerTrackingId reportType : Text) : Except Raised Text :=
  let stripped := strip providerTrackingId
  if stripped = [] then .error (.valueError "providerTrackingId must not be blank".toList)
  else if '/' ∈ stripped then
    .error (.valueError ("providerTrackingId must not contain '/': document_key is ".toList ++
      "'\x7bproviderTrackingId\x7d/\x7breportType\x7d', and a '/' inside the tracking id ".toList ++
      "would make that key ambiguous".toList))
  else
    let keyLength := stripped.length + 1 + reportType.length
    if KeyedFilings.documentKeyMaxLength < keyLength then
      .error (.valueError ("providerTrackingId is too long: the resulting document_key '".toList ++
        documentKey stripped reportType ++ "' would be ".toList ++ natText keyLength ++
        " characters, and document_key is limited to ".toList ++
        natText KeyedFilings.documentKeyMaxLength))
    else .ok stripped

/-! ## What was resolved when -/

def number (digits : Text) : Option Nat :=
  if digits.all Char.isDigit then some (Nat.ofDigitChars 10 digits 0) else none

/-- `YYYY-MM-DD`, and a day. -/
def isDay : Text → Bool
  | [y₁, y₂, y₃, y₄, '-', m₁, m₂, '-', d₁, d₂] =>
    match number [y₁, y₂, y₃, y₄], number [m₁, m₂], number [d₁, d₂] with
    | some year, some month, some day => (Date.mk? year month day).toOption.isSome
    | _, _, _ => false
  | _ => false

/-- `HH:MM`. -/
def hoursMinutes : Text → Option (Nat × Nat)
  | [h₁, h₂, ':', m₁, m₂] => do
    let hours ← number [h₁, h₂]
    let minutes ← number [m₁, m₂]
    return (hours, minutes)
  | _ => none

/-- `Z`, or an offset of less than a day. -/
def isOffset : Text → Bool
  | ['Z'] => true
  | sign :: zone =>
    (sign = '+' || sign = '-') && (hoursMinutes zone).any fun t => 60 * t.1 + t.2 < 1440
  | [] => false

def isFractionOffset : Text → Bool
  | '.' :: c :: rest => c.isDigit && isOffset (rest.dropWhile Char.isDigit)
  | rest => isOffset rest

/-- `_parses_as_iso8601_instant`, of a text. -/
def parsesAsInstant (value : Text) : Bool :=
  isDay (value.take 10) && (value.drop 10).take 1 = ['T'] &&
    (hoursMinutes ((value.drop 11).take 5)).any (fun t => t.1 < 24 && t.2 < 60) &&
    (value.drop 16).take 1 = [':'] && ((value.drop 17).take 2).length = 2 &&
    (number ((value.drop 17).take 2)).any (· < 60) && isFractionOffset (value.drop 19)

/-- `_resolved_at_problem`. -/
def resolvedAtProblem (printer : Printer) (resolvedAt : Option Json) : Option (Text × Text) :=
  match resolvedAt with
  | none | some .null =>
    some ("resolvedAt".toList,
      "no authored resolvedAt -- required for a Final report, and the seeder ".toList ++
        "never invents or carries one forward".toList)
  | some value =>
    if (value.str?).any parsesAsInstant then none
    else some ("resolvedAt".toList, "authored resolvedAt ".toList ++ printer.repr value ++
      " does not parse as an ISO-8601 instant -- the schema's date-time format is not ".toList ++
      "enforced here, so this document would validate while asserting a resolution time ".toList ++
      "that is not one".toList)

/-! ## The seed -/

/-- The reports that come before one, the latest first. -/
def before (reportType : Text) : List Text :=
  if reportType ∈ lifecycle then (lifecycle.take (lifecycle.idxOf reportType)).reverse else []

def filed (s : KeyedFilings) (trackingId candidate : Text) : Bool :=
  (s.documents .incident (documentKey trackingId candidate)).isSome

/-- `_prior_report`: its key, and what it says. -/
def priorReport (s : KeyedFilings) (trackingId reportType : Text) : Option Text × Document :=
  match (before reportType).find? (filed s trackingId) with
  | some candidate =>
    (some (documentKey trackingId candidate),
      s.current .incident (documentKey trackingId candidate))
  | none => (none, .empty)

/-- `document`, `carried_fields` and `missing_advisory`. -/
structure Carried where
  document : Document
  carriedFields : List Text
  missingAdvisory : List Text

def uriField : Text := "certificationPackageOverviewUri".toList

/-- The URI, of this report or else the prior one. -/
def carryUri (current prior : Document) (out : Carried) : Carried :=
  match Json.written (current.get? uriField), Json.written (prior.get? uriField) with
  | some uri, _ => { out with document := out.document.set uriField (.str uri) }
  | none, some uri =>
    { out with
      document := out.document.set uriField (.str uri)
      carriedFields := out.carriedFields ++ [uriField] }
  | none, none => out

/-- `resolvedAt`, of this report. -/
def keepResolvedAt (current : Document) (out : Carried) : Carried :=
  match current.get? "resolvedAt".toList with
  | some resolvedAt =>
    { out with document := out.document.set "resolvedAt".toList resolvedAt }
  | none => out

/-- A field, of this report or else the prior one. -/
def carryField (current prior : Document) (out : Carried) (field : Text) : Carried :=
  match current.content field, prior.content field with
  | some value, _ => { out with document := out.document.set field value }
  | none, some value =>
    { out with
      document := out.document.set field value
      carriedFields := out.carriedFields ++ [field] }
  | none, none => { out with missingAdvisory := out.missingAdvisory ++ [field] }

def scaffold (trackingId reportType : Text) : Carried where
  document := (Document.empty.set "reportType".toList (.str reportType)).set
    "providerTrackingId".toList (.str trackingId)
  carriedFields := []
  missingAdvisory := []

def carry (current prior : Document) (trackingId reportType : Text) : Carried :=
  carryFields.foldl (carryField current prior)
    (keepResolvedAt current (carryUri current prior (scaffold trackingId reportType)))

def missingRequired (printer : Printer) (document : Document) (reportType : Text) :
    List (Text × Text) :=
  (if (document.get? uriField).isNone then
    [(uriField, ("no authored certificationPackageOverviewUri on this report or the most ".toList ++
      "recent prior report -- never invented".toList))]
  else []) ++
  (if reportType = "Final".toList then
    (resolvedAtProblem printer (document.get? "resolvedAt".toList)).toList
  else [])

/-- `IncidentSeedResult`. -/
structure IncidentSeedResult where
  document : Document
  documentKey : Text
  carriedFrom : Option Text
  carriedFields : List Text
  missingRequired : List (Text × Text)
  missingAdvisory : List Text

/-- `seed_incident`. -/
def seedIncident (printer : Printer) (s : KeyedFilings) (providerTrackingId reportType : Text) :
    Except Raised (KeyedFilings × IncidentSeedResult) := do
  let trackingId ← validateTrackingId providerTrackingId reportType
  let key := documentKey trackingId reportType
  let prior := priorReport s trackingId reportType
  let carried := carry (s.current .incident key) prior.2 trackingId reportType
  let s' ← s.put .incident key carried.document
  return (s',
    { document := carried.document
      documentKey := key
      carriedFrom := if carried.carriedFields = [] then none else prior.1
      carriedFields := carried.carriedFields
      missingRequired := missingRequired printer carried.document reportType
      missingAdvisory := carried.missingAdvisory })

/-! ## Runs -/

/-- What is done to the reports of a system: one is seeded, or edited. -/
inductive Action
  | seed (providerTrackingId reportType : Text)
  | edit (key : Text) (document : Document)

def step (printer : Printer) (s : KeyedFilings) : Action → KeyedFilings
  | .seed providerTrackingId reportType =>
    (seedIncident printer s providerTrackingId reportType).toOption.elim s Prod.fst
  | .edit key document => (s.put .incident key document).toOption.getD s

/-- The `resolvedAt` of a report, going by the edits of it alone. -/
def editedResolvedAt (s₀ : KeyedFilings) (key : Text) (as : List Action) : Option Json :=
  as.foldl (fun resolvedAt a =>
    match a with
    | .edit key' document =>
      if key' = key ∧ s₀.deleted = false then document.get? "resolvedAt".toList else resolvedAt
    | .seed _ _ => resolvedAt) ((s₀.current .incident key).get? "resolvedAt".toList)

/-- The closest report that was filed before: none of those between the two was. -/
def Closest (s : KeyedFilings) (trackingId reportType : Text) (document : Document) : Prop :=
  ∃ first earlier between later,
    lifecycle = first ++ earlier :: between ++ reportType :: later ∧
      s.documents .incident (documentKey trackingId earlier) = some document ∧
      ∀ r ∈ between, s.documents .incident (documentKey trackingId r) = none

/-- A report says what it said, or else what the closest one says. -/
structure Carries (own : Document) (closest : Document → Prop) (trackingId reportType : Text)
    (document : Document) : Prop where
  identity : document.get? "providerTrackingId".toList = some (.str trackingId) ∧
    document.get? "reportType".toList = some (.str reportType)
  resolvedAt : document.get? "resolvedAt".toList = own.get? "resolvedAt".toList
  carried : ∀ field ∈ carryFields, ∀ value, document.get? field = some value ↔
    own.content field = some value ∨ own.content field = none ∧
      ∃ prior, closest prior ∧ prior.content field = some value
  uri : ∀ value, document.get? uriField = some value ↔ ∃ uri, value = .str uri ∧
    (Json.written (own.get? uriField) = some uri ∨ Json.written (own.get? uriField) = none ∧
      ∃ prior, closest prior ∧ Json.written (prior.get? uriField) = some uri)
  nothingElse : ∀ field ∉ carryFields, field ∉ [uriField, "resolvedAt".toList,
    "reportType".toList, "providerTrackingId".toList] → document.get? field = none

/-- A seed writes one report, and another seed of it, on the same reports of the incident, the
same again. -/
structure Continues (printer : Printer) (s s' : KeyedFilings)
    (providerTrackingId reportType : Text) : Prop where
  written : ∃ document,
    s'.documents .incident (documentKey (strip providerTrackingId) reportType) = some document ∧
      Carries (s.current .incident (documentKey (strip providerTrackingId) reportType))
        (Closest s (strip providerTrackingId) reportType) (strip providerTrackingId) reportType
        document ∧
      ∀ t t' r, (∀ other, t.documents .incident (documentKey (strip providerTrackingId) other) =
          s'.documents .incident (documentKey (strip providerTrackingId) other)) →
        seedIncident printer t providerTrackingId reportType = .ok (t', r) →
        t'.documents .incident (documentKey (strip providerTrackingId) reportType) = some document
  others : ∀ kind key,
    ¬(kind = .incident ∧ key = documentKey (strip providerTrackingId) reportType) →
      s'.documents kind key = s.documents kind key

/-- Continuity, at the end of a run. -/
structure Continuity (printer : Printer) (s₀ : KeyedFilings) (as : List Action)
    (s : KeyedFilings) : Prop where
  resolvedAt : ∀ key, (s.current .incident key).get? "resolvedAt".toList =
    editedResolvedAt s₀ key as
  seeds : ∀ providerTrackingId reportType s' r,
    seedIncident printer s providerTrackingId reportType = .ok (s', r) →
      Continues printer s s' providerTrackingId reportType
  keys : ∀ providerTrackingId reportType providerTrackingId' reportType' out out',
    seedIncident printer s providerTrackingId reportType = .ok out →
      seedIncident printer s providerTrackingId' reportType' = .ok out' →
        (out.2.documentKey = out'.2.documentKey ↔
          strip providerTrackingId = strip providerTrackingId' ∧ reportType = reportType')

/-! ## What a seed says -/

def setSome (d : Document) (field : Text) (value : Option Json) : Document :=
  value.elim d (d.set field)

theorem get?_setSome (d : Document) (field : Text) (value : Option Json) (k : Text) :
    (setSome d field value).get? k = if k = field then value.or (d.get? k) else d.get? k := by
  cases value with
  | none => rw [Option.none_or, ite_self]; rfl
  | some v => exact d.get?_set field v k

section Carry

variable {current prior : Document} {trackingId reportType : Text}

def fieldValue (current prior : Document) (field : Text) : Option Json :=
  (current.content field).or (prior.content field)

def uriValue (current prior : Document) : Option Json :=
  ((Json.written (current.get? uriField)).or (Json.written (prior.get? uriField))).map .str

theorem carryField_document (out : Carried) (field : Text) :
    (carryField current prior out field).document =
      setSome out.document field (fieldValue current prior field) := by
  unfold carryField fieldValue
  cases current.content field with
  | some v => rfl
  | none => cases prior.content field <;> rfl

theorem carryUri_document (out : Carried) :
    (carryUri current prior out).document =
      setSome out.document uriField (uriValue current prior) := by
  unfold carryUri uriValue
  cases Json.written (current.get? uriField) with
  | some uri => rfl
  | none => cases Json.written (prior.get? uriField) <;> rfl

theorem keepResolvedAt_document (out : Carried) :
    (keepResolvedAt current out).document =
      setSome out.document "resolvedAt".toList (current.get? "resolvedAt".toList) := by
  unfold keepResolvedAt
  cases current.get? "resolvedAt".toList <;> rfl

theorem carry_document (current prior : Document) (trackingId reportType : Text) :
    (carry current prior trackingId reportType).document =
      carryFields.foldl (fun d field => setSome d field (fieldValue current prior field))
        (setSome (setSome (scaffold trackingId reportType).document uriField
          (uriValue current prior)) "resolvedAt".toList (current.get? "resolvedAt".toList)) := by
  have hfold : ∀ (fields : List Text) (out : Carried),
      (fields.foldl (carryField current prior) out).document =
        fields.foldl (fun d field => setSome d field (fieldValue current prior field))
          out.document :=
    fun fields out =>
      (List.foldl_hom Carried.document fun out field =>
        (carryField_document out field).symm).symm
  rw [carry, hfold, keepResolvedAt_document, carryUri_document]

theorem carryFields_ne : ∀ k ∈ carryFields, k ≠ "resolvedAt".toList ∧ k ≠ uriField ∧
    k ≠ "providerTrackingId".toList ∧ k ≠ "reportType".toList := by
  decide

theorem get?_scaffold (trackingId reportType k : Text) :
    (scaffold trackingId reportType).document.get? k =
      if k = "providerTrackingId".toList then some (.str trackingId)
      else if k = "reportType".toList then some (.str reportType) else none := by
  rw [scaffold, Document.get?_set, Document.get?_set, Document.get?_empty]

theorem get?_carry (current prior : Document) (trackingId reportType k : Text) :
    (carry current prior trackingId reportType).document.get? k =
      if k ∈ carryFields then fieldValue current prior k
      else if k = "resolvedAt".toList then current.get? k
      else if k = uriField then uriValue current prior
      else (scaffold trackingId reportType).document.get? k := by
  rw [carry_document]
  refine (get?_foldl id (fieldValue current prior) (fun d field k => get?_setSome d field _ k)
    carryFields _ k).trans ?_
  simp only [id_eq, get?_setSome, get?_scaffold]
  -- no field is written twice
  by_cases hk : k ∈ carryFields
  · obtain ⟨hresolved, huri, htracking, htype⟩ := carryFields_ne k hk
    rw [if_pos hk, if_pos hk, if_neg hresolved, if_neg huri, if_neg htracking, if_neg htype,
      Option.or_none]
  · rw [if_neg hk, if_neg hk]
    by_cases hresolved : k = "resolvedAt".toList
    · subst hresolved
      rw [if_pos rfl, if_pos rfl, if_neg (by decide), if_neg (by decide), if_neg (by decide),
        Option.or_none]
    · rw [if_neg hresolved, if_neg hresolved]
      by_cases huri : k = uriField
      · subst huri
        rw [if_pos rfl, if_pos rfl, if_neg (by decide), if_neg (by decide), Option.or_none]
      · rw [if_neg huri, if_neg huri]

theorem content_eq_some {d : Document} {field : Text} {value : Json} :
    d.content field = some value ↔ d.get? field = some value ∧ hasContent value = true := by
  rw [Document.content, Option.filter_eq_some_iff]

theorem fieldValue_eq_some {field : Text} {value : Json} :
    fieldValue current prior field = some value ↔ current.content field = some value ∨
      current.content field = none ∧ prior.content field = some value := by
  rw [fieldValue, Option.or_eq_some_iff]

/-- **A second seed writes the same.** -/
theorem carry_again (current prior : Document) (trackingId reportType : Text) :
    (carry (carry current prior trackingId reportType).document prior trackingId
      reportType).document = (carry current prior trackingId reportType).document := by
  have hget := get?_carry current prior trackingId reportType
  -- what was carried is this report's own now, and has content
  have hvalue : ∀ field ∈ carryFields,
      fieldValue (carry current prior trackingId reportType).document prior field =
        fieldValue current prior field := by
    intro field hfield
    have hcontent : (carry current prior trackingId reportType).document.content field =
        fieldValue current prior field := by
      rw [Document.content, hget, if_pos hfield]
      cases hv : fieldValue current prior field with
      | none => rfl
      | some value =>
        refine Option.filter_eq_some_iff.mpr ⟨rfl, ?_⟩
        obtain h | ⟨-, h⟩ := fieldValue_eq_some.mp hv
        · exact (content_eq_some.mp h).2
        · exact (content_eq_some.mp h).2
    rw [fieldValue, hcontent, fieldValue, Option.or_assoc, Option.or_self]
  -- a URI that was stripped is stripped to itself
  have huri : uriValue (carry current prior trackingId reportType).document prior =
      uriValue current prior := by
    have hwritten : Json.written
        ((carry current prior trackingId reportType).document.get? uriField) =
          (Json.written (current.get? uriField)).or (Json.written (prior.get? uriField)) := by
      rw [hget, if_neg (by decide), if_neg (by decide), if_pos rfl, uriValue]
      cases hcurrent : Json.written (current.get? uriField) with
      | some uri => exact written_some hcurrent
      | none =>
        cases hprior : Json.written (prior.get? uriField) with
        | some uri => exact written_some hprior
        | none => rfl
    rw [uriValue, hwritten, uriValue, Option.or_assoc, Option.or_self]
  have hresolved : (carry current prior trackingId reportType).document.get? "resolvedAt".toList =
      current.get? "resolvedAt".toList := by
    rw [hget, if_neg (by decide), if_pos rfl]
  refine (carry_document _ prior trackingId reportType).trans (Eq.trans ?_
    (carry_document current prior trackingId reportType).symm)
  rw [huri, hresolved]
  exact List.foldl_ext _ _ _ fun d field hfield =>
    congrArg (setSome d field) (hvalue field hfield)

end Carry

/-! ## The closest report -/

section Prior

variable {s t : KeyedFilings} {trackingId reportType : Text}

theorem lifecycle_nodup : lifecycle.Nodup := by decide

theorem before_of_split {first later : List Text} (h : lifecycle = first ++ reportType :: later) :
    before reportType = first.reverse := by
  have hnodup := lifecycle_nodup
  rw [h, List.nodup_append] at hnodup
  have hfirst : reportType ∉ first := fun hm =>
    hnodup.2.2 reportType hm reportType List.mem_cons_self rfl
  have hidx : lifecycle.idxOf reportType = first.length := by
    rw [h, List.idxOf_append_of_notMem hfirst, List.idxOf_cons_self, Nat.add_zero]
  have hmem : reportType ∈ lifecycle := by
    rw [h]
    exact List.mem_append_right _ List.mem_cons_self
  rw [before, if_pos hmem, hidx, h, List.take_left]

theorem split_of_mem_before {r : Text} (h : r ∈ before reportType) :
    ∃ later, lifecycle = (before reportType).reverse ++ reportType :: later := by
  have hmem : reportType ∈ lifecycle := by
    by_contra hnot
    rw [before, if_neg hnot] at h
    exact absurd h List.not_mem_nil
  obtain ⟨first, later, hsplit⟩ := List.append_of_mem hmem
  refine ⟨later, ?_⟩
  rw [before_of_split hsplit, List.reverse_reverse]
  exact hsplit

theorem not_mem_before : reportType ∉ before reportType := by
  intro h
  obtain ⟨later, hsplit⟩ := split_of_mem_before h
  have hnodup := lifecycle_nodup
  rw [hsplit, List.nodup_append] at hnodup
  exact hnodup.2.2 reportType (List.mem_reverse.mpr h) reportType List.mem_cons_self rfl

/-- **The search** finds the closest report. -/
theorem closest_iff {d : Document} :
    Closest s trackingId reportType d ↔
      ∃ candidate, (before reportType).find? (filed s trackingId) = some candidate ∧
        s.documents .incident (documentKey trackingId candidate) = some d := by
  constructor
  · -- `before` goes back from this report, so the closest one comes first
    rintro ⟨first, earlier, between, later, hsplit, hd, hnone⟩
    refine ⟨earlier, List.find?_eq_some_iff_append.mpr ⟨?_, between.reverse, first.reverse,
      ?_, ?_⟩, hd⟩
    · rw [filed, hd]
      rfl
    · rw [before_of_split hsplit]
      simp
    · intro r hr
      rw [filed, hnone r (List.mem_reverse.mp hr)]
      rfl
  · rintro ⟨candidate, hfind, hd⟩
    obtain ⟨-, between, first, hbefore, hnone⟩ := List.find?_eq_some_iff_append.mp hfind
    have hmem : candidate ∈ before reportType := List.mem_of_find?_eq_some hfind
    obtain ⟨later, hsplit⟩ := split_of_mem_before hmem
    refine ⟨first.reverse, candidate, between.reverse, later, ?_, hd, fun r hr => ?_⟩
    · rw [hsplit, hbefore]
      simp
    · have hr' := hnone r (List.mem_reverse.mp hr)
      rw [filed, Bool.not_eq_true', Option.isSome_eq_false_iff] at hr'
      exact Option.isNone_iff_eq_none.mp hr'

theorem priorReport_iff {P : Document → Prop} (hempty : ¬P .empty) :
    P (priorReport s trackingId reportType).2 ↔
      ∃ prior, Closest s trackingId reportType prior ∧ P prior := by
  simp only [closest_iff]
  unfold priorReport
  cases hfind : (before reportType).find? (filed s trackingId) with
  | none =>
    refine iff_of_false hempty ?_
    rintro ⟨prior, ⟨candidate, hsome, -⟩, -⟩
    cases hsome
  | some candidate =>
    have hfiled : filed s trackingId candidate = true := List.find?_some hfind
    obtain ⟨d, hd⟩ := Option.isSome_iff_exists.mp hfiled
    have hcurrent : s.current .incident (documentKey trackingId candidate) = d := by
      rw [KeyedFilings.current, hd]
      rfl
    dsimp only
    rw [hcurrent]
    constructor
    · exact fun h => ⟨d, ⟨candidate, rfl, hd⟩, h⟩
    · rintro ⟨prior, ⟨candidate', hcandidate, hprior⟩, h⟩
      obtain rfl := Option.some.inj hcandidate
      obtain rfl := Option.some.inj (hd.symm.trans hprior)
      exact h

theorem priorReport_congr (h : ∀ r, r ≠ reportType →
      t.documents .incident (documentKey trackingId r) =
        s.documents .incident (documentKey trackingId r)) :
    priorReport t trackingId reportType = priorReport s trackingId reportType := by
  have hrow : ∀ r ∈ before reportType, t.documents .incident (documentKey trackingId r) =
      s.documents .incident (documentKey trackingId r) := by
    intro r hr
    refine h r ?_
    rintro rfl
    exact not_mem_before hr
  have hfind : (before reportType).find? (filed t trackingId) =
      (before reportType).find? (filed s trackingId) :=
    List.find?_congr fun r hr => by rw [filed, hrow r hr, filed]
  unfold priorReport
  rw [hfind]
  split
  · rename_i candidate hcandidate
    rw [KeyedFilings.current, KeyedFilings.current,
      hrow candidate (List.mem_of_find?_eq_some hcandidate)]
  · rfl

end Prior

/-! ## One seed -/

section Seed

variable {printer : Printer} {s s' : KeyedFilings} {providerTrackingId reportType : Text}
  {r : IncidentSeedResult}

theorem strip_of_validateTrackingId {trackingId : Text}
    (h : validateTrackingId providerTrackingId reportType = .ok trackingId) :
    trackingId = strip providerTrackingId ∧ '/' ∉ trackingId := by
  unfold validateTrackingId at h
  dsimp only at h
  split at h
  · cases h
  · split at h
    · cases h
    · rename_i hslash
      split at h
      · cases h
      · obtain rfl := Except.ok.inj h
        exact ⟨rfl, hslash⟩

theorem seedIncident_ok (h : seedIncident printer s providerTrackingId reportType = .ok (s', r)) :
    '/' ∉ strip providerTrackingId ∧
      r.documentKey = documentKey (strip providerTrackingId) reportType ∧
      s.put .incident (documentKey (strip providerTrackingId) reportType)
        (carry (s.current .incident (documentKey (strip providerTrackingId) reportType))
          (priorReport s (strip providerTrackingId) reportType).2 (strip providerTrackingId)
          reportType).document = .ok s' := by
  obtain ⟨trackingId, hvalid, h⟩ := bind_eq_ok.mp h
  obtain ⟨rfl, hslash⟩ := strip_of_validateTrackingId hvalid
  obtain ⟨s'', hput, h⟩ := bind_eq_ok.mp h
  obtain ⟨rfl, rfl⟩ := Prod.mk.inj (Except.ok.inj h)
  exact ⟨hslash, rfl, hput⟩

theorem carry_carries (s : KeyedFilings) (own : Document) (trackingId reportType : Text) :
    Carries own (Closest s trackingId reportType) trackingId reportType
      (carry own (priorReport s trackingId reportType).2 trackingId reportType).document where
  identity := by
    rw [get?_carry, get?_carry, get?_scaffold, get?_scaffold]
    constructor <;> rfl
  resolvedAt := by
    rw [get?_carry, if_neg (by decide), if_pos rfl]
  carried := by
    intro field hfield value
    rw [get?_carry, if_pos hfield, fieldValue_eq_some,
      priorReport_iff (P := fun d => d.content field = some value) fun h => nomatch h]
  uri := by
    intro value
    rw [get?_carry, if_neg (by decide), if_neg (by decide), if_pos rfl, uriValue,
      Option.map_eq_some_iff]
    refine exists_congr fun uri => ?_
    rw [Option.or_eq_some_iff, eq_comm (b := value), and_comm,
      priorReport_iff (P := fun d => Json.written (d.get? uriField) = some uri)
        fun h => nomatch h]
  nothingElse := by
    intro field hfield hother
    simp only [List.mem_cons, List.not_mem_nil, or_false, not_or] at hother
    obtain ⟨huri, hresolved, htype, htracking⟩ := hother
    rw [get?_carry, if_neg hfield, if_neg hresolved, if_neg huri, get?_scaffold,
      if_neg htracking, if_neg htype]

theorem documentKey_ne {trackingId r reportType : Text} (h : r ≠ reportType) :
    documentKey trackingId r ≠ documentKey trackingId reportType := by
  intro heq
  exact h (List.cons.inj (List.append_cancel_left heq)).2

/-- **A seed continues the incident.** -/
theorem seedIncident_continues
    (h : seedIncident printer s providerTrackingId reportType = .ok (s', r)) :
    Continues printer s s' providerTrackingId reportType := by
  obtain ⟨-, -, hput⟩ := seedIncident_ok h
  refine ⟨⟨_, KeyedFilings.documents_put hput, carry_carries s _ _ _, ?_⟩,
    fun kind key hne => KeyedFilings.documents_put_ne hput hne⟩
  intro t t' r' hsame hagain
  obtain ⟨-, -, hput'⟩ := seedIncident_ok hagain
  -- this report is what the seed wrote, and those before it are as they were
  have hcurrent : t.current .incident (documentKey (strip providerTrackingId) reportType) =
      (carry (s.current .incident (documentKey (strip providerTrackingId) reportType))
        (priorReport s (strip providerTrackingId) reportType).2 (strip providerTrackingId)
        reportType).document := by
    rw [KeyedFilings.current, hsame, KeyedFilings.documents_put hput]
    rfl
  have hprior : priorReport t (strip providerTrackingId) reportType =
      priorReport s (strip providerTrackingId) reportType := by
    refine priorReport_congr fun r hr => (hsame r).trans ?_
    exact KeyedFilings.documents_put_ne hput fun heq => documentKey_ne hr heq.2
  rw [hcurrent, hprior, carry_again] at hput'
  exact KeyedFilings.documents_put hput'

theorem documentKey_iff {providerTrackingId' reportType' : Text}
    {out out' : KeyedFilings × IncidentSeedResult}
    (h : seedIncident printer s providerTrackingId reportType = .ok out)
    (h' : seedIncident printer s providerTrackingId' reportType' = .ok out') :
    out.2.documentKey = out'.2.documentKey ↔
      strip providerTrackingId = strip providerTrackingId' ∧ reportType = reportType' := by
  obtain ⟨hslash, hkey, -⟩ := seedIncident_ok h
  obtain ⟨hslash', hkey', -⟩ := seedIncident_ok h'
  rw [hkey, hkey']
  constructor
  · exact append_separator_inj hslash hslash'
  · rintro ⟨htracking, rfl⟩
    rw [htracking]

end Seed

/-! ## Runs of seeds and edits -/

section Run

variable (printer : Printer)

theorem current_put {s s' : KeyedFilings} {key : Text} {document : Document}
    (h : s.put .incident key document = .ok s') (key' : Text) :
    s'.current .incident key' = if key = key' then document else s.current .incident key' := by
  unfold KeyedFilings.current
  by_cases hkey : key = key'
  · rw [if_pos hkey, ← hkey, KeyedFilings.documents_put h]
    rfl
  · rw [if_neg hkey, KeyedFilings.documents_put_ne h fun heq => hkey heq.2.symm]

theorem step_deleted (s : KeyedFilings) (a : Action) :
    (step printer s a).deleted = s.deleted := by
  have hput : ∀ {s' key document}, s.put .incident key document = .ok s' →
      s'.deleted = s.deleted := fun h =>
    (KeyedFilings.deleted_put h).trans (KeyedFilings.put_ok h).1.symm
  cases a with
  | seed providerTrackingId reportType =>
    rw [step]
    cases hseed : seedIncident printer s providerTrackingId reportType with
    | error e => rfl
    | ok out => exact hput (seedIncident_ok hseed).2.2
  | edit key document =>
    rw [step]
    cases hedit : s.put .incident key document with
    | error e => rfl
    | ok s' => exact hput hedit

theorem step_resolvedAt (s : KeyedFilings) (a : Action) (key : Text) :
    ((step printer s a).current .incident key).get? "resolvedAt".toList =
      editedResolvedAt s key [a] := by
  cases a with
  | seed providerTrackingId reportType =>
    rw [step]
    cases hseed : seedIncident printer s providerTrackingId reportType with
    | error e => rfl
    | ok out =>
      show (out.1.current .incident key).get? _ = (s.current .incident key).get? _
      rw [current_put (seedIncident_ok hseed).2.2]
      split
      · rename_i hkey
        rw [(carry_carries s _ _ _).resolvedAt, hkey]
      · rfl
  | edit key' document =>
    rw [step]
    show _ = if key' = key ∧ s.deleted = false then document.get? "resolvedAt".toList
      else (s.current .incident key).get? "resolvedAt".toList
    cases hedit : s.put .incident key' document with
    | error e =>
      -- an edit is refused only where the system is deleted
      have hdeleted : ¬s.deleted = false := by
        intro hlive
        obtain ⟨s', hs'⟩ := KeyedFilings.put_of_live hlive .incident key' document
        rw [hedit] at hs'
        cases hs'
      rw [if_neg fun h => hdeleted h.2]
      rfl
    | ok s' =>
      show (s'.current .incident key).get? _ = _
      rw [current_put hedit]
      by_cases hkey : key' = key
      · rw [if_pos hkey, if_pos ⟨hkey, (KeyedFilings.put_ok hedit).1⟩]
      · rw [if_neg hkey, if_neg fun h => hkey h.1]

theorem run_resolvedAt (s₀ : KeyedFilings) (as : List Action) (key : Text) :
    ((as.foldl (step printer) s₀).current .incident key).get? "resolvedAt".toList =
      editedResolvedAt s₀ key as := by
  induction as generalizing s₀ with
  | nil => rfl
  | cons a as ih =>
    rw [List.foldl_cons, ih, editedResolvedAt, step_resolvedAt, step_deleted]
    rfl

/-- **Continuity of incident reports**, in every run of seeds and edits. -/
theorem incident_continuity (s₀ : KeyedFilings) (as : List Action) :
    Continuity printer s₀ as (as.foldl (step printer) s₀) where
  resolvedAt := run_resolvedAt printer s₀ as
  seeds := fun _ _ _ _ h => seedIncident_continues h
  keys := fun _ _ _ _ _ _ h h' => documentKey_iff h h'

end Run

/-! ## The same incident, with and without space -/

def paddedUri : Document := Document.empty.set uriField (.str " https://acme.gov ".toList)

def reported : KeyedFilings := ⟨7, false, fun _ _ => some paddedUri⟩

/-- Two tracking ids make one key, and a URI is not carried as it is. -/
theorem padding_dropped :
    (¬∀ (printer : Printer) (s : KeyedFilings) (providerTrackingId reportType providerTrackingId'
          reportType' : Text) (out out' : KeyedFilings × IncidentSeedResult),
        (providerTrackingId, reportType) ≠ (providerTrackingId', reportType') →
        seedIncident printer s providerTrackingId reportType = .ok out →
        seedIncident printer s providerTrackingId' reportType' = .ok out' →
          out.2.documentKey ≠ out'.2.documentKey) ∧
      ¬∀ (printer : Printer) (s : KeyedFilings) (providerTrackingId reportType : Text)
          (out : KeyedFilings × IncidentSeedResult) (uri : Json),
        seedIncident printer s providerTrackingId reportType = .ok out →
        (s.current .incident out.2.documentKey).content uriField = some uri →
          out.2.document.get? uriField = some uri := by
  let printer : Printer := ⟨fun _ => [], fun _ => List.not_mem_nil⟩
  constructor
  · intro h
    exact h printer reported " INC-1 ".toList "Initial".toList "INC-1".toList "Initial".toList
      _ _ (by decide) rfl rfl rfl
  · intro h
    have hkept := h printer reported "INC-1".toList "Initial".toList _ _ rfl rfl
    have hstripped := Json.str.inj (Option.some.inj hkept)
    exact absurd hstripped (by decide)

end Concord.Cr26.Incident
