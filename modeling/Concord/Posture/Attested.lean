import Mathlib.Data.List.MinMax
import Concord.Catalog.CanonicalForm
import Concord.Fedramp20x.Rules

/-!
# What a provider attests

`ccf/posture/attested.py`: Security Hub findings, grouped by the security control they are of
(`attested_controls`), and one row for each requirement that a security control is related to
(`attested_rows`). `roll_up_findings` is that of `ccf/posture/rollup.py`.

A value of a finding that is no string is `none`, and so is a `Compliance` that is no mapping.
-/

namespace Concord.Posture.Attested

open Concord.Python Concord.Governance Concord.Fedramp20x Concord.Packs.Catalog

/-! ## Findings -/

structure Compliance where
  securityControlId : Option Text
  status : Option Text
  relatedRequirements : List (Option Text)
  deriving DecidableEq

structure Finding where
  compliance : Option Compliance
  title : Option Text
  deriving DecidableEq

/-- `_STATUS_VERDICTS`. -/
def statusVerdicts : List (Text × ValidationStatus) :=
  [("PASSED".toList, .pass), ("FAILED".toList, .fail), ("WARNING".toList, .warn),
    ("NOT_AVAILABLE".toList, .manualReviewRequired)]

/-- `verdict_for`. -/
def verdictFor (complianceStatus : Option Text) : ValidationStatus :=
  match complianceStatus with
  | none => .manualReviewRequired
  | some status => (statusVerdicts.lookup (strip status)).getD .manualReviewRequired

/-- `EXCLUDED_FROM_ROLLUP`. -/
def excludedFromRollup : List ValidationStatus := [.notApplicable, .notTested]

/-- `roll_up_findings`; a verdict is one of `VALIDATION_STATUSES` by its type. -/
def rollUpFindings (verdicts : List ValidationStatus) : ValidationStatus :=
  let considered := verdicts.filter (· ∉ excludedFromRollup)
  (considered.argmin verdictRank).getD .notApplicable

/-! ## Requirements -/

/-- `REQUIREMENT_PREFIX`. -/
def requirementPrefix : Text := "NIST.800-53.r5".toList

/-- An entry of the standard, and the control it names if it can be read. -/
def readEntry (raw : Option Text) : Option (Text × Option CanonicalId) :=
  match raw with
  | none => none
  | some raw =>
    let entry := strip raw
    let head := entry.takeWhile (· ≠ ' ')
    if head = requirementPrefix then some (entry, canonicalize ((entry.dropWhile (· ≠ ' ')).drop 1))
    else none

/-- `if item not in items: items.append(item)`. -/
def addNew (items : List Text) (item : Text) : List Text :=
  if item ∈ items then items else items ++ [item]

/-- `requirement_ids`: what can be read, and what cannot. -/
def requirementIds (relatedRequirements : List (Option Text)) : List Text × List Text :=
  relatedRequirements.foldl (fun (readable, unreadable) raw =>
    match readEntry raw with
    | none => (readable, unreadable)
    | some (entry, none) => (readable, addNew unreadable entry)
    | some (_, some canonical) => (addNew readable canonical.value, unreadable)) ([], [])

/-! ## Security controls -/

structure AttestedControl where
  securityControlId : Text
  verdict : ValidationStatus
  requirements : List Text
  unreadableRequirements : List Text
  title : Text
  evaluated : Nat
  failing : Nat
  deriving DecidableEq

/-- What is gathered of one security control. -/
structure Bucket where
  verdicts : List ValidationStatus := []
  requirements : List Text := []
  unreadable : List Text := []
  title : Text := []
  failing : Nat := 0

/-- The security control a finding is of, if it is of one. -/
def Finding.controlId (f : Finding) : Option Text :=
  match f.compliance with
  | none => none
  | some compliance =>
    match compliance.securityControlId with
    | none => none
    | some controlId => if strip controlId = [] then none else some (strip controlId)

def Finding.verdict (f : Finding) : ValidationStatus :=
  verdictFor (f.compliance.bind Compliance.status)

def Finding.requirementIds (f : Finding) : List Text × List Text :=
  Attested.requirementIds ((f.compliance.map Compliance.relatedRequirements).getD [])

/-- One turn of the loop over the findings, on the bucket of the finding. -/
def Bucket.take (bucket : Option Bucket) (f : Finding) : Bucket :=
  let b := bucket.getD {}
  { verdicts := b.verdicts ++ [f.verdict]
    failing := if f.verdict = .fail then b.failing + 1 else b.failing
    requirements := f.requirementIds.1.foldl addNew b.requirements
    unreadable := f.requirementIds.2.foldl addNew b.unreadable
    title := if b.title = [] then strip (f.title.getD []) else b.title }

def Bucket.toControl (controlId : Text) (b : Bucket) : AttestedControl where
  securityControlId := controlId
  verdict := rollUpFindings b.verdicts
  requirements := b.requirements
  unreadableRequirements := b.unreadable
  title := if b.title = [] then controlId else b.title
  evaluated := b.verdicts.length
  failing := b.failing

/-- `grouped`. -/
def grouped (findings : List Finding) : Dict Text Bucket :=
  Dict.gather Finding.controlId Bucket.take findings

/-- `attested_controls`. -/
def attestedControls (findings : List Finding) : List AttestedControl :=
  ((grouped findings).items.insertionSort fun a b => Json.keyLe a.1 b.1).map
    fun (controlId, bucket) => bucket.toControl controlId

/-! ## Rows -/

structure AttestedRow where
  checkKey : Text
  securityControlId : Text
  controlId : Text
  controlIds : List Text
  verdict : ValidationStatus
  title : Text
  evaluated : Nat
  failing : Nat
  deriving DecidableEq

/-- `check_key_for`. -/
def checkKeyFor (securityControlId controlId : Text) : Text :=
  "aws.securityhub.".toList ++ securityControlId ++ "::".toList ++ controlId

/-- `_MAX_CHECK_KEY`. -/
def maxCheckKey : Nat := 128

def AttestedControl.row (control : AttestedControl) (requirement : Text) : AttestedRow where
  checkKey := checkKeyFor control.securityControlId requirement
  securityControlId := control.securityControlId
  controlId := requirement
  controlIds := [requirement]
  verdict := control.verdict
  title := control.title
  evaluated := control.evaluated
  failing := control.failing

/-- `attested_rows`. -/
def attestedRows (controls : List AttestedControl) : List AttestedRow :=
  controls.flatMap fun control =>
    (control.requirements.filter fun requirement =>
      (checkKeyFor control.securityControlId requirement).length ≤ maxCheckKey).map control.row

/-! ## Lists without duplicates -/

theorem mem_addNew {items : List Text} {item t : Text} :
    t ∈ addNew items item ↔ t ∈ items ∨ t = item := by
  unfold addNew
  split
  · rename_i h
    exact ⟨Or.inl, fun ht => ht.elim id fun heq => heq ▸ h⟩
  · simp

theorem nodup_addNew {items : List Text} (item : Text) (h : items.Nodup) :
    (addNew items item).Nodup := by
  unfold addNew
  split
  · exact h
  · rename_i hnew
    exact List.Nodup.append h (List.nodup_singleton item) (by simpa using hnew)

theorem mem_foldl_addNew {items new : List Text} {t : Text} :
    t ∈ new.foldl addNew items ↔ t ∈ items ∨ t ∈ new := by
  induction new generalizing items with
  | nil => simp
  | cons item new ih => rw [List.foldl_cons, ih, mem_addNew, List.mem_cons, or_assoc]

theorem nodup_foldl_addNew {items : List Text} (new : List Text) (h : items.Nodup) :
    (new.foldl addNew items).Nodup := by
  induction new generalizing items with
  | nil => exact h
  | cons item new ih => exact ih (nodup_addNew item h)

theorem readEntry_canonical {raw : Option Text} {entry : Text} {id : CanonicalId}
    (h : readEntry raw = some (entry, some id)) : ∃ raw, canonicalize raw = some id := by
  unfold readEntry at h
  cases raw with
  | none => cases h
  | some raw =>
    dsimp only at h
    split at h
    · exact ⟨_, (Prod.mk.inj (Option.some.inj h)).2⟩
    · cases h

theorem requirementIds_canonical {related : List (Option Text)} {r : Text}
    (h : r ∈ (requirementIds related).1) :
    ∃ raw, ∃ id : CanonicalId, canonicalize raw = some id ∧ id.value = r := by
  -- an entry that is not read, or is not canonical, adds nothing to the first list
  refine List.foldlRecOn (motive := fun lists : List Text × List Text => ∀ r ∈ lists.1,
    ∃ raw, ∃ id : CanonicalId, canonicalize raw = some id ∧ id.value = r) related _ ?_ ?_ r h
  · exact fun r hr => absurd hr List.not_mem_nil
  intro lists hlists raw _
  cases hentry : readEntry raw with
  | none => exact hlists
  | some e =>
    obtain ⟨entry, canonical⟩ := e
    cases canonical with
    | none => exact hlists
    | some id =>
      intro r hr
      rcases mem_addNew.mp hr with hr | rfl
      · exact hlists r hr
      · obtain ⟨raw, hraw⟩ := readEntry_canonical hentry
        exact ⟨raw, id, hraw, rfl⟩

/-! ## What is gathered of a security control -/

def findingsOf (findings : List Finding) (controlId : Text) : List Finding :=
  findings.filter fun f => f.controlId = some controlId

/-- The bucket of these findings. -/
structure Holds (findings : List Finding) (b : Bucket) : Prop where
  verdicts : b.verdicts = findings.map Finding.verdict
  failing : b.failing = findings.countP fun f => f.verdict = .fail
  requirements : ∀ r, r ∈ b.requirements ↔ ∃ f ∈ findings, r ∈ f.requirementIds.1
  nodup : b.requirements.Nodup

theorem holds_nil : Holds [] {} where
  verdicts := rfl
  failing := rfl
  requirements _ := iff_of_false List.not_mem_nil fun ⟨_, h, _⟩ => nomatch h
  nodup := List.nodup_nil

theorem Holds.take {findings : List Finding} {b : Option Bucket} (h : Holds findings (b.getD {}))
    (f : Finding) : Holds (findings ++ [f]) (Bucket.take b f) where
  verdicts := by
    show (b.getD {}).verdicts ++ [f.verdict] = _
    rw [h.verdicts, List.map_append, List.map_singleton]
  failing := by
    show (if f.verdict = .fail then (b.getD {}).failing + 1 else (b.getD {}).failing) = _
    rw [h.failing, List.countP_append, List.countP_singleton]
    by_cases hf : f.verdict = .fail
    · simp [hf]
    · simp [hf]
  requirements r := by
    show r ∈ f.requirementIds.1.foldl addNew (b.getD {}).requirements ↔ _
    rw [mem_foldl_addNew, h.requirements]
    simp [or_and_right, exists_or]
  nodup := nodup_foldl_addNew _ h.nodup

theorem grouped_get? (findings : List Finding) (controlId : Text) :
    ((grouped findings).get? controlId = none ↔ findingsOf findings controlId = []) ∧
      ∀ b, (grouped findings).get? controlId = some b →
        Holds (findingsOf findings controlId) b := by
  rw [grouped, Dict.get?_gather]
  have hfold : ∀ fs : List Finding,
      (fs.foldl (fun b f => some (Bucket.take b f)) none = none ↔ fs = []) ∧
        Holds fs ((fs.foldl (fun b f => some (Bucket.take b f)) none).getD {}) := by
    intro fs
    induction fs using List.reverseRecOn with
    | nil => exact ⟨iff_of_true rfl rfl, holds_nil⟩
    | append_singleton fs f ih =>
      rw [List.foldl_append, List.foldl_cons, List.foldl_nil]
      exact ⟨by simp, ih.2.take f⟩
  refine ⟨(hfold _).1, fun b hb => ?_⟩
  have hholds := (hfold (findingsOf findings controlId)).2
  rw [findingsOf, hb] at hholds
  exact hholds

/-! ## Verdicts -/

theorem mem_of_lookup {status : Text} {v : ValidationStatus}
    (h : statusVerdicts.lookup status = some v) : (status, v) ∈ statusVerdicts := by
  obtain ⟨before, after, heq, -⟩ := List.lookup_eq_some_iff.mp h
  rw [heq]
  exact List.mem_append_right before List.mem_cons_self

theorem verdictFor_eq_pass_iff (status : Option Text) :
    verdictFor status = .pass ↔ status.map strip = some "PASSED".toList := by
  have honly : ∀ entry ∈ statusVerdicts, entry.2 = .pass → entry.1 = "PASSED".toList := by
    decide
  cases status with
  | none => simp [verdictFor]
  | some status =>
    rw [Option.map_some, Option.some.injEq]
    constructor
    · intro h
      cases hv : statusVerdicts.lookup (strip status) with
      | none =>
        rw [verdictFor, hv] at h
        cases h
      | some v =>
        rw [verdictFor, hv] at h
        exact honly _ (mem_of_lookup hv) h
    · intro h
      rw [verdictFor, h]
      rfl

theorem verdictFor_considered (status : Option Text) :
    verdictFor status ∉ excludedFromRollup := by
  have hall : ∀ entry ∈ statusVerdicts, entry.2 ∉ excludedFromRollup := by decide
  have hdefault : ValidationStatus.manualReviewRequired ∉ excludedFromRollup := by decide
  cases status with
  | none => exact hdefault
  | some status =>
    rw [verdictFor]
    cases hv : statusVerdicts.lookup (strip status) with
    | none => exact hdefault
    | some v => exact hall _ (mem_of_lookup hv)

theorem verdictRank_injOn {v w : ValidationStatus} (hv : v ∉ excludedFromRollup)
    (hw : w ∉ excludedFromRollup) (h : verdictRank v = verdictRank w) : v = w := by
  cases v <;> cases w <;> simp_all [verdictRank, excludedFromRollup]

theorem rollUpFindings_perm {vs vs' : List ValidationStatus} (h : vs.Perm vs') :
    rollUpFindings vs = rollUpFindings vs' := by
  have hperm := h.filter fun v => decide (v ∉ excludedFromRollup)
  have hleft : ∀ v ∈ vs.filter (· ∉ excludedFromRollup), v ∉ excludedFromRollup :=
    fun v hv => of_decide_eq_true (List.mem_filter.mp hv).2
  unfold rollUpFindings
  cases hm : (vs.filter (· ∉ excludedFromRollup)).argmin verdictRank with
  | none =>
    rw [List.argmin_eq_none] at hm
    rw [hm] at hperm
    simp only [hperm.symm.eq_nil, hm, List.argmin_nil]
  | some m =>
    cases hm' : (vs'.filter (· ∉ excludedFromRollup)).argmin verdictRank with
    | none =>
      rw [List.argmin_eq_none] at hm'
      rw [hm'] at hperm
      rw [hperm.eq_nil] at hm
      cases hm
    | some m' =>
      have hmem := List.argmin_mem hm
      have hmem' := hperm.mem_iff.mpr (List.argmin_mem hm')
      -- the worst of each list is in the other
      have hle := List.le_of_mem_argmin hmem' hm
      have hge := List.le_of_mem_argmin (hperm.mem_iff.mp hmem) hm'
      have heq : m = m' :=
        verdictRank_injOn (hleft m hmem) (hleft m' hmem') (le_antisymm hle hge)
      simp only [heq, hm, hm']

theorem rollUpFindings_eq_pass_iff {vs : List ValidationStatus}
    (h : ∀ v ∈ vs, v ∉ excludedFromRollup) :
    rollUpFindings vs = .pass ↔ vs ≠ [] ∧ ∀ v ∈ vs, v = .pass := by
  have hall : vs.filter (· ∉ excludedFromRollup) = vs :=
    List.filter_eq_self.mpr fun v hv => decide_eq_true (h v hv)
  unfold rollUpFindings
  simp only [hall]
  cases hm : vs.argmin verdictRank with
  | none =>
    rw [List.argmin_eq_none] at hm
    exact iff_of_false (nofun) fun hne => hne.1 hm
  | some m =>
    have hmem := List.argmin_mem hm
    refine ⟨fun hpass => ⟨List.ne_nil_of_mem hmem, fun v hv => ?_⟩, fun hne => hne.2 m hmem⟩
    have hle := List.le_of_mem_argmin hv hm
    obtain rfl : m = .pass := hpass
    -- nothing ranks above a pass
    cases v <;> simp_all [verdictRank]

/-! ## Controls -/

section Rows

variable {findings : List Finding}

theorem mem_attestedControls {control : AttestedControl} :
    control ∈ attestedControls findings ↔
      ∃ controlId b, (grouped findings).get? controlId = some b ∧
        control = b.toControl controlId := by
  unfold attestedControls
  simp only [List.mem_map, (List.perm_insertionSort _ _).mem_iff, Prod.exists,
    Dict.mem_items_iff]
  exact exists_congr fun controlId => exists_congr fun b => and_congr_right fun _ => eq_comm

theorem nodup_controlIds :
    ((attestedControls findings).map AttestedControl.securityControlId).Nodup := by
  have hids : (attestedControls findings).map AttestedControl.securityControlId =
      ((grouped findings).items.insertionSort fun a b => Json.keyLe a.1 b.1).map Prod.fst := by
    unfold attestedControls
    rw [List.map_map]
    rfl
  rw [hids, ((List.perm_insertionSort _ _).map Prod.fst).nodup_iff]
  exact (grouped findings).nodup

theorem attestedControl_spec {control : AttestedControl}
    (h : control ∈ attestedControls findings) :
    ∃ b, Holds (findingsOf findings control.securityControlId) b ∧
      findingsOf findings control.securityControlId ≠ [] ∧
      control = b.toControl control.securityControlId := by
  obtain ⟨controlId, b, hb, rfl⟩ := mem_attestedControls.mp h
  obtain ⟨hnone, hholds⟩ := grouped_get? findings controlId
  refine ⟨b, hholds b hb, fun hnil => ?_, rfl⟩
  rw [hnone.mpr hnil] at hb
  cases hb

/-! ## Check keys -/

theorem colon_notMem_canonical {raw : Text} {id : CanonicalId} (h : canonicalize raw = some id) :
    ':' ∉ id.value := by
  obtain ⟨a, b, ha, hb, -, -, hfamily, hvalue⟩ := Catalog.canonicalize_parts h
  obtain ⟨ha', -, -⟩ := Catalog.toUpper_letter ha
  obtain ⟨hb', -, -⟩ := Catalog.toUpper_letter hb
  have hdigit : ∀ n, ':' ∉ natText n := fun n hn =>
    absurd (isDigit_of_mem_natText _ hn) (by decide)
  have hgroups : ':' ∉ Catalog.groups id.enhancements := by
    simp only [Catalog.groups, List.mem_flatMap, not_exists, not_and]
    intro e _ he
    simp [hdigit] at he
  have hletter : ∀ c : Char, isAsciiLetter c = true → ':' ≠ c := by
    rintro c hc rfl
    exact absurd hc (by decide)
  rw [hvalue, hfamily]
  simp [hdigit, hgroups, hletter _ ha', hletter _ hb']

theorem reverse_checkKeyFor (s r : Text) :
    (checkKeyFor s r).reverse =
      r.reverse ++ ':' :: ':' :: ("aws.securityhub.".toList ++ s).reverse := by
  unfold checkKeyFor
  rw [List.reverse_append, List.reverse_append]
  rfl

theorem checkKeyFor_injective {s s' r r' : Text} (hr : ':' ∉ r) (hr' : ':' ∉ r')
    (h : checkKeyFor s r = checkKeyFor s' r') : s = s' ∧ r = r' := by
  -- the requirement is what follows the last colon
  have hread : ∀ s r : Text, ':' ∉ r →
      ((checkKeyFor s r).reverse.takeWhile (· ≠ ':')).reverse = r := by
    intro s r hr
    have hclean : ∀ c ∈ r.reverse, decide (c ≠ ':') = true := fun c hc =>
      decide_eq_true fun heq => hr (heq ▸ List.mem_reverse.mp hc)
    rw [reverse_checkKeyFor, List.takeWhile_append_of_pos hclean,
      List.takeWhile_cons_of_neg (by decide), List.append_nil, List.reverse_reverse]
  have heq : r = r' := by rw [← hread s r hr, ← hread s' r' hr', h]
  subst heq
  refine ⟨?_, rfl⟩
  have hsame := List.append_cancel_right (List.append_cancel_right h)
  exact List.append_cancel_left hsame

/-! ## Rows -/

theorem mem_attestedRows {controls : List AttestedControl} {row : AttestedRow} :
    row ∈ attestedRows controls ↔
      ∃ control ∈ controls, ∃ r ∈ control.requirements,
        (checkKeyFor control.securityControlId r).length ≤ maxCheckKey ∧
          row = control.row r := by
  unfold attestedRows
  simp only [List.mem_flatMap, List.mem_map, List.mem_filter, decide_eq_true_eq]
  constructor
  · rintro ⟨control, hcontrol, r, ⟨hr, hlength⟩, rfl⟩
    exact ⟨control, hcontrol, r, hr, hlength, rfl⟩
  · rintro ⟨control, hcontrol, r, hr, hlength, rfl⟩
    exact ⟨control, hcontrol, r, ⟨hr, hlength⟩, rfl⟩

def AttestedRow.pair (row : AttestedRow) : Text × Text := (row.securityControlId, row.controlId)

/-- **A pair has one row at most.** -/
theorem nodup_pairs : ((attestedRows (attestedControls findings)).map AttestedRow.pair).Nodup := by
  unfold attestedRows
  rw [List.map_flatMap, List.nodup_flatMap]
  constructor
  · intro control hcontrol
    obtain ⟨b, hb, -, hcontrolEq⟩ := attestedControl_spec hcontrol
    rw [List.map_map]
    have hnodup : control.requirements.Nodup := by
      rw [hcontrolEq]
      exact hb.nodup
    have hinjective : Function.Injective (AttestedRow.pair ∘ control.row) :=
      fun r r' heq => congrArg Prod.snd heq
    exact (hnodup.filter _).map hinjective
  · refine (List.pairwise_map.mp nodup_controlIds).imp fun {a b} hne => ?_
    intro pair ha hb
    obtain ⟨row, hrow, rfl⟩ := List.mem_map.mp ha
    obtain ⟨row', hrow', heq⟩ := List.mem_map.mp hb
    obtain ⟨r, -, rfl⟩ := List.mem_map.mp hrow
    obtain ⟨r', -, rfl⟩ := List.mem_map.mp hrow'
    exact hne (congrArg Prod.fst heq).symm

theorem colon_notMem_requirement {row : AttestedRow}
    (h : row ∈ attestedRows (attestedControls findings)) : ':' ∉ row.controlId := by
  obtain ⟨control, hcontrol, r, hr, -, rfl⟩ := mem_attestedRows.mp h
  obtain ⟨b, hb, -, heq⟩ := attestedControl_spec hcontrol
  rw [heq] at hr
  obtain ⟨f, -, hf⟩ := (hb.requirements r).mp hr
  obtain ⟨raw, id, hid, rfl⟩ := requirementIds_canonical hf
  exact colon_notMem_canonical hid

/-- **No two rows share a check key**, which is what a stored row is found by. -/
theorem nodup_checkKeys :
    ((attestedRows (attestedControls findings)).map AttestedRow.checkKey).Nodup := by
  refine List.Nodup.map_on (fun row hrow row' hrow' heq => ?_) (List.Nodup.of_map _ nodup_pairs)
  refine List.inj_on_of_nodup_map nodup_pairs hrow hrow' ?_
  have hcolon := colon_notMem_requirement hrow
  have hcolon' := colon_notMem_requirement hrow'
  obtain ⟨control, -, r, -, -, rfl⟩ := mem_attestedRows.mp hrow
  obtain ⟨control', -, r', -, -, rfl⟩ := mem_attestedRows.mp hrow'
  obtain ⟨hid, hr⟩ := checkKeyFor_injective hcolon hcolon' heq
  exact Prod.ext hid hr

/-- The status of the finding is `PASSED`, up to the blanks around it. -/
def Finding.passed (f : Finding) : Prop :=
  (f.compliance.bind Compliance.status).map strip = some "PASSED".toList

theorem row_passes_iff {row : AttestedRow}
    (h : row ∈ attestedRows (attestedControls findings)) :
    row.verdict = .pass ↔ findingsOf findings row.securityControlId ≠ [] ∧
      ∀ f ∈ findingsOf findings row.securityControlId, f.passed := by
  obtain ⟨control, hcontrol, r, -, -, rfl⟩ := mem_attestedRows.mp h
  obtain ⟨b, hb, -, heq⟩ := attestedControl_spec hcontrol
  have hverdict : (control.row r).verdict =
      rollUpFindings ((findingsOf findings control.securityControlId).map Finding.verdict) :=
    (congrArg AttestedControl.verdict heq).trans (congrArg rollUpFindings hb.verdicts)
  have hconsidered : ∀ v ∈ (findingsOf findings control.securityControlId).map Finding.verdict,
      v ∉ excludedFromRollup := by
    intro v hv
    obtain ⟨f, -, rfl⟩ := List.mem_map.mp hv
    exact verdictFor_considered _
  rw [hverdict, rollUpFindings_eq_pass_iff hconsidered]
  simp only [ne_eq, List.map_eq_nil_iff, List.forall_mem_map]
  exact and_congr_right fun _ => forall₂_congr fun f _ => verdictFor_eq_pass_iff _

/-! ## The order of the findings -/

/-- A row without its title, which is that of the first finding that has one. -/
def AttestedRow.untitled (row : AttestedRow) : AttestedRow := { row with title := [] }

/-- What a row attests, from the findings of its security control. -/
def attestation (findings : List Finding) (securityControlId controlId : Text) : AttestedRow where
  checkKey := checkKeyFor securityControlId controlId
  securityControlId := securityControlId
  controlId := controlId
  controlIds := [controlId]
  verdict := rollUpFindings ((findingsOf findings securityControlId).map Finding.verdict)
  title := []
  evaluated := (findingsOf findings securityControlId).length
  failing := (findingsOf findings securityControlId).countP fun f => f.verdict = .fail

/-- There is a row for each requirement that a finding relates a security control to, and for no
other. -/
theorem mem_untitled {row : AttestedRow} :
    row ∈ (attestedRows (attestedControls findings)).map AttestedRow.untitled ↔
      ∃ securityControlId controlId,
        (∃ f ∈ findingsOf findings securityControlId, controlId ∈ f.requirementIds.1) ∧
        (checkKeyFor securityControlId controlId).length ≤ maxCheckKey ∧
        row = attestation findings securityControlId controlId := by
  have hrow : ∀ {control : AttestedControl} {b : Bucket} (r : Text),
      Holds (findingsOf findings control.securityControlId) b →
      control = b.toControl control.securityControlId →
      (control.row r).untitled = attestation findings control.securityControlId r := by
    intro control b r hb heq
    have hverdict : control.verdict = rollUpFindings b.verdicts :=
      congrArg AttestedControl.verdict heq
    have hevaluated : control.evaluated = b.verdicts.length :=
      congrArg AttestedControl.evaluated heq
    have hfailing : control.failing = b.failing := congrArg AttestedControl.failing heq
    unfold AttestedRow.untitled AttestedControl.row attestation
    rw [hverdict, hevaluated, hfailing, hb.verdicts, hb.failing, List.length_map]
  constructor
  · -- each row is written for a requirement of a bucket, which has it from a finding
    intro h
    obtain ⟨row, hrow', rfl⟩ := List.mem_map.mp h
    obtain ⟨control, hcontrol, r, hr, hlength, rfl⟩ := mem_attestedRows.mp hrow'
    obtain ⟨b, hb, -, heq⟩ := attestedControl_spec hcontrol
    rw [heq] at hr
    exact ⟨control.securityControlId, r, (hb.requirements r).mp hr, hlength, hrow r hb heq⟩
  · rintro ⟨controlId, r, hr, hlength, rfl⟩
    obtain ⟨hnone, hholds⟩ := grouped_get? findings controlId
    cases hb : (grouped findings).get? controlId with
    | none =>
      obtain ⟨f, hf, -⟩ := hr
      rw [hnone.mp hb] at hf
      cases hf
    | some b =>
      have hrequirement := ((hholds b hb).requirements r).mpr hr
      exact List.mem_map.mpr ⟨(b.toControl controlId).row r, mem_attestedRows.mpr
        ⟨_, mem_attestedControls.mpr ⟨controlId, b, hb, rfl⟩, r, hrequirement, hlength, rfl⟩,
        hrow r (hholds b hb) rfl⟩

theorem attestation_perm {other : List Finding} (h : findings.Perm other)
    (securityControlId controlId : Text) :
    attestation findings securityControlId controlId =
      attestation other securityControlId controlId := by
  have hof : (findingsOf findings securityControlId).Perm (findingsOf other securityControlId) :=
    h.filter _
  unfold attestation
  rw [rollUpFindings_perm (hof.map Finding.verdict), hof.length_eq, hof.countP_eq]

/-- **What is attested does not depend on the order of the findings.** -/
theorem attestedRows_perm {other : List Finding} (h : findings.Perm other) :
    ((attestedRows (attestedControls findings)).map AttestedRow.untitled).Perm
      ((attestedRows (attestedControls other)).map AttestedRow.untitled) := by
  have hnodup : ∀ findings : List Finding,
      ((attestedRows (attestedControls findings)).map AttestedRow.untitled).Nodup := by
    intro findings
    refine List.Nodup.of_map AttestedRow.pair ?_
    rw [List.map_map]
    exact nodup_pairs
  refine (List.perm_ext_iff_of_nodup (hnodup findings) (hnodup other)).mpr fun row => ?_
  rw [mem_untitled, mem_untitled]
  refine exists_congr fun securityControlId => exists_congr fun controlId => ?_
  have hof : ∀ f, f ∈ findingsOf findings securityControlId ↔
      f ∈ findingsOf other securityControlId := fun f => (h.filter _).mem_iff
  simp only [hof, attestation_perm h]

theorem attestedControls_named (findings : List Finding) :
    attestedControls (findings.filter fun f => f.controlId.isSome) = attestedControls findings := by
  have hgrouped : grouped (findings.filter fun f => f.controlId.isSome) = grouped findings := by
    unfold grouped Dict.gather
    rw [List.foldl_filter]
    congr 1
    funext d f
    cases f.controlId with
    | none => rfl
    | some controlId => rfl
  unfold attestedControls
  rw [hgrouped]

end Rows

/-- **A passing attestation is earned**, for each pair of a security control and a requirement it is
related to. -/
theorem attested_rows_earned (findings : List Finding) :
    let rows := attestedRows (attestedControls findings)
    (rows.map AttestedRow.pair).Nodup ∧ (rows.map AttestedRow.checkKey).Nodup ∧
      (∀ row ∈ rows, row.controlIds = [row.controlId] ∧
        (∃ f ∈ findingsOf findings row.securityControlId,
          row.controlId ∈ f.requirementIds.1) ∧
        (row.verdict = .pass ↔ findingsOf findings row.securityControlId ≠ [] ∧
          ∀ f ∈ findingsOf findings row.securityControlId, f.passed)) ∧
      (∀ other, findings.Perm other →
        (rows.map AttestedRow.untitled).Perm
          ((attestedRows (attestedControls other)).map AttestedRow.untitled)) ∧
      attestedRows (attestedControls (findings.filter fun f => f.controlId.isSome)) = rows := by
  refine ⟨nodup_pairs, nodup_checkKeys, fun row hrow => ?_, fun _ => attestedRows_perm,
    congrArg attestedRows (attestedControls_named findings)⟩
  refine ⟨?_, ?_, row_passes_iff hrow⟩
  · obtain ⟨control, -, r, -, -, rfl⟩ := mem_attestedRows.mp hrow
    rfl
  · obtain ⟨control, hcontrol, r, hr, -, rfl⟩ := mem_attestedRows.mp hrow
    obtain ⟨b, hb, -, heq⟩ := attestedControl_spec hcontrol
    rw [heq] at hr
    exact (hb.requirements r).mp hr

def finding (controlId status title : String) (related : List String) : Finding where
  compliance := some {
    securityControlId := some controlId.toList
    status := some status.toList
    relatedRequirements := related.map fun r => some r.toList }
  title := some title.toList

def bucketPolicy : Finding :=
  finding "S3.8" " PASSED " "first" ["NIST.800-53.r5 AC-3", "NIST.800-53.r5 AC-4"]

def bucketBlocked : Finding := finding "S3.8" "PASSED" "second" ["NIST.800-53.r5 AC-3"]

def accountBlocked : Finding := finding "S3.1" "PASSED" "third" ["NIST.800-53.r5 AC-3"]

/-- A security control has several rows and so has a requirement, blanks around a status do not
count, and the title is that of whichever finding comes first. -/
theorem attested_rows_not_per_control :
    let rows := attestedRows (attestedControls [bucketPolicy, bucketBlocked, accountBlocked])
    rows.map AttestedRow.pair =
        [("S3.1".toList, "AC-3".toList), ("S3.8".toList, "AC-3".toList),
          ("S3.8".toList, "AC-4".toList)] ∧
      ¬ (rows.map AttestedRow.controlId).Nodup ∧
      ¬ (rows.map AttestedRow.securityControlId).Nodup ∧
      rows.map AttestedRow.verdict = [.pass, .pass, .pass] ∧
      rows.map AttestedRow.title = ["third".toList, "first".toList, "first".toList] ∧
      (attestedRows (attestedControls [bucketBlocked, bucketPolicy, accountBlocked])).map
        AttestedRow.title = ["third".toList, "second".toList, "second".toList] := by
  decide +kernel

end Concord.Posture.Attested
