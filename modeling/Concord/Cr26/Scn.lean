import Concord.Catalog.CanonicalForm
import Concord.Cr26.Store

/-!
# Controls that a change notification names

`seed_scn` of `src/ccf/cr26/scn.py`. The entries of `impactedControls` are looked up in the
catalog: a control by its canonical id, a KSI by its name in lower case. What is not found is
reported, and the list stays.

`known_unreported_iff`: the lookup asks for a row that is spelled canonically, while the catalog
spells its controls in other ways, too.
-/

namespace Concord.Cr26.Scn

open Concord.Python Concord.Base Concord.Catalog Concord.Packs.Catalog
open Concord.Governance (Raised scalarOneOrNone scalarOneOrNone_eq_ok)

/-! ## The catalog -/

/-- `str.lower` and the `lower` of PostgreSQL. -/
structure LowerCase where
  python : Text → Text
  postgres : Text → Text

/-- The identifiers of `Control` and of `KSI`, each column without duplicates. -/
structure ControlCatalog where
  controls : List Text
  ksis : List Text
  controlsUnique : controls.Nodup
  ksisUnique : ksis.Nodup

section Seed

variable (lower : LowerCase) (catalog : ControlCatalog)

/-- Why an entry is not recognised, if it is not. -/
def unrecognisedReason (entry : Text) : Except Raised (Option Text) :=
  if strip entry = [] then .ok (some "identifies nothing".toList)
  else
    match canonicalize entry with
    | some canonical => do
      let found ← scalarOneOrNone (catalog.controls.filter (· = canonical.value))
      return if found.isNone then some "not a known control".toList else none
    | none => do
      let found ← scalarOneOrNone
        (catalog.ksis.filter fun ksi => lower.postgres ksi = lower.python (strip entry))
      return if found.isNone then some "not a known control or KSI".toList else none

/-- `f"impactedControls[{index}]"`. -/
def position (index : Nat) : Text := "impactedControls[".toList ++ natText index ++ [']']

def resolveEntry (index : Nat) : Json → Except Raised (Option (Text × Text))
  | .str entry => do
    let reason ← unrecognisedReason lower catalog entry
    return reason.map fun reason => (entry, reason)
  | _ => .ok (some (position index, "not a string -- see validation_errors".toList))

/-- The loop of `_resolve_impacted_controls`. -/
def resolveEntries : Nat → List Json → Except Raised (List (Text × Text))
  | _, [] => .ok []
  | index, entry :: entries => do
    let report ← resolveEntry lower catalog index entry
    let rest ← resolveEntries (index + 1) entries
    return report.toList ++ rest

/-- `_resolve_impacted_controls`. -/
def resolveImpactedControls : Option Json → Except Raised (List (Text × Text))
  | some (.arr entries) => resolveEntries lower catalog 0 entries
  | _ => .ok []

/-! ## The seed -/

/-- `_AUTHORED_FIELDS`. -/
def authoredFields : List Text :=
  ["assessorName".toList, "relatedVulnerability".toList, "changeTypeExplanation".toList,
    "reason".toList, "customerImpact".toList, "planAndTimeline".toList,
    "impactedControls".toList, "impactAnalysis".toList]

/-- `_validate_change_ref`. -/
def validateChangeRef (changeRef : Text) : Except Raised Text :=
  let stripped := strip changeRef
  if stripped = [] then .error (.valueError "change_ref must not be blank".toList)
  else if KeyedFilings.documentKeyMaxLength < stripped.length then
    .error (.valueError ("change_ref is too long: ".toList ++ natText stripped.length ++
      " characters, and document_key is limited to ".toList ++
      natText KeyedFilings.documentKeyMaxLength))
  else .ok stripped

/-- What is kept of a field. An explanation is of the type that it was written for. -/
def authoredValue (current : Document) (changeType field : Text) : Option Json :=
  if field = "changeTypeExplanation".toList ∧
      (current.get? "changeType".toList).bind Json.str? ≠ some changeType then none
  else current.content field

def carryAuthored (value : Text → Option Json) (out : Document × List Text) (field : Text) :
    Document × List Text :=
  match value field with
  | some v => (out.1.set field v, out.2)
  | none => (out.1, out.2 ++ [field])

/-- `ScnSeedResult`. -/
structure ScnSeedResult where
  document : Document
  documentKey : Text
  missingRequired : List (Text × Text)
  missingAdvisory : List Text
  unrecognisedControls : List (Text × Text)

/-- What the document says before the authored fields. -/
def scaffold (current : Document) (changeType : Text) : Document :=
  let document := Document.empty.set "changeType".toList (.str changeType)
  let document :=
    match Json.written (current.get? "certificationPackageOverviewUri".toList) with
    | some uri => document.set "certificationPackageOverviewUri".toList (.str uri)
    | none => document
  match current.get? "changeDescription".toList with
  | some (.str description) =>
    if strip description = [] then document
    else document.set "changeDescription".toList (.str description)
  | _ => document

def missingRequired (document : Document) : List (Text × Text) :=
  (if (document.get? "certificationPackageOverviewUri".toList).isNone then
    [("certificationPackageOverviewUri".toList,
      "no authored certificationPackageOverviewUri on this document -- never invented".toList)]
  else []) ++
  (if (document.get? "changeDescription".toList).isNone then
    [("changeDescription".toList,
      ("no authored changeDescription -- required, and the seeder never invents ".toList ++
        "or writes one".toList))]
  else [])

/-- The document, and the authored fields that it does not have. -/
def authored (current : Document) (changeType : Text) : Document × List Text :=
  authoredFields.foldl (carryAuthored (authoredValue current changeType))
    (scaffold current changeType, [])

/-- `seed_scn`. -/
def seedScn (s : KeyedFilings) (changeRef changeType : Text) :
    Except Raised (KeyedFilings × ScnSeedResult) := do
  let documentKey ← validateChangeRef changeRef
  let current := s.current .scn documentKey
  let seeded := authored current changeType
  let unrecognisedControls ←
    resolveImpactedControls lower catalog (seeded.1.get? "impactedControls".toList)
  let s' ← s.put .scn documentKey seeded.1
  return (s',
    { document := seeded.1
      documentKey := documentKey
      missingRequired := missingRequired seeded.1
      missingAdvisory := seeded.2
      unrecognisedControls := unrecognisedControls })

/-! ## What is to be reported -/

/-- The catalog has a row with the canonical id of the entry. -/
def NamesControl (entry : Text) : Prop :=
  ∃ canonical, canonicalize entry = some canonical ∧
    ∃ row ∈ catalog.controls, (canonicalize row).map CanonicalId.value = some canonical.value

/-- The entry names a KSI, up to case and the space around it. -/
def NamesKsi (entry : Text) : Prop :=
  strip entry ≠ [] ∧
    ∃ ksi ∈ catalog.ksis, lower.python (strip ksi) = lower.python (strip entry)

def Known (entry : Text) : Prop := NamesControl catalog entry ∨ NamesKsi lower catalog entry

/-- The text that an entry is reported under: its own, or its position. -/
def label (index : Nat) : Json → Text
  | .str entry => entry
  | _ => position index

open Classical in
/-- The texts of a list with a verdict on them, and all that is no text, each under its label. -/
noncomputable def labels (p : Text → Prop) : Nat → List Json → List Text
  | _, [] => []
  | index, entry :: entries =>
    (if entry.str?.all (fun s => p s) then [label index entry] else []) ++
      labels p (index + 1) entries

/-- Exactly the unknown entries are reported, and the list is stored as it was. -/
def ReportsUnknown (s : KeyedFilings) (changeRef changeType key : Text) (entries : List Json) :
    Prop :=
  ∃ s' r, seedScn lower catalog s changeRef changeType = .ok (s', r) ∧
    r.unrecognisedControls.map Prod.fst =
      labels (fun entry => ¬Known lower catalog entry) 0 entries ∧
    ∃ d, s'.documents .scn key = some d ∧ d.get? "impactedControls".toList = some (.arr entries)

/-- A control that the catalog has is in it under its canonical id. A KSI is compared with the
names that `lower` makes of the rows, of which one at most is the entry's. -/
def Findable (entry : Text) : Prop :=
  strip entry ≠ [] →
    match canonicalize entry with
    | some canonical => Known lower catalog entry → canonical.value ∈ catalog.controls
    | none =>
      (catalog.ksis.filter fun ksi => lower.postgres ksi = lower.python (strip entry)).length ≤ 1 ∧
        (NamesKsi lower catalog entry ↔
          ∃ ksi ∈ catalog.ksis, lower.postgres ksi = lower.python (strip entry))

end Seed

/-! ## One entry -/

section Entry

variable {lower : LowerCase} {catalog : ControlCatalog} {entry : Text}

theorem scalarOneOrNone_returns_iff {α : Type} {rows : List α} :
    (∃ r, scalarOneOrNone rows = .ok r) ↔ rows.length ≤ 1 := by
  constructor
  · rintro ⟨r, hr⟩
    rw [scalarOneOrNone_eq_ok hr]
    cases r <;> simp
  · intro h
    match rows, h with
    | [], _ => exact ⟨none, rfl⟩
    | [a], _ => exact ⟨some a, rfl⟩

theorem isNone_scalarOneOrNone {rows : List Text} {p : Text → Prop} [DecidablePred p]
    {r : Option Text} (h : scalarOneOrNone (rows.filter fun row => p row) = .ok r) :
    r.isNone = true ↔ ¬∃ row ∈ rows, p row := by
  have hrows := scalarOneOrNone_eq_ok h
  constructor
  · rintro hnone ⟨row, hrow, hp⟩
    rw [Option.isNone_iff_eq_none.mp hnone, Option.toList_none, List.filter_eq_nil_iff] at hrows
    exact hrows row hrow (decide_eq_true hp)
  · intro hno
    cases r with
    | none => rfl
    | some row =>
      have hmem : row ∈ rows.filter fun row => p row := by
        rw [hrows]
        exact List.mem_singleton_self row
      obtain ⟨hrow, hp⟩ := List.mem_filter.mp hmem
      exact absurd ⟨row, hrow, of_decide_eq_true hp⟩ hno

theorem unrecognisedReason_of_blank (h : strip entry = []) :
    unrecognisedReason lower catalog entry = .ok (some "identifies nothing".toList) := if_pos h

theorem unrecognisedReason_of_control (h : strip entry ≠ []) {canonical : CanonicalId}
    (hc : canonicalize entry = some canonical) :
    unrecognisedReason lower catalog entry = .ok (if canonical.value ∈ catalog.controls then none
      else some "not a known control".toList) := by
  have hlength : (catalog.controls.filter (· = canonical.value)).length ≤ 1 := by
    rw [← List.countP_eq_length_filter]
    have hcount := List.nodup_iff_count_le_one.mp catalog.controlsUnique canonical.value
    simpa [List.count, beq_eq_decide] using hcount
  obtain ⟨found, hfound⟩ := scalarOneOrNone_returns_iff.mpr hlength
  have hnone : found.isNone = true ↔ canonical.value ∉ catalog.controls := by
    simpa using isNone_scalarOneOrNone (p := (· = canonical.value)) hfound
  unfold unrecognisedReason
  rw [if_neg h, hc]
  dsimp only
  rw [hfound]
  show Except.ok (if found.isNone then _ else _) = _
  by_cases hmem : canonical.value ∈ catalog.controls
  · rw [if_pos hmem, if_neg fun hn => hnone.mp hn hmem]
  · rw [if_neg hmem, if_pos (hnone.mpr hmem)]

theorem unrecognisedReason_of_ksi (h : strip entry ≠ []) (hc : canonicalize entry = none) :
    unrecognisedReason lower catalog entry =
      (scalarOneOrNone
        (catalog.ksis.filter fun ksi => lower.postgres ksi = lower.python (strip entry))).map
          fun found => if found.isNone then some "not a known control or KSI".toList else none := by
  unfold unrecognisedReason
  rw [if_neg h, hc]
  dsimp only
  cases scalarOneOrNone
    (catalog.ksis.filter fun ksi => lower.postgres ksi = lower.python (strip entry)) with
  | error e => rfl
  | ok found => rfl

theorem namesControl_of_mem {canonical : CanonicalId} (hc : canonicalize entry = some canonical)
    (hmem : canonical.value ∈ catalog.controls) : NamesControl catalog entry := by
  refine ⟨canonical, hc, canonical.value, hmem, ?_⟩
  rw [canonicalize_value hc]
  rfl

theorem not_namesControl (hc : canonicalize entry = none) : ¬NamesControl catalog entry := by
  rintro ⟨canonical, hcanonical, -⟩
  rw [hc] at hcanonical
  cases hcanonical

theorem canonicalize_of_blank (h : strip entry = []) : canonicalize entry = none := by
  have hall : ∀ c ∈ lstrip entry, isSpace c = true := by
    intro c hc
    have hnil : lstrip (lstrip entry).reverse = [] := List.reverse_eq_nil_iff.mp h
    exact List.dropWhile_eq_nil_iff.mp hnil c (List.mem_reverse.mpr hc)
  have hnil : lstrip entry = [] :=
    (List.dropWhile_idempotent isSpace entry).symm.trans (List.dropWhile_eq_nil_iff.mpr hall)
  unfold canonicalize
  rw [hnil]

theorem not_known_of_blank (h : strip entry = []) : ¬Known lower catalog entry := by
  rintro (hcontrol | ⟨hne, -⟩)
  · exact not_namesControl (canonicalize_of_blank h) hcontrol
  · exact hne h

theorem unrecognisedReason_control_iff {canonical : CanonicalId} (hblank : strip entry ≠ [])
    (hc : canonicalize entry = some canonical) :
    (∃ reason, unrecognisedReason lower catalog entry = .ok reason ∧
      (reason.isSome = true ↔ ¬Known lower catalog entry)) ↔ Findable lower catalog entry := by
  have hfindable : Findable lower catalog entry ↔
      (Known lower catalog entry → canonical.value ∈ catalog.controls) := by
    unfold Findable
    rw [hc]
    exact forall_prop_of_true hblank
  rw [hfindable, unrecognisedReason_of_control hblank hc]
  by_cases hmem : canonical.value ∈ catalog.controls
  · rw [if_pos hmem]
    refine iff_of_true ⟨none, rfl, ?_⟩ fun _ => hmem
    exact iff_of_false Bool.false_ne_true fun hnot => hnot (.inl (namesControl_of_mem hc hmem))
  · -- it is reported, which is right where no other spelling is in the catalog
    rw [if_neg hmem]
    constructor
    · rintro ⟨reason, hreason, hiff⟩ hknown
      obtain rfl := Except.ok.inj hreason
      exact absurd hknown (hiff.mp rfl)
    · intro h
      exact ⟨_, rfl, iff_of_true rfl fun hknown => hmem (h hknown)⟩

theorem unrecognisedReason_ksi_iff (hblank : strip entry ≠ []) (hc : canonicalize entry = none) :
    (∃ reason, unrecognisedReason lower catalog entry = .ok reason ∧
      (reason.isSome = true ↔ ¬Known lower catalog entry)) ↔ Findable lower catalog entry := by
  have hfindable : Findable lower catalog entry ↔
      (catalog.ksis.filter
          fun ksi => lower.postgres ksi = lower.python (strip entry)).length ≤ 1 ∧
        (NamesKsi lower catalog entry ↔
          ∃ ksi ∈ catalog.ksis, lower.postgres ksi = lower.python (strip entry)) := by
    unfold Findable
    rw [hc]
    exact forall_prop_of_true hblank
  have hknown : Known lower catalog entry ↔ NamesKsi lower catalog entry :=
    or_iff_right (not_namesControl hc)
  have hsome : ∀ (found : Option Text) (reason : Text),
      (if found.isNone then some reason else none).isSome = found.isNone := by
    intro found reason
    cases found <;> rfl
  rw [hfindable, unrecognisedReason_of_ksi hblank hc, ← scalarOneOrNone_returns_iff]
  constructor
  · rintro ⟨reason, hreason, hiff⟩
    cases hfound : scalarOneOrNone
      (catalog.ksis.filter fun ksi => lower.postgres ksi = lower.python (strip entry)) with
    | error e =>
      rw [hfound] at hreason
      cases hreason
    | ok found =>
      rw [hfound] at hreason
      obtain rfl := Except.ok.inj hreason
      have hrows := isNone_scalarOneOrNone
        (p := fun ksi => lower.postgres ksi = lower.python (strip entry)) hfound
      rw [hsome, hrows, hknown] at hiff
      exact ⟨⟨found, rfl⟩, (not_iff_not.mp hiff).symm⟩
  · rintro ⟨⟨found, hfound⟩, hiff⟩
    have hrows := isNone_scalarOneOrNone
      (p := fun ksi => lower.postgres ksi = lower.python (strip entry)) hfound
    rw [hfound]
    refine ⟨_, rfl, ?_⟩
    rw [hsome, hrows, hknown, hiff]

theorem unrecognisedReason_iff :
    (∃ reason, unrecognisedReason lower catalog entry = .ok reason ∧
      (reason.isSome = true ↔ ¬Known lower catalog entry)) ↔ Findable lower catalog entry := by
  by_cases hblank : strip entry = []
  · refine iff_of_true ?_ fun hne => absurd hblank hne
    exact ⟨_, unrecognisedReason_of_blank hblank, iff_of_true rfl (not_known_of_blank hblank)⟩
  · cases hc : canonicalize entry with
    | some canonical => exact unrecognisedReason_control_iff hblank hc
    | none => exact unrecognisedReason_ksi_iff hblank hc


end Entry

/-! ## The list -/

section List

variable {lower : LowerCase} {catalog : ControlCatalog}

open Classical in
theorem count_labels (p q : Text → Prop) (index : Nat) (entries : List Json) (s : Text) :
    (labels p index entries).count s +
        (if q s then entries.countP (fun e => decide (e.str? = some s)) else 0) =
      (labels q index entries).count s +
        (if p s then entries.countP (fun e => decide (e.str? = some s)) else 0) := by
  induction entries generalizing index with
  | nil => simp [labels]
  | cons entry entries ih =>
    have hrest := ih (index + 1)
    rw [labels, labels, List.count_append, List.count_append, List.countP_cons]
    cases hentry : entry.str? with
    | none =>
      -- what is no text has no verdict
      simp only [Option.all_none, if_true, reduceCtorEq, decide_false, Bool.false_eq_true, if_false,
        Nat.add_zero]
      omega
    | some t =>
      obtain rfl : entry = .str t := by
        cases entry with
        | str u => exact congrArg Json.str (Option.some.inj hentry)
        | _ => cases hentry
      by_cases ht : t = s
      · subst ht
        by_cases hp : p t <;> by_cases hq : q t <;> simp [label, hp, hq] at hrest ⊢ <;> omega
      · have hne : (if (some t).all (fun s => decide (p s)) then [label index (.str t)]
            else []).count s = 0 := by
          split <;> simp [label, ht]
        have hne' : (if (some t).all (fun s => decide (q s)) then [label index (.str t)]
            else []).count s = 0 := by
          split <;> simp [label, ht]
        have hother : (if decide (some t = some s) = true then 1 else 0) = 0 :=
          if_neg (by simpa using ht)
        simp only [hne, hne', hother, Nat.add_zero]
        omega

theorem verdict_of_labels {p q : Text → Prop} {index : Nat} {entries : List Json}
    (h : labels p index entries = labels q index entries) {s : Text} (hs : .str s ∈ entries) :
    p s ↔ q s := by
  classical
  have hcount := count_labels p q index entries s
  have hpos : 0 < entries.countP fun e => decide (e.str? = some s) :=
    List.countP_pos_iff.mpr ⟨.str s, hs, decide_eq_true rfl⟩
  rw [h] at hcount
  by_cases hp : p s
  · by_cases hq : q s
    · exact iff_of_true hp hq
    · rw [if_pos hp, if_neg hq] at hcount
      omega
  · by_cases hq : q s
    · rw [if_neg hp, if_pos hq] at hcount
      omega
    · exact iff_of_false hp hq

theorem labels_congr {p q : Text → Prop} {entries : List Json}
    (h : ∀ s, .str s ∈ entries → (p s ↔ q s)) (index : Nat) :
    labels p index entries = labels q index entries := by
  induction entries generalizing index with
  | nil => rfl
  | cons entry entries ih =>
    rw [labels, labels, ih (fun s hs => h s (List.mem_cons_of_mem entry hs))]
    cases entry with
    | str s =>
      have hverdict := h s List.mem_cons_self
      by_cases hp : p s
      · simp [Json.str?, hp, hverdict.mp hp]
      · have hq : ¬q s := fun hq => hp (hverdict.mpr hq)
        simp [Json.str?, hp, hq]
    | _ => rfl

def Reported (lower : LowerCase) (catalog : ControlCatalog) (entry : Text) : Prop :=
  ∃ reason, unrecognisedReason lower catalog entry = .ok (some reason)

theorem resolveEntry_labels {index : Nat} {entry : Json} {report : Option (Text × Text)}
    (h : resolveEntry lower catalog index entry = .ok report) :
    report.toList.map Prod.fst = labels (Reported lower catalog) index [entry] := by
  cases entry with
  | str s =>
    obtain ⟨reason, hreason, h⟩ := bind_eq_ok.mp h
    obtain rfl := Except.ok.inj h
    cases reason with
    | none =>
      have hnot : ¬Reported lower catalog s := by
        rintro ⟨r, hr⟩
        rw [hreason] at hr
        cases hr
      simp [labels, Json.str?, hnot]
    | some r =>
      have hreported : Reported lower catalog s := ⟨r, hreason⟩
      simp [labels, label, Json.str?, hreported]
  | _ =>
    obtain rfl := Except.ok.inj h
    rfl

theorem resolveEntries_labels {index : Nat} {entries : List Json} {out : List (Text × Text)}
    (h : resolveEntries lower catalog index entries = .ok out) :
    out.map Prod.fst = labels (Reported lower catalog) index entries := by
  induction entries generalizing index out with
  | nil =>
    obtain rfl := Except.ok.inj h
    rfl
  | cons entry entries ih =>
    obtain ⟨report, hreport, h⟩ := bind_eq_ok.mp h
    obtain ⟨rest, hrest, h⟩ := bind_eq_ok.mp h
    obtain rfl := Except.ok.inj h
    have hentry := resolveEntry_labels hreport
    rw [labels, labels, List.append_nil] at hentry
    rw [List.map_append, hentry, ih hrest, labels]

theorem resolveEntries_returns (index : Nat) {entries : List Json} :
    (∃ out, resolveEntries lower catalog index entries = .ok out) ↔
      ∀ s, .str s ∈ entries → ∃ reason, unrecognisedReason lower catalog s = .ok reason := by
  induction entries generalizing index with
  | nil => exact iff_of_true ⟨[], rfl⟩ fun s hs => absurd hs List.not_mem_nil
  | cons entry entries ih =>
    constructor
    · rintro ⟨out, h⟩ s hs
      obtain ⟨report, hreport, h⟩ := bind_eq_ok.mp h
      obtain ⟨rest, hrest, _⟩ := bind_eq_ok.mp h
      obtain rfl | hs := List.mem_cons.mp hs
      · obtain ⟨reason, hreason, _⟩ := bind_eq_ok.mp hreport
        exact ⟨reason, hreason⟩
      · exact (ih (index + 1)).mp ⟨rest, hrest⟩ s hs
    · intro h
      obtain ⟨rest, hrest⟩ := (ih (index + 1)).mpr
        fun s hs => h s (List.mem_cons_of_mem entry hs)
      -- what is no string is passed over
      have hreport : ∃ report, resolveEntry lower catalog index entry = .ok report := by
        cases entry with
        | str s =>
          obtain ⟨reason, hreason⟩ := h s List.mem_cons_self
          exact ⟨_, bind_eq_ok.mpr ⟨reason, hreason, rfl⟩⟩
        | _ => exact ⟨_, rfl⟩
      obtain ⟨report, hreport⟩ := hreport
      exact ⟨_, bind_eq_ok.mpr ⟨report, hreport, bind_eq_ok.mpr ⟨rest, hrest, rfl⟩⟩⟩

theorem resolveEntries_iff (index : Nat) {entries : List Json} :
    (∃ out, resolveEntries lower catalog index entries = .ok out ∧
      out.map Prod.fst = labels (fun entry => ¬Known lower catalog entry) index entries) ↔
      ∀ s, .str s ∈ entries → Findable lower catalog s := by
  constructor
  · rintro ⟨out, hout, hlabels⟩ s hs
    obtain ⟨reason, hreason⟩ := (resolveEntries_returns index).mp ⟨out, hout⟩ s hs
    rw [resolveEntries_labels hout] at hlabels
    have hverdict := verdict_of_labels hlabels hs
    refine unrecognisedReason_iff.mp ⟨reason, hreason, ?_⟩
    rw [← hverdict, Option.isSome_iff_exists]
    constructor
    · rintro ⟨r, rfl⟩
      exact ⟨r, hreason⟩
    · rintro ⟨r, hr⟩
      exact ⟨r, Except.ok.inj (hreason.symm.trans hr)⟩
  · intro h
    have hreasons : ∀ s, .str s ∈ entries →
        ∃ reason, unrecognisedReason lower catalog s = .ok reason := by
      intro s hs
      obtain ⟨reason, hreason, -⟩ := unrecognisedReason_iff.mpr (h s hs)
      exact ⟨reason, hreason⟩
    obtain ⟨out, hout⟩ := (resolveEntries_returns index).mpr hreasons
    refine ⟨out, hout, (resolveEntries_labels hout).trans (labels_congr (fun s hs => ?_) index)⟩
    obtain ⟨reason, hreason, hiff⟩ := unrecognisedReason_iff.mpr (h s hs)
    rw [← hiff, Option.isSome_iff_exists]
    constructor
    · rintro ⟨r, hr⟩
      exact ⟨r, Except.ok.inj (hreason.symm.trans hr)⟩
    · rintro ⟨r, rfl⟩
      exact ⟨r, hreason⟩

end List

/-! ## The notification -/

section Notification

variable {lower : LowerCase} {catalog : ControlCatalog} {s : KeyedFilings}
  {changeRef changeType key : Text} {current : Document} {entries : List Json}

theorem get?_carryAuthored (value : Text → Option Json) (fields : List Text)
    (out : Document × List Text) (k : Text) :
    (fields.foldl (carryAuthored value) out).1.get? k =
      if k ∈ fields then (value k).or (out.1.get? k) else out.1.get? k := by
  refine get?_foldl Prod.fst value (fun out field k => ?_) fields out k
  unfold carryAuthored
  by_cases hk : k = field
  · subst hk
    rw [if_pos rfl]
    cases value k with
    | none => rfl
    | some v => exact out.1.get?_set_self k v
  · rw [if_neg hk]
    cases value field with
    | none => rfl
    | some v => exact out.1.get?_set_ne v hk

theorem get?_impactedControls (changeType : Text)
    (hentries : current.get? "impactedControls".toList = some (.arr entries)) :
    (authored current changeType).1.get? "impactedControls".toList = some (.arr entries) := by
  have hvalue : authoredValue current changeType "impactedControls".toList =
      some (.arr entries) := by
    unfold authoredValue Document.content
    rw [if_neg (fun h => absurd h.1 (by decide)), hentries]
    rfl
  rw [authored, get?_carryAuthored, if_pos (by decide), hvalue, Option.some_or]

/-- **When exactly the unknown entries are reported**: where each control that the catalog has is
in it under its canonical id, and each KSI's name is found. -/
theorem known_unreported_iff (hkey : validateChangeRef changeRef = .ok key)
    (hlive : s.deleted = false) (hcurrent : s.documents .scn key = some current)
    (hentries : current.get? "impactedControls".toList = some (.arr entries)) :
    ReportsUnknown lower catalog s changeRef changeType key entries ↔
      ∀ entry, .str entry ∈ entries → Findable lower catalog entry := by
  have hcopied := get?_impactedControls changeType hentries
  have hcurrent' : s.current .scn key = current := by
    rw [KeyedFilings.current, hcurrent]
    rfl
  rw [← resolveEntries_iff 0]
  constructor
  · rintro ⟨s', r, hseed, hlabels, -⟩
    obtain ⟨key', hkey', hseed⟩ := bind_eq_ok.mp hseed
    obtain rfl := Except.ok.inj (hkey.symm.trans hkey')
    obtain ⟨out, hout, hseed⟩ := bind_eq_ok.mp hseed
    obtain ⟨s'', _, hseed⟩ := bind_eq_ok.mp hseed
    obtain ⟨rfl, rfl⟩ := Prod.mk.inj (Except.ok.inj hseed)
    rw [hcurrent', hcopied] at hout
    exact ⟨out, hout, hlabels⟩
  · rintro ⟨out, hout, hlabels⟩
    obtain ⟨s', hput⟩ := KeyedFilings.put_of_live hlive .scn key
      (authored current changeType).1
    refine ⟨s', _, bind_eq_ok.mpr ⟨key, hkey, bind_eq_ok.mpr ⟨out, ?_, bind_eq_ok.mpr
      ⟨s', ?_, rfl⟩⟩⟩, hlabels, _, KeyedFilings.documents_put hput, hcopied⟩
    · rw [hcurrent', hcopied]
      exact hout
    · rw [hcurrent']
      exact hput

end Notification

/-! ## A catalog with padded ids -/

def asciiLower : LowerCase := ⟨List.map Char.toLower, List.map Char.toLower⟩

theorem oneControl_unique (control : Text) : [control].Nodup := List.nodup_singleton control

def oneControl (control : Text) : ControlCatalog where
  controls := [control]
  ksis := []
  controlsUnique := oneControl_unique control
  ksisUnique := List.nodup_nil

def notification : Document :=
  Document.empty.set "impactedControls".toList (.arr [.str "AC-2".toList])

def notified : KeyedFilings := ⟨7, false, fun _ _ => some notification⟩

/-- The catalog has the control as `AC-02`, and it is reported. -/
theorem padded_control_reported :
    ¬∀ (lower : LowerCase) (catalog : ControlCatalog) (s : KeyedFilings)
      (changeRef changeType key : Text) (current : Document) (entries : List Json),
      validateChangeRef changeRef = .ok key → s.deleted = false →
        s.documents .scn key = some current →
          current.get? "impactedControls".toList = some (.arr entries) →
            ReportsUnknown lower catalog s changeRef changeType key entries := by
  intro h
  obtain ⟨s', r, hseed, hlabels, -⟩ := h asciiLower (oneControl "AC-02".toList) notified
    "CHG-1".toList "Adaptive".toList "CHG-1".toList notification [.str "AC-2".toList]
    rfl rfl rfl rfl
  have hreported : (seedScn asciiLower (oneControl "AC-02".toList) notified "CHG-1".toList
      "Adaptive".toList).map (fun p => p.2.unrecognisedControls.map Prod.fst) =
        .ok ["AC-2".toList] := by
    rfl
  have hknown : Known asciiLower (oneControl "AC-02".toList) "AC-2".toList :=
    .inl ⟨⟨"AC-2".toList, "AC".toList, 2, []⟩, by decide, "AC-02".toList,
      List.mem_singleton_self _, by decide⟩
  rw [hseed] at hreported
  have hnone : labels (fun entry => ¬Known asciiLower (oneControl "AC-02".toList) entry) 0
      [.str "AC-2".toList] = [] := by
    refine (List.append_nil _).trans (if_neg fun hnot => ?_)
    have hunknown : ¬Known asciiLower (oneControl "AC-02".toList) "AC-2".toList :=
      by simpa [Json.str?] using hnot
    exact hunknown hknown
  rw [hnone, show r.unrecognisedControls.map Prod.fst = ["AC-2".toList] from
    Except.ok.inj hreported] at hlabels
  cases hlabels

/-- A catalog that has it as `AC-2`. -/
theorem plain_control_unreported :
    ReportsUnknown asciiLower (oneControl "AC-2".toList) notified "CHG-1".toList
      "Adaptive".toList "CHG-1".toList [.str "AC-2".toList] := by
  have hstored : notified.documents .scn "CHG-1".toList = some notification := rfl
  refine (known_unreported_iff rfl rfl hstored rfl).mpr ?_
  rintro entry hentry -
  obtain rfl := Json.str.inj (List.mem_singleton.mp hentry)
  exact fun _ => List.mem_singleton_self _

end Concord.Cr26.Scn
