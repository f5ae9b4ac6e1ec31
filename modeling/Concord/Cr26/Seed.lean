import Concord.Cr26.Accepted

/-!
# Seeding the VER family

`seed_vdr`, `seed_avi` and `seed_ver_history` of `ccf/cr26/ver.py`. A seed renders the rows,
merges the accepted half with the entries of the stored AVI, writes the rationales it found
there back into blank columns, and replaces the document of its kind. `Filings` is what a
seed reads and writes.
-/

namespace Concord.Cr26

open Concord.Python Concord.Base

/-- The kinds of document that are seeded here. -/
inductive Kind
  | vdr | avi | verHistory | ocr
  deriving DecidableEq

/-- The rows of a system, and its stored documents, which may be any JSON. -/
structure Filings where
  table : PoamTable
  documents : Kind → Option Json

/-- `_current`. -/
def Filings.current (s : Filings) (kind : Kind) : Json := (s.documents kind).getD (.obj [])

/-- The entries under `acceptedVulnerabilities`. -/
def acceptedOf (document : Json) : List Json :=
  Json.listOrEmpty (document.get? "acceptedVulnerabilities".toList)

/-- The entries that the AVI, the authoring surface of the family, holds. -/
def Filings.authored (s : Filings) : List Json := acceptedOf (s.current .avi)

/-- `put_document`. -/
def Filings.put (s : Filings) (kind : Kind) (document : Json) : Filings :=
  { s with documents := fun k => if k = kind then some document else s.documents k }

/-- `_carry_uri`. -/
def carryUri (document current : Json) : Json :=
  match Json.written (current.get? "certificationPackageOverviewUri".toList) with
  | none => document
  | some uri => document.set "certificationPackageOverviewUri".toList (.str uri)

/-! ## Promoting -/

/-- One pair of `_promote_rationales`, at a row. -/
def promoteRow (p : Poam) (promoted : Int × Text) : Poam :=
  if (p.id : Int) = promoted.1 ∧ written p.acceptanceRationale = none then
    { p with acceptanceRationale := some promoted.2 }
  else p

def promotedRow (promoted : List (Int × Text)) (p : Poam) : Poam := promoted.foldl promoteRow p

theorem promotedRow_eq (promoted : List (Int × Text)) (p : Poam) :
    ∃ rationale, promotedRow promoted p = { p with acceptanceRationale := rationale } := by
  induction promoted generalizing p with
  | nil => exact ⟨p.acceptanceRationale, rfl⟩
  | cons x promoted ih =>
    obtain ⟨rationale, h⟩ := ih (promoteRow p x)
    refine ⟨rationale, h.trans ?_⟩
    unfold promoteRow
    split <;> rfl

theorem promotedRow_id (promoted : List (Int × Text)) (p : Poam) :
    (promotedRow promoted p).id = p.id := by
  obtain ⟨rationale, h⟩ := promotedRow_eq promoted p
  rw [h]

theorem promotedRow_key (promoted : List (Int × Text)) (p : Poam) :
    (promotedRow promoted p).key = p.key :=
  congrArg natText (promotedRow_id promoted p)

theorem map_promotedRow_id (promoted : List (Int × Text)) (rows : List Poam) :
    (rows.map (promotedRow promoted)).map Poam.id = rows.map Poam.id := by
  rw [List.map_map]
  exact List.map_congr_left fun p _ => promotedRow_id promoted p

/-- `_promote_rationales`. -/
def PoamTable.promote (t : PoamTable) (promoted : List (Int × Text)) : PoamTable where
  rows := t.rows.map (promotedRow promoted)
  distinct := (map_promotedRow_id promoted t.rows).symm ▸ t.distinct
  bounded p hp := by
    obtain ⟨q, hq, rfl⟩ := List.mem_map.mp hp
    exact promotedRow_id promoted q ▸ t.bounded q hq

theorem promotedRow_written (promoted : List (Int × Text)) (p : Poam) :
    written (promotedRow promoted p).acceptanceRationale =
      (written p.acceptanceRationale).or (promoted.findSome? fun x =>
        if (p.id : Int) = x.1 then written (some x.2) else none) := by
  induction promoted generalizing p with
  | nil => exact Option.or_none.symm
  | cons x promoted ih =>
    have hid : (promoteRow p x).id = p.id := promotedRow_id [x] p
    have hstep : written (promoteRow p x).acceptanceRationale =
        (written p.acceptanceRationale).or
          (if (p.id : Int) = x.1 then written (some x.2) else none) := by
      unfold promoteRow
      by_cases hx : (p.id : Int) = x.1
      · rw [if_pos hx]
        cases hp : written p.acceptanceRationale with
        | none => rw [if_pos ⟨hx, rfl⟩, Option.none_or]
        | some rationale =>
          rw [if_neg fun h => (nomatch h.2), hp, Option.some_or]
      · rw [if_neg hx, if_neg fun h => hx h.1, Option.or_none]
    have hrest := ih (promoteRow p x)
    rw [hid, hstep, Option.or_assoc] at hrest
    refine hrest.trans (congrArg _ ?_)
    rw [List.findSome?_cons]
    cases (if (p.id : Int) = x.1 then written (some x.2) else none) with
    | none => exact Option.none_or
    | some rationale => exact Option.some_or

/-! ## The seeds -/

/-- `_Built`. -/
structure Built where
  document : Json
  omitted : List OmittedRow := []
  rendered : Nat := 0
  mergeOmitted : Nat := 0
  droppedAuthored : Nat := 0
  promoted : List (Int × Text) := []

/-- `counts`. -/
structure SeedCounts where
  excludedNotAFlaw : Nat
  excludedOutsidePeriod : Nat
  excludedOtherHalf : Int
  rendered : Nat
  omitted : Nat
  droppedAuthoredEntries : Nat

/-- `_seed_counts`. -/
def seedCounts (rendering : VerRendering) (built : Built) : SeedCounts where
  excludedNotAFlaw := rendering.notAFlaw
  excludedOutsidePeriod := rendering.outsidePeriod
  excludedOtherHalf := (rendering.rendered : Int) - built.rendered - built.mergeOmitted
  rendered := built.rendered
  omitted := rendering.omittedRows + built.mergeOmitted
  droppedAuthoredEntries := built.droppedAuthored

/-- `VerSeedResult`. -/
structure VerSeedResult where
  document : Json
  omittedPoamIds : List OmittedRow
  counts : SeedCounts

/-- `_seed`. -/
def seed (s : Filings) (kind : Kind) (build : VerRendering → List Json → Built) (today : Date)
    (period : Option Period) : Filings × VerSeedResult :=
  let rendering := renderAll s.table.rows today {} period
  let built := build rendering s.authored
  let document := carryUri built.document (s.current kind)
  ({ s with table := s.table.promote built.promoted }.put kind document,
    { document := document
      omittedPoamIds := sortRows (rendering.omitted ++ built.omitted)
      counts := seedCounts rendering built })

/-- `"reportPeriod": {...}`. -/
def reportPeriod (period : Period) : Text × Json :=
  ("reportPeriod".toList, Json.ofItems
    [("from".toList, .str period.start.text), ("to".toList, .str period.finish.text)])

def buildVdr (period : Period) (rendering : VerRendering) (_ : List Json) : Built where
  document := Json.ofItems
    [reportPeriod period, ("vulnerabilities".toList, .arr rendering.active)]
  rendered := rendering.active.length

/-- `seed_vdr`, which reads no entry. -/
def seedVdr (s : Filings) (period : Period) (today : Date) : Filings × VerSeedResult :=
  seed s .vdr (buildVdr period) today (some period)

/-- What a merge writes under `acceptedVulnerabilities`. -/
def AcceptedMerge.array (m : AcceptedMerge) : Json := .arr (m.entries.map Prod.snd)

def buildAvi (period : Period) (rendering : VerRendering) (authored : List Json) : Built :=
  let merge := mergeAccepted authored rendering
  { document := Json.ofItems
      [reportPeriod period, ("acceptedVulnerabilities".toList, merge.array)]
    omitted := merge.omitted
    rendered := merge.renderedRows
    mergeOmitted := merge.omittedRows
    droppedAuthored := merge.droppedEntries
    promoted := merge.promoted }

/-- `seed_avi`. -/
def seedAvi (s : Filings) (period : Period) (today : Date) : Filings × VerSeedResult :=
  seed s .avi (buildAvi period) today (some period)

def buildVerHistory (now : Instant) (rendering : VerRendering) (authored : List Json) : Built :=
  let merge := mergeAccepted authored rendering
  { document := Json.ofItems
      [("generatedAt".toList, .str now.text),
       ("activeVulnerabilities".toList, .arr rendering.active),
       ("acceptedVulnerabilities".toList, merge.array)]
    omitted := merge.omitted
    rendered := rendering.active.length + merge.renderedRows
    mergeOmitted := merge.omittedRows
    droppedAuthored := merge.droppedEntries
    promoted := merge.promoted }

/-- `seed_ver_history`, whose entries are the AVI's. -/
def seedVerHistory (s : Filings) (now : Instant) (today : Date) : Filings × VerSeedResult :=
  seed s .verHistory (buildVerHistory now) today none

/-! ## What is written -/

theorem carryUri_get? (items : List (Text × Json)) (current : Json) {key : Text}
    (hkey : key ≠ "certificationPackageOverviewUri".toList) :
    (carryUri (Json.ofItems items) current).get? key = (Json.ofItems items).get? key := by
  unfold carryUri
  split
  · rfl
  · exact (Json.get?_set _ _ rfl key).trans (if_neg hkey)

/-- The entries of a merge of the system's rows. -/
def Filings.merged (s : Filings) (today : Date) (period : Option Period) : AcceptedMerge :=
  mergeAccepted s.authored (renderAll s.table.rows today {} period)

theorem seedAvi_current (s : Filings) (period : Period) (today : Date) :
    (seedAvi s period today).1.current .avi = (seedAvi s period today).2.document := rfl

theorem seedVerHistory_current (s : Filings) (now : Instant) (today : Date) :
    (seedVerHistory s now today).1.current .verHistory =
      (seedVerHistory s now today).2.document := rfl

theorem acceptedOf_seedAvi (s : Filings) (period : Period) (today : Date) :
    acceptedOf (seedAvi s period today).2.document =
      (s.merged today (some period)).entries.map Prod.snd :=
  congrArg Json.listOrEmpty (carryUri_get? _ _ (by decide))

theorem acceptedOf_seedVerHistory (s : Filings) (now : Instant) (today : Date) :
    acceptedOf (seedVerHistory s now today).2.document =
      (s.merged today none).entries.map Prod.snd :=
  congrArg Json.listOrEmpty (carryUri_get? _ _ (by decide))

theorem rationale_of_promoted {s : Filings} {today : Date} {period : Option Period} {p : Poam}
    (hp : p ∈ s.table.rows) {x : Int × Text} (hx : x ∈ (s.merged today period).promoted)
    (hid : (p.id : Int) = x.1) : rowRationale s.authored p = some (x.2, true) ∧
      ∀ detail, place p today {} period ≠ .rendered false detail := by
  obtain ⟨q, hq, hn, hr, hactive⟩ := mem_promoted.mp (show (x.1, x.2) ∈ _ from hx)
  have hkey : q.key = p.key := congrArg natText (Int.ofNat.inj (hn.symm.trans hid.symm))
  obtain rfl := PoamTable.eq_of_key hq hp hkey
  exact ⟨hr, hactive⟩

/-- **The columns after a merge**: where the row is not in the other half, what
`_resolve_rationale` found for it. -/
theorem merged_column {s : Filings} {today : Date} {period : Option Period} {p : Poam}
    (hp : p ∈ s.table.rows) :
    (∀ detail, place p today {} period ≠ .rendered false detail) →
    written (promotedRow (s.merged today period).promoted p).acceptanceRationale =
      (rowRationale s.authored p).map Prod.fst := by
  intro hactive
  have hvalue := resolveRationale_eq (lastAuthored s.authored p.key) p.acceptanceRationale
  rw [promotedRow_written]
  cases hcolumn : written p.acceptanceRationale with
  | some rationale =>
    rw [hcolumn, Option.some_or] at hvalue
    rw [Option.some_or]
    exact hvalue.symm
  | none =>
    rw [Option.none_or]
    cases hr : rowRationale s.authored p with
    | none =>
      refine List.findSome?_eq_none_iff.mpr fun x hx => if_neg fun hid => ?_
      cases hr.symm.trans (rationale_of_promoted hp hx hid).1
    | some found =>
      obtain ⟨rationale, fromDocument⟩ := found
      have hdoc : fromDocument = true := (resolveRationale_snd hr).mpr hcolumn
      subst hdoc
      have hmem : ((p.id : Int), rationale) ∈ (s.merged today period).promoted :=
        mem_promoted.mpr ⟨p, hp, rfl, hr, hactive⟩
      have hsome : written (some rationale) = some rationale := resolveRationale_written_some hr
      cases hfind : (s.merged today period).promoted.findSome? fun x =>
          if (p.id : Int) = x.1 then written (some x.2) else none with
      | none =>
        have hmiss := List.findSome?_eq_none_iff.mp hfind _ hmem
        rw [if_pos rfl, hsome] at hmiss
        cases hmiss
      | some text =>
        obtain ⟨x, hx, hwritten⟩ := List.exists_of_findSome?_eq_some hfind
        split at hwritten
        · rename_i hid
          have hsame := (hr.symm.trans (rationale_of_promoted hp hx hid).1)
          obtain rfl := congrArg Prod.fst (Option.some.inj hsame)
          exact hwritten.symm.trans hsome
        · cases hwritten

theorem merged_column_active {s : Filings} {today : Date} {period : Option Period} {p : Poam}
    (hp : p ∈ s.table.rows) {detail : Json} (hplace : place p today {} period = .rendered false detail) :
    written (promotedRow (s.merged today period).promoted p).acceptanceRationale =
      written p.acceptanceRationale := by
  have hnone : ((s.merged today period).promoted.findSome? fun x =>
      if (p.id : Int) = x.1 then written (some x.2) else none) = none := by
    refine List.findSome?_eq_none_iff.mpr fun x hx => if_neg fun hid => ?_
    exact (rationale_of_promoted hp hx hid).2 detail hplace
  rw [promotedRow_written, hnone, Option.or_none]

end Concord.Cr26
