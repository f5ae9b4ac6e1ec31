import Concord.Cr26.Accounting
import Concord.Cr26.Filed
import Concord.Python.Dates

/-!
# The Ongoing Certification Report

`seed_ocr` of `ccf/cr26/ocr.py`: six fields carried where a person has written them, and a
count of the accepted rows of the period, with what the AVI would not report of them.
`_avi_gap` merges the rows of all periods. `gap_or_carried` says that the count comes apart
into its gap and what the AVI of the same period carries.
-/

namespace Concord.Cr26

open Concord.Python Concord.Governance Concord.Base

/-! ## The authored fields -/

/-- `type(value).__name__`. -/
def typeName : Json → Text
  | .null => "NoneType".toList
  | .bool _ => "bool".toList
  | .num n => if n.text.all fun c => c.isDigit || c = '-' then "int".toList else "float".toList
  | .str _ => "str".toList
  | .arr _ => "list".toList
  | .obj _ => "dict".toList

/-- `_array_extractor`; the error is the reason. -/
def arrayExtractor (key absentReason : Text) (current : Json) : Except Text Json :=
  match current.get? key with
  | none => .error absentReason
  | some (.arr items) => .ok (.arr items)
  | some value => .error ("an authored ".toList ++ key ++
      " was present but not usable: expected a list of strings, got ".toList ++ typeName value)

def isList : Option Json → Bool
  | some (.arr _) => true
  | _ => false

/-- `_extract_planned_changes`. -/
def extractPlannedChanges (current : Json) : Except Text Json :=
  match current.get? "plannedCertificationDataChanges".toList with
  | none => .error ("no authored forward-looking commitment: plannedCertificationDataChanges needs ".toList
      ++ "both planningHorizonThrough and changes, and a half-filled one is invalid rather ".toList ++
      "than incomplete".toList)
  | some (.obj fields) =>
    let value := Json.obj fields
    if Json.written (value.get? "planningHorizonThrough".toList) = none then
      .error ("an authored plannedCertificationDataChanges was present but ".toList ++
        "planningHorizonThrough was missing or blank".toList)
    else if !isList (value.get? "changes".toList) then
      .error ("an authored plannedCertificationDataChanges was present but ".toList ++
        "changes was not a list".toList)
    else .ok value
  | some _ => .error ("an authored plannedCertificationDataChanges was present but not usable: ".toList
      ++ "expected an object with planningHorizonThrough and changes".toList)

/-- `_extract_reportable_incidents`. -/
def extractReportableIncidents (current : Json) : Except Text Json :=
  match current.get? "reportableIncidents".toList with
  | none => .error ("no authored incident attestation -- an empty `incidents` array is a positive ".toList
      ++ "statement that none occurred, and the seeder must never manufacture that statement on ".toList
      ++ "a human's behalf".toList)
  | some (.obj fields) =>
    if !isList ((Json.obj fields).get? "incidents".toList) then
      .error ("an authored reportableIncidents was present but `incidents` was not a ".toList ++
        "list".toList)
    else .ok (.obj fields)
  | some _ => .error ("an authored reportableIncidents was present but not usable: expected an ".toList
      ++ "object with an `incidents` list".toList)

/-- An entry of `_AUTHORED_FIELDS` for a plain array. -/
def arrayField (key absentReason : Text) : Text × (Json → Except Text Json) :=
  (key, arrayExtractor key absentReason)

/-- `_AUTHORED_FIELDS`. -/
def authoredFields : List (Text × (Json → Except Text Json)) :=
  [arrayField "certificationDataChanges".toList
     ("no authored summary of changes to FedRAMP Certification Data since the previous ".toList ++
       "report".toList),
   ("plannedCertificationDataChanges".toList, extractPlannedChanges),
   arrayField "transformativeChanges".toList
     "no authored judgment on which changes during this period were transformative".toList,
   arrayField "updatedRecommendations".toList
     "no authored recommendations or best practices for customers".toList,
   arrayField "activeAgencies".toList
     ("no authored list of agencies using the product -- commercial knowledge the platform ".toList
       ++ "does not hold".toList),
   ("reportableIncidents".toList, extractReportableIncidents)]

/-! ## The accepted rows -/

/-- `period_from <= d <= period_to`. -/
def inDates (start finish d : Date) : Bool := !d.lt start && !finish.lt d

/-- `_accepted_rows`. -/
def acceptedRows (rows : List Poam) (start finish today : Date) : List Poam :=
  rows.filter fun p => p.isFlaw && (p.identifiedOn.any fun d => inDates start finish d) &&
    decide (acceptedWeaknessState p today = .accepted)

/-- `int(tid)` of the id of an entry; what a merge writes is keyed on a string. -/
def reportedId (entry : Json) : Option Int :=
  (((entry.get? "vulnerabilityDetail".toList).bind fun detail =>
    detail.get? "providerTrackingId".toList).bind Json.str?).bind pyInt

/-- `reasons_by_id.get(id)`. -/
def reasonsOf (omitted : List OmittedRow) (id : Nat) : List Text :=
  omitted.filterMap fun row => if row.1 = .int id then some row.2 else none

def unrecognised : Text := "not reflected in the AVI for an unrecognised reason".toList

def gapLines (omitted : List OmittedRow) (id : Nat) : List (Nat × Text) :=
  match reasonsOf omitted id with
  | [] => [(id, unrecognised)]
  | reasons => reasons.map fun reason => (id, reason)

/-- `_avi_gap`. -/
def aviGap (s : Filings) (acceptedIds : List Nat) (today : Date) : List (Nat × Text) :=
  if acceptedIds = [] then []
  else
    let rendering := renderAll s.table.rows today {} none
    let merge := mergeAccepted s.authored rendering
    let reportable := merge.entries.filterMap fun entry => reportedId entry.2
    let gapIds := acceptedIds.filter fun id : Nat => !reportable.contains (id : Int)
    (gapIds.insertionSort (· ≤ ·)).flatMap (gapLines (rendering.omitted ++ merge.omitted))

/-- `_accepted_summary`. -/
def acceptedSummary (count : Nat) : Text :=
  let noun := if count = 1 then "vulnerability".toList else "vulnerabilities".toList
  natText count ++ " accepted ".toList ++ noun ++ " for this reporting period. ".toList ++
    "Full records are reported per VER-RPT-AVI.".toList

/-- `OcrSeedResult`. -/
structure OcrSeedResult where
  document : Json
  missingFields : List (Text × Text)
  acceptedCount : Nat
  aviGap : List (Nat × Text)

/-- One field of the table: carried, or missing. -/
def carryField (current : Json) (out : Json × List (Text × Text))
    (field : Text × (Json → Except Text Json)) : Json × List (Text × Text) :=
  match field.2 current with
  | .error reason => (out.1, out.2 ++ [(field.1, reason)])
  | .ok value => (out.1.set field.1 value, out.2)

/-- `seed_ocr`. -/
def seedOcr (s : Filings) (start finish today : Date) : Filings × OcrSeedResult :=
  let current := s.current .ocr
  let accepted := acceptedRows s.table.rows start finish today
  let document := Json.ofItems
    [("reportPeriod".toList, Json.ofItems
       [("from".toList, .str start.isoformat), ("to".toList, .str finish.isoformat)]),
     ("acceptedVulnerabilities".toList, .str (acceptedSummary accepted.length))]
  let filled := authoredFields.foldl (carryField current) (carryUri document current, [])
  (s.put .ocr filled.1,
    { document := filled.1
      missingFields := filled.2
      acceptedCount := accepted.length
      aviGap := Cr26.aviGap s (accepted.map Poam.id) today })

/-! ## The period, in dates -/

theorem no_hour : 0 < 24 := by decide

theorem no_minute : 0 < 60 := by decide

def Instant.startOf (d : Date) : Instant where
  date := d
  hour := 0
  minute := 0
  second := 0
  hour_lt := no_hour
  minute_lt := no_minute
  second_lt := no_minute

theorem midnight_clock : "T00:00:00Z".toList = 'T' :: (padded 2 0 ++ ':' :: (padded 2 0 ++ ':' ::
    (padded 2 0 ++ ['Z']))) := rfl

theorem Instant.clock_not_lt (i : Instant) :
    Json.keyLt ('T' :: (padded 2 i.hour ++ ':' :: (padded 2 i.minute ++ ':' ::
      (padded 2 i.second ++ ['Z'])))) "T00:00:00Z".toList = false := by
  have hhour := i.hour_lt
  have hminute := i.minute_lt
  have hsecond := i.second_lt
  rw [midnight_clock, Json.keyLt_cons, Json.keyLt_padded (by omega) (by decide), Json.keyLt_cons,
    Json.keyLt_padded (by omega) (by decide), Json.keyLt_cons,
    Json.keyLt_padded (by omega) (by decide), Json.keyLt_self]
  simp

theorem outside_eq {p : Poam} {d : Date} (start : Date) (finish : Instant)
    (h : p.identifiedOn = some d) :
    p.outside (some ⟨Instant.startOf start, finish⟩) = !inDates start finish.date d := by
  have hdetected : p.detectedAt = some (midnight d) := by rw [Poam.detectedAt, h, Option.map_some]
  have hstart : Json.keyLt (midnight d) (Instant.startOf start).text = d.lt start := by
    have htext : (Instant.startOf start).text = midnight start := by
      rw [Instant.text, midnight, midnight_clock]
      rfl
    rw [htext, midnight, midnight, keyLt_isoformat, Json.keyLt_self]
    split
    · rename_i heq
      rw [heq, Date.lt_self]
    · rfl
  have hfinish : Json.keyLt finish.text (midnight d) = finish.date.lt d := by
    rw [Instant.text, midnight, keyLt_isoformat, Instant.clock_not_lt]
    split
    · rename_i heq
      rw [heq, Date.lt_self]
    · rfl
  have hbounds : p.outside (some ⟨Instant.startOf start, finish⟩) =
      (Json.keyLt (midnight d) (Instant.startOf start).text ||
        Json.keyLt finish.text (midnight d)) := by
    unfold Poam.outside
    rw [hdetected]
    rfl
  rw [hbounds, hstart, hfinish, inDates, Bool.not_and, Bool.not_not, Bool.not_not]

/-! ## The gap -/

theorem missing_reason {value : Option Text} {reason r : Text} (h : r ∈ missing value reason) :
    r = reason := by
  unfold missing at h
  split at h
  · exact List.mem_singleton.mp h
  · cases h

theorem walk_reason {p : Poam} {today : Date} {reasons : List Text}
    (h : placeFlaw p today {} = .unplaced reasons) {r : Text} (hr : r ∈ reasons) :
    r = notMeasurable ∨ r = noDate ∨ r = noSource ∨ r = noDescription := by
  have hunmeasured : ∀ r ∈ unmeasured p today, r = notMeasurable := by
    intro r hr
    unfold unmeasured at hr
    split at hr
    · exact List.mem_singleton.mp hr
    · cases hr
  unfold placeFlaw at h
  cases hrender : renderVulnerability p today {} with
  | error more =>
    rw [hrender] at h
    rw [← Placement.unplaced.inj h, (renderVulnerability_error hrender).2, List.mem_append,
      List.mem_append, List.mem_append] at hr
    rcases hr with hr | (hr | hr) | hr
    · exact .inl (hunmeasured r hr)
    · exact .inr (.inl (missing_reason hr))
    · exact .inr (.inr (.inl (missing_reason hr)))
    · exact .inr (.inr (.inr (missing_reason hr)))
  | ok detail =>
    rw [hrender] at h
    dsimp only at h
    split at h
    · cases h
    · exact .inl (hunmeasured r (Placement.unplaced.inj h ▸ hr))

theorem walk_recognised {t : PoamTable} {today : Date} {row : OmittedRow}
    (h : row ∈ (renderAll t.rows today {} none).omitted) : row.2 ≠ unrecognised := by
  obtain ⟨p, -, reasons, hplace, -, hreason⟩ := mem_omitted.mp h
  obtain ⟨-, hp⟩ | ⟨-, -, hp⟩ | ⟨-, -, hp⟩ := place_cases p today {} none
  · rw [hp] at hplace
    cases hplace
  · rw [hp] at hplace
    cases hplace
  · obtain hr | hr | hr | hr := walk_reason (hp.symm.trans hplace) hreason <;>
    · rw [hr]
      decide

theorem recognised_singleton {row : OmittedRow} {id : RowId} {reason : Text}
    (h : row ∈ [(id, reason)]) (hreason : reason ≠ unrecognised) : row.2 ≠ unrecognised := by
  rwa [List.mem_singleton.mp h]

theorem readAuthored_recognised {authored : List Json} {row : OmittedRow}
    (h : row ∈ (readAuthored authored).omitted) : row.2 ≠ unrecognised := by
  have hstep : ∀ (items : List (Json × Nat)) (a : Authored),
      (∀ row ∈ a.omitted, row.2 ≠ unrecognised) →
      ∀ row ∈ (items.foldl Authored.read a).omitted, row.2 ≠ unrecognised := by
    intro items
    induction items with
    | nil => exact fun a ha => ha
    | cons item items ih =>
      intro a ha
      refine ih _ fun row hrow => ?_
      unfold Authored.read at hrow
      split at hrow
      · obtain hold | hnew := List.mem_append.mp hrow
        · exact ha row hold
        · exact recognised_singleton hnew (by decide)
      · dsimp only at hrow
        split at hrow
        · obtain hold | hnew := List.mem_append.mp hrow
          · exact ha row hold
          · exact recognised_singleton hnew (by decide)
        · exact ha row hrow
  have hnone : ∀ row ∈ ({} : Authored).omitted, row.2 ≠ unrecognised := by
    intro row hrow
    cases hrow
  exact hstep authored.zipIdx {} hnone row h

theorem keptRow_recognised {authored : List Json} {p : Poam} {entry : Json} {placement : Placement}
    {row : OmittedRow} (h : row ∈ (keptRow authored p entry placement).omitted) :
    row.2 ≠ unrecognised := by
  have hfiltered : (filteredRow authored p).omitted = [] := by
    unfold filteredRow
    split <;> rfl
  cases placement with
  | rendered b detail =>
    cases b with
    | true => cases h
    | false =>
      exact recognised_singleton h (by decide)
  | unplaced reasons =>
    rw [keptRow] at h
    split at h
    · exact recognised_singleton h (by decide)
    · obtain ⟨reason, -, rfl⟩ := List.mem_map.mp h
      exact fun heq => absurd (List.cons.inj heq).1 (by decide)
  | notAFlaw =>
    rw [keptRow, hfiltered] at h
    cases h
  | outsidePeriod =>
    rw [keptRow, hfiltered] at h
    cases h

theorem merge_recognised {s : Filings} {today : Date} {row : OmittedRow}
    (h : row ∈ (s.merged today none).omitted) : row.2 ≠ unrecognised := by
  rw [show (s.merged today none).omitted = sortRows _ from rfl, mem_sortRows,
    mem_mergeLoops_rows AcceptedMerge.omitted fun _ _ => rfl] at h
  rcases h with h | ⟨p, -, detail, -, h⟩ | ⟨p, -, entry, -, h⟩ | ⟨tid, entry, -, -, h⟩
  · exact readAuthored_recognised h
  · split at h
    · exact recognised_singleton h (by decide)
    · cases h
  · exact keptRow_recognised h
  · exact recognised_singleton h (by decide)

theorem reportedId_eq {t : PoamTable} {p : Poam} (hp : p ∈ t.rows) {e : Json} {n : Int}
    (hid : trackingId e = some p.key) (h : reportedId e = some n) : n = p.id := by
  obtain ⟨raw, hraw, hint⟩ := Option.bind_eq_some_iff.mp h
  have hstrip : strip raw = p.key := by
    have hwritten : written (some raw) = some p.key := by
      rw [← hid, trackingId, Json.written, hraw]
    unfold written at hwritten
    dsimp only at hwritten
    split at hwritten
    · cases hwritten
    · exact Option.some.inj hwritten
  have hkey : pyInt p.key = some n := hstrip ▸ pyInt_strip hint
  have hrow := asRowId_key hp
  rw [asRowId, hkey] at hrow
  exact RowId.int.inj hrow

theorem reported_iff {s : Filings} {today : Date} {period : Option Period} {p : Poam}
    (hp : p ∈ s.table.rows) :
    (∃ x ∈ (s.merged today period).entries, reportedId x.2 = some (p.id : Int)) ↔
      ∃ e, rowEntry s.authored p (place p today {} period) = some e ∧
        reportedId e = some (p.id : Int) := by
  constructor
  · rintro ⟨x, hx, hreported⟩
    obtain ⟨q, hq, -, hentry⟩ := mem_entries.mp hx
    have hid := reportedId_eq hq (trackingId_rowEntry hentry) hreported
    obtain rfl := PoamTable.eq_of_key hp hq (congrArg natText (Int.ofNat.inj hid))
    exact ⟨x.2, hentry, hreported⟩
  · rintro ⟨e, hentry, hreported⟩
    exact ⟨(.int p.id, e), mem_entries.mpr ⟨p, hp, rfl, hentry⟩, hreported⟩

/-- The AVI carries the row, as `int` reads its ids. -/
def AviCarries (avi : Json) (id : Nat) : Prop := ∃ e ∈ acceptedOf avi, reportedId e = some (id : Int)

theorem aviCarries_iff {s : Filings} {today : Date} {period : Period} {p : Poam}
    (hp : p ∈ s.table.rows) : AviCarries (seedAvi s period today).2.document p.id ↔
      ∃ e, rowEntry s.authored p (place p today {} (some period)) = some e ∧
        reportedId e = some (p.id : Int) := by
  rw [← reported_iff hp, AviCarries, acceptedOf_seedAvi]
  constructor
  · rintro ⟨e, he, hreported⟩
    obtain ⟨x, hx, rfl⟩ := List.mem_map.mp he
    exact ⟨x, hx, hreported⟩
  · rintro ⟨x, hx, hreported⟩
    exact ⟨x.2, List.mem_map_of_mem hx, hreported⟩

theorem mem_acceptedRows {rows : List Poam} {start today : Date} {finish : Instant} {p : Poam} :
    p ∈ acceptedRows rows start finish.date today ↔
      p ∈ rows ∧ p.identifiedOn ≠ none ∧ acceptedWeaknessState p today = .accepted ∧
        p.isFlaw = true ∧ p.outside (some ⟨Instant.startOf start, finish⟩) = false := by
  rw [acceptedRows, List.mem_filter]
  refine and_congr_right fun _ => ?_
  rw [Bool.and_eq_true, Bool.and_eq_true, decide_eq_true_iff]
  cases hd : p.identifiedOn with
  | none => exact ⟨fun h => (nomatch h.1.2), fun h => absurd rfl h.1⟩
  | some d =>
    rw [outside_eq start finish hd, Bool.not_eq_false', Option.any_some]
    exact ⟨fun h => ⟨Option.some_ne_none d, h.2, h.1.1, h.1.2⟩, fun h => ⟨⟨h.2.2.1, h.2.2.2⟩, h.2.1⟩⟩

theorem mem_gapLines {omitted : List OmittedRow} {id : Nat} {line : Nat × Text}
    (h : line ∈ gapLines omitted id) :
    line.1 = id ∧ (reasonsOf omitted id = [] ∨ line.2 ∈ reasonsOf omitted id) := by
  unfold gapLines at h
  split at h
  · rename_i hnil
    rw [List.mem_singleton.mp h]
    exact ⟨rfl, .inl hnil⟩
  · obtain ⟨reason, hreason, rfl⟩ := List.mem_map.mp h
    exact ⟨rfl, .inr hreason⟩

theorem gapLines_ne_nil (omitted : List OmittedRow) (id : Nat) :
    ∃ line ∈ gapLines omitted id, line.1 = id := by
  unfold gapLines
  split
  · exact ⟨_, List.mem_singleton_self _, rfl⟩
  · rename_i hne
    cases hr : reasonsOf omitted id with
    | nil => exact absurd hr hne
    | cons reason more => exact ⟨(id, reason), List.mem_cons_self, rfl⟩

theorem mem_aviGap {s : Filings} {ids : List Nat} {today : Date} {line : Nat × Text} :
    line ∈ aviGap s ids today ↔ line.1 ∈ ids ∧
      (¬ ∃ x ∈ (s.merged today none).entries, reportedId x.2 = some (line.1 : Int)) ∧
      line ∈ gapLines ((renderAll s.table.rows today {} none).omitted ++
        (s.merged today none).omitted) line.1 := by
  have hreportable : ∀ id : Nat, (!((s.merged today none).entries.filterMap fun entry =>
      reportedId entry.2).contains (id : Int)) = true ↔
      ¬ ∃ x ∈ (s.merged today none).entries, reportedId x.2 = some (id : Int) := by
    intro id
    rw [Bool.not_eq_true', ← Bool.not_eq_true, List.contains_iff_mem, List.mem_filterMap]
  unfold aviGap
  split
  · rename_i hnil
    rw [hnil]
    exact ⟨fun h => (nomatch h), fun h => nomatch h.1⟩
  · dsimp only
    rw [List.mem_flatMap]
    constructor
    · rintro ⟨id, hid, hline⟩
      obtain ⟨rfl, -⟩ := mem_gapLines hline
      have hmem := List.mem_filter.mp ((List.perm_insertionSort _ _).mem_iff.mp hid)
      exact ⟨hmem.1, (hreportable line.1).mp hmem.2, hline⟩
    · rintro ⟨hid, hnot, hline⟩
      exact ⟨line.1, (List.perm_insertionSort _ _).mem_iff.mpr
        (List.mem_filter.mpr ⟨hid, (hreportable line.1).mpr hnot⟩), hline⟩

theorem mem_reasonsOf {omitted : List OmittedRow} {id : Nat} {reason : Text} :
    reason ∈ reasonsOf omitted id ↔ ((.int id, reason) : OmittedRow) ∈ omitted := by
  unfold reasonsOf
  rw [List.mem_filterMap]
  constructor
  · rintro ⟨row, hrow, hsome⟩
    split at hsome
    · rename_i hid
      obtain rfl := Option.some.inj hsome
      rwa [← hid]
    · cases hsome
  · exact fun h => ⟨_, h, if_pos rfl⟩

/-- **An accepted row that the AVI would not report has a reason.** -/
theorem reasonsOf_ne_nil {s : Filings} {today : Date} {p : Poam} (hp : p ∈ s.table.rows)
    (hflaw : p.isFlaw = true) (hstate : acceptedWeaknessState p today = .accepted)
    (hnot : ¬ ∃ x ∈ (s.merged today none).entries, reportedId x.2 = some (p.id : Int)) :
    reasonsOf ((renderAll s.table.rows today {} none).omitted ++ (s.merged today none).omitted)
      p.id ≠ [] := by
  have hplace : place p today {} none = placeFlaw p today {} := place_of_inScope today {} hflaw rfl
  obtain ⟨reasons, hr, hne, -⟩ | ⟨detail, -, -, hr⟩ := placeFlaw_cases p today {}
  · obtain ⟨reason, hreason⟩ := List.exists_mem_of_ne_nil reasons hne
    exact List.ne_nil_of_mem (mem_reasonsOf.mpr (List.mem_append_left _
      (mem_omitted.mpr ⟨p, hp, reasons, hplace.trans hr, rfl, hreason⟩)))
  · rw [hstate] at hr
    cases hfound : rowRationale s.authored p with
    | none =>
      exact List.ne_nil_of_mem (mem_reasonsOf.mpr (List.mem_append_right _
        (mem_omitted_of_noRationale hp (hplace.trans hr) hfound)))
    | some found =>
      refine absurd ((reported_iff hp).mpr ⟨freshEntry detail found.1, ?_, ?_⟩) hnot
      · rw [hplace, hr, decide_eq_true rfl, rowEntry, hfound]
        rfl
      · have hdetail : (freshEntry detail found.1).get? "vulnerabilityDetail".toList = some detail :=
          rfl
        have hkey := asRowId_key hp
        have hint : pyInt p.key = some (p.id : Int) := by
          unfold asRowId at hkey
          split at hkey
          · rename_i n hn
            rw [hn, RowId.int.inj hkey]
          · cases hkey
        rw [reportedId, hdetail, Option.bind_some, rendered_id (hplace.trans hr)]
        exact hint

/-- For a row that the report counts, the merge without a period and the AVI of the period
agree. -/
theorem reported_iff_carries {s : Filings} {start today : Date} {finish : Instant} {p : Poam}
    (hp : p ∈ acceptedRows s.table.rows start finish.date today) :
    (∃ x ∈ (s.merged today none).entries, reportedId x.2 = some (p.id : Int)) ↔
      AviCarries (seedAvi s ⟨Instant.startOf start, finish⟩ today).2.document p.id := by
  obtain ⟨hrow, -, -, hflaw, hin⟩ := mem_acceptedRows.mp hp
  have hscope : place p today {} none =
      place p today {} (some ⟨Instant.startOf start, finish⟩) := by
    rw [place_of_inScope today {} hflaw hin, place_of_inScope today {} hflaw rfl]
  rw [reported_iff hrow, aviCarries_iff hrow, hscope]

theorem inPeriod_of_carries {s : Filings} {start today : Date} {finish : Instant} {p : Poam}
    (hrow : p ∈ s.table.rows)
    (h : AviCarries (seedAvi s ⟨Instant.startOf start, finish⟩ today).2.document p.id) :
    p.isFlaw = true ∧ p.outside (some ⟨Instant.startOf start, finish⟩) = false := by
  obtain ⟨e, hentry, -⟩ := (aviCarries_iff hrow).mp h
  obtain ⟨-, hp⟩ | ⟨-, -, hp⟩ | ⟨hflaw, hin, -⟩ :=
    place_cases p today {} (some ⟨Instant.startOf start, finish⟩)
  · rw [hp] at hentry
    cases hentry
  · rw [hp] at hentry
    cases hentry
  · exact ⟨hflaw, hin⟩

/-- A row that is accepted and dated, and that the AVI carries. -/
def CarriedAccepted (s : Filings) (avi : Json) (today : Date) (id : Nat) : Prop :=
  ∃ p ∈ s.table.rows, p.id = id ∧ p.identifiedOn ≠ none ∧
    acceptedWeaknessState p today = .accepted ∧ AviCarries avi id

/-- What the report owes the AVI of the same period. -/
structure Reconciles (t : PoamTable) (start finish today : Date) (carried : Nat → Prop)
    (r : OcrSeedResult) : Prop where
  count : r.acceptedCount = (acceptedRows t.rows start finish today).length
  split : ∀ id, id ∈ (acceptedRows t.rows start finish today).map Poam.id ↔
    id ∈ r.aviGap.map Prod.fst ∨ carried id
  disjoint : ∀ id ∈ r.aviGap.map Prod.fst, ¬ carried id
  recognised : ∀ line ∈ r.aviGap, line.2 ≠ unrecognised

/-- **The count comes apart** into the gap and what the AVI of the period carries. -/
theorem gap_or_carried (s : Filings) (start today : Date) (finish : Instant) :
    Reconciles s.table start finish.date today
      (CarriedAccepted s (seedAvi s ⟨Instant.startOf start, finish⟩ today).2.document today)
      (seedOcr s start finish.date today).2 := by
  let accepted := acceptedRows s.table.rows start finish.date today
  let gap := (seedOcr s start finish.date today).2.aviGap
  let avi := (seedAvi s ⟨Instant.startOf start, finish⟩ today).2.document
  have hgap : ∀ line, line ∈ gap ↔ _ := fun line =>
    @mem_aviGap s (accepted.map Poam.id) today line
  refine ⟨rfl, fun id => ⟨fun hid => ?_, fun h => ?_⟩, fun id hid hcarried => ?_, fun line hline => ?_⟩
  · obtain ⟨p, hp, rfl⟩ := List.mem_map.mp hid
    obtain ⟨hrow, hdate, hstate, -, -⟩ := mem_acceptedRows.mp hp
    by_cases hcarries : AviCarries avi p.id
    · exact .inr ⟨p, hrow, rfl, hdate, hstate, hcarries⟩
    · obtain ⟨line, hline, hline_id⟩ := gapLines_ne_nil
        ((renderAll s.table.rows today {} none).omitted ++ (s.merged today none).omitted) p.id
      refine .inl (List.mem_map.mpr ⟨line, (hgap line).mpr ?_, hline_id⟩)
      rw [hline_id]
      exact ⟨hid, mt (reported_iff_carries hp).mp hcarries, hline⟩
  · obtain hid | ⟨p, hrow, rfl, hdate, hstate, hcarries⟩ := h
    · obtain ⟨line, hline, rfl⟩ := List.mem_map.mp hid
      exact ((hgap line).mp hline).1
    · exact List.mem_map_of_mem
        (mem_acceptedRows.mpr ⟨hrow, hdate, hstate, inPeriod_of_carries hrow hcarries⟩)
  · obtain ⟨line, hline, rfl⟩ := List.mem_map.mp hid
    obtain ⟨p, -, hp_id, -, -, hcarries⟩ := hcarried
    obtain ⟨hmem, hnot, -⟩ := (hgap line).mp hline
    obtain ⟨q, hq, hq_id⟩ := List.mem_map.mp hmem
    rw [← hq_id] at hnot hcarries
    exact hnot ((reported_iff_carries hq).mpr hcarries)
  · obtain ⟨hmem, hnot, hlines⟩ := (hgap line).mp hline
    obtain ⟨p, hp, hp_id⟩ := List.mem_map.mp hmem
    obtain ⟨hrow, -, hstate, hflaw, -⟩ := mem_acceptedRows.mp hp
    rw [← hp_id] at hnot hlines
    obtain hnil | hreason := (mem_gapLines hlines).2
    · exact absurd hnil (reasonsOf_ne_nil hrow hflaw hstate hnot)
    · obtain hwalk | hmerge := List.mem_append.mp (mem_reasonsOf.mp hreason)
      · exact walk_recognised hwalk
      · exact merge_recognised hmerge

/-- **The filings account for every row**: the five figures of each kind, every flaw inside the
period, and the accepted rows that the report counts. -/
theorem filings_account (s : Filings) :
    (∀ (period : Period) (today : Date),
      Accounts s.table today (some period) Kind.vdr.otherHalf (seedVdr s period today).2) ∧
    (∀ (period : Period) (today : Date),
      Accounts s.table today (some period) Kind.avi.otherHalf (seedAvi s period today).2) ∧
    (∀ (now : Instant) (today : Date),
      Accounts s.table today none Kind.verHistory.otherHalf (seedVerHistory s now today).2) ∧
    ∀ (start today : Date) (finish : Instant),
      Reconciles s.table start finish.date today
        (CarriedAccepted s (seedAvi s ⟨Instant.startOf start, finish⟩ today).2.document today)
        (seedOcr s start finish.date today).2 :=
  ⟨accounts_vdr s, accounts_avi s, accounts_verHistory s, gap_or_carried s⟩

def undatedFilings : Filings where
  table :=
    { rows := [{ blankedRow with status := .riskAccepted, identifiedOn := none }]
      distinct := blanked_distinct
      bounded := fun p hp => by
        rw [List.mem_singleton.mp hp]
        decide }
  documents := blankedFilings.documents

/-- The AVI carries it; the report neither counts it nor names it. -/
theorem undated_row_uncounted :
    undatedFilings.table.rows.map (fun p =>
      (p.id, acceptedWeaknessState p january.finish.date)) = [(7, .accepted)] ∧
    (acceptedOf (seedAvi undatedFilings january january.finish.date).2.document).map reportedId =
      [some 7] ∧
    (seedOcr undatedFilings january.start.date january.finish.date january.finish.date).2.acceptedCount
      = 0 ∧
    (seedOcr undatedFilings january.start.date january.finish.date january.finish.date).2.aviGap
      = [] := by
  refine ⟨?_, ?_, ?_, ?_⟩
  · decide +kernel
  · decide +kernel
  · decide +kernel
  · decide +kernel

end Concord.Cr26
