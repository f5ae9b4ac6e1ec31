import Concord.Cr26.Render
import Mathlib.Data.List.Sort
import Mathlib.Algebra.GroupWithZero.Nat

/-!
# Merging the accepted half

`merge_accepted` of `ccf/cr26/ver.py`: the details that the walk rendered as accepted, and
the entries of the stored document, which may be any JSON. Every entry that it writes is
one row's (`mem_entries`), and so is every rationale that it promotes (`mem_promoted`).
-/

namespace Concord.Cr26

open Concord.Python Concord.Base

/-- `_tracking_id`. -/
def trackingId (entry : Json) : Option Text :=
  Json.written ((entry.get? "vulnerabilityDetail".toList).bind fun detail =>
    detail.get? "providerTrackingId".toList)

/-- `_as_row_id`. -/
def asRowId (tid : Text) : RowId :=
  match pyInt tid with
  | some n => .int n
  | none => .str tid

/-- `_id_sort_key(a) <= _id_sort_key(b)`. -/
def RowId.le : RowId → RowId → Prop
  | .int m, .int n => m ≤ n
  | .int _, .str _ => True
  | .str _, .int _ => False
  | .str s, .str t => Json.keyLt t s = false

instance : DecidableRel RowId.le
  | .int m, .int n => inferInstanceAs (Decidable (m ≤ n))
  | .int _, .str _ => inferInstanceAs (Decidable True)
  | .str _, .int _ => inferInstanceAs (Decidable False)
  | .str s, .str t => inferInstanceAs (Decidable (Json.keyLt t s = false))

/-- `sort(key=...)`, of rows under their ids. -/
def sortRows {α : Type} (rows : List (RowId × α)) : List (RowId × α) :=
  rows.insertionSort fun a b => RowId.le a.1 b.1

def noRationale : Text := "no acceptance rationale".toList

/-! ## The stored entries -/

/-- The entries by id, and those that are left out. -/
structure Authored where
  byId : Dict Text Json := .empty
  omitted : List OmittedRow := []
  dropped : Nat := 0

def Authored.read (a : Authored) (item : Json × Nat) : Authored :=
  match trackingId item.1 with
  | none =>
    { a with
      omitted := a.omitted ++
        [(.str ("acceptedVulnerabilities[".toList ++ natText item.2 ++ [']']),
          "authored entry has no providerTrackingId".toList)]
      dropped := a.dropped + 1 }
  | some tid =>
    -- the last wins
    let a := if (a.byId.get? tid).isSome then
        { a with
          omitted := a.omitted ++ [(asRowId tid, "duplicate authored entry discarded".toList)]
          dropped := a.dropped + 1 }
      else a
    { a with byId := a.byId.set tid item.1 }

def readAuthored (authored : List Json) : Authored := authored.zipIdx.foldl Authored.read {}

/-! ## The merge -/

/-- `_resolve_rationale`: the text, and whether it came from the document. -/
def resolveRationale (entry : Option Json) (column : Option Text) : Option (Text × Bool) :=
  match written column with
  | some rationale => some (rationale, false)
  | none =>
    (Json.written (entry.bind fun e => e.get? "acceptanceRationale".toList)).map
      fun rationale => (rationale, true)

/-- `AcceptedMerge`, or what one step of a loop adds to it. -/
structure AcceptedMerge where
  entries : List (RowId × Json) := []
  omitted : List OmittedRow := []
  renderedRows : Nat := 0
  omittedRows : Nat := 0
  droppedEntries : Nat := 0
  promoted : List (Int × Text) := []

def AcceptedMerge.add (m more : AcceptedMerge) : AcceptedMerge where
  entries := m.entries ++ more.entries
  omitted := m.omitted ++ more.omitted
  renderedRows := m.renderedRows + more.renderedRows
  omittedRows := m.omittedRows + more.omittedRows
  droppedEntries := m.droppedEntries + more.droppedEntries
  promoted := m.promoted ++ more.promoted

/-- `promoted.append((row_id, rationale))`, where it is due. -/
def promotion : RowId → Text × Bool → List (Int × Text)
  | .int n, (rationale, true) => [(n, rationale)]
  | _, _ => []

/-- A step of `for detail in derived`. -/
def refresh (byId : Dict Text Json) (column : Dict Text Text) (detail : Json) : AcceptedMerge :=
  match Json.written (detail.get? "providerTrackingId".toList) with
  | none => {}
  | some tid =>
    match resolveRationale (byId.get? tid) (column.get? tid) with
    | none => { omitted := [(asRowId tid, noRationale)], omittedRows := 1 }
    | some found =>
      { renderedRows := 1
        promoted := promotion (asRowId tid) found
        entries := [(asRowId tid, Json.ofItems
          [("vulnerabilityDetail".toList, detail),
           ("acceptanceRationale".toList, .str found.1)])] }

/-- `seen`. -/
def seenIds (derived : List Json) : List Text :=
  derived.filterMap fun detail => Json.written (detail.get? "providerTrackingId".toList)

/-- A step of `for tid, entry in by_id.items()`. -/
def keep (seen excluded : List Text) (unplaced : Dict Text (List Text)) (column : Dict Text Text)
    (item : Text × Json) : AcceptedMerge :=
  if item.1 ∈ seen then {}
  else if item.1 ∈ excluded then
    match resolveRationale (some item.2) (column.get? item.1) with
    | none => {}
    | some found => { promoted := promotion (asRowId item.1) found }
  else
    match (unplaced.get? item.1).getD [] with
    | [] =>
      { omitted := [(asRowId item.1, "no longer an accepted vulnerability".toList)]
        droppedEntries := 1 }
    | reasons =>
      match resolveRationale (some item.2) (column.get? item.1) with
      | none => { omitted := [(asRowId item.1, noRationale)], droppedEntries := 1 }
      | some found =>
        { promoted := promotion (asRowId item.1) found
          entries := [(asRowId item.1, item.2.set "acceptanceRationale".toList (.str found.1))]
          omitted := reasons.map fun reason =>
            (asRowId item.1, "detail not refreshed: ".toList ++ reason) }

/-- The two loops of `merge_accepted`, of a rendering. -/
def mergeLoops (authored : List Json) (rendering : VerRendering) : AcceptedMerge :=
  let a := readAuthored authored
  let fresh := rendering.accepted.map (refresh a.byId rendering.columnRationale)
  let kept := a.byId.items.map
    (keep (seenIds rendering.accepted) rendering.excluded rendering.unplaced
      rendering.columnRationale)
  (fresh ++ kept).foldl AcceptedMerge.add { omitted := a.omitted, droppedEntries := a.dropped }

/-- `merge_accepted`. -/
def mergeAccepted (authored : List Json) (rendering : VerRendering) : AcceptedMerge :=
  let merged := mergeLoops authored rendering
  { merged with entries := sortRows merged.entries, omitted := sortRows merged.omitted }

/-! ## Which entry is read -/

def lastAuthored (authored : List Json) (tid : Text) : Option Json :=
  (authored.filter fun entry => trackingId entry = some tid).getLast?

theorem lastAuthored_some {authored : List Json} {tid : Text} {entry : Json}
    (h : lastAuthored authored tid = some entry) :
    entry ∈ authored ∧ trackingId entry = some tid := by
  have hmem := List.mem_filter.mp (List.mem_of_getLast? h)
  exact ⟨hmem.1, of_decide_eq_true hmem.2⟩

theorem read_get? (a : Authored) (item : Json × Nat) (tid : Text) :
    (a.read item).byId.get? tid =
      if trackingId item.1 = some tid then some item.1 else a.byId.get? tid := by
  unfold Authored.read
  cases h : trackingId item.1 with
  | none => rfl
  | some key =>
    dsimp only
    split <;>
    · rw [Dict.get?_set]
      by_cases hk : key = tid
      · rw [if_pos hk, if_pos (congrArg some hk)]
      · rw [if_neg hk, if_neg fun heq => hk (Option.some.inj heq)]

theorem readAuthored_get? (authored : List Json) (tid : Text) :
    (readAuthored authored).byId.get? tid = lastAuthored authored tid := by
  have hrun : ∀ (authored : List Json) (n : Nat) (a : Authored),
      ((authored.zipIdx n).foldl Authored.read a).byId.get? tid =
        (lastAuthored authored tid).or (a.byId.get? tid) := by
    intro authored
    induction authored with
    | nil => exact fun n a => rfl
    | cons entry rest ih =>
      intro n a
      rw [List.zipIdx_cons, List.foldl_cons, ih, read_get?, lastAuthored, lastAuthored]
      by_cases h : trackingId entry = some tid
      · rw [if_pos h, List.filter_cons, if_pos (decide_eq_true h), List.getLast?_cons]
        cases (rest.filter fun entry => trackingId entry = some tid).getLast? <;> rfl
      · rw [if_neg h, List.filter_cons, if_neg (by simpa using h)]
  exact (hrun authored 0 {}).trans Option.or_none

theorem isDict_of_trackingId {entry : Json} {tid : Text} (h : trackingId entry = some tid) :
    entry.isDict = true := by
  cases hdetail : entry.get? "vulnerabilityDetail".toList with
  | none =>
    rw [trackingId, hdetail] at h
    cases h
  | some detail => exact Json.isDict_of_get? hdetail

/-! ## The rationale of a row -/

/-- What `_resolve_rationale` finds for a row. -/
def rowRationale (authored : List Json) (p : Poam) : Option (Text × Bool) :=
  resolveRationale (lastAuthored authored p.key) p.acceptanceRationale

theorem resolveRationale_written (entry : Option Json) (column : Option Text) :
    resolveRationale entry (written column) = resolveRationale entry column := by
  unfold resolveRationale
  rw [written_written]

theorem resolveRationale_written_some {entry : Option Json} {column : Option Text}
    {found : Text × Bool} (h : resolveRationale entry column = some found) :
    written (some found.1) = some found.1 := by
  unfold resolveRationale at h
  split at h
  · rename_i rationale hcolumn
    rw [← Option.some.inj h]
    exact written_some hcolumn
  · obtain ⟨rationale, hentry, rfl⟩ := Option.map_eq_some_iff.mp h
    exact written_some hentry

theorem resolveRationale_eq (entry : Option Json) (column : Option Text) :
    (resolveRationale entry column).map Prod.fst =
      (written column).or
        (Json.written (entry.bind fun e => e.get? "acceptanceRationale".toList)) := by
  unfold resolveRationale
  cases written column with
  | some rationale => rfl
  | none =>
    rw [Option.none_or, Option.map_map]
    exact Option.map_id'

theorem resolveRationale_snd {entry : Option Json} {column : Option Text} {found : Text × Bool}
    (h : resolveRationale entry column = some found) :
    found.2 = true ↔ written column = none := by
  unfold resolveRationale at h
  split at h
  · rename_i rationale hcolumn
    rw [← Option.some.inj h, hcolumn]
    exact ⟨fun hf => (nomatch hf), fun hf => nomatch hf⟩
  · rename_i hcolumn
    obtain ⟨rationale, -, rfl⟩ := Option.map_eq_some_iff.mp h
    exact ⟨fun _ => hcolumn, fun _ => rfl⟩

theorem asRowId_key {t : PoamTable} {p : Poam} (hp : p ∈ t.rows) : asRowId p.key = .int p.id := by
  have hten : p.id < 10 ^ 10 := Nat.lt_of_lt_of_le (t.bounded p hp) (by decide)
  have hlen : (natText p.id).length ≤ 10 :=
    (Nat.length_toDigits_le_iff (by decide) (by decide)).mpr hten
  rw [asRowId, Poam.key, pyInt_natText (Nat.le_trans hlen (by decide))]

theorem written_key (p : Poam) : Json.written (some (.str p.key)) = some p.key := by
  show written (some p.key) = some p.key
  have hne : p.key ≠ [] := Nat.toDigits_ne_nil
  have hstrip : strip p.key = p.key := strip_natText p.id
  rw [written, hstrip, if_neg hne]

/-! ## What the merge makes of a row -/

def freshEntry (detail : Json) (rationale : Text) : Json :=
  Json.ofItems [("vulnerabilityDetail".toList, detail), ("acceptanceRationale".toList, .str rationale)]

def keptEntry (entry : Json) (rationale : Text) : Json :=
  entry.set "acceptanceRationale".toList (.str rationale)

/-- The entry of a row, by where the walk put it. -/
def rowEntry (authored : List Json) (p : Poam) : Placement → Option Json
  | .rendered true detail => (rowRationale authored p).map fun found => freshEntry detail found.1
  | .unplaced _ => (lastAuthored authored p.key).bind fun entry =>
      (rowRationale authored p).map fun found => keptEntry entry found.1
  | _ => none

/-- The rationale of an entry, unless it is blank. -/
def entryRationale (entry : Json) : Option Text :=
  Json.written (entry.get? "acceptanceRationale".toList)

theorem rowEntry_eq_some {authored : List Json} {p : Poam} {placement : Placement} {e : Json} :
    rowEntry authored p placement = some e ↔
      (∃ detail found, placement = .rendered true detail ∧ rowRationale authored p = some found ∧
        freshEntry detail found.1 = e) ∨
      ∃ reasons entry found, placement = .unplaced reasons ∧
        lastAuthored authored p.key = some entry ∧ rowRationale authored p = some found ∧
        keptEntry entry found.1 = e := by
  constructor
  · intro h
    cases placement with
    | rendered b detail =>
      cases b with
      | false => cases h
      | true =>
        obtain ⟨found, hfound, hfresh⟩ := Option.map_eq_some_iff.mp h
        exact .inl ⟨detail, found, rfl, hfound, hfresh⟩
    | unplaced reasons =>
      obtain ⟨entry, hlast, hkept⟩ := Option.bind_eq_some_iff.mp h
      obtain ⟨found, hfound, hkept⟩ := Option.map_eq_some_iff.mp hkept
      exact .inr ⟨reasons, entry, found, rfl, hlast, hfound, hkept⟩
    | notAFlaw => cases h
    | outsidePeriod => cases h
  · rintro (⟨detail, found, rfl, hfound, rfl⟩ | ⟨reasons, entry, found, rfl, hlast, hfound, rfl⟩)
    · rw [rowEntry, hfound, Option.map_some]
    · rw [rowEntry, hlast, hfound, Option.bind_some, Option.map_some]

theorem entryRationale_rowEntry {authored : List Json} {p : Poam} {placement : Placement} {e : Json}
    (h : rowEntry authored p placement = some e) :
    ∃ found, rowRationale authored p = some found ∧ entryRationale e = some found.1 := by
  obtain ⟨detail, found, -, hfound, rfl⟩ | ⟨reasons, entry, found, -, hlast, hfound, rfl⟩ :=
    rowEntry_eq_some.mp h
  · exact ⟨found, hfound, resolveRationale_written_some hfound⟩
  · have hget : (keptEntry entry found.1).get? "acceptanceRationale".toList =
        some (.str found.1) :=
      (Json.get?_set _ _ (isDict_of_trackingId (lastAuthored_some hlast).2) _).trans (if_pos rfl)
    refine ⟨found, hfound, ?_⟩
    rw [entryRationale, hget]
    exact resolveRationale_written_some hfound

section Merge

variable {t : PoamTable} {authored : List Json} {today : Date} {window : RemediationWindow}
  {period : Option Period} {p : Poam}

theorem mem_seenIds {tid : Text} :
    tid ∈ seenIds (renderAll t.rows today window period).accepted ↔
      ∃ p ∈ t.rows, p.key = tid ∧ ∃ detail, place p today window period = .rendered true detail := by
  unfold seenIds
  rw [List.mem_filterMap]
  constructor
  · rintro ⟨detail, hdetail, htid⟩
    obtain ⟨p, hp, hplace⟩ := mem_accepted.mp hdetail
    refine ⟨p, hp, ?_, detail, hplace⟩
    rw [rendered_id hplace, written_key] at htid
    exact Option.some.inj htid
  · rintro ⟨p, hp, rfl, detail, hplace⟩
    refine ⟨detail, mem_accepted.mpr ⟨p, hp, hplace⟩, ?_⟩
    rw [rendered_id hplace, written_key]

theorem refresh_row (hp : p ∈ t.rows) {detail : Json}
    (hplace : place p today window period = .rendered true detail) :
    refresh (readAuthored authored).byId (renderAll t.rows today window period).columnRationale
        detail =
      match rowRationale authored p with
      | none => { omitted := [(.int p.id, noRationale)], omittedRows := 1 }
      | some found =>
        { renderedRows := 1
          promoted := promotion (.int p.id) found
          entries := [(.int p.id, freshEntry detail found.1)] } := by
  unfold refresh
  rw [rendered_id hplace, written_key]
  dsimp only
  rw [readAuthored_get?, columnRationale_of_mem hp, resolveRationale_written, asRowId_key hp]
  rfl

/-- The second loop, at the entry of a row that the filters exclude. -/
def filteredRow (authored : List Json) (p : Poam) : AcceptedMerge :=
  match rowRationale authored p with
  | none => {}
  | some found => { promoted := promotion (.int p.id) found }

theorem filteredRow_entries (authored : List Json) (p : Poam) :
    (filteredRow authored p).entries = [] := by
  unfold filteredRow
  split <;> rfl

def keptRow (authored : List Json) (p : Poam) (entry : Json) : Placement → AcceptedMerge
  | .rendered true _ => {}
  | .rendered false _ =>
    { omitted := [(.int p.id, "no longer an accepted vulnerability".toList)], droppedEntries := 1 }
  | .unplaced reasons =>
    match rowRationale authored p with
    | none => { omitted := [(.int p.id, noRationale)], droppedEntries := 1 }
    | some found =>
      { promoted := promotion (.int p.id) found
        entries := [(.int p.id, keptEntry entry found.1)]
        omitted := reasons.map fun reason =>
          (.int p.id, "detail not refreshed: ".toList ++ reason) }
  | .notAFlaw => filteredRow authored p
  | .outsidePeriod => filteredRow authored p

theorem key_mem_seenIds (hp : p ∈ t.rows) :
    p.key ∈ seenIds (renderAll t.rows today window period).accepted ↔
      ∃ detail, place p today window period = .rendered true detail := by
  rw [mem_seenIds]
  constructor
  · rintro ⟨q, hq, hkey, hplace⟩
    rwa [PoamTable.eq_of_key hq hp hkey] at hplace
  · exact fun h => ⟨p, hp, rfl, h⟩

theorem key_mem_excluded (hp : p ∈ t.rows) :
    p.key ∈ (renderAll t.rows today window period).excluded ↔
      p.isFlaw = false ∨ p.outside period = true := by
  rw [mem_excluded]
  constructor
  · rintro ⟨q, hq, hkey, hout⟩
    rwa [PoamTable.eq_of_key hq hp hkey] at hout
  · exact fun h => ⟨p, hp, rfl, h⟩

theorem keep_row (hp : p ∈ t.rows) {entry : Json}
    (hentry : lastAuthored authored p.key = some entry) :
    keep (seenIds (renderAll t.rows today window period).accepted)
        (renderAll t.rows today window period).excluded
        (renderAll t.rows today window period).unplaced
        (renderAll t.rows today window period).columnRationale (p.key, entry) =
      keptRow authored p entry (place p today window period) := by
  have hrationale : resolveRationale (some entry)
      ((renderAll t.rows today window period).columnRationale.get? p.key) =
      rowRationale authored p := by
    rw [columnRationale_of_mem hp, resolveRationale_written, rowRationale, hentry]
  unfold keep
  dsimp only
  rw [hrationale, asRowId_key hp, unplaced_of_mem hp]
  obtain ⟨hflaw, hplace⟩ | ⟨hflaw, hout, hplace⟩ | ⟨hflaw, hin, hplace⟩ :=
    place_cases p today window period
  · have hseen := mt (key_mem_seenIds hp).mp fun ⟨_, hd⟩ => nomatch hplace.symm.trans hd
    rw [if_neg hseen, if_pos ((key_mem_excluded hp).mpr (.inl hflaw)), hplace]
    rfl
  · have hseen := mt (key_mem_seenIds hp).mp fun ⟨_, hd⟩ => nomatch hplace.symm.trans hd
    rw [if_neg hseen, if_pos ((key_mem_excluded hp).mpr (.inr hout)), hplace]
    rfl
  · have hexcluded : p.key ∉ (renderAll t.rows today window period).excluded := fun hmem => by
      rcases (key_mem_excluded hp).mp hmem with h | h
      · rw [hflaw] at h
        cases h
      · rw [hin] at h
        cases h
    obtain ⟨reasons, hr, hne, -⟩ | ⟨detail, -, -, hr⟩ := placeFlaw_cases p today window
    · have hseen := mt (key_mem_seenIds hp).mp fun ⟨_, hd⟩ =>
        nomatch (hplace.trans hr).symm.trans hd
      rw [if_neg hseen, if_neg hexcluded, hplace, hr]
      cases reasons with
      | nil => exact absurd rfl hne
      | cons reason more => rfl
    · cases hstate : decide (acceptedWeaknessState p today = .accepted) with
      | true =>
        rw [hstate] at hr
        rw [if_pos ((key_mem_seenIds hp).mpr ⟨detail, hplace.trans hr⟩), hplace, hr]
        rfl
      | false =>
        rw [hstate] at hr
        have hseen := mt (key_mem_seenIds hp).mp fun ⟨_, hd⟩ =>
          nomatch (hplace.trans hr).symm.trans hd
        rw [if_neg hseen, if_neg hexcluded, hplace, hr]
        rfl

theorem keep_other {tid : Text} (htid : ∀ p ∈ t.rows, p.key ≠ tid) (entry : Json) :
    keep (seenIds (renderAll t.rows today window period).accepted)
        (renderAll t.rows today window period).excluded
        (renderAll t.rows today window period).unplaced
        (renderAll t.rows today window period).columnRationale (tid, entry) =
      { omitted := [(asRowId tid, "no longer an accepted vulnerability".toList)]
        droppedEntries := 1 } := by
  have hseen : tid ∉ seenIds (renderAll t.rows today window period).accepted := fun hmem =>
    have ⟨p, hp, hkey, _⟩ := mem_seenIds.mp hmem
    htid p hp hkey
  have hexcluded : tid ∉ (renderAll t.rows today window period).excluded := fun hmem =>
    have ⟨p, hp, hkey, _⟩ := mem_excluded.mp hmem
    htid p hp hkey
  unfold keep
  rw [if_neg hseen, if_neg hexcluded, unplaced_eq_none htid]
  rfl

theorem mem_sortRows {α : Type} {rows : List (RowId × α)} {row : RowId × α} :
    row ∈ sortRows rows ↔ row ∈ rows :=
  (List.perm_insertionSort _ rows).mem_iff

theorem mem_mergeLoops {α : Type} (get : AcceptedMerge → List α)
    (hadd : ∀ m more : AcceptedMerge, get (m.add more) = get m ++ get more) {rendering : VerRendering}
    {x : α} : x ∈ get (mergeLoops authored rendering) ↔
      x ∈ get { omitted := (readAuthored authored).omitted
                droppedEntries := (readAuthored authored).dropped } ∨
      (∃ detail ∈ rendering.accepted,
        x ∈ get (refresh (readAuthored authored).byId rendering.columnRationale detail)) ∨
      ∃ item ∈ (readAuthored authored).byId.items,
        x ∈ get (keep (seenIds rendering.accepted) rendering.excluded rendering.unplaced
          rendering.columnRationale item) := by
  unfold mergeLoops
  rw [foldl_flatMap get hadd, List.mem_append, List.flatMap_append, List.mem_append,
    List.mem_flatMap, List.mem_flatMap]
  refine or_congr_right (or_congr ?_ ?_)
  · constructor
    · rintro ⟨m, hm, hx⟩
      obtain ⟨detail, hdetail, rfl⟩ := List.mem_map.mp hm
      exact ⟨detail, hdetail, hx⟩
    · rintro ⟨detail, hdetail, hx⟩
      exact ⟨_, List.mem_map_of_mem hdetail, hx⟩
  · constructor
    · rintro ⟨m, hm, hx⟩
      obtain ⟨item, hitem, rfl⟩ := List.mem_map.mp hm
      exact ⟨item, hitem, hx⟩
    · rintro ⟨item, hitem, hx⟩
      exact ⟨_, List.mem_map_of_mem hitem, hx⟩

/-- The same, row by row: what the loops add is added at a row, or at an entry that is no
row's. -/
theorem mem_mergeLoops_rows {α : Type} (get : AcceptedMerge → List α)
    (hadd : ∀ m more : AcceptedMerge, get (m.add more) = get m ++ get more) {x : α} :
    x ∈ get (mergeLoops authored (renderAll t.rows today window period)) ↔
      x ∈ get { omitted := (readAuthored authored).omitted
                droppedEntries := (readAuthored authored).dropped } ∨
      (∃ p ∈ t.rows, ∃ detail, place p today window period = .rendered true detail ∧
        x ∈ get (match rowRationale authored p with
          | none => { omitted := [(.int p.id, noRationale)], omittedRows := 1 }
          | some found =>
            { renderedRows := 1
              promoted := promotion (.int p.id) found
              entries := [(.int p.id, freshEntry detail found.1)] })) ∨
      (∃ p ∈ t.rows, ∃ entry, lastAuthored authored p.key = some entry ∧
        x ∈ get (keptRow authored p entry (place p today window period))) ∨
      ∃ tid entry, lastAuthored authored tid = some entry ∧ (∀ p ∈ t.rows, p.key ≠ tid) ∧
        x ∈ get { omitted := [(asRowId tid, "no longer an accepted vulnerability".toList)]
                  droppedEntries := 1 } := by
  rw [mem_mergeLoops get hadd]
  refine or_congr_right (or_congr ?_ ?_)
  · constructor
    · rintro ⟨detail, hdetail, hx⟩
      obtain ⟨p, hp, hplace⟩ := mem_accepted.mp hdetail
      rw [refresh_row hp hplace] at hx
      exact ⟨p, hp, detail, hplace, hx⟩
    · rintro ⟨p, hp, detail, hplace, hx⟩
      refine ⟨detail, mem_accepted.mpr ⟨p, hp, hplace⟩, ?_⟩
      rwa [refresh_row hp hplace]
  · constructor
    · rintro ⟨⟨tid, entry⟩, hitem, hx⟩
      have hentry : lastAuthored authored tid = some entry := by
        rw [← readAuthored_get?]
        exact Dict.mem_items_iff.mp hitem
      by_cases hrow : ∃ p ∈ t.rows, p.key = tid
      · obtain ⟨p, hp, rfl⟩ := hrow
        rw [keep_row hp hentry] at hx
        exact .inl ⟨p, hp, entry, hentry, hx⟩
      · have hother : ∀ p ∈ t.rows, p.key ≠ tid := fun p hp heq => hrow ⟨p, hp, heq⟩
        rw [keep_other hother] at hx
        exact .inr ⟨tid, entry, hentry, hother, hx⟩
    · rintro (⟨p, hp, entry, hentry, hx⟩ | ⟨tid, entry, hentry, hother, hx⟩)
      · refine ⟨(p.key, entry), Dict.mem_items_iff.mpr ?_, ?_⟩
        · rwa [readAuthored_get?]
        · rwa [keep_row hp hentry]
      · refine ⟨(tid, entry), Dict.mem_items_iff.mpr ?_, ?_⟩
        · rwa [readAuthored_get?]
        · rwa [keep_other hother]

theorem keptRow_entries {entry : Json} {placement : Placement} {x : RowId × Json} :
    x ∈ (keptRow authored p entry placement).entries ↔
      ∃ reasons found, placement = .unplaced reasons ∧ rowRationale authored p = some found ∧
        x = (.int p.id, keptEntry entry found.1) := by
  constructor
  · intro h
    cases placement with
    | rendered b detail => cases b <;> cases h
    | unplaced reasons =>
      rw [keptRow] at h
      cases hfound : rowRationale authored p with
      | none =>
        rw [hfound] at h
        cases h
      | some found =>
        rw [hfound] at h
        exact ⟨reasons, found, rfl, rfl, List.mem_singleton.mp h⟩
    | notAFlaw | outsidePeriod =>
      rw [keptRow, filteredRow_entries] at h
      cases h
  · rintro ⟨reasons, found, rfl, hfound, rfl⟩
    rw [keptRow, hfound]
    exact List.mem_singleton_self _

/-- **Every entry that is written is one row's.** -/
theorem mem_entries {x : RowId × Json} :
    x ∈ (mergeAccepted authored (renderAll t.rows today window period)).entries ↔
      ∃ p ∈ t.rows, x.1 = .int p.id ∧
        rowEntry authored p (place p today window period) = some x.2 := by
  show x ∈ sortRows (mergeLoops authored _).entries ↔ _
  rw [mem_sortRows, mem_mergeLoops_rows AcceptedMerge.entries fun _ _ => rfl]
  constructor
  · rintro (h | ⟨p, hp, detail, hplace, hx⟩ | ⟨p, hp, entry, hentry, hx⟩ | ⟨tid, entry, -, -, h⟩)
    · cases h
    · cases hfound : rowRationale authored p with
      | none =>
        rw [hfound] at hx
        cases hx
      | some found =>
        rw [hfound] at hx
        obtain rfl := List.mem_singleton.mp hx
        exact ⟨p, hp, rfl, rowEntry_eq_some.mpr (.inl ⟨detail, found, hplace, hfound, rfl⟩)⟩
    · obtain ⟨reasons, found, hplace, hfound, rfl⟩ := keptRow_entries.mp hx
      exact ⟨p, hp, rfl,
        rowEntry_eq_some.mpr (.inr ⟨reasons, entry, found, hplace, hentry, hfound, rfl⟩)⟩
    · cases h
  · rintro ⟨p, hp, hid, hentry⟩
    obtain ⟨detail, found, hplace, hfound, hfresh⟩ |
      ⟨reasons, entry, found, hplace, hlast, hfound, hkept⟩ := rowEntry_eq_some.mp hentry
    · refine .inr (.inl ⟨p, hp, detail, hplace, ?_⟩)
      rw [hfound]
      exact List.mem_singleton.mpr (Prod.ext hid hfresh.symm)
    · exact .inr (.inr (.inl ⟨p, hp, entry, hlast,
        keptRow_entries.mpr ⟨reasons, found, hplace, hfound, Prod.ext hid hkept.symm⟩⟩))

theorem trackingId_rowEntry {e : Json}
    (h : rowEntry authored p (place p today window period) = some e) : trackingId e = some p.key := by
  obtain ⟨detail, found, hplace, -, rfl⟩ | ⟨reasons, entry, found, -, hlast, -, rfl⟩ :=
    rowEntry_eq_some.mp h
  · have hdetail : (freshEntry detail found.1).get? "vulnerabilityDetail".toList = some detail :=
      rfl
    rw [trackingId, hdetail, Option.bind_some, rendered_id hplace, written_key]
  · have hid := (lastAuthored_some hlast).2
    have hkept : (keptEntry entry found.1).get? "vulnerabilityDetail".toList =
        entry.get? "vulnerabilityDetail".toList :=
      (Json.get?_set _ _ (isDict_of_trackingId hid) _).trans (if_neg (by decide))
    rw [trackingId, hkept]
    exact hid

theorem keptRow_promoted {entry : Json} {placement : Placement} {x : Int × Text} :
    x ∈ (keptRow authored p entry placement).promoted ↔
      (∀ b detail, placement ≠ .rendered b detail) ∧
        ∃ found, rowRationale authored p = some found ∧ x ∈ promotion (.int p.id) found := by
  have hfiltered : x ∈ (filteredRow authored p).promoted ↔
      ∃ found, rowRationale authored p = some found ∧ x ∈ promotion (.int p.id) found := by
    unfold filteredRow
    cases rowRationale authored p with
    | none => exact ⟨fun h => (nomatch h), fun ⟨_, h, _⟩ => nomatch h⟩
    | some found => exact ⟨fun h => ⟨found, rfl, h⟩, fun ⟨_, h, hx⟩ => Option.some.inj h ▸ hx⟩
  cases placement with
  | rendered b detail =>
    refine ⟨fun h => ?_, fun h => absurd rfl (h.1 b detail)⟩
    cases b <;> cases h
  | notAFlaw =>
    rw [keptRow, hfiltered]
    exact ⟨fun h => ⟨fun _ _ h => (nomatch h), h⟩, And.right⟩
  | outsidePeriod =>
    rw [keptRow, hfiltered]
    exact ⟨fun h => ⟨fun _ _ h => (nomatch h), h⟩, And.right⟩
  | unplaced reasons =>
    rw [keptRow]
    cases rowRationale authored p with
    | none => exact ⟨fun h => (nomatch h), fun ⟨_, _, h, _⟩ => nomatch h⟩
    | some found =>
      exact ⟨fun h => ⟨fun _ _ h => (nomatch h), found, rfl, h⟩,
        fun ⟨_, _, h, hx⟩ => Option.some.inj h ▸ hx⟩

theorem mem_promotion {n m : Int} {rationale : Text} {found : Text × Bool} :
    (n, rationale) ∈ promotion (.int m) found ↔ n = m ∧ found = (rationale, true) := by
  obtain ⟨text, fromDocument⟩ := found
  cases fromDocument with
  | true =>
    rw [promotion, List.mem_singleton, Prod.mk.injEq, Prod.mk.injEq]
    exact ⟨fun h => ⟨h.1, h.2.symm, rfl⟩, fun h => ⟨h.1, h.2.1.symm⟩⟩
  | false =>
    rw [Prod.mk.injEq]
    exact ⟨fun h => (nomatch h), fun h => nomatch h.2.2⟩

theorem lastAuthored_of_rowRationale {rationale : Text}
    (h : rowRationale authored p = some (rationale, true)) :
    ∃ entry, lastAuthored authored p.key = some entry := by
  have hfst := resolveRationale_eq (lastAuthored authored p.key) p.acceptanceRationale
  rw [(resolveRationale_snd h).mp rfl, Option.none_or] at hfst
  cases hlast : lastAuthored authored p.key with
  | none =>
    have hnone : rowRationale authored p = none := by
      rw [hlast] at hfst
      rw [rowRationale, hlast]
      exact Option.map_eq_none_iff.mp hfst
    rw [hnone] at h
    cases h
  | some entry => exact ⟨entry, rfl⟩

/-- **Every rationale that is promoted is one row's**, and every row's is that the other half
does not carry. -/
theorem mem_promoted {n : Int} {rationale : Text} :
    (n, rationale) ∈ (mergeAccepted authored (renderAll t.rows today window period)).promoted ↔
      ∃ p ∈ t.rows, n = p.id ∧ rowRationale authored p = some (rationale, true) ∧
        ∀ detail, place p today window period ≠ .rendered false detail := by
  show (n, rationale) ∈ (mergeLoops authored _).promoted ↔ _
  rw [mem_mergeLoops_rows AcceptedMerge.promoted fun _ _ => rfl]
  constructor
  · rintro (h | ⟨p, hp, detail, hplace, hx⟩ | ⟨p, hp, entry, hentry, hx⟩ | ⟨tid, entry, -, -, h⟩)
    · cases h
    · cases hr : rowRationale authored p with
      | none =>
        rw [hr] at hx
        cases hx
      | some found =>
        rw [hr] at hx
        obtain ⟨hn, rfl⟩ := mem_promotion.mp hx
        refine ⟨p, hp, hn, hr, fun d hd => ?_⟩
        rw [hplace] at hd
        cases hd
    · obtain ⟨hplace, found, hr, hx⟩ := keptRow_promoted.mp hx
      obtain ⟨hn, rfl⟩ := mem_promotion.mp hx
      exact ⟨p, hp, hn, hr, hplace false⟩
    · cases h
  · rintro ⟨p, hp, hn, hr, hactive⟩
    obtain ⟨entry, hentry⟩ := lastAuthored_of_rowRationale hr
    by_cases haccepted : ∃ detail, place p today window period = .rendered true detail
    · obtain ⟨detail, hplace⟩ := haccepted
      refine .inr (.inl ⟨p, hp, detail, hplace, ?_⟩)
      rw [hr]
      exact mem_promotion.mpr ⟨hn, rfl⟩
    · refine .inr (.inr (.inl ⟨p, hp, entry, hentry, keptRow_promoted.mpr ⟨fun b detail hd => ?_,
        (rationale, true), hr, mem_promotion.mpr ⟨hn, rfl⟩⟩⟩))
      cases b with
      | true => exact haccepted ⟨detail, hd⟩
      | false => exact hactive detail hd

theorem mem_omitted_of_noRationale (hp : p ∈ t.rows) {detail : Json}
    (hplace : place p today window period = .rendered true detail)
    (hr : rowRationale authored p = none) :
    (.int p.id, noRationale) ∈
      (mergeAccepted authored (renderAll t.rows today window period)).omitted := by
  show _ ∈ sortRows (mergeLoops authored _).omitted
  rw [mem_sortRows, mem_mergeLoops_rows AcceptedMerge.omitted fun _ _ => rfl]
  refine .inr (.inl ⟨p, hp, detail, hplace, ?_⟩)
  rw [hr]
  exact List.mem_singleton_self _

theorem foldl_add_rows {k : Nat} {steps : List AcceptedMerge}
    (h : ∀ m ∈ steps, m.renderedRows + m.omittedRows = k) (m : AcceptedMerge) :
    (steps.foldl AcceptedMerge.add m).renderedRows + (steps.foldl AcceptedMerge.add m).omittedRows =
      m.renderedRows + m.omittedRows + k * steps.length := by
  induction steps generalizing m with
  | nil => rfl
  | cons step steps ih =>
    have hstep := h step List.mem_cons_self
    have hadd : (m.add step).renderedRows + (m.add step).omittedRows =
        m.renderedRows + m.omittedRows + k := by
      show m.renderedRows + step.renderedRows + (m.omittedRows + step.omittedRows) = _
      omega
    rw [List.foldl_cons, ih fun n hn => h n (List.mem_cons_of_mem step hn), hadd,
      List.length_cons, Nat.mul_succ]
    omega

/-- **The merge counts every accepted row once**, as rendered or as omitted. -/
theorem merge_rows : (mergeAccepted authored (renderAll t.rows today window period)).renderedRows +
      (mergeAccepted authored (renderAll t.rows today window period)).omittedRows =
    (renderAll t.rows today window period).accepted.length := by
  have hfresh : ∀ m ∈ (renderAll t.rows today window period).accepted.map
      (refresh (readAuthored authored).byId (renderAll t.rows today window period).columnRationale),
      m.renderedRows + m.omittedRows = 1 := by
    intro m hm
    obtain ⟨detail, hdetail, rfl⟩ := List.mem_map.mp hm
    obtain ⟨p, hp, hplace⟩ := mem_accepted.mp hdetail
    rw [refresh_row hp hplace]
    cases rowRationale authored p <;> rfl
  have hkept : ∀ m ∈ (readAuthored authored).byId.items.map
      (keep (seenIds (renderAll t.rows today window period).accepted)
        (renderAll t.rows today window period).excluded
        (renderAll t.rows today window period).unplaced
        (renderAll t.rows today window period).columnRationale),
      m.renderedRows + m.omittedRows = 0 := by
    intro m hm
    obtain ⟨item, -, rfl⟩ := List.mem_map.mp hm
    unfold keep
    repeat' split
    all_goals rfl
  show (mergeLoops authored _).renderedRows + (mergeLoops authored _).omittedRows = _
  unfold mergeLoops
  rw [List.foldl_append, foldl_add_rows hkept, foldl_add_rows hfresh, List.length_map,
    Nat.zero_mul, Nat.one_mul, Nat.add_zero]
  exact Nat.zero_add _

end Merge

end Concord.Cr26
