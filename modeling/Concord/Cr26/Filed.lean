import Concord.Cr26.Seed

/-!
# What is filed as accepted

A row that the walk could not place keeps its stored entry, because `merge_accepted` takes
every such row for one that is still accepted. It need not be: a row that is measurably not
accepted is left unplaced too, where it has no description, and its entry stays
(`KeptUnaccepted`). Every other entry is that of an accepted row, or of one that nobody can
measure.
-/

namespace Concord.Cr26

open Concord.Python Concord.Governance Concord.Base

/-- Every entry is keyed on a flaw that is accepted or cannot be measured, and no row that is
measured and not accepted has one. -/
def OnlyAccepted (t : PoamTable) (today : Date) (entries : List Json) : Prop :=
  ∀ e ∈ entries, ∃ p ∈ t.rows, p.isFlaw = true ∧ trackingId e = some p.key ∧
    acceptedWeaknessState p today ≠ .notAccepted

/-- The entry of a flaw that is not accepted is kept: the row has no description to render,
and its entry has a rationale, its own or the column's. -/
structure KeptUnaccepted (authored : List Json) (period : Option Period) (today : Date) (p : Poam) :
    Prop where
  flaw : p.isFlaw = true
  inside : p.outside period = false
  notAccepted : acceptedWeaknessState p today = .notAccepted
  undescribed : p.description = none
  hasEntry : (lastAuthored authored p.key).isSome = true
  hasRationale : (rowRationale authored p).isSome = true

theorem detectionSource_of_isFlaw {p : Poam} (h : p.isFlaw = true) : p.detectionSource ≠ none := by
  have hsource : p.source = some "scan".toList := of_decide_eq_true h
  unfold Poam.detectionSource firstWritten
  rw [hsource]
  cases hscanner : written p.scanner with
  | none =>
    rw [List.findSome?_cons, hscanner]
    exact fun h => nomatch h
  | some s =>
    rw [List.findSome?_cons, hscanner]
    exact Option.some_ne_none s

theorem undescribed_of_unplaced {p : Poam} {today : Date} {reasons : List Text}
    (hflaw : p.isFlaw = true) (hstate : acceptedWeaknessState p today = .notAccepted)
    (h : placeFlaw p today {} = .unplaced reasons) : p.description = none := by
  obtain ⟨-, -, -, hunknown | ⟨more, hmore⟩⟩ | ⟨detail, -, -, hr⟩ := placeFlaw_cases p today {}
  · rw [hstate] at hunknown
    cases hunknown
  · by_contra hdescription
    obtain ⟨description, hdescription⟩ := Option.ne_none_iff_exists'.mp hdescription
    obtain ⟨source, hsource⟩ := Option.ne_none_iff_exists'.mp (detectionSource_of_isFlaw hflaw)
    obtain ⟨identified, hidentified⟩ :=
      Option.ne_none_iff_exists'.mp (identified_of_notAccepted hstate)
    have hdetected : p.detectedAt = some (midnight identified) := by
      rw [Poam.detectedAt, hidentified, Option.map_some]
    rw [renderVulnerability, hdetected, hsource, hdescription] at hmore
    cases hmore
  · rw [hr] at h
    cases h

theorem unplaced_of_undescribed {p : Poam} (today : Date) (h : p.description = none) :
    ∃ reasons, placeFlaw p today {} = .unplaced reasons := by
  obtain ⟨reasons, hr, -⟩ | ⟨detail, hok, -⟩ := placeFlaw_cases p today {}
  · exact ⟨reasons, hr⟩
  · obtain ⟨-, -, description, -, -, hdescription, -⟩ := renderVulnerability_ok hok
    rw [h] at hdescription
    cases hdescription

theorem rowEntry_cases {authored : List Json} {p : Poam} {today : Date} {period : Option Period}
    {e : Json} (h : rowEntry authored p (place p today {} period) = some e) :
    p.isFlaw = true ∧
      (acceptedWeaknessState p today ≠ .notAccepted ∨ KeptUnaccepted authored period today p) := by
  obtain ⟨-, hp⟩ | ⟨-, -, hp⟩ | ⟨hflaw, hin, hp⟩ := place_cases p today {} period
  · rw [hp] at h
    cases h
  · rw [hp] at h
    cases h
  · refine ⟨hflaw, ?_⟩
    rw [hp] at h
    by_cases hstate : acceptedWeaknessState p today = .notAccepted
    · right
      obtain ⟨reasons, hr, -⟩ | ⟨detail, -, -, hr⟩ := placeFlaw_cases p today {}
      · have hundescribed := undescribed_of_unplaced hflaw hstate hr
        rw [hr] at h
        obtain ⟨entry, hlast, hkept⟩ := Option.bind_eq_some_iff.mp h
        obtain ⟨found, hfound, -⟩ := Option.map_eq_some_iff.mp hkept
        exact ⟨hflaw, hin, hstate, hundescribed, Option.isSome_of_eq_some hlast,
          Option.isSome_of_eq_some hfound⟩
      · rw [hr, hstate] at h
        cases h
    · exact .inl hstate

theorem KeptUnaccepted.rowEntry {authored : List Json} {p : Poam} {today : Date}
    {period : Option Period} (h : KeptUnaccepted authored period today p) :
    ∃ e, Cr26.rowEntry authored p (place p today {} period) = some e := by
  obtain ⟨reasons, hr⟩ := unplaced_of_undescribed today h.undescribed
  obtain ⟨entry, hentry⟩ := Option.isSome_iff_exists.mp h.hasEntry
  obtain ⟨found, hfound⟩ := Option.isSome_iff_exists.mp h.hasRationale
  refine ⟨keptEntry entry found.1, ?_⟩
  rw [place_of_inScope today {} h.flaw h.inside, hr, Cr26.rowEntry, hentry, hfound]
  rfl

theorem onlyAccepted_merged (s : Filings) (today : Date) (period : Option Period) :
    OnlyAccepted s.table today ((s.merged today period).entries.map Prod.snd) ↔
      ∀ p ∈ s.table.rows, ¬ KeptUnaccepted s.authored period today p := by
  constructor
  · intro h p hp hkept
    obtain ⟨e, he⟩ := hkept.rowEntry
    have hmem : ((.int p.id : RowId), e) ∈ (s.merged today period).entries :=
      mem_entries.mpr ⟨p, hp, rfl, he⟩
    obtain ⟨q, hq, -, hid, hstate⟩ := h e (List.mem_map_of_mem hmem)
    rw [trackingId_rowEntry he] at hid
    exact hstate (PoamTable.eq_of_key hp hq (Option.some.inj hid) ▸ hkept.notAccepted)
  · intro h e he
    obtain ⟨x, hx, rfl⟩ := List.mem_map.mp he
    obtain ⟨p, hp, -, hentry⟩ := mem_entries.mp hx
    obtain ⟨hflaw, hstate | hkept⟩ := rowEntry_cases hentry
    · exact ⟨p, hp, hflaw, trackingId_rowEntry hentry, hstate⟩
    · exact absurd hkept (h p hp)

/-- **Only accepted weaknesses are filed as accepted**, in the AVI and in the history, exactly
where no entry of a flaw that is not accepted is kept. -/
theorem filed_only_accepted_iff (s : Filings) (today : Date) :
    (∀ period : Period,
      OnlyAccepted s.table today (acceptedOf ((seedAvi s period today).1.current .avi)) ↔
        ∀ p ∈ s.table.rows, ¬ KeptUnaccepted s.authored (some period) today p) ∧
    ∀ now : Instant,
      OnlyAccepted s.table today
          (acceptedOf ((seedVerHistory s now today).1.current .verHistory)) ↔
        ∀ p ∈ s.table.rows, ¬ KeptUnaccepted s.authored none today p := by
  refine ⟨fun period => ?_, fun now => ?_⟩
  · rw [seedAvi_current, acceptedOf_seedAvi]
    exact onlyAccepted_merged s today (some period)
  · rw [seedVerHistory_current, acceptedOf_seedVerHistory]
    exact onlyAccepted_merged s today none

def blankedRow : Poam where
  id := 7
  title := []
  weakness := none
  severity := .moderate
  status := .opened
  identifiedOn := some ⟨2026, 1, 10, by decide, by decide, by decide, by decide, by decide, by decide⟩
  closedOn := none
  source := some "scan".toList
  scanner := none
  acceptanceRationale := none

def staleEntry : Json := Json.ofItems
  [("vulnerabilityDetail".toList, Json.ofItems [("providerTrackingId".toList, .str ['7'])]),
   ("acceptanceRationale".toList, .str "compensating control".toList)]

theorem blanked_distinct : [7].Nodup := List.nodup_singleton 7

def blankedFilings : Filings where
  table :=
    { rows := [blankedRow]
      distinct := blanked_distinct
      bounded := fun p hp => by
        rw [List.mem_singleton.mp hp]
        decide }
  documents := fun kind => if kind = .avi then
      some (Json.ofItems [("acceptedVulnerabilities".toList, .arr [staleEntry])])
    else none

def january : Period where
  start := ⟨⟨2026, 1, 1, by decide, by decide, by decide, by decide, by decide, by decide⟩, 0, 0, 0,
    by decide, by decide, by decide⟩
  finish := ⟨⟨2026, 1, 31, by decide, by decide, by decide, by decide, by decide, by decide⟩,
    23, 59, 59, by decide, by decide, by decide⟩

/-- A row ten days old keeps its entry. -/
theorem young_row_filed :
    ¬ OnlyAccepted blankedFilings.table january.finish.date
      (acceptedOf ((seedAvi blankedFilings january january.finish.date).1.current .avi)) := by
  rw [seedAvi_current, acceptedOf_seedAvi, onlyAccepted_merged]
  intro h
  exact h blankedRow (List.mem_singleton_self _)
    ⟨by decide, by decide +kernel, by decide +kernel, by decide +kernel, by decide +kernel,
      by decide +kernel⟩

end Concord.Cr26
