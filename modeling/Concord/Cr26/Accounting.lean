import Concord.Cr26.Seed

/-!
# Where every row of a filing went

The five figures of a seed are a partition of the rows, and a flaw inside the period is in the
document, in the half that the document does not carry, or named.
-/

namespace Concord.Cr26

open Concord.Python Concord.Base

def DetailOf (p : Poam) (detail : Json) : Prop :=
  detail.get? "providerTrackingId".toList = some (.str p.key)

/-- The document carries the row, rendered or kept. -/
def InDocument (document : Json) (p : Poam) : Prop :=
  (∃ d ∈ Json.listOrEmpty (document.get? "vulnerabilities".toList), DetailOf p d) ∨
  (∃ d ∈ Json.listOrEmpty (document.get? "activeVulnerabilities".toList), DetailOf p d) ∨
  ∃ e ∈ acceptedOf document, trackingId e = some p.key

/-- The half that a document does not carry: `true` for the accepted one. -/
def Kind.otherHalf : Kind → Option Bool
  | .vdr => some true
  | .avi => some false
  | _ => none

/-- What a seed accounts for. -/
structure Accounts (t : PoamTable) (today : Date) (period : Option Period) (other : Option Bool)
    (r : VerSeedResult) : Prop where
  partition : (r.counts.excludedNotAFlaw : Int) + r.counts.excludedOutsidePeriod +
    r.counts.excludedOtherHalf + r.counts.rendered + r.counts.omitted = t.rows.length
  nonneg : 0 ≤ r.counts.excludedOtherHalf
  everyFlaw : ∀ p ∈ t.rows, p.isFlaw = true → p.outside period = false →
    InDocument r.document p ∨
    (∃ b detail, other = some b ∧ place p today {} period = .rendered b detail) ∨
    ∃ reason, ((.int p.id, reason) : OmittedRow) ∈ r.omittedPoamIds

theorem seedCounts_partition (t : PoamTable) (today : Date) (period : Option Period)
    (built : Built)
    (h : built.rendered + built.mergeOmitted ≤ (renderAll t.rows today {} period).rendered) :
    let counts := seedCounts (renderAll t.rows today {} period) built
    (counts.excludedNotAFlaw : Int) + counts.excludedOutsidePeriod + counts.excludedOtherHalf +
      counts.rendered + counts.omitted = t.rows.length ∧ 0 ≤ counts.excludedOtherHalf := by
  have hsum := (tallied_renderAll t.rows today {} period).1
  simp only [seedCounts]
  omega

theorem flaw_cases {t : PoamTable} (today : Date) {period : Option Period} {p : Poam}
    (hp : p ∈ t.rows) (hflaw : p.isFlaw = true) (hin : p.outside period = false) :
    (∃ reason, ((.int p.id, reason) : OmittedRow) ∈ (renderAll t.rows today {} period).omitted) ∨
      ∃ b detail, place p today {} period = .rendered b detail := by
  have hplace := place_of_inScope today {} hflaw hin
  obtain ⟨reasons, hr, hne, -⟩ | ⟨detail, -, -, hr⟩ := placeFlaw_cases p today {}
  · obtain ⟨reason, hreason⟩ := List.exists_mem_of_ne_nil reasons hne
    exact .inl ⟨reason, mem_omitted.mpr ⟨p, hp, reasons, hplace.trans hr, rfl, hreason⟩⟩
  · exact .inr ⟨_, detail, hplace.trans hr⟩

theorem active_inDocument {t : PoamTable} {today : Date} {period : Option Period} {p : Poam}
    (hp : p ∈ t.rows) {detail : Json} (hplace : place p today {} period = .rendered false detail) :
    ∃ d ∈ (renderAll t.rows today {} period).active, DetailOf p d :=
  ⟨detail, mem_active.mpr ⟨p, hp, hplace⟩, rendered_id hplace⟩

theorem accepted_inMerge {s : Filings} {today : Date} {period : Option Period} {p : Poam}
    (hp : p ∈ s.table.rows) {detail : Json}
    (hplace : place p today {} period = .rendered true detail) :
    (∃ e ∈ (s.merged today period).entries.map Prod.snd, trackingId e = some p.key) ∨
      ((.int p.id, noRationale) : OmittedRow) ∈ (s.merged today period).omitted := by
  cases hr : rowRationale s.authored p with
  | none => exact .inr (mem_omitted_of_noRationale hp hplace hr)
  | some found =>
    have hentry : rowEntry s.authored p (place p today {} period) =
        some (freshEntry detail found.1) := by
      rw [hplace, rowEntry, hr]
      rfl
    have hmem : ((.int p.id : RowId), freshEntry detail found.1) ∈ (s.merged today period).entries :=
      mem_entries.mpr ⟨p, hp, rfl, hentry⟩
    exact .inl ⟨_, List.mem_map_of_mem hmem, trackingId_rowEntry hentry⟩

theorem mem_omittedPoamIds {s : Filings} {kind : Kind} {build : VerRendering → List Json → Built}
    {today : Date} {period : Option Period} {row : OmittedRow} :
    row ∈ (seed s kind build today period).2.omittedPoamIds ↔
      row ∈ (renderAll s.table.rows today {} period).omitted ∨
      row ∈ (build (renderAll s.table.rows today {} period) s.authored).omitted := by
  show row ∈ sortRows (_ ++ _) ↔ _
  rw [mem_sortRows, List.mem_append]

theorem accounts_vdr (s : Filings) (period : Period) (today : Date) :
    Accounts s.table today (some period) Kind.vdr.otherHalf (seedVdr s period today).2 := by
  have hhalves := (tallied_renderAll s.table.rows today {} (some period)).2
  obtain ⟨hpartition, hnonneg⟩ := seedCounts_partition s.table today
    (some period) (buildVdr period (renderAll s.table.rows today {} (some period)) s.authored) (by
    show (renderAll s.table.rows today {} (some period)).active.length + 0 ≤ _
    omega)
  refine ⟨hpartition, hnonneg, fun p hp hflaw hin => ?_⟩
  obtain ⟨reason, hreason⟩ | ⟨b, detail, hplace⟩ := flaw_cases today hp hflaw hin
  · exact .inr (.inr ⟨reason, mem_omittedPoamIds.mpr (.inl hreason)⟩)
  · cases b with
    | true => exact .inr (.inl ⟨true, detail, rfl, hplace⟩)
    | false =>
      have hactive : Json.listOrEmpty ((seedVdr s period today).2.document.get?
          "vulnerabilities".toList) = (renderAll s.table.rows today {} (some period)).active :=
        congrArg Json.listOrEmpty (carryUri_get? _ _ (by decide))
      refine .inl (.inl ?_)
      rw [hactive]
      exact active_inDocument hp hplace

theorem accounts_avi (s : Filings) (period : Period) (today : Date) :
    Accounts s.table today (some period) Kind.avi.otherHalf (seedAvi s period today).2 := by
  have hhalves := (tallied_renderAll s.table.rows today {} (some period)).2
  have hrows : (s.merged today (some period)).renderedRows +
      (s.merged today (some period)).omittedRows = _ := merge_rows
  obtain ⟨hpartition, hnonneg⟩ := seedCounts_partition s.table today
    (some period) (buildAvi period (renderAll s.table.rows today {} (some period)) s.authored) (by
    show (s.merged today (some period)).renderedRows +
      (s.merged today (some period)).omittedRows ≤ _
    omega)
  refine ⟨hpartition, hnonneg, fun p hp hflaw hin => ?_⟩
  obtain ⟨reason, hreason⟩ | ⟨b, detail, hplace⟩ := flaw_cases today hp hflaw hin
  · exact .inr (.inr ⟨reason, mem_omittedPoamIds.mpr (.inl hreason)⟩)
  · cases b with
    | false => exact .inr (.inl ⟨false, detail, rfl, hplace⟩)
    | true =>
      obtain hentry | homitted := accepted_inMerge hp hplace
      · refine .inl (.inr (.inr ?_))
        rw [acceptedOf_seedAvi]
        exact hentry
      · exact .inr (.inr ⟨noRationale, mem_omittedPoamIds.mpr (.inr homitted)⟩)

theorem accounts_verHistory (s : Filings) (now : Instant) (today : Date) :
    Accounts s.table today none Kind.verHistory.otherHalf (seedVerHistory s now today).2 := by
  have hhalves := (tallied_renderAll s.table.rows today {} none).2
  have hrows : (s.merged today none).renderedRows + (s.merged today none).omittedRows = _ :=
    merge_rows
  obtain ⟨hpartition, hnonneg⟩ := seedCounts_partition s.table today none
    (buildVerHistory now (renderAll s.table.rows today {} none) s.authored) (by
    show _ + (s.merged today none).renderedRows + (s.merged today none).omittedRows ≤ _
    omega)
  refine ⟨hpartition, hnonneg, fun p hp hflaw hin => ?_⟩
  obtain ⟨reason, hreason⟩ | ⟨b, detail, hplace⟩ := flaw_cases today hp hflaw hin
  · exact .inr (.inr ⟨reason, mem_omittedPoamIds.mpr (.inl hreason)⟩)
  · cases b with
    | false =>
      have hactive : Json.listOrEmpty ((seedVerHistory s now today).2.document.get?
          "activeVulnerabilities".toList) = (renderAll s.table.rows today {} none).active :=
        congrArg Json.listOrEmpty (carryUri_get? _ _ (by decide))
      refine .inl (.inr (.inl ?_))
      rw [hactive]
      exact active_inDocument hp hplace
    | true =>
      obtain hentry | homitted := accepted_inMerge hp hplace
      · refine .inl (.inr (.inr ?_))
        rw [acceptedOf_seedVerHistory]
        exact hentry
      · exact .inr (.inr ⟨noRationale, mem_omittedPoamIds.mpr (.inr homitted)⟩)

end Concord.Cr26
