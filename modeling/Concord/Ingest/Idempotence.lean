import Mathlib.Data.List.Find
import Concord.Ingest.Reconcile

/-!
# Ingesting a scan again

A second reconciliation of one scan is quiet where every finding has a POA&M that is
open and reads as the finding does, and nothing else is open (`reconcile_quiet_iff`).
One reconciliation brings the register there, but for the title of the POA&Ms it
reopens (`reconcile_idempotent_iff`).
-/

namespace Concord.Ingest

open Concord.Python Concord.Governance

variable {c : ScanCall} {byUid : Text → Option Nat} {poams : List Poam}

/-- Nothing was created, updated, reopened or closed. -/
structure ReconcileResult.Quiet (r : ReconcileResult) : Prop where
  created : r.created = 0
  updated : r.updated = 0
  reopened : r.reopened = 0
  closed : r.closed = 0

def ReconcileResult.changes (r : ReconcileResult) : Nat := r.created + r.updated + r.reopened

/-- The POA&M of a finding is open, and reads as the finding does. -/
def Settled (byUid : Text → Option Nat) (poams : List Poam) (f : ScanFinding) : Prop :=
  ∃ p ∈ poams, byUid f.fingerprint = some p.id ∧ p.active = true ∧ changed f p = false

/-! ## One finding -/

theorem changed_eq_false {f : ScanFinding} {p : Poam} :
    changed f p = false ↔
      p.severity = f.severity ∧ p.weakness = some f.weakness ∧ p.title = f.heading := by
  simp [changed]

theorem refresh_of_unchanged {f : ScanFinding} {p : Poam} (h : changed f p = false) :
    refresh f p = p := by
  obtain ⟨hseverity, hweakness, htitle⟩ := changed_eq_false.mp h
  rw [refresh, ← hseverity, ← hweakness, ← htitle]

theorem updatePoamRow_self (hids : (poams.map Poam.id).Nodup) {p : Poam} (hp : p ∈ poams)
    {g : Poam → Poam} (h : g p = p) : updatePoamRow p.id g poams = poams := by
  rw [updatePoamRow_congr (g := id) hids hp h]
  exact (List.map_congr_left fun q _ => ite_self q).trans (List.map_id' _)

theorem absorb_settled (hids : (poams.map Poam.id).Nodup) (r : ReconcileResult)
    {f : ScanFinding} (h : Settled byUid poams f) :
    c.absorb byUid poams r f = (poams, { r with unchanged := r.unchanged + 1 }) := by
  obtain ⟨p, hp, hnamed, hactive, hsame⟩ := h
  have hopen : ¬resolved p.status = true := by
    rw [resolved_eq, show p.status.active = true from hactive]
    exact Bool.false_ne_true
  simp only [ScanCall.absorb, hnamed, Option.bind_some, find_id hids hp, if_neg hopen, hsame,
    Bool.false_eq_true, if_false,
    updatePoamRow_self hids hp (refresh_of_unchanged hsame)]

theorem absorb_unsettled (r : ReconcileResult) {f : ScanFinding}
    (h : ¬Settled byUid poams f) :
    (c.absorb byUid poams r f).2.changes = r.changes + 1 := by
  unfold ScanCall.absorb
  split
  · show r.created + 1 + r.updated + r.reopened = _
    rw [ReconcileResult.changes]
    omega
  · rename_i p hfind
    obtain ⟨i, hnamed, hfind⟩ := Option.bind_eq_some_iff.mp hfind
    have hid : p.id = i := by simpa using List.find?_some hfind
    split
    · rfl
    · rename_i hres
      split
      · show r.created + (r.updated + 1) + r.reopened = _
        rw [ReconcileResult.changes]
        omega
      · rename_i hsame
        refine absurd ⟨p, List.mem_of_find?_eq_some hfind, hid ▸ hnamed, ?_, ?_⟩ h
        · show p.status.active = true
          simpa [resolved_eq] using hres
        · simpa using hsame

theorem absorb_closed (r : ReconcileResult) (f : ScanFinding) :
    (c.absorb byUid poams r f).2.closed = r.closed := by
  unfold ScanCall.absorb
  split
  · rfl
  · split
    · rfl
    · split <;> rfl

/-! ## All findings -/

theorem absorbAll_changes_le (ds : List ScanFinding) (s : List Poam × ReconcileResult) :
    s.2.changes ≤ (c.absorbAll byUid ds s).2.changes := by
  induction ds generalizing s with
  | nil => exact Nat.le_refl _
  | cons f ds ih =>
    refine Nat.le_trans ?_ (ih (c.absorb byUid s.1 s.2 f))
    by_cases h : Settled byUid s.1 f
    · unfold ScanCall.absorb ReconcileResult.changes
      split
      · dsimp only
        omega
      · split
        · dsimp only
          omega
        · split
          · dsimp only
            omega
          · exact Nat.le_refl _
    · rw [absorb_unsettled _ h]
      exact Nat.le_succ _

theorem absorbAll_closed (ds : List ScanFinding) (s : List Poam × ReconcileResult) :
    (c.absorbAll byUid ds s).2.closed = s.2.closed := by
  induction ds generalizing s with
  | nil => rfl
  | cons f ds ih => exact (ih _).trans (absorb_closed s.2 f)

theorem absorbAll_settled (hids : (poams.map Poam.id).Nodup) {ds : List ScanFinding}
    (h : ∀ f ∈ ds, Settled byUid poams f) (r : ReconcileResult) :
    (c.absorbAll byUid ds (poams, r)).1 = poams ∧
      (c.absorbAll byUid ds (poams, r)).2 =
        { r with unchanged := r.unchanged + ds.length } := by
  induction ds generalizing r with
  | nil => exact ⟨rfl, rfl⟩
  | cons f ds ih =>
    have hstep := absorb_settled (c := c) hids r (h f List.mem_cons_self)
    obtain ⟨hpoams, hres⟩ := ih (fun g hg => h g (List.mem_cons_of_mem _ hg))
      { r with unchanged := r.unchanged + 1 }
    rw [ScanCall.absorbAll, List.foldl_cons, hstep]
    refine ⟨hpoams, hres.trans ?_⟩
    rw [List.length_cons, Nat.add_assoc, Nat.add_comm 1]

theorem settled_of_changes_eq (hids : (poams.map Poam.id).Nodup) {ds : List ScanFinding}
    {r : ReconcileResult}
    (h : (c.absorbAll byUid ds (poams, r)).2.changes = r.changes) :
    ∀ f ∈ ds, Settled byUid poams f := by
  induction ds generalizing r with
  | nil => exact fun f hf => by cases hf
  | cons f ds ih =>
    rw [ScanCall.absorbAll, List.foldl_cons] at h
    have hf : Settled byUid poams f := by
      by_contra hnot
      have hle := @absorbAll_changes_le c byUid ds (c.absorb byUid poams r f)
      rw [absorb_unsettled r hnot, ScanCall.absorbAll, h] at hle
      exact Nat.not_succ_le_self _ hle
    rw [absorb_settled hids r hf] at h
    intro g hg
    rcases List.mem_cons.mp hg with rfl | hg
    · exact hf
    · exact ih (r := { r with unchanged := r.unchanged + 1 }) h g hg

/-- **When a reconciliation is quiet.** -/
theorem reconcile_quiet_iff (hids : (poams.map Poam.id).Nodup) :
    (c.reconcile poams).1 = poams ∧ (c.reconcile poams).2.Quiet ↔
      (∀ f ∈ c.distinct, Settled (c.byUid poams) poams f) ∧
        ∀ p ∈ poams, missing (c.byUid poams) c.seen p = false := by
  let r : ReconcileResult := { findingsTotal := c.findings.length }
  let s := c.absorbAll (c.byUid poams) c.distinct (poams, r)
  have hrun : c.reconcile poams =
      (s.1.map (c.closeMissing (c.byUid poams) c.seen),
        { s.2 with
          closed := s.2.closed + (s.1.filter (missing (c.byUid poams) c.seen)).length }) := by
    rw [ScanCall.reconcile, foldl_turn]
    dsimp only
    rw [List.append_nil]
    rfl
  have hclosed : s.2.closed = 0 := absorbAll_closed c.distinct (poams, r)
  rw [hrun]
  -- a run that counts no change has settled every finding, and then it changed no row
  constructor
  · rintro ⟨-, hcreated, hupdated, hreopened, hmissing⟩
    dsimp only at hcreated hupdated hreopened hmissing
    have hchanges : s.2.changes = r.changes := by
      rw [ReconcileResult.changes, hcreated, hupdated, hreopened]
      rfl
    have hsettled := settled_of_changes_eq hids hchanges
    have hsame : s.1 = poams := (absorbAll_settled hids hsettled r).1
    refine ⟨hsettled, ?_⟩
    rw [hclosed, Nat.zero_add, hsame, List.length_eq_zero_iff, List.filter_eq_nil_iff] at hmissing
    exact fun p hp => by simpa using hmissing p hp
  · rintro ⟨hsettled, hnone⟩
    obtain ⟨hsame, hres⟩ := absorbAll_settled (c := c) hids hsettled r
    have hfilter : s.1.filter (missing (c.byUid poams) c.seen) = [] := by
      rw [show s.1 = poams from hsame]
      exact List.filter_eq_nil_iff.mpr fun p hp => by rw [hnone p hp]; exact Bool.false_ne_true
    constructor
    · show s.1.map _ = poams
      rw [show s.1 = poams from hsame]
      refine (List.map_congr_left fun p hp => ?_).trans (List.map_id' _)
      rw [ScanCall.closeMissing, hnone p hp]
      rfl
    · have hs : s.2 = { r with unchanged := r.unchanged + c.distinct.length } := hres
      constructor
      · rw [hs]
      · rw [hs]
      · rw [hs]
      · show s.2.closed + _ = 0
        rw [hclosed, hfilter]
        rfl

/-! ## The register that a reconciliation leaves -/

theorem reconcile_ids (hids : (poams.map Poam.id).Nodup) :
    ((c.reconcile poams).1.map Poam.id).Nodup := by
  rw [reconcile_poams hids, List.map_append, List.map_map]
  have hold : poams.map (Poam.id ∘ c.rowAfter poams) = poams.map Poam.id :=
    List.map_congr_left fun p hp => (became_rowAfter hids hp).sameOrigin.id
  rw [hold]
  refine List.Nodup.append hids (newRows_ids_nodup _ _) fun i hi hi' => ?_
  obtain ⟨p, hp, rfl⟩ := List.mem_map.mp hi'
  exact absurd (mem_newRows hp).1 (Nat.not_le_of_lt (lt_nextId hi))

theorem byUid_reconcile (hids : (poams.map Poam.id).Nodup) {uid : Text} (hne : uid ≠ []) :
    c.byUid (c.reconcile poams).1 uid =
      (((c.newRows (c.byUid poams) (nextId (poams.map Poam.id)) c.distinct).reverse.find?
        fun p => p.findingUid = some uid).map Poam.id).or (c.byUid poams uid) := by
  have hnew : (c.newRows (c.byUid poams) (nextId (poams.map Poam.id)) c.distinct).filter
      c.covers = c.newRows (c.byUid poams) (nextId (poams.map Poam.id)) c.distinct :=
    List.filter_eq_self.mpr fun p hp => mem_newRows_covers hp
  have hold : (poams.map (c.rowAfter poams)).filter c.covers =
      (poams.filter c.covers).map (c.rowAfter poams) := by
    rw [List.filter_map]
    refine congrArg _ (List.filter_congr fun p hp => ?_)
    exact (became_rowAfter hids hp).sameOrigin.covers
  rw [ScanCall.byUid, if_neg hne, ScanCall.byUid, if_neg hne, reconcile_poams hids,
    List.filter_append, hnew, hold, List.reverse_append, List.find?_append, Option.map_or,
    ← List.map_reverse, List.find?_map, Option.map_map]
  refine congrArg _ ?_
  have hmem : ∀ p ∈ (poams.filter c.covers).reverse, p ∈ poams := fun p hp =>
    (List.mem_filter.mp (List.mem_reverse.mp hp)).1
  have hfind : (poams.filter c.covers).reverse.find?
      ((fun p => decide (p.findingUid = some uid)) ∘ c.rowAfter poams) =
      (poams.filter c.covers).reverse.find? fun p => p.findingUid = some uid := by
    refine List.find?_congr fun p hp => ?_
    rw [Function.comp_apply, (became_rowAfter hids (hmem p hp)).sameOrigin.findingUid]
  rw [hfind]
  cases h : (poams.filter c.covers).reverse.find? fun p => p.findingUid = some uid with
  | none => rfl
  | some p =>
    have hp := hmem p (List.mem_of_find?_eq_some h)
    exact congrArg some (became_rowAfter hids hp).sameOrigin.id

theorem byUid_reconcile_of_named (hids : (poams.map Poam.id).Nodup) {uid : Text} {i : Nat}
    (hne : uid ≠ []) (h : c.byUid poams uid = some i) :
    c.byUid (c.reconcile poams).1 uid = some i := by
  have hnone : (c.newRows (c.byUid poams) (nextId (poams.map Poam.id)) c.distinct).reverse.find?
      (fun p => p.findingUid = some uid) = none := by
    refine List.find?_eq_none.mpr fun p hp huid => ?_
    obtain ⟨-, f, hf, hnot, heq⟩ := mem_newRows (List.mem_reverse.mp hp)
    rw [heq, decide_eq_true_iff] at huid
    rw [Option.some.inj huid, h] at hnot
    cases hnot
  rw [byUid_reconcile hids hne, hnone, h]
  rfl

theorem byUid_reconcile_of_new (hids : (poams.map Poam.id).Nodup) {f : ScanFinding} {j : Nat}
    (hj : { c.newPoam f with id := j } ∈
      c.newRows (c.byUid poams) (nextId (poams.map Poam.id)) c.distinct) :
    c.byUid (c.reconcile poams).1 f.fingerprint = some j := by
  rw [byUid_reconcile hids (fingerprint_ne_nil f)]
  cases hfind : (c.newRows (c.byUid poams) (nextId (poams.map Poam.id)) c.distinct).reverse.find?
      fun p => p.findingUid = some f.fingerprint with
  | none =>
    have hnot := List.find?_eq_none.mp hfind _ (List.mem_reverse.mpr hj)
    exact absurd (decide_eq_true rfl) hnot
  | some p =>
    have huid : p.findingUid = some f.fingerprint := by simpa using List.find?_some hfind
    rw [newRows_unique (distinct_nodup [] c.findings)
      (List.mem_reverse.mp (List.mem_of_find?_eq_some hfind)) hj huid]
    rfl

/-! ## Ingesting a scan again -/

theorem changed_touch (f : ScanFinding) (p : Poam) :
    changed f (c.touch f p) = false ↔ (resolved p.status = true → p.title = f.heading) := by
  rw [changed_eq_false]
  unfold ScanCall.touch
  split
  · rename_i hres
    exact ⟨fun h _ => h.2.2, fun h => ⟨rfl, rfl, h hres⟩⟩
  · rename_i hres
    exact ⟨fun _ h => absurd h hres, fun _ => ⟨rfl, rfl, rfl⟩⟩

/-- A finding is settled after the reconciliation where it did not reopen a POA&M of
another title. -/
theorem settled_reconcile_iff (hids : (poams.map Poam.id).Nodup) {f : ScanFinding}
    (hf : f ∈ c.distinct) :
    Settled (c.byUid (c.reconcile poams).1) (c.reconcile poams).1 f ↔
      ∀ p ∈ poams, c.byUid poams f.fingerprint = some p.id → resolved p.status = true →
        p.title = f.heading := by
  cases hnamed : c.byUid poams f.fingerprint with
  | none =>
    refine ⟨fun _ p _ h => (by cases h), fun _ => ?_⟩
    obtain ⟨j, hj⟩ := exists_mem_newRows (c := c) (nextId (poams.map Poam.id)) hf hnamed
    refine ⟨_, (mem_reconcile hids).mpr (.inr hj), byUid_reconcile_of_new hids hj, rfl, ?_⟩
    exact changed_eq_false.mpr ⟨rfl, rfl, rfl⟩
  | some i =>
    obtain ⟨p, hp, -, -, rfl⟩ := byUid_eq_some hnamed
    have hafter := byUid_reconcile_of_named hids (fingerprint_ne_nil f) hnamed
    have hrow : c.touch f p ∈ (c.reconcile poams).1 :=
      (mem_reconcile hids).mpr (.inl ⟨p, hp, rowAfter_of_named hids hp hf hnamed⟩)
    constructor
    · rintro ⟨q, hq, hqnamed, -, hsame⟩ p' hp' hid hres
      rw [List.inj_on_of_nodup_map hids hp' hp (Option.some.inj hid).symm] at hres ⊢
      rw [hafter, Option.some.injEq] at hqnamed
      rw [List.inj_on_of_nodup_map (reconcile_ids hids) hq hrow
        (hqnamed.symm.trans (touch_id c f p).symm)] at hsame
      exact (changed_touch f p).mp hsame hres
    · intro h
      refine ⟨c.touch f p, hrow, ?_, touch_active f p, (changed_touch f p).mpr (h p hp rfl)⟩
      rw [hafter, touch_id]

theorem missing_reconcile (hids : (poams.map Poam.id).Nodup) {q : Poam}
    (hq : q ∈ (c.reconcile poams).1) :
    missing (c.byUid (c.reconcile poams).1) c.seen q = false := by
  by_contra hmissing
  obtain ⟨uid, huid, hnamed, hunseen, hactive⟩ := missing_iff.mp (by simpa using hmissing)
  rcases (mem_reconcile hids).mp hq with ⟨p, hp, rfl⟩ | hq
  · have horigin := (became_rowAfter (c := c) hids hp).sameOrigin
    rw [horigin.findingUid] at huid
    rw [horigin.id] at hnamed
    have hnamed' : c.byUid poams uid = some p.id := by
      by_cases hne : uid = []
      · rw [ScanCall.byUid, if_pos hne] at hnamed
        cases hnamed
      · -- a row of the scan that has the fingerprint is named, before and afterwards
        obtain ⟨o, ho, hocovers, -, hid⟩ := byUid_eq_some hnamed
        have hcovers : c.covers p = true := by
          rcases (mem_reconcile hids).mp ho with ⟨p', hp', rfl⟩ | ho
          · have horigin' := (became_rowAfter (c := c) hids hp').sameOrigin
            rw [horigin'.id] at hid
            rw [← List.inj_on_of_nodup_map hids hp' hp hid, ← horigin'.covers]
            exact hocovers
          · exact absurd (hid ▸ (mem_newRows ho).1)
              (Nat.not_le_of_lt (lt_nextId (List.mem_map_of_mem hp)))
        obtain ⟨r, hr, hrnamed⟩ := byUid_isSome hp hcovers huid hne
        rw [byUid_reconcile_of_named hids hne hrnamed] at hnamed
        rw [hrnamed, hnamed]
    rcases (became_rowAfter (c := c) hids hp).active hactive with ⟨f, hf, hfp⟩ | ⟨-, -, hseen⟩
    · exact hunseen (mem_seen.mpr ⟨f, hf, (names_byUid hids).injective hfp hnamed'⟩)
    · exact hunseen (hseen uid huid hnamed')
  · obtain ⟨-, f, hf, -, heq⟩ := mem_newRows hq
    rw [heq] at huid
    exact hunseen (mem_seen.mpr ⟨f, hf, Option.some.inj huid⟩)

/-- **A scan may be ingested again, exactly where its first ingestion reopens no POA&M
whose title is not that of the finding.** The branch that reopens one leaves the title,
so the next ingestion updates it. -/
theorem reconcile_idempotent_iff (c : ScanCall) {poams : List Poam}
    (hids : (poams.map Poam.id).Nodup) :
    (c.reconcile (c.reconcile poams).1).1 = (c.reconcile poams).1 ∧
        (c.reconcile (c.reconcile poams).1).2.Quiet ↔
      ∀ f ∈ c.distinct, ∀ p ∈ poams, c.byUid poams f.fingerprint = some p.id →
        resolved p.status = true → p.title = f.heading := by
  rw [reconcile_quiet_iff (reconcile_ids hids)]
  constructor
  · rintro ⟨hsettled, -⟩ f hf
    exact (settled_reconcile_iff hids hf).mp (hsettled f hf)
  · intro h
    exact ⟨fun f hf => (settled_reconcile_iff hids hf).mpr (h f hf),
      fun q hq => missing_reconcile hids hq⟩

theorem reconcile_idempotent_iff_one :
    let c := dayScan [scanFinding "CVE-1" "host" "Weak cipher"]
    (c.reconcile (c.reconcile []).1).1 = (c.reconcile []).1 ∧
        (c.reconcile (c.reconcile []).1).2.Quiet ↔
      ∀ f ∈ c.distinct, ∀ p ∈ ([] : List Poam), c.byUid [] f.fingerprint = some p.id →
        resolved p.status = true → p.title = f.heading :=
  reconcile_idempotent_iff _ List.nodup_nil

/-- The scanner has a new title for a finding whose POA&M was closed: the second
ingestion updates what the first one reopened. -/
theorem retitled_not_idempotent :
    ¬∀ c poams, (poams.map Poam.id).Nodup →
      (ScanCall.reconcile c (c.reconcile poams).1).1 = (c.reconcile poams).1 ∧
        (c.reconcile (c.reconcile poams).1).2.Quiet := by
  intro h
  let c := dayScan [scanFinding "CVE-1" "host" "Weak cipher"]
  let old : Poam :=
    { c.newPoam (scanFinding "CVE-1" "host" "Weak cipher suite") with
      id := 1, status := .closed }
  have hquiet := (h c [old] (List.nodup_singleton _)).2.updated
  have hupdated : (c.reconcile (c.reconcile [old]).1).2.updated = 1 := by decide +kernel
  rw [hupdated] at hquiet
  cases hquiet

end Concord.Ingest
