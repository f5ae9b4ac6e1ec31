import Concord.Ingest.Scanners

/-!
# What a reconciliation leaves

The register after one reconciliation, row by row, and the two properties a scan is
ingested for: that it may be ingested again (`reconcile_idempotent_iff`), and that the
open POA&Ms are those of its findings (`reconcile_tracks_iff`).
-/

namespace Concord.Ingest

open Concord.Python Concord.Governance

variable {c : ScanCall} {poams : List Poam}

/-! ## `by_uid` -/

theorem byUid_eq_some {uid : Text} {i : Nat} (h : c.byUid poams uid = some i) :
    ∃ p ∈ poams, c.covers p = true ∧ p.findingUid = some uid ∧ p.id = i := by
  unfold ScanCall.byUid at h
  split at h
  · cases h
  · obtain ⟨p, hp, rfl⟩ := Option.map_eq_some_iff.mp h
    have hmem := List.mem_filter.mp (List.mem_reverse.mp (List.mem_of_find?_eq_some hp))
    exact ⟨p, hmem.1, hmem.2, by simpa using List.find?_some hp, rfl⟩

theorem names_byUid (hids : (poams.map Poam.id).Nodup) : Names (c.byUid poams) poams := by
  constructor
  · intro uid i h
    obtain ⟨p, hp, -, -, rfl⟩ := byUid_eq_some h
    exact List.mem_map_of_mem hp
  · intro uid uid' i h h'
    obtain ⟨p, hp, -, hu, rfl⟩ := byUid_eq_some h
    obtain ⟨q, hq, -, hu', hid⟩ := byUid_eq_some h'
    rw [List.inj_on_of_nodup_map hids hq hp hid] at hu'
    exact Option.some.inj (hu.symm.trans hu')

theorem byUid_row (hids : (poams.map Poam.id).Nodup) {p : Poam} (hp : p ∈ poams) {uid : Text}
    (h : c.byUid poams uid = some p.id) : c.covers p = true ∧ p.findingUid = some uid := by
  obtain ⟨q, hq, hcovers, huid, hid⟩ := byUid_eq_some h
  rw [List.inj_on_of_nodup_map hids hq hp hid] at hcovers huid
  exact ⟨hcovers, huid⟩

theorem byUid_isSome {p : Poam} {uid : Text} (hp : p ∈ poams) (hcovers : c.covers p = true)
    (huid : p.findingUid = some uid) (hne : uid ≠ []) :
    ∃ q ∈ poams, c.byUid poams uid = some q.id := by
  rw [ScanCall.byUid, if_neg hne]
  cases hfind : (poams.filter c.covers).reverse.find? fun p => p.findingUid = some uid with
  | none =>
    have hnot := List.find?_eq_none.mp hfind p
      (List.mem_reverse.mpr (List.mem_filter.mpr ⟨hp, hcovers⟩))
    exact absurd huid (by simpa using hnot)
  | some q =>
    have hq := List.mem_filter.mp (List.mem_reverse.mp (List.mem_of_find?_eq_some hfind))
    exact ⟨q, hq.1, rfl⟩

/-! ## The register after a reconciliation -/

def ScanCall.distinct (c : ScanCall) : List ScanFinding := Ingest.distinct [] c.findings

def ScanCall.seen (c : ScanCall) : List Text :=
  (c.distinct.map ScanFinding.fingerprint).reverse

def ScanCall.rowAfter (c : ScanCall) (poams : List Poam) (p : Poam) : Poam :=
  c.closeMissing (c.byUid poams) c.seen (c.visit (c.byUid poams) c.distinct p)

theorem mem_seen {uid : Text} : uid ∈ c.seen ↔ ∃ f ∈ c.distinct, f.fingerprint = uid := by
  rw [ScanCall.seen, List.mem_reverse, List.mem_map]

theorem exists_distinct {f : ScanFinding} (hf : f ∈ c.findings) :
    ∃ g ∈ c.distinct, g.fingerprint = f.fingerprint :=
  exists_mem_distinct hf List.not_mem_nil

theorem mem_findings {f : ScanFinding} (hf : f ∈ c.distinct) : f ∈ c.findings :=
  (mem_of_mem_distinct hf).1

theorem mem_newRows {byUid : Text → Option Nat} {i : Nat} {ds : List ScanFinding} {p : Poam}
    (h : p ∈ c.newRows byUid i ds) :
    i ≤ p.id ∧ ∃ f ∈ ds, byUid f.fingerprint = none ∧ p = { c.newPoam f with id := p.id } := by
  induction ds generalizing i with
  | nil => cases h
  | cons f ds ih =>
    rw [ScanCall.newRows] at h
    split at h
    · rename_i hnone
      rcases List.mem_cons.mp h with rfl | h
      · exact ⟨Nat.le_refl _, f, List.mem_cons_self, Option.isNone_iff_eq_none.mp hnone, rfl⟩
      · obtain ⟨hi, g, hg, hrest⟩ := ih h
        exact ⟨Nat.le_of_succ_le hi, g, List.mem_cons_of_mem _ hg, hrest⟩
    · obtain ⟨hi, g, hg, hrest⟩ := ih h
      exact ⟨hi, g, List.mem_cons_of_mem _ hg, hrest⟩

theorem exists_mem_newRows {byUid : Text → Option Nat} (i : Nat) {ds : List ScanFinding}
    {f : ScanFinding} (hf : f ∈ ds) (hnone : byUid f.fingerprint = none) :
    ∃ j, { c.newPoam f with id := j } ∈ c.newRows byUid i ds := by
  induction ds generalizing i with
  | nil => cases hf
  | cons g ds ih =>
    rw [ScanCall.newRows]
    rcases List.mem_cons.mp hf with rfl | hf
    · rw [hnone]
      exact ⟨i, List.mem_cons_self⟩
    · split
      · obtain ⟨j, hj⟩ := ih (i + 1) hf
        exact ⟨j, List.mem_cons_of_mem _ hj⟩
      · exact ih i hf

theorem newRows_ids_nodup {byUid : Text → Option Nat} (i : Nat) (ds : List ScanFinding) :
    ((c.newRows byUid i ds).map Poam.id).Nodup := by
  induction ds generalizing i with
  | nil => exact List.nodup_nil
  | cons f ds ih =>
    rw [ScanCall.newRows]
    split
    · rw [List.map_cons, List.nodup_cons]
      refine ⟨fun h => ?_, ih (i + 1)⟩
      obtain ⟨p, hp, hid⟩ := List.mem_map.mp h
      exact absurd (mem_newRows hp).1 (by rw [hid]; exact Nat.not_succ_le_self i)
    · exact ih i

theorem newRows_unique {byUid : Text → Option Nat} {i : Nat} {ds : List ScanFinding}
    (hds : (ds.map ScanFinding.fingerprint).Nodup) {p q : Poam}
    (hp : p ∈ c.newRows byUid i ds) (hq : q ∈ c.newRows byUid i ds)
    (h : p.findingUid = q.findingUid) : p = q := by
  induction ds generalizing i with
  | nil => cases hp
  | cons f ds ih =>
    rw [List.map_cons, List.nodup_cons] at hds
    rw [ScanCall.newRows] at hp hq
    split at hp
    · rename_i hnone
      rw [if_pos hnone] at hq
      -- no later row has the fingerprint of the first one
      have hlater : ∀ r ∈ c.newRows byUid (i + 1) ds, r.findingUid ≠ some f.fingerprint := by
        intro r hr hfp
        obtain ⟨-, g, hg, -, heq⟩ := mem_newRows hr
        rw [heq] at hfp
        exact hds.1 (List.mem_map.mpr ⟨g, hg, Option.some.inj hfp⟩)
      rcases List.mem_cons.mp hp with rfl | hp <;> rcases List.mem_cons.mp hq with rfl | hq
      · rfl
      · exact absurd h.symm (hlater q hq)
      · exact absurd h (hlater p hp)
      · exact ih hds.2 hp hq
    · rename_i hsome
      rw [if_neg hsome] at hq
      exact ih hds.2 hp hq

/-- **All that a reconciliation does to the register.** -/
theorem reconcile_poams (hids : (poams.map Poam.id).Nodup) :
    (c.reconcile poams).1 = poams.map (c.rowAfter poams) ++
      c.newRows (c.byUid poams) (nextId (poams.map Poam.id)) c.distinct := by
  have hloop := absorbAll_poams (c := c) hids (names_byUid (c := c) hids)
    (distinct_nodup [] c.findings) { findingsTotal := c.findings.length }
  rw [ScanCall.reconcile, foldl_turn]
  dsimp only
  rw [hloop, List.append_nil, List.map_append, List.map_map]
  refine congrArg₂ _ rfl ?_
  -- the fingerprint of a new row was seen
  have hkept : ∀ p ∈ c.newRows (c.byUid poams) (nextId (poams.map Poam.id)) c.distinct,
      c.closeMissing (c.byUid poams) c.seen p = p := by
    intro p hp
    obtain ⟨-, f, hf, hnone, heq⟩ := mem_newRows hp
    have huid : p.findingUid = some f.fingerprint := by rw [heq]; rfl
    rw [ScanCall.closeMissing, missing, huid]
    simp [hnone]
  exact (List.map_congr_left hkept).trans (List.map_id' _)

/-! ## One row -/

/-- A row keeps what it is about. -/
structure SameOrigin (p q : Poam) : Prop where
  id : q.id = p.id
  systemId : q.systemId = p.systemId
  scanner : q.scanner = p.scanner
  findingUid : q.findingUid = p.findingUid

theorem SameOrigin.covers {p q : Poam} (h : SameOrigin p q) : c.covers q = c.covers p := by
  rw [ScanCall.covers, ScanCall.covers, h.systemId, h.scanner, h.findingUid]

theorem sameOrigin_touch (f : ScanFinding) (p : Poam) : SameOrigin p (c.touch f p) := by
  unfold ScanCall.touch
  split <;> exact ⟨rfl, rfl, rfl, rfl⟩

/-- What becomes of a row: it is visited by its finding, closed as missing, or left. -/
inductive Became (c : ScanCall) (poams : List Poam) (p : Poam) : Poam → Prop
  | touched (f : ScanFinding) (mem : f ∈ c.distinct)
      (named : c.byUid poams f.fingerprint = some p.id) : Became c poams p (c.touch f p)
  | closed (uid : Text) (about : p.findingUid = some uid)
      (named : c.byUid poams uid = some p.id) (unseen : uid ∉ c.seen)
      (active : p.active = true) : Became c poams p (c.autoClose p)
  | left (same : ∀ f ∈ c.distinct, c.byUid poams f.fingerprint ≠ some p.id)
      (kept : ∀ uid, p.findingUid = some uid → c.byUid poams uid = some p.id →
        uid ∉ c.seen → p.active = false) : Became c poams p p

theorem missing_iff {byUid : Text → Option Nat} {seen : List Text} {p : Poam} :
    missing byUid seen p = true ↔ ∃ uid, p.findingUid = some uid ∧ byUid uid = some p.id ∧
      uid ∉ seen ∧ p.active = true := by
  unfold missing
  cases p.findingUid with
  | none => simp
  | some uid => simp [and_assoc]

theorem became_rowAfter (hids : (poams.map Poam.id).Nodup) {p : Poam} (hp : p ∈ poams) :
    Became c poams p (c.rowAfter poams p) := by
  have hn := names_byUid (c := c) hids
  unfold ScanCall.rowAfter ScanCall.closeMissing
  by_cases hvisit : ∃ f ∈ c.distinct, c.byUid poams f.fingerprint = some p.id
  · obtain ⟨f, hf, hfp⟩ := hvisit
    have hvisit : c.visit (c.byUid poams) c.distinct p = c.touch f p :=
      visit_of_mem hn (distinct_nodup [] c.findings) hf hfp
    rw [hvisit, if_neg]
    · exact .touched f hf hfp
    · -- its fingerprint was seen
      intro hmissing
      obtain ⟨uid, huid, -, hunseen, -⟩ := missing_iff.mp hmissing
      rw [touch_findingUid, (byUid_row hids hp hfp).2, Option.some.injEq] at huid
      exact hunseen (mem_seen.mpr ⟨f, hf, huid⟩)
  · have hnone : ∀ f ∈ c.distinct, c.byUid poams f.fingerprint ≠ some p.id :=
      fun f hf h => hvisit ⟨f, hf, h⟩
    rw [visit_of_forall_ne hnone]
    split
    · rename_i hmissing
      obtain ⟨uid, huid, hnamed, hunseen, hactive⟩ := missing_iff.mp hmissing
      exact .closed uid huid hnamed hunseen hactive
    · rename_i hmissing
      refine .left hnone fun uid huid hnamed hunseen => ?_
      by_contra hactive
      exact hmissing (missing_iff.mpr
        ⟨uid, huid, hnamed, hunseen, by simpa using hactive⟩)

theorem Became.sameOrigin {p q : Poam} (h : Became c poams p q) : SameOrigin p q := by
  cases h with
  | touched f mem named => exact sameOrigin_touch f p
  | closed uid about named unseen active => exact ⟨rfl, rfl, rfl, rfl⟩
  | left same kept => exact ⟨rfl, rfl, rfl, rfl⟩

theorem touch_active (f : ScanFinding) (p : Poam) : (c.touch f p).active = true := by
  unfold ScanCall.touch
  rw [resolved_eq]
  cases h : p.status.active with
  | true => exact h
  | false => rfl

/-- A row of the scan that is active afterwards was visited, or it is none that
`by_uid` names and that was unseen. -/
theorem Became.active {p q : Poam} (h : Became c poams p q) (hactive : q.active = true) :
    (∃ f ∈ c.distinct, c.byUid poams f.fingerprint = some p.id) ∨
      p.active = true ∧ q = p ∧
        ∀ uid, p.findingUid = some uid → c.byUid poams uid = some p.id → uid ∈ c.seen := by
  cases h with
  | touched f mem named => exact .inl ⟨f, mem, named⟩
  | closed uid about named unseen active => cases hactive
  | left same kept =>
    refine .inr ⟨hactive, rfl, fun uid huid hnamed => ?_⟩
    by_contra hunseen
    rw [kept uid huid hnamed hunseen] at hactive
    cases hactive

theorem rowAfter_of_named (hids : (poams.map Poam.id).Nodup) {p : Poam} (hp : p ∈ poams)
    {f : ScanFinding} (hf : f ∈ c.distinct)
    (hnamed : c.byUid poams f.fingerprint = some p.id) : c.rowAfter poams p = c.touch f p := by
  have h := became_rowAfter (c := c) hids hp
  generalize c.rowAfter poams p = q at h ⊢
  cases h with
  | touched d mem named =>
    rw [List.inj_on_of_nodup_map (distinct_nodup [] c.findings) mem hf
      ((names_byUid hids).injective named hnamed)]
  | closed uid about named unseen active =>
    rw [(byUid_row hids hp hnamed).2, Option.some.injEq] at about
    exact absurd (mem_seen.mpr ⟨f, hf, about⟩) unseen
  | left same kept => exact absurd hnamed (same f hf)

theorem rowAfter_of_unnamed (hids : (poams.map Poam.id).Nodup) {p : Poam} (hp : p ∈ poams)
    (hnot : ∀ uid, p.findingUid = some uid → c.byUid poams uid ≠ some p.id) :
    c.rowAfter poams p = p := by
  have h := became_rowAfter (c := c) hids hp
  generalize c.rowAfter poams p = q at h ⊢
  cases h with
  | touched d mem named => exact absurd named (hnot _ (byUid_row hids hp named).2)
  | closed uid about named unseen active => exact absurd named (hnot uid about)
  | left same kept => rfl

/-! ## The open POA&Ms of a scan -/

section Tracks

theorem mem_reconcile (hids : (poams.map Poam.id).Nodup) {q : Poam} :
    q ∈ (c.reconcile poams).1 ↔ (∃ p ∈ poams, c.rowAfter poams p = q) ∨
      q ∈ c.newRows (c.byUid poams) (nextId (poams.map Poam.id)) c.distinct := by
  rw [reconcile_poams hids, List.mem_append, List.mem_map]

theorem mem_newRows_covers {byUid : Text → Option Nat} {i : Nat} {ds : List ScanFinding}
    {p : Poam} (h : p ∈ c.newRows byUid i ds) : c.covers p = true := by
  obtain ⟨-, f, -, -, heq⟩ := mem_newRows h
  rw [heq]
  simp [ScanCall.covers, ScanCall.newPoam]

theorem fingerprint_ne_nil (f : ScanFinding) : f.fingerprint ≠ [] := by
  intro h
  have hlen := congrArg List.length h
  simp [ScanFinding.fingerprint, Sha256.hexdigest, Sha256.State.hex, Sha256.hexWord] at hlen

def ScanFinding.identity (f : ScanFinding) : Text × Text × Text :=
  (f.scanner, f.nativeId, f.asset)

/-- An active POA&M of the scanner on the system that carries a fingerprint. -/
def ScanCall.Tracked (c : ScanCall) (p : Poam) : Prop :=
  c.covers p = true ∧ p.active = true

/-- **The active POA&Ms of the scan are in bijection with its findings**, and no other
row is touched. A finding of an accepted risk reopens its POA&M, so none is left out. -/
structure Tracks (c : ScanCall) (poams poams' : List Poam) : Prop where
  complete : ∀ f ∈ c.findings,
    ∃! p, (p ∈ poams' ∧ c.Tracked p) ∧ p.findingUid = some f.fingerprint
  sound : ∀ p ∈ poams', c.Tracked p →
    ∃ f ∈ c.findings, p.findingUid = some f.fingerprint
  separate : ∀ p ∈ poams', c.Tracked p → ∀ f ∈ c.findings, ∀ g ∈ c.findings,
    p.findingUid = some f.fingerprint → p.findingUid = some g.fingerprint →
      f.identity = g.identity
  frame : poams'.filter (fun p => !c.covers p) = poams.filter fun p => !c.covers p

/-- `by_uid` holds every active POA&M of the scanner on the system that carries a
fingerprint: none is empty, and no two active ones share one that a later row has. -/
def ScanCall.Holds (c : ScanCall) (poams : List Poam) : Prop :=
  ∀ p ∈ poams, c.Tracked p →
    ∃ uid, p.findingUid = some uid ∧ c.byUid poams uid = some p.id

/-- The hashed text does not tell these findings apart only if they are the same. -/
def ScanCall.Separates (c : ScanCall) : Prop :=
  ∀ f ∈ c.findings, ∀ g ∈ c.findings, f.raw = g.raw → f.identity = g.identity

/-- The truncated SHA-256 does not collide on the texts of the findings. -/
def ScanCall.CollisionFree (c : ScanCall) : Prop :=
  ∀ f ∈ c.findings, ∀ g ∈ c.findings, f.fingerprint = g.fingerprint → f.raw = g.raw

/-- A covering row that is active afterwards is named by `by_uid` under a fingerprint
that was seen, if `by_uid` held all that was active. -/
theorem seen_of_active (hids : (poams.map Poam.id).Nodup) (hold : c.Holds poams) {p : Poam}
    (hp : p ∈ poams) (hcovers : c.covers p = true)
    (hactive : (c.rowAfter poams p).active = true) :
    ∃ f ∈ c.distinct, p.findingUid = some f.fingerprint ∧
      c.byUid poams f.fingerprint = some p.id := by
  rcases (became_rowAfter hids hp).active hactive with ⟨f, hf, hnamed⟩ | ⟨hp', -, hseen⟩
  · exact ⟨f, hf, (byUid_row hids hp hnamed).2, hnamed⟩
  · obtain ⟨uid, huid, hnamed⟩ := hold p hp ⟨hcovers, hp'⟩
    obtain ⟨f, hf, rfl⟩ := mem_seen.mp (hseen uid huid hnamed)
    exact ⟨f, hf, huid, hnamed⟩

theorem reconcile_frame (hids : (poams.map Poam.id).Nodup) :
    (c.reconcile poams).1.filter (fun p => !c.covers p) =
      poams.filter fun p => !c.covers p := by
  have hnew : (c.newRows (c.byUid poams) (nextId (poams.map Poam.id)) c.distinct).filter
      (fun p => !c.covers p) = [] :=
    List.filter_eq_nil_iff.mpr fun p hp => by simp [mem_newRows_covers hp]
  have hold : ∀ p ∈ poams, c.covers p = false → c.rowAfter poams p = p := by
    intro p hp hcovers
    have hnot : ∀ uid, c.byUid poams uid ≠ some p.id := by
      intro uid hnamed
      rw [(byUid_row hids hp hnamed).1] at hcovers
      cases hcovers
    exact rowAfter_of_unnamed hids hp fun uid _ => hnot uid
  have hcovers : ∀ p ∈ poams,
      ((fun p => !c.covers p) ∘ c.rowAfter poams) p = !c.covers p := fun p hp => by
    rw [Function.comp_apply, (became_rowAfter hids hp).sameOrigin.covers]
  rw [reconcile_poams hids, List.filter_append, hnew, List.append_nil, List.filter_map,
    List.filter_congr hcovers]
  refine (List.map_congr_left fun p hp => ?_).trans (List.map_id' _)
  obtain ⟨hp, hnot⟩ := List.mem_filter.mp hp
  exact hold p hp (by simpa using hnot)

/-- There is one active POA&M for each finding. -/
theorem reconcile_complete (hids : (poams.map Poam.id).Nodup) (hold : c.Holds poams)
    {f : ScanFinding} (hf : f ∈ c.findings) :
    ∃! p, (p ∈ (c.reconcile poams).1 ∧ c.Tracked p) ∧ p.findingUid = some f.fingerprint := by
  obtain ⟨g, hg, hgf⟩ := exists_distinct hf
  rw [← hgf]
  cases hnamed : c.byUid poams g.fingerprint with
  | none =>
    obtain ⟨j, hj⟩ := exists_mem_newRows (c := c) (nextId (poams.map Poam.id)) hg hnamed
    refine ⟨_, ⟨⟨(mem_reconcile hids).mpr (.inr hj), mem_newRows_covers hj, rfl⟩, rfl⟩, ?_⟩
    rintro q ⟨⟨hq, hcovers, hactive⟩, huid⟩
    rcases (mem_reconcile hids).mp hq with ⟨p, hp, rfl⟩ | hq
    · -- an old row of the fingerprint is named, and the finding has none
      have horigin := (became_rowAfter (c := c) hids hp).sameOrigin
      obtain ⟨d, hd, huid', hnamed'⟩ :=
        seen_of_active hids hold hp (horigin.covers ▸ hcovers) hactive
      rw [horigin.findingUid, huid', Option.some.injEq] at huid
      rw [huid, hnamed] at hnamed'
      cases hnamed'
    · exact newRows_unique (distinct_nodup [] c.findings) hq hj huid
  | some i =>
    obtain ⟨p, hp, hcovers, huid, rfl⟩ := byUid_eq_some hnamed
    have hrow := rowAfter_of_named hids hp hg hnamed
    have horigin := sameOrigin_touch (c := c) g p
    refine ⟨c.touch g p, ⟨⟨(mem_reconcile hids).mpr (.inl ⟨p, hp, hrow⟩), ?_, ?_⟩, ?_⟩, ?_⟩
    · exact horigin.covers.trans hcovers
    · exact touch_active g p
    · exact horigin.findingUid.trans huid
    · rintro q ⟨⟨hq, hqcovers, hqactive⟩, hquid⟩
      rcases (mem_reconcile hids).mp hq with ⟨p', hp', rfl⟩ | hq
      · -- two open rows of one fingerprint are named by it, and it names one
        have horigin' := (became_rowAfter (c := c) hids hp').sameOrigin
        obtain ⟨d, hd, huid', hnamed'⟩ :=
          seen_of_active hids hold hp' (horigin'.covers ▸ hqcovers) hqactive
        rw [horigin'.findingUid, huid', Option.some.injEq] at hquid
        rw [hquid, hnamed, Option.some.injEq] at hnamed'
        rw [List.inj_on_of_nodup_map hids hp' hp hnamed'.symm, hrow]
      · -- a row opens only for a fingerprint that names none
        obtain ⟨-, d, hd, hnone, heq⟩ := mem_newRows hq
        rw [heq] at hquid
        rw [Option.some.inj hquid, hnamed] at hnone
        cases hnone

/-- **When a reconciliation leaves one open POA&M for each finding.** The fingerprint
joins its parts with `|`, so a finding may be taken for another whose id ends where its
asset begins; and an open POA&M that `by_uid` does not hold is left open. -/
theorem reconcile_tracks_iff (hids : (poams.map Poam.id).Nodup) (hfree : c.CollisionFree) :
    Tracks c poams (c.reconcile poams).1 ↔ c.Separates ∧ c.Holds poams := by
  constructor
  · intro ht
    constructor
    · intro f hf g hg hraw
      obtain ⟨p, ⟨⟨hp, htracked⟩, huid⟩, -⟩ := ht.complete f hf
      have hsame : f.fingerprint = g.fingerprint := by
        rw [ScanFinding.fingerprint, hraw, ScanFinding.fingerprint]
      exact ht.separate p hp htracked f hf g hg huid (hsame ▸ huid)
    · intro p hp htracked
      by_contra hnot
      obtain ⟨uid, huid⟩ : ∃ uid, p.findingUid = some uid := by
        have := htracked.1
        simp only [ScanCall.covers, decide_eq_true_eq] at this
        exact Option.isSome_iff_exists.mp this.2.2
      have hunnamed : c.byUid poams uid ≠ some p.id := fun h => hnot ⟨uid, huid, h⟩
      -- nothing names the row, so it stays as it is
      have hrow : c.rowAfter poams p = p := by
        refine rowAfter_of_unnamed hids hp fun uid' huid' => ?_
        rw [huid, Option.some.injEq] at huid'
        exact huid' ▸ hunnamed
      have hp' : p ∈ (c.reconcile poams).1 := (mem_reconcile hids).mpr (.inl ⟨p, hp, hrow⟩)
      obtain ⟨f, hf, hfp⟩ := ht.sound p hp' htracked
      obtain rfl : uid = f.fingerprint := Option.some.inj (huid.symm.trans hfp)
      obtain ⟨q, hq, hnamed⟩ := byUid_isSome hp htracked.1 huid (fingerprint_ne_nil f)
      obtain ⟨hqcovers, hquid⟩ := byUid_row hids hq hnamed
      -- the row it names is open too
      obtain ⟨g, hg, hgf⟩ := exists_distinct hf
      have hqrow := rowAfter_of_named hids hq hg (hgf ▸ hnamed)
      have horigin := sameOrigin_touch (c := c) g q
      have heq := (ht.complete f hf).unique ⟨⟨hp', htracked⟩, huid⟩
        ⟨⟨(mem_reconcile hids).mpr (.inl ⟨q, hq, hqrow⟩), horigin.covers.trans hqcovers,
          touch_active g q⟩, horigin.findingUid.trans hquid⟩
      exact hunnamed (by rw [hnamed, heq, horigin.id])
  · rintro ⟨hsep, hold⟩
    refine ⟨fun f hf => reconcile_complete hids hold hf, ?_, ?_, reconcile_frame hids⟩
    · rintro q hq ⟨hcovers, hactive⟩
      rcases (mem_reconcile hids).mp hq with ⟨p, hp, rfl⟩ | hq
      · have horigin := (became_rowAfter (c := c) hids hp).sameOrigin
        obtain ⟨f, hf, huid, -⟩ :=
          seen_of_active hids hold hp (horigin.covers ▸ hcovers) hactive
        exact ⟨f, mem_findings hf, horigin.findingUid.trans huid⟩
      · obtain ⟨-, f, hf, -, heq⟩ := mem_newRows hq
        exact ⟨f, mem_findings hf, by rw [heq]; rfl⟩
    · intro p _ _ f hf g hg huid huid'
      exact hsep f hf g hg (hfree f hf g hg (Option.some.inj (huid.symm.trans huid')))

end Tracks

def scanFinding (nativeId asset title : String) : ScanFinding where
  scanner := "csv".toList
  nativeId := nativeId.toList
  title := title.toList
  severity := .high
  asset := asset.toList

def dayScan (findings : List ScanFinding) : ScanCall where
  systemId := 1
  scanner := "csv".toList
  findings := findings
  today := 0
  isoformat := "1970-01-01".toList

theorem reconcile_tracks_iff_one :
    Tracks (dayScan [scanFinding "CVE-1" "host" "Weak cipher"]) []
        ((dayScan [scanFinding "CVE-1" "host" "Weak cipher"]).reconcile []).1 ↔
      (dayScan [scanFinding "CVE-1" "host" "Weak cipher"]).Separates ∧
        (dayScan [scanFinding "CVE-1" "host" "Weak cipher"]).Holds [] :=
  reconcile_tracks_iff List.nodup_nil fun _ hf _ hg _ =>
    List.mem_singleton.mp hg ▸ List.mem_singleton.mp hf ▸ rfl

/-- The bar moves from the asset of one finding to the id of another: they share one
POA&M. -/
theorem bar_shares_poam :
    ¬∀ c poams, (poams.map Poam.id).Nodup → ScanCall.CollisionFree c →
      Tracks c poams (c.reconcile poams).1 := by
  intro h
  let f := scanFinding "a|b" "c" "Weak cipher"
  let g := scanFinding "a" "b|c" "Old kernel"
  have hraw : ∀ d ∈ (dayScan [f, g]).findings, d.raw = f.raw := by
    intro d hd
    rcases List.mem_cons.mp hd with rfl | hd
    · rfl
    · rw [List.mem_singleton.mp hd]
      decide
  have ht := h (dayScan [f, g]) [] List.nodup_nil fun d hd e he _ =>
    (hraw d hd).trans (hraw e he).symm
  obtain ⟨p, ⟨⟨hp, htracked⟩, huid⟩, -⟩ := ht.complete f List.mem_cons_self
  have hg : g ∈ (dayScan [f, g]).findings := List.mem_cons_of_mem _ List.mem_cons_self
  have hsame : f.fingerprint = g.fingerprint := by
    rw [ScanFinding.fingerprint, ScanFinding.fingerprint, hraw g hg]
  have hidentity := ht.separate p hp htracked f List.mem_cons_self g hg huid (hsame ▸ huid)
  exact absurd hidentity (by decide)

end Concord.Ingest
