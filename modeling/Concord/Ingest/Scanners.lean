import Concord.Governance.Poams
import Concord.Python.Sha256

/-!
# Reconciling a scan

`reconcile_findings` of `ccf/ingest/scanners.py`, on the parsed findings: a new finding
opens a POA&M, a known one updates or reopens it, and the open POA&Ms of findings that
are gone are closed. `Register` order stands for the order of the `SELECT`.

`reconcile_poams` is the whole effect on the register: what becomes of each row
(`ScanCall.visit`, `ScanCall.closeMissing`), and the rows that are new.
-/

namespace Concord.Ingest

open Concord.Python Concord.Governance

/-- One normalized vulnerability finding. -/
structure ScanFinding where
  scanner : Text
  nativeId : Text
  title : Text
  severity : Severity
  asset : Text := []
  description : Text := []
  solution : Text := []
  refs : List Text := []

/-- The text that `fingerprint` hashes. -/
def ScanFinding.raw (f : ScanFinding) : Text :=
  f.scanner ++ '|' :: f.nativeId ++ '|' :: f.asset

/-- `fingerprint`. -/
def ScanFinding.fingerprint (f : ScanFinding) : Text := (Sha256.hexdigest f.raw).take 32

/-- `_weakness`. -/
def ScanFinding.weakness (f : ScanFinding) : Text :=
  let parts :=
    [strip f.description,
     if f.refs.isEmpty then [] else "Refs: ".toList ++ (", ".toList).intercalate f.refs,
     if f.asset.isEmpty then [] else "Asset: ".toList ++ f.asset,
     if f.solution.isEmpty then [] else "Remediation: ".toList ++ f.solution]
  let text := ['\n'].intercalate (parts.filter fun part => !part.isEmpty)
  if text.isEmpty then f.title else text

def ScanFinding.heading (f : ScanFinding) : Text := f.title.take 512

/-- `SEVERITY_SLA_DAYS`. -/
def slaDays : Severity → Int
  | .critical => 15
  | .high => 30
  | .moderate => 90
  | .low => 180

/-- The arguments of `reconcile_findings`: `isoformat` is that of the date. -/
structure ScanCall where
  systemId : Nat
  scanner : Text
  findings : List ScanFinding
  today : Int
  isoformat : Text

structure ReconcileResult where
  findingsTotal : Nat := 0
  created : Nat := 0
  updated : Nat := 0
  reopened : Nat := 0
  closed : Nat := 0
  unchanged : Nat := 0
  deriving DecidableEq

/-- `_RESOLVED_STATES`. -/
def resolved (status : PoamStatus) : Bool :=
  status.closes || decide (status = .riskAccepted)

theorem resolved_eq (status : PoamStatus) : resolved status = !status.active := by
  cases status <;> rfl

/-! ## One finding -/

/-- The POA&M of a new finding; its id is set on insertion. -/
def ScanCall.newPoam (c : ScanCall) (f : ScanFinding) : Poam where
  id := 0
  systemId := c.systemId
  controlId := none
  title := f.heading
  weakness := some f.weakness
  severity := f.severity
  status := .opened
  identifiedOn := some c.today
  dueOn := some (c.today + slaDays f.severity)
  closedOn := none
  ownerUserId := none
  source := some "scan".toList
  pointOfContact := none
  remediationPlan := none
  remediationPlanSource := .analyst
  resourcesRequired := none
  costEstimate := none
  scheduledCompletion := none
  originalDueOn := some (c.today + slaDays f.severity)
  riskId := none
  vendorId := none
  sourceRef := none
  acceptanceRationale := none
  milestones := []
  scanner := some c.scanner
  findingUid := some f.fingerprint

/-- A finding is back: its POA&M is open again. The title stays. -/
def ScanCall.reopen (c : ScanCall) (f : ScanFinding) (p : Poam) : Poam :=
  { p with
    acceptanceRationale :=
      if poamLeavesRiskAccepted p.status .opened then none else p.acceptanceRationale
    status := .opened
    closedOn := none
    severity := f.severity
    weakness := some f.weakness
    dueOn := some (c.today + slaDays f.severity) }

def refresh (f : ScanFinding) (p : Poam) : Poam :=
  { p with severity := f.severity, weakness := some f.weakness, title := f.heading }

/-- Whether the POA&M differs from the finding. -/
def changed (f : ScanFinding) (p : Poam) : Bool :=
  decide (p.severity ≠ f.severity ∨ p.weakness ≠ some f.weakness ∨ p.title ≠ f.heading)

/-- The POA&Ms a reconciliation reads: those of the scanner on the system. -/
def ScanCall.covers (c : ScanCall) (p : Poam) : Bool :=
  decide (p.systemId = c.systemId ∧ p.scanner = some c.scanner ∧ p.findingUid.isSome = true)

/-- `by_uid`: the id of the last POA&M of a fingerprint. -/
def ScanCall.byUid (c : ScanCall) (poams : List Poam) (uid : Text) : Option Nat :=
  if uid = [] then none
  else ((poams.filter c.covers).reverse.find? fun p => p.findingUid = some uid).map Poam.id

/-- The state of the loop. -/
structure Progress where
  poams : List Poam
  seen : List Text
  result : ReconcileResult

/-- One turn of the loop, for a fingerprint that was not seen. -/
def ScanCall.absorb (c : ScanCall) (byUid : Text → Option Nat) (poams : List Poam)
    (result : ReconcileResult) (f : ScanFinding) : List Poam × ReconcileResult :=
  match (byUid f.fingerprint).bind fun i => poams.find? fun p => p.id = i with
  | none =>
    (insertPoam (c.newPoam f) poams, { result with created := result.created + 1 })
  | some p =>
    if resolved p.status then
      (updatePoamRow p.id (c.reopen f) poams, { result with reopened := result.reopened + 1 })
    else if changed f p then
      (updatePoamRow p.id (refresh f) poams, { result with updated := result.updated + 1 })
    else
      (updatePoamRow p.id (refresh f) poams,
        { result with unchanged := result.unchanged + 1 })

/-- One turn of the loop: a second finding of one fingerprint is passed over. -/
def ScanCall.turn (c : ScanCall) (byUid : Text → Option Nat) (s : Progress)
    (f : ScanFinding) : Progress :=
  if f.fingerprint ∈ s.seen then s
  else
    { poams := (c.absorb byUid s.poams s.result f).1
      seen := f.fingerprint :: s.seen
      result := (c.absorb byUid s.poams s.result f).2 }

/-! ## The findings that are gone -/

def ScanCall.closingNote (c : ScanCall) : Text :=
  "Auto-closed: not present in latest ".toList ++ c.scanner ++ " scan (".toList ++
    c.isoformat ++ ").".toList

def ScanCall.autoClose (c : ScanCall) (p : Poam) : Poam :=
  appendNote c.closingNote { p with status := .closed, closedOn := some c.today }

/-- An open POA&M of `by_uid` whose fingerprint was not seen. -/
def missing (byUid : Text → Option Nat) (seen : List Text) (p : Poam) : Bool :=
  match p.findingUid with
  | none => false
  | some uid => decide (byUid uid = some p.id ∧ uid ∉ seen) && p.active

def ScanCall.closeMissing (c : ScanCall) (byUid : Text → Option Nat) (seen : List Text)
    (p : Poam) : Poam :=
  if missing byUid seen p then c.autoClose p else p

/-- `reconcile_findings`. -/
def ScanCall.reconcile (c : ScanCall) (poams : List Poam) : List Poam × ReconcileResult :=
  let byUid := c.byUid poams
  let s := c.findings.foldl (c.turn byUid)
    ⟨poams, [], { findingsTotal := c.findings.length }⟩
  (s.poams.map (c.closeMissing byUid s.seen),
    { s.result with
      closed := s.result.closed + (s.poams.filter (missing byUid s.seen)).length })

/-! ## The whole effect -/

/-- The findings of which no earlier one has the fingerprint. -/
def distinct : List Text → List ScanFinding → List ScanFinding
  | _, [] => []
  | seen, f :: fs =>
    if f.fingerprint ∈ seen then distinct seen fs
    else f :: distinct (f.fingerprint :: seen) fs

def ScanCall.touch (c : ScanCall) (f : ScanFinding) (p : Poam) : Poam :=
  if resolved p.status then c.reopen f p else refresh f p

def ScanCall.visit (c : ScanCall) (byUid : Text → Option Nat) (ds : List ScanFinding)
    (p : Poam) : Poam :=
  match ds.find? fun f => byUid f.fingerprint = some p.id with
  | some f => c.touch f p
  | none => p

/-- The rows of the findings that have none, with ids from `i` on. -/
def ScanCall.newRows (c : ScanCall) (byUid : Text → Option Nat) :
    Nat → List ScanFinding → List Poam
  | _, [] => []
  | i, f :: fs =>
    if (byUid f.fingerprint).isNone then
      { c.newPoam f with id := i } :: c.newRows byUid (i + 1) fs
    else c.newRows byUid i fs

/-- The loop, for findings of different fingerprints. -/
def ScanCall.absorbAll (c : ScanCall) (byUid : Text → Option Nat) (ds : List ScanFinding)
    (s : List Poam × ReconcileResult) : List Poam × ReconcileResult :=
  ds.foldl (fun s f => c.absorb byUid s.1 s.2 f) s

variable {c : ScanCall} {byUid : Text → Option Nat}

theorem foldl_turn (fs : List ScanFinding) (s : Progress) :
    fs.foldl (c.turn byUid) s =
      { poams := (c.absorbAll byUid (distinct s.seen fs) (s.poams, s.result)).1
        seen := ((distinct s.seen fs).map ScanFinding.fingerprint).reverse ++ s.seen
        result := (c.absorbAll byUid (distinct s.seen fs) (s.poams, s.result)).2 } := by
  induction fs generalizing s with
  | nil => rfl
  | cons f fs ih =>
    rw [List.foldl_cons, distinct, ih]
    by_cases h : f.fingerprint ∈ s.seen
    · rw [ScanCall.turn, if_pos h, if_pos h]
    · rw [ScanCall.turn, if_neg h, if_neg h]
      simp only [ScanCall.absorbAll, List.foldl_cons, List.map_cons, List.reverse_cons,
        List.append_assoc, List.singleton_append]

theorem mem_of_mem_distinct {seen : List Text} {fs : List ScanFinding} {f : ScanFinding}
    (h : f ∈ distinct seen fs) : f ∈ fs ∧ f.fingerprint ∉ seen := by
  induction fs generalizing seen with
  | nil => cases h
  | cons g gs ih =>
    rw [distinct] at h
    split at h
    · exact ⟨List.mem_cons_of_mem _ (ih h).1, (ih h).2⟩
    · rename_i hnew
      rcases List.mem_cons.mp h with rfl | h
      · exact ⟨List.mem_cons_self, hnew⟩
      · exact ⟨List.mem_cons_of_mem _ (ih h).1,
          fun hf => (ih h).2 (List.mem_cons_of_mem _ hf)⟩

theorem exists_mem_distinct {seen : List Text} {fs : List ScanFinding} {f : ScanFinding}
    (hf : f ∈ fs) (hnew : f.fingerprint ∉ seen) :
    ∃ g ∈ distinct seen fs, g.fingerprint = f.fingerprint := by
  induction fs generalizing seen with
  | nil => cases hf
  | cons g gs ih =>
    rw [distinct]
    by_cases hg : g.fingerprint ∈ seen
    · rw [if_pos hg]
      rcases List.mem_cons.mp hf with rfl | hf
      · exact absurd hg hnew
      · exact ih hf hnew
    · rw [if_neg hg]
      by_cases hfg : f.fingerprint = g.fingerprint
      · exact ⟨g, List.mem_cons_self, hfg.symm⟩
      · rcases List.mem_cons.mp hf with rfl | hf
        · exact absurd rfl hfg
        · obtain ⟨d, hd, heq⟩ := ih hf fun h => (List.mem_cons.mp h).elim hfg hnew
          exact ⟨d, List.mem_cons_of_mem _ hd, heq⟩

theorem distinct_nodup (seen : List Text) (fs : List ScanFinding) :
    ((distinct seen fs).map ScanFinding.fingerprint).Nodup := by
  induction fs generalizing seen with
  | nil => exact List.nodup_nil
  | cons f fs ih =>
    rw [distinct]
    split
    · exact ih seen
    · rw [List.map_cons, List.nodup_cons]
      refine ⟨fun h => ?_, ih _⟩
      obtain ⟨g, hg, heq⟩ := List.mem_map.mp h
      exact (mem_of_mem_distinct hg).2 (heq ▸ List.mem_cons_self)

/-- A lookup names rows of the register, one for each fingerprint. -/
structure Names (byUid : Text → Option Nat) (poams : List Poam) : Prop where
  mem : ∀ {uid i}, byUid uid = some i → i ∈ poams.map Poam.id
  injective : ∀ {uid uid' i}, byUid uid = some i → byUid uid' = some i → uid = uid'

theorem touch_id (c : ScanCall) (f : ScanFinding) (p : Poam) : (c.touch f p).id = p.id := by
  unfold ScanCall.touch
  split <;> rfl

theorem touch_findingUid (c : ScanCall) (f : ScanFinding) (p : Poam) :
    (c.touch f p).findingUid = p.findingUid := by
  unfold ScanCall.touch
  split <;> rfl

theorem visit_of_forall_ne {ds : List ScanFinding} {p : Poam}
    (h : ∀ f ∈ ds, byUid f.fingerprint ≠ some p.id) : c.visit byUid ds p = p := by
  rw [ScanCall.visit, List.find?_eq_none.mpr fun f hf => by simpa using h f hf]

theorem visit_of_mem {ds : List ScanFinding} {poams : List Poam} (hn : Names byUid poams)
    (hds : (ds.map ScanFinding.fingerprint).Nodup) {p : Poam} {f : ScanFinding} (hf : f ∈ ds)
    (hfp : byUid f.fingerprint = some p.id) : c.visit byUid ds p = c.touch f p := by
  cases hfind : ds.find? fun f => byUid f.fingerprint = some p.id with
  | none => exact absurd hfp (by simpa using List.find?_eq_none.mp hfind f hf)
  | some g =>
    have hgp : byUid g.fingerprint = some p.id := by simpa using List.find?_some hfind
    have hgf : g = f := List.inj_on_of_nodup_map hds (List.mem_of_find?_eq_some hfind) hf
      (hn.injective hgp hfp)
    rw [ScanCall.visit, hfind, hgf]

theorem nextId_append_next (ids : List Nat) : nextId (ids ++ [nextId ids]) = nextId ids + 1 := by
  have hfold : ∀ (l : List Nat) (m : Nat), l.foldr max m = max (l.foldr max 0) m := by
    intro l m
    induction l with
    | nil => exact (Nat.zero_max m).symm
    | cons a l ih => rw [List.foldr_cons, List.foldr_cons, ih, Nat.max_assoc]
  have hlt : ids.foldr max 0 < nextId ids := Nat.lt_succ_self _
  conv_lhs => rw [nextId, List.foldr_append, List.foldr_cons, List.foldr_nil, hfold]
  omega

theorem absorb_poams {poams : List Poam} (hids : (poams.map Poam.id).Nodup)
    (hn : Names byUid poams) (r : ReconcileResult) (f : ScanFinding) :
    (c.absorb byUid poams r f).1 =
      match byUid f.fingerprint with
      | none => insertPoam (c.newPoam f) poams
      | some i => updatePoamRow i (c.touch f) poams := by
  unfold ScanCall.absorb
  cases h : byUid f.fingerprint with
  | none => rfl
  | some i =>
    obtain ⟨p, hp, rfl⟩ := List.mem_map.mp (hn.mem h)
    simp only [Option.bind_some, find_id hids hp]
    split
    · rename_i hres
      exact updatePoamRow_congr hids hp (by rw [ScanCall.touch, if_pos hres])
    · rename_i hres
      split
      · exact updatePoamRow_congr hids hp (by rw [ScanCall.touch, if_neg hres])
      · exact updatePoamRow_congr hids hp (by rw [ScanCall.touch, if_neg hres])

/-- **The loop**: each row is visited once, and the findings that have none get one. -/
theorem absorbAll_poams {ds : List ScanFinding} {poams : List Poam}
    (hids : (poams.map Poam.id).Nodup) (hn : Names byUid poams)
    (hds : (ds.map ScanFinding.fingerprint).Nodup) (r : ReconcileResult) :
    (c.absorbAll byUid ds (poams, r)).1 =
      poams.map (c.visit byUid ds) ++ c.newRows byUid (nextId (poams.map Poam.id)) ds := by
  induction ds generalizing poams r with
  | nil =>
    rw [ScanCall.newRows, List.append_nil]
    exact (List.map_id' poams).symm
  | cons f ds ih =>
    rw [List.map_cons, List.nodup_cons] at hds
    rw [ScanCall.absorbAll, List.foldl_cons]
    have hrest : ∀ {poams' : List Poam}, (c.absorb byUid poams r f).1 = poams' →
        (poams'.map Poam.id).Nodup → Names byUid poams' →
        (ds.foldl (fun s f => c.absorb byUid s.1 s.2 f) (c.absorb byUid poams r f)).1 =
          poams'.map (c.visit byUid ds) ++
            c.newRows byUid (nextId (poams'.map Poam.id)) ds := by
      intro poams' heq hids' hn'
      rw [← heq] at hids' hn' ⊢
      exact ih hids' hn' hds.2 _
    cases hf : byUid f.fingerprint with
    | none =>
      have hstep : (c.absorb byUid poams r f).1 = insertPoam (c.newPoam f) poams := by
        rw [absorb_poams hids hn r f, hf]
      have hmap : (insertPoam (c.newPoam f) poams).map Poam.id =
          poams.map Poam.id ++ [nextId (poams.map Poam.id)] := by
        rw [insertPoam, List.map_append]
        rfl
      rw [hrest hstep (insertPoam_ids hids)
        ⟨fun h => by rw [hmap]; exact List.mem_append_left _ (hn.mem h), hn.injective⟩]
      rw [hmap, nextId_append_next, insertPoam, List.map_append, List.append_assoc,
        ScanCall.newRows, hf]
      -- no finding names the new row, and `f` names none of the old ones
      have hfresh : c.visit byUid ds { c.newPoam f with id := nextId (poams.map Poam.id) } =
          { c.newPoam f with id := nextId (poams.map Poam.id) } :=
        visit_of_forall_ne fun g _ hg => absurd (lt_nextId (hn.mem hg)) (Nat.lt_irrefl _)
      have hskip : ∀ p, c.visit byUid (f :: ds) p = c.visit byUid ds p := by
        intro p
        rw [ScanCall.visit, List.find?_cons_of_neg (by simp [hf]), ScanCall.visit]
      rw [List.map_singleton, hfresh, List.map_congr_left fun p _ => hskip p]
      rfl
    | some i =>
      have hstep : (c.absorb byUid poams r f).1 = updatePoamRow i (c.touch f) poams := by
        rw [absorb_poams hids hn r f, hf]
      have hmap : (updatePoamRow i (c.touch f) poams).map Poam.id = poams.map Poam.id :=
        updatePoamRow_ids (touch_id c f) poams
      rw [hrest hstep (by rw [hmap]; exact hids)
        ⟨fun h => by rw [hmap]; exact hn.mem h, hn.injective⟩]
      rw [hmap, ScanCall.newRows, hf, updatePoamRow, List.map_map]
      refine congrArg (· ++ _) (List.map_congr_left fun p _ => ?_)
      show c.visit byUid ds (if p.id = i then c.touch f p else p) = _
      by_cases hp : p.id = i
      · -- no later finding names this row
        rw [if_pos hp, ScanCall.visit.eq_def c byUid (f :: ds),
          List.find?_cons_of_pos (by simp [hf, hp])]
        refine visit_of_forall_ne fun g hg hgp => hds.1 ?_
        rw [touch_id, hp] at hgp
        exact List.mem_map.mpr ⟨g, hg, hn.injective hgp hf⟩
      · rw [if_neg hp, ScanCall.visit, ScanCall.visit,
          List.find?_cons_of_neg (by simpa [hf] using Ne.symm hp)]

end Concord.Ingest
