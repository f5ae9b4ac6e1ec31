import Concord.Ingest.Idempotence
import Concord.Ingest.ScanFile
import Concord.Python.Ints

/-!
# The identity of a row

The fingerprint of a finding is to be stable, and `parse_csv` gives a row without an id its number
for one. A row above it that comes, goes or moves then makes a new finding of it: the next import
closes its POA&M and opens another. `rows_stable_iff` says which rows keep their POA&Ms when a file
is edited around them.
-/

namespace Concord.Ingest

open Concord.Python Concord.Governance

/-- Rows of a file that are still there after other rows were inserted, deleted or moved: their
numbers before and afterwards. -/
structure Edit (rows rows' : List (List Text)) where
  kept : List (Nat × Nat)
  same : ∀ p ∈ kept, ∃ record, rows[p.1]? = some record ∧ rows'[p.2]? = some record

/-! ## Fingerprints -/

section Fingerprints

variable {s : Sheet} {i j : Nat} {record : List Text} {sev : Severity}

theorem raw_eq_iff :
    (s.finding i record sev).raw = (s.finding j record sev).raw ↔
      s.native i record = s.native j record := by
  unfold ScanFinding.raw Sheet.finding
  dsimp only
  rw [List.append_left_inj, List.append_right_inj, List.cons_inj_right]

theorem native_eq_iff :
    s.native i record = s.native j record ↔ s.cell record .nativeId ≠ [] ∨ i = j := by
  unfold Sheet.native
  by_cases hid : s.cell record .nativeId = []
  · rw [if_pos hid, if_pos hid, List.append_right_inj]
    constructor
    · intro h
      exact Or.inr (natText_injective h)
    · intro h
      rw [h.resolve_left (not_not_intro hid)]
  · rw [if_neg hid, if_neg hid]
    exact iff_of_true rfl (Or.inl hid)

theorem fingerprint_eq_iff
    (hfree : (s.finding i record sev).fingerprint = (s.finding j record sev).fingerprint →
      (s.finding i record sev).raw = (s.finding j record sev).raw) :
    (s.finding i record sev).fingerprint = (s.finding j record sev).fingerprint ↔
      s.cell record .nativeId ≠ [] ∨ i = j := by
  rw [← native_eq_iff, ← raw_eq_iff]
  refine ⟨hfree, fun hraw => ?_⟩
  unfold ScanFinding.fingerprint
  rw [hraw]

end Fingerprints

/-! ## Two imports -/

section Imports

variable {c c' : ScanCall} {poams : List Poam}

/-- The POA&M of a finding is still open after the second import, and no other one was opened for
what the finding has become. -/
structure Keeps (c c' : ScanCall) (poams : List Poam) (f f' : ScanFinding) : Prop where
  stillOpen : ∃ i, c.byUid (c.reconcile poams).1 f.fingerprint = some i ∧
    ∀ q ∈ (c'.reconcile (c.reconcile poams).1).1, q.id = i → q.active = true
  notCreated : ∀ q ∈ (c'.reconcile (c.reconcile poams).1).1,
    q.findingUid = some f'.fingerprint → q.id ∈ (c.reconcile poams).1.map Poam.id

theorem byUid_congr (hsystem : c'.systemId = c.systemId) (hscanner : c'.scanner = c.scanner) :
    c'.byUid = c.byUid := by
  funext poams uid
  unfold ScanCall.byUid ScanCall.covers
  rw [hsystem, hscanner]

theorem exists_byUid_reconcile (hids : (poams.map Poam.id).Nodup) {f : ScanFinding}
    (hf : f ∈ c.findings) : ∃ i, c.byUid (c.reconcile poams).1 f.fingerprint = some i := by
  obtain ⟨g, hg, hgf⟩ := exists_distinct hf
  rw [← hgf]
  cases hnamed : c.byUid poams g.fingerprint with
  | none =>
    obtain ⟨j, hj⟩ := exists_mem_newRows (c := c) (nextId (poams.map Poam.id)) hg hnamed
    exact ⟨j, byUid_reconcile_of_new hids hj⟩
  | some i => exact ⟨i, byUid_reconcile_of_named hids (fingerprint_ne_nil g) hnamed⟩

theorem reconcile_named (hids : (poams.map Poam.id).Nodup) {f : ScanFinding}
    (hf : f ∈ c.findings) {i : Nat} (hnamed : c.byUid poams f.fingerprint = some i) :
    (∀ q ∈ (c.reconcile poams).1, q.id = i → q.active = true) ∧
      ∀ q ∈ (c.reconcile poams).1, q.findingUid = some f.fingerprint →
        q.id ∈ poams.map Poam.id := by
  obtain ⟨g, hg, hgf⟩ := exists_distinct hf
  rw [← hgf] at hnamed ⊢
  obtain ⟨p, hp, -, -, rfl⟩ := byUid_eq_some hnamed
  have hrow : c.touch g p ∈ (c.reconcile poams).1 :=
    (mem_reconcile hids).mpr (.inl ⟨p, hp, rowAfter_of_named hids hp hg hnamed⟩)
  refine ⟨fun q hq hid => ?_, fun q hq huid => ?_⟩
  · rw [List.inj_on_of_nodup_map (reconcile_ids hids) hq hrow (hid.trans (touch_id c g p).symm)]
    exact touch_active g p
  · rcases (mem_reconcile hids).mp hq with ⟨p', hp', rfl⟩ | hq
    · rw [(became_rowAfter (c := c) hids hp').sameOrigin.id]
      exact List.mem_map_of_mem hp'
    · -- a row is opened only for a fingerprint that names none
      obtain ⟨-, d, -, hnone, heq⟩ := mem_newRows hq
      rw [heq] at huid
      rw [Option.some.inj huid, hnamed] at hnone
      cases hnone

theorem keeps_of_fingerprint_eq (hids : (poams.map Poam.id).Nodup)
    (hsystem : c'.systemId = c.systemId) (hscanner : c'.scanner = c.scanner) {f f' : ScanFinding}
    (hf : f ∈ c.findings) (hf' : f' ∈ c'.findings) (heq : f.fingerprint = f'.fingerprint) :
    Keeps c c' poams f f' := by
  obtain ⟨i, hi⟩ := exists_byUid_reconcile hids hf
  have hnamed : c'.byUid (c.reconcile poams).1 f'.fingerprint = some i := by
    rw [byUid_congr hsystem hscanner, ← heq, hi]
  obtain ⟨hopen, honce⟩ := reconcile_named (reconcile_ids hids) hf' hnamed
  exact ⟨⟨i, hi, hopen⟩, honce⟩

end Imports

/-! ## Editing a file around some rows -/

/-- The findings of the kept rows have the fingerprints they had, and their POA&Ms are neither
closed nor created again. -/
def Stable (s : Sheet) {rows rows' : List (List Text)} (e : Edit rows rows') (c c' : ScanCall)
    (poams : List Poam) : Prop :=
  ∀ p ∈ e.kept, ∀ record sev, rows[p.1]? = some record → s.severity record = some (some sev) →
    (s.finding p.1 record sev).fingerprint = (s.finding p.2 record sev).fingerprint ∧
      Keeps c c' poams (s.finding p.1 record sev) (s.finding p.2 record sev)

/-- **When the rows of a file may be inserted, deleted and moved around others**: where each row
that is kept, and has a severity, has an id of its own or keeps its number. -/
theorem rows_stable_iff (s : Sheet) {text text' : Text} {records records' : List (List Text)}
    (hread : readCsv text = some (s.names :: records))
    (hread' : readCsv text' = some (s.names :: records'))
    (e : Edit (dataRows records) (dataRows records')) (c c' : ScanCall) {poams : List Poam}
    (hids : (poams.map Poam.id).Nodup) (hsystem : c'.systemId = c.systemId)
    (hscanner : c'.scanner = c.scanner)
    (hparse : parseCsv s.lower s.scanner text = some c.findings)
    (hparse' : parseCsv s.lower s.scanner text' = some c'.findings)
    (hfree : { c with findings := c.findings ++ c'.findings }.CollisionFree) :
    Stable s e c c' poams ↔
      ∀ p ∈ e.kept, ∀ record sev, (dataRows records)[p.1]? = some record →
        s.severity record = some (some sev) → s.cell record .nativeId ≠ [] ∨ p.1 = p.2 := by
  rw [parseCsv_eq hread] at hparse
  rw [parseCsv_eq hread'] at hparse'
  -- the two findings of a kept row, one of each file
  have hmem : ∀ p ∈ e.kept, ∀ record sev, (dataRows records)[p.1]? = some record →
      s.severity record = some (some sev) → s.finding p.1 record sev ∈ c.findings ∧
        s.finding p.2 record sev ∈ c'.findings := by
    intro p hp record sev hrow hsev
    obtain ⟨record', hbefore, hafter⟩ := e.same p hp
    obtain rfl : record = record' := Option.some.inj (hrow.symm.trans hbefore)
    exact ⟨(mem_parseRows hparse).mpr ⟨p.1, record, sev, hrow, hsev, by rw [Nat.zero_add]⟩,
      (mem_parseRows hparse').mpr ⟨p.2, record, sev, hafter, hsev, by rw [Nat.zero_add]⟩⟩
  have hsame : ∀ p ∈ e.kept, ∀ record sev, (dataRows records)[p.1]? = some record →
      s.severity record = some (some sev) →
        ((s.finding p.1 record sev).fingerprint = (s.finding p.2 record sev).fingerprint ↔
          s.cell record .nativeId ≠ [] ∨ p.1 = p.2) := by
    intro p hp record sev hrow hsev
    obtain ⟨hf, hf'⟩ := hmem p hp record sev hrow hsev
    exact fingerprint_eq_iff (hfree _ (List.mem_append_left _ hf) _ (List.mem_append_right _ hf'))
  constructor
  · intro hstable p hp record sev hrow hsev
    exact (hsame p hp record sev hrow hsev).mp (hstable p hp record sev hrow hsev).1
  · intro hkept p hp record sev hrow hsev
    obtain ⟨hf, hf'⟩ := hmem p hp record sev hrow hsev
    have heq := (hsame p hp record sev hrow hsev).mpr (hkept p hp record sev hrow hsev)
    exact ⟨heq, keeps_of_fingerprint_eq hids hsystem hscanner hf hf' heq⟩

/-! ## A finding on top -/

/-- A file with the columns `severity`, `host` and `qid`. -/
def hostSheet : Sheet where
  lower := List.map Char.toLower
  scanner := "csv".toList
  names := ["severity".toList, "host".toList, "qid".toList]
  named := List.cons_ne_nil _ _

def hostRow (host qid : String) : List Text := ["High".toList, host.toList, qid.toList]

def hostFile (rows : List (List Text)) : Text := writeCsv (hostSheet.names :: rows)

def onTop (qid : String) : Edit (dataRows [hostRow "web" qid])
    (dataRows [hostRow "db" qid, hostRow "web" qid]) where
  kept := [(0, 1)]
  same := fun p hp => ⟨hostRow "web" qid, by rw [List.mem_singleton.mp hp]; exact ⟨rfl, rfl⟩⟩

/-- The scan of one row, and that with the other one on top. -/
def hostScan (qid : String) : ScanCall := dayScan [hostSheet.finding 0 (hostRow "web" qid) .high]

def hostScanOnTop (qid : String) : ScanCall :=
  dayScan [hostSheet.finding 0 (hostRow "db" qid) .high,
    hostSheet.finding 1 (hostRow "web" qid) .high]

theorem parse_hostFile {qid : String}
    (hweb : hostSheet.severity (hostRow "web" qid) = some (some .high))
    (hread : readCsv (hostFile [hostRow "web" qid]) =
      some (hostSheet.names :: [hostRow "web" qid])) :
    parseCsv hostSheet.lower hostSheet.scanner (hostFile [hostRow "web" qid]) =
      some (hostScan qid).findings := by
  rw [parseCsv_eq hread]
  exact parseRows_cons.mpr ⟨_, [], hweb, rfl, rfl⟩

theorem parse_hostFile_onTop {qid : String}
    (hweb : hostSheet.severity (hostRow "web" qid) = some (some .high))
    (hdb : hostSheet.severity (hostRow "db" qid) = some (some .high))
    (hread : readCsv (hostFile [hostRow "db" qid, hostRow "web" qid]) =
      some (hostSheet.names :: [hostRow "db" qid, hostRow "web" qid])) :
    parseCsv hostSheet.lower hostSheet.scanner (hostFile [hostRow "db" qid, hostRow "web" qid]) =
      some (hostScanOnTop qid).findings := by
  rw [parseCsv_eq hread]
  exact parseRows_cons.mpr ⟨_, _, hdb, parseRows_cons.mpr ⟨_, [], hweb, rfl, rfl⟩, rfl⟩

/-- With an id, the row keeps its fingerprint and its POA&M. -/
theorem rows_stable_iff_qid :
    Stable hostSheet (onTop "38739") (hostScan "38739") (hostScanOnTop "38739") [] ↔
      ∀ p ∈ (onTop "38739").kept, ∀ record sev,
        (dataRows [hostRow "web" "38739"])[p.1]? = some record →
          hostSheet.severity record = some (some sev) →
            hostSheet.cell record .nativeId ≠ [] ∨ p.1 = p.2 :=
  have hread : readCsv (hostFile [hostRow "web" "38739"]) =
      some (hostSheet.names :: [hostRow "web" "38739"]) := by decide +kernel
  have hread' : readCsv (hostFile [hostRow "db" "38739", hostRow "web" "38739"]) =
      some (hostSheet.names :: [hostRow "db" "38739", hostRow "web" "38739"]) := by
    decide +kernel
  have hweb : hostSheet.severity (hostRow "web" "38739") = some (some .high) := by decide +kernel
  rows_stable_iff hostSheet hread hread' _ _ _ List.nodup_nil rfl rfl
    (parse_hostFile hweb hread) (parse_hostFile_onTop hweb (by decide +kernel) hread')
    (by unfold ScanCall.CollisionFree; decide +kernel)

/-- Without one, the row is another finding once there is one on top of it. -/
theorem row_number_not_stable :
    ¬∀ (s : Sheet) (text text' : Text) (records records' : List (List Text)),
      readCsv text = some (s.names :: records) → readCsv text' = some (s.names :: records') →
      ∀ (e : Edit (dataRows records) (dataRows records')) (c c' : ScanCall) (poams : List Poam),
        (poams.map Poam.id).Nodup → c'.systemId = c.systemId → c'.scanner = c.scanner →
        parseCsv s.lower s.scanner text = some c.findings →
        parseCsv s.lower s.scanner text' = some c'.findings → Stable s e c c' poams := by
  intro h
  have hread : readCsv (hostFile [hostRow "web" ""]) =
      some (hostSheet.names :: [hostRow "web" ""]) := by decide +kernel
  have hread' : readCsv (hostFile [hostRow "db" "", hostRow "web" ""]) =
      some (hostSheet.names :: [hostRow "db" "", hostRow "web" ""]) := by decide +kernel
  have hweb : hostSheet.severity (hostRow "web" "") = some (some .high) := by decide +kernel
  have hstable := h hostSheet _ _ _ _ hread hread' (onTop "") (hostScan "") (hostScanOnTop "") []
    List.nodup_nil rfl rfl (parse_hostFile hweb hread)
    (parse_hostFile_onTop hweb (by decide +kernel) hread')
  have hsame := (hstable (0, 1) List.mem_cons_self (hostRow "web" "") .high rfl hweb).1
  exact absurd hsame (by decide +kernel)

end Concord.Ingest
