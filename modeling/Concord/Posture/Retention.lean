import Concord.Base.Run
import Concord.Posture.Scope

/-!
# Pruning resource detail

`ccf/posture/retention.py`: `prune_resource_detail`, with `latest_result_ids` of
`ccf/posture/latest.py`. The rows of old results are deleted in batches, each batch read again from
the database; those of the latest informative result of a test, and those a waiver covers, stay.

A time is a number of microseconds since the least `datetime`. The loop runs on fuel, and
`prune_retains` gives the fuel that is enough.
-/

namespace Concord.Posture.Retention

open Concord.Base Concord.Python
open Concord.Posture.Scope (outOfScopeEvidenceRef)

/-! ## Tables -/

/-- A row of `control_test_results`. -/
structure ControlTestResult where
  id : Nat
  controlTestId : Nat
  runAt : Int
  evaluated : Int
  evidenceRef : Option Text
  deriving DecidableEq

/-- A row of `control_test_resource_results`. -/
structure ResourceResult where
  id : Nat
  resultId : Nat
  resourceId : Text
  verdict : Text
  waiverId : Option Nat
  deriving DecidableEq

/-- What the audit chain is told of a prune. -/
structure PruneEvent where
  actor : Text
  retainDays : Int
  cutoff : Int
  deleted : Nat
  deriving DecidableEq

@[ext]
structure Db where
  /-- The ids of the control tests. -/
  tests : List Nat
  results : List ControlTestResult
  resources : List ResourceResult
  events : List PruneEvent
  resultIds : (results.map ControlTestResult.id).Nodup
  resourceIds : (resources.map ResourceResult.id).Nodup

/-! ## The latest result -/

namespace ControlTestResult

/-- `ORDER BY run_at DESC, id DESC`. -/
def stamp (r : ControlTestResult) : Stamp := Base.stamp r.runAt r.id

/-- A result that evaluated something, or that withdraws the test. -/
def informative (r : ControlTestResult) : Bool :=
  0 < r.evaluated ∨ r.evidenceRef = some outOfScopeEvidenceRef

end ControlTestResult

/-- `latest_id`, of a test. -/
def latestResult (results : List ControlTestResult) (testId : Nat) : Option ControlTestResult :=
  newest ControlTestResult.stamp
    (results.filter fun r => r.controlTestId = testId ∧ r.informative = true)

/-- `latest_result_ids`: the results. -/
def Db.protectedIds (db : Db) : List Nat :=
  db.tests.filterMap fun testId =>
    (latestResult db.results testId).map ControlTestResult.id

/-! ## Pruning -/

/-- The conditions of `doomed`, on a resource row and the result it is joined to. -/
def Db.isDoomed (db : Db) (cutoff : Int) (row : ResourceResult) : Bool :=
  db.results.any fun r => r.id = row.resultId ∧ r.runAt < cutoff ∧ row.waiverId = none ∧
    r.id ∉ db.protectedIds

/-- `doomed`. -/
def Db.doomed (db : Db) (cutoff : Int) : List ResourceResult :=
  db.resources.filter (db.isDoomed cutoff)

/-- `doomed.order_by(id).limit(batch_size)`. -/
def Db.batchIds (db : Db) (cutoff : Int) (batchSize : Nat) : List Nat :=
  (((db.doomed cutoff).map ResourceResult.id).insertionSort (· ≤ ·)).take batchSize

theorem nodup_filter_resources {resources : List ResourceResult} (p : ResourceResult → Bool)
    (h : (resources.map ResourceResult.id).Nodup) :
    ((resources.filter p).map ResourceResult.id).Nodup :=
  (List.filter_sublist.map _).nodup h

/-- `DELETE … WHERE id IN (…)`. -/
def Db.deleteRows (db : Db) (ids : List Nat) : Db :=
  { db with
    resources := db.resources.filter fun row => row.id ∉ ids
    resourceIds := nodup_filter_resources _ db.resourceIds }

/-- The `rowcount` of it. -/
def Db.rowcount (db : Db) (ids : List Nat) : Nat :=
  db.resources.countP fun row => row.id ∈ ids

/-- The loop over the batches; `none` is a loop that is not over yet. -/
def pruneBatches (batchSize : Nat) (cutoff : Int) : Nat → Db → Nat → Option (Db × Nat)
  | 0, _, _ => none
  | fuel + 1, db, deleted =>
    match db.batchIds cutoff batchSize with
    | [] => some (db, deleted)
    | ids => pruneBatches batchSize cutoff fuel (db.deleteRows ids) (deleted + db.rowcount ids)

inductive Failure
  | valueError (text : Text)
  | overflowError
  deriving DecidableEq

/-- What `prune_resource_detail` returns. -/
structure Report where
  deleted : Nat
  retainDays : Int
  cutoff : Int
  dryRun : Bool
  deriving DecidableEq

/-- `str(n)`. -/
def intText (n : Int) : Text := if n < 0 then '-' :: natText n.natAbs else natText n.natAbs

def microsecondsPerDay : Int := 86400000000

/-- `cutoff`, of a window. -/
def cutoffOf (now : Int) (window : Int) : Except Failure Int :=
  if window ≤ 0 then
    .error (.valueError ("retain_days must be positive, got ".toList ++ intText window
      ++ ": a zero or negative window would delete all non-exempt detail".toList))
  else if now - window * microsecondsPerDay < 0 then .error .overflowError
  else .ok (now - window * microsecondsPerDay)

/-- What is left to do once the cutoff is known. -/
def pruneBefore (batchSize fuel : Nat) (db : Db) (window cutoff : Int) (dryRun : Bool)
    (actor : Text) : Option (Db × Report) :=
  if dryRun then some (db, ⟨(db.doomed cutoff).length, window, cutoff, true⟩)
  else (pruneBatches batchSize cutoff fuel db 0).map fun (db, deleted) =>
    ({ db with events := db.events ++ [⟨actor, window, cutoff, deleted⟩] },
      ⟨deleted, window, cutoff, false⟩)

/-- `prune_resource_detail`; `retention` is the setting that `retain_days` defaults to. -/
def pruneResourceDetail (batchSize fuel : Nat) (retention : Int) (db : Db)
    (retainDays : Option Int) (now : Int) (dryRun : Bool) (actor : Text) :
    Except Failure (Option (Db × Report)) := do
  let window := retainDays.getD retention
  let cutoff ← cutoffOf now window
  return pruneBefore batchSize fuel db window cutoff dryRun actor

/-- `_BATCH_SIZE`. -/
def defaultBatchSize : Nat := 5000

/-! ## What is kept -/

/-- The latest informative result of a test. -/
structure IsLatest (results : List ControlTestResult) (testId : Nat) (r : ControlTestResult) :
    Prop where
  mem : r ∈ results
  ofTest : r.controlTestId = testId
  informative : r.informative = true
  newest : ∀ r' ∈ results, r'.controlTestId = testId → r'.informative = true → r'.stamp ≤ r.stamp

/-- The row is of the latest informative result of a test. -/
def Current (db : Db) (row : ResourceResult) : Prop :=
  ∃ testId ∈ db.tests, ∃ r, IsLatest db.results testId r ∧ r.id = row.resultId

/-- The row is of a result from before the cutoff. -/
def Older (db : Db) (cutoff : Int) (row : ResourceResult) : Prop :=
  ∃ r ∈ db.results, r.id = row.resultId ∧ r.runAt < cutoff

theorem latestResult_eq_some_iff {results : List ControlTestResult}
    (hids : (results.map ControlTestResult.id).Nodup) {testId : Nat} {r : ControlTestResult} :
    latestResult results testId = some r ↔ IsLatest results testId r := by
  have hmem : ∀ r', r' ∈ results.filter (fun r => r.controlTestId = testId ∧ r.informative = true) ↔
      r' ∈ results ∧ r'.controlTestId = testId ∧ r'.informative = true := fun r' => by
    rw [List.mem_filter, decide_eq_true_eq]
  -- of two results at one time the greater id counts, so that there is one latest
  have hstamp : ∀ a ∈ results.filter (fun r => r.controlTestId = testId ∧ r.informative = true),
      ∀ b ∈ results.filter (fun r => r.controlTestId = testId ∧ r.informative = true),
        a.stamp = b.stamp → a = b := fun a ha b hb heq =>
    List.inj_on_of_nodup_map hids ((hmem a).mp ha).1 ((hmem b).mp hb).1 (stamp_inj.mp heq).2
  unfold latestResult
  rw [newest_eq_some_iff hstamp]
  constructor
  · rintro ⟨hr, hnewest⟩
    obtain ⟨hr, hof, hinformative⟩ := (hmem r).mp hr
    refine ⟨hr, hof, hinformative, fun r' hr' hof' hi' => ?_⟩
    exact hnewest r' ((hmem r').mpr ⟨hr', hof', hi'⟩)
  · rintro ⟨hr, hof, hinformative, hnewest⟩
    refine ⟨(hmem r).mpr ⟨hr, hof, hinformative⟩, fun r' hr' => ?_⟩
    obtain ⟨hr', hof', hi'⟩ := (hmem r').mp hr'
    exact hnewest r' hr' hof' hi'

theorem mem_protectedIds {db : Db} {resultId : Nat} :
    resultId ∈ db.protectedIds ↔
      ∃ testId ∈ db.tests, ∃ r, IsLatest db.results testId r ∧ r.id = resultId := by
  unfold Db.protectedIds
  simp only [List.mem_filterMap, Option.map_eq_some_iff, latestResult_eq_some_iff db.resultIds]

/-- **What the query selects**: old rows that no waiver covers and that are not current. -/
theorem isDoomed_iff {db : Db} {cutoff : Int} {row : ResourceResult} :
    db.isDoomed cutoff row = true ↔
      Older db cutoff row ∧ row.waiverId = none ∧ ¬ Current db row := by
  unfold Db.isDoomed
  rw [List.any_eq_true]
  constructor
  · rintro ⟨r, hr, hcond⟩
    obtain ⟨hid, hold, hwaiver, hlatest⟩ := of_decide_eq_true hcond
    rw [hid, mem_protectedIds] at hlatest
    exact ⟨⟨r, hr, hid, hold⟩, hwaiver, hlatest⟩
  · rintro ⟨⟨r, hr, hid, hold⟩, hwaiver, hcurrent⟩
    refine ⟨r, hr, decide_eq_true ⟨hid, hold, hwaiver, ?_⟩⟩
    rw [hid, mem_protectedIds]
    exact hcurrent

/-! ## The loop -/

section Loop

variable {db : Db} {cutoff : Int} {batchSize : Nat}

theorem mem_batchIds {id : Nat} (h : id ∈ db.batchIds cutoff batchSize) :
    ∃ row ∈ db.resources, db.isDoomed cutoff row = true ∧ row.id = id := by
  have hsorted := List.mem_of_mem_take h
  rw [(List.perm_insertionSort _ _).mem_iff] at hsorted
  obtain ⟨row, hrow, hid⟩ := List.mem_map.mp hsorted
  exact ⟨row, (List.mem_filter.mp hrow).1, (List.mem_filter.mp hrow).2, hid⟩

theorem isDoomed_of_mem_batchIds {row : ResourceResult} (hrow : row ∈ db.resources)
    (h : row.id ∈ db.batchIds cutoff batchSize) : db.isDoomed cutoff row = true := by
  obtain ⟨row', hrow', hdoomed, hid⟩ := mem_batchIds h
  exact List.inj_on_of_nodup_map db.resourceIds hrow' hrow hid ▸ hdoomed

theorem batchIds_eq_nil_iff (h : 0 < batchSize) :
    db.batchIds cutoff batchSize = [] ↔ db.doomed cutoff = [] := by
  unfold Db.batchIds
  rw [List.take_eq_nil_iff, or_iff_right (Nat.ne_of_gt h)]
  constructor
  · intro hnil
    have hperm := List.perm_insertionSort (· ≤ ·) ((db.doomed cutoff).map ResourceResult.id)
    rw [hnil] at hperm
    exact List.map_eq_nil_iff.mp hperm.symm.eq_nil
  · intro hnil
    rw [hnil]
    rfl

theorem doomed_deleteRows (ids : List Nat) :
    (db.deleteRows ids).doomed cutoff = (db.doomed cutoff).filter fun row => row.id ∉ ids := by
  show (db.resources.filter _).filter _ = (db.resources.filter _).filter _
  rw [List.filter_filter, List.filter_filter]
  exact List.filter_congr fun row _ => Bool.and_comm _ _

theorem rowcount_add_doomed (db : Db) (cutoff : Int) (batchSize : Nat) :
    db.rowcount (db.batchIds cutoff batchSize) +
        ((db.deleteRows (db.batchIds cutoff batchSize)).doomed cutoff).length =
      (db.doomed cutoff).length := by
  rw [doomed_deleteRows]
  have hcount : db.rowcount (db.batchIds cutoff batchSize) =
      ((db.doomed cutoff).filter fun row => row.id ∈ db.batchIds cutoff batchSize).length := by
    unfold Db.rowcount Db.doomed
    rw [List.countP_eq_length_filter, List.filter_filter]
    congr 1
    refine List.filter_congr fun row hrow => ?_
    by_cases h : row.id ∈ db.batchIds cutoff batchSize
    · -- ids are unique, so that a batch of ids deletes no row beside the doomed ones
      rw [decide_eq_true h, isDoomed_of_mem_batchIds hrow h, Bool.and_true]
    · rw [decide_eq_false h, Bool.false_and]
  have hsplit := List.length_eq_length_filter_add (l := db.doomed cutoff)
    fun row => decide (row.id ∈ db.batchIds cutoff batchSize)
  simp only [decide_not]
  omega

def retained (db : Db) (cutoff : Int) : Db :=
  { db with
    resources := db.resources.filter fun row => !db.isDoomed cutoff row
    resourceIds := nodup_filter_resources _ db.resourceIds }

theorem retained_deleteRows (db : Db) (cutoff : Int) (batchSize : Nat) :
    retained (db.deleteRows (db.batchIds cutoff batchSize)) cutoff = retained db cutoff := by
  have hrows : (db.resources.filter fun row => row.id ∉ db.batchIds cutoff batchSize).filter
        (fun row => !db.isDoomed cutoff row) =
      db.resources.filter fun row => !db.isDoomed cutoff row := by
    rw [List.filter_filter]
    refine List.filter_congr fun row hrow => ?_
    by_cases h : row.id ∈ db.batchIds cutoff batchSize
    · rw [isDoomed_of_mem_batchIds hrow h]
      rfl
    · rw [decide_eq_true h, Bool.and_true]
  exact Db.ext rfl rfl hrows rfl

theorem retained_eq_self (h : db.doomed cutoff = []) : retained db cutoff = db := by
  refine Db.ext rfl rfl (List.filter_eq_self.mpr fun row hrow => ?_) rfl
  have hnot := List.filter_eq_nil_iff.mp h row hrow
  rw [Bool.not_eq_true] at hnot
  rw [hnot]
  rfl

/-- **The loop ends**, with fuel for each doomed row and one turn more, and has then deleted the
doomed rows and no other. -/
theorem pruneBatches_eq (hsize : 0 < batchSize) {fuel : Nat}
    (hfuel : (db.doomed cutoff).length < fuel) (deleted : Nat) :
    pruneBatches batchSize cutoff fuel db deleted =
      some (retained db cutoff, deleted + (db.doomed cutoff).length) := by
  induction fuel generalizing db deleted with
  | zero => exact absurd hfuel (Nat.not_lt_zero _)
  | succ fuel ih =>
    unfold pruneBatches
    cases hids : db.batchIds cutoff batchSize with
    | nil =>
      have hnone := (batchIds_eq_nil_iff hsize).mp hids
      simp only [hnone, List.length_nil, Nat.add_zero, retained_eq_self hnone]
    | cons id rest =>
      have hsum := rowcount_add_doomed db cutoff batchSize
      have hsame := retained_deleteRows db cutoff batchSize
      -- the batch is not empty, and so is what it deletes
      have hpos : 0 < db.rowcount (db.batchIds cutoff batchSize) := by
        obtain ⟨row, hrow, -, hid⟩ := mem_batchIds (hids ▸ List.mem_cons_self)
        refine List.countP_pos_iff.mpr ⟨row, hrow, decide_eq_true ?_⟩
        rw [hid, hids]
        exact List.mem_cons_self
      rw [hids] at hsum hsame hpos
      dsimp only
      rw [ih (by omega), hsame]
      congr 2
      omega

end Loop

theorem doomed_add_retained (db : Db) (cutoff : Int) :
    (db.doomed cutoff).length + (retained db cutoff).resources.length = db.resources.length :=
  (List.length_eq_length_filter_add (db.isDoomed cutoff)).symm

theorem pruneResourceDetail_eq {retention now cutoff : Int} {retainDays : Option Int}
    (hcutoff : cutoffOf now (retainDays.getD retention) = .ok cutoff) (batchSize fuel : Nat)
    (db : Db) (dryRun : Bool) (actor : Text) :
    pruneResourceDetail batchSize fuel retention db retainDays now dryRun actor =
      .ok (pruneBefore batchSize fuel db (retainDays.getD retention) cutoff dryRun actor) := by
  show (cutoffOf now (retainDays.getD retention) >>= _) = _
  rw [hcutoff]
  rfl

/-- **Retention never loses the current picture.** With fuel for the rows there are the loop is over
for every batch size; the old rows that are neither current nor covered by a waiver are gone, and no
other; and a dry run reports how many these are. -/
theorem prune_retains {db : Db} {batchSize : Nat} {retention now cutoff : Int}
    {retainDays : Option Int} {actor : Text} (hsize : 0 < batchSize)
    (hcutoff : cutoffOf now (retainDays.getD retention) = .ok cutoff) :
    ∃ (db' : Db) (n : Nat),
      (∀ fuel, db.resources.length < fuel →
        pruneResourceDetail batchSize fuel retention db retainDays now false actor =
          .ok (some (db', ⟨n, retainDays.getD retention, cutoff, false⟩))) ∧
      (∀ fuel, pruneResourceDetail batchSize fuel retention db retainDays now true actor =
        .ok (some (db, ⟨n, retainDays.getD retention, cutoff, true⟩))) ∧
      (∀ row, row ∈ db'.resources ↔ row ∈ db.resources ∧
        ¬ (Older db cutoff row ∧ row.waiverId = none ∧ ¬ Current db row)) ∧
      n + db'.resources.length = db.resources.length ∧
      db'.tests = db.tests ∧ db'.results = db.results := by
  refine ⟨{ retained db cutoff with
      events := db.events ++
        [⟨actor, retainDays.getD retention, cutoff, (db.doomed cutoff).length⟩] },
    (db.doomed cutoff).length, fun fuel hfuel => ?_, fun fuel => ?_, fun row => ?_,
    doomed_add_retained db cutoff, rfl, rfl⟩
  · have henough : (db.doomed cutoff).length < fuel :=
      lt_of_le_of_lt (List.length_filter_le _ _) hfuel
    rw [pruneResourceDetail_eq hcutoff, pruneBefore, if_neg Bool.false_ne_true,
      pruneBatches_eq hsize henough, Nat.zero_add]
    rfl
  · rw [pruneResourceDetail_eq hcutoff, pruneBefore, if_pos rfl]
  · show row ∈ db.resources.filter _ ↔ _
    rw [List.mem_filter, ← isDoomed_iff, Bool.not_eq_true', Bool.not_eq_true]

theorem oneTest_resultIds : [1, 2].Nodup := by decide

theorem oneTest_resourceIds : [1, 2, 3].Nodup := by decide

/-- A database of one test: an old result with two rows, of which a waiver covers one, and an old
result that is its latest. -/
def oneTest : Db where
  tests := [1]
  results := [⟨1, 1, 0, 2, none⟩, ⟨2, 1, 5, 1, none⟩]
  resources := [⟨1, 1, "alice".toList, "fail".toList, none⟩,
    ⟨2, 1, "bob".toList, "fail".toList, some 7⟩, ⟨3, 2, "alice".toList, "pass".toList, none⟩]
  events := []
  resultIds := oneTest_resultIds
  resourceIds := oneTest_resourceIds

theorem prune_retains_oneTest :
    0 < defaultBatchSize ∧ cutoffOf 86400000010 1 = .ok 10 ∧ ∃ (db' : Db) (n : Nat),
      (∀ fuel, 3 < fuel →
        pruneResourceDetail defaultBatchSize fuel 400 oneTest (some 1) 86400000010 false
          "cli".toList = .ok (some (db', ⟨n, 1, 10, false⟩))) ∧
      n + db'.resources.length = 3 := by
  obtain ⟨db', n, hrun, -, -, hsum, -⟩ := @prune_retains oneTest defaultBatchSize 400 86400000010 10
    (some 1) "cli".toList (by decide) rfl
  exact ⟨by decide, rfl, db', n, hrun, hsum⟩

end Concord.Posture.Retention
