import Concord.Packages.Facts

/-!
# Package replay

`ccf/packages/service.py`, the replayed half: `replay_package` captures the facts of the
package's system again and files a verdict with the drift it saw.

- `summary_diffMaps`: the three counts of a drift are the numbers of the items that are
  new, gone and different, in whatever order the maps list them.
- `replayStatus_eq_reproducible`: the verdict is `reproducible` where every stored fact is
  there now with the value it had. New facts are in the drift but not in the verdict.
- `bucket_diffMaps`: a drift lists what differs, and nothing else.
- `replay_createPackage`: a package replays as reproducible while its system stays as it is.
-/

namespace Concord.Packages

open Concord.Python

/-- A package and the rows of its facts, in the order a query lists them. -/
structure Package where
  id : Nat
  organizationId : Option Nat
  systemId : Option Nat
  kind : Text
  label : Text
  factCount : Nat
  createdBy : Option Text
  factCounts : Dict FactType Nat
  facts : List Fact

/-- `reproducible|drifted|missing`. -/
inductive ReplayStatus where
  | reproducible | drifted | missing
  deriving DecidableEq

structure ReplayRun where
  organizationId : Option Nat
  packageId : Nat
  status : ReplayStatus
  summary : Summary
  changes : Changes

/-- The counts of `create_package`. -/
def factCounts (facts : List Fact) : Dict FactType Nat :=
  facts.foldl (fun counts f => counts.set f.factType ((counts.get? f.factType).getD 0 + 1))
    Dict.empty

/-- `create_package`. -/
def createPackage (id : Nat) (live : Nat → Live) (orgId : Option Nat) (systemId : Nat)
    (kind : Text) (label createdBy : Option Text) : Package :=
  let facts := captureFacts (live systemId)
  { id := id
    organizationId := orgId
    systemId := some systemId
    kind := kind
    label := (orElse label none).getD
      (kind ++ " package (system ".toList ++ natText systemId ++ [')'])
    factCount := facts.length
    createdBy := createdBy
    factCounts := factCounts facts
    facts := facts }

/-- `capture_facts(...) if package.system_id else []`. -/
def currentFacts (live : Nat → Live) (pkg : Package) : List Fact :=
  match pkg.systemId with
  | none => []
  | some s => if s = 0 then [] else captureFacts (live s)

def replayStatus (s : Summary) : ReplayStatus :=
  if s.changed ≠ 0 then .drifted else if s.removed ≠ 0 then .missing else .reproducible

/-- `replay_package`. -/
def replayPackage (live : Nat → Live) (orgId : Option Nat) (pkg : Package) : ReplayRun :=
  let changes := diffMaps (factMap pkg.facts) (factMap (currentFacts live pkg))
  { organizationId := orgId
    packageId := pkg.id
    status := replayStatus (summary changes)
    summary := summary changes
    changes := changes }

/-! ## Counting a diff -/

section Count

variable {size : Bucket → Nat}

theorem sum_setItem (hzero : size {} = 0) (t : FactType) (b : Bucket)
    (items : List (FactType × Bucket)) :
    ((Dict.setItem t b items).map fun p => size p.2).sum +
        size (((items.find? fun p => p.1 = t).map Prod.snd).getD {}) =
      (items.map fun p => size p.2).sum + size b := by
  induction items with
  | nil => simp [Dict.setItem, hzero]
  | cons p rest ih =>
    unfold Dict.setItem
    by_cases h : p.1 = t
    · simp only [h, if_true, List.find?_cons, decide_true, List.map_cons, List.sum_cons,
        Option.map_some, Option.getD_some]
      omega
    · simp only [h, if_false, List.find?_cons, decide_false, List.map_cons, List.sum_cons]
      omega

theorem count_update (hzero : size {} = 0) (changes : Changes) (t : FactType)
    (f : Bucket → Bucket) (n : Nat) (hf : ∀ b, size (f b) = size b + n) :
    (changes.update t f).count size = changes.count size + n := by
  have h := sum_setItem hzero t (f (changes.bucket t)) changes.items
  rw [hf] at h
  have hbucket : size (changes.bucket t) =
      size (((changes.items.find? fun p => p.1 = t).map Prod.snd).getD {}) := rfl
  show ((Dict.setItem t (f (changes.bucket t)) changes.items).map fun p => size p.2).sum =
    (changes.items.map fun p => size p.2).sum + n
  omega

theorem count_foldl {step : Changes → FactKey × FactValue → Changes}
    {hit : FactKey × FactValue → Bool}
    (hstep : ∀ changes item,
      (step changes item).count size = changes.count size + if hit item then 1 else 0)
    (items : List (FactKey × FactValue)) (changes : Changes) :
    (items.foldl step changes).count size = changes.count size + items.countP hit := by
  induction items generalizing changes with
  | nil => rfl
  | cons item items ih =>
    rw [List.foldl_cons, ih, hstep, List.countP_cons]
    omega

end Count

section Drift

variable (a b : FactMap)

def isMissingIn (m : FactMap) (item : FactKey × FactValue) : Bool := (m.get? item.1).isNone

def differsFrom (m : FactMap) (item : FactKey × FactValue) : Bool :=
  (m.get? item.1).any fun v => v ≠ item.2

theorem count_added_diffPresent (changes : Changes) (item : FactKey × FactValue) :
    (diffPresent a changes item).count (fun b => b.added.length) =
      changes.count (fun b => b.added.length) + if isMissingIn a item then 1 else 0 := by
  unfold diffPresent isMissingIn
  cases a.get? item.1 with
  | none => exact count_update rfl changes _ _ 1 fun b => List.length_append
  | some v =>
    dsimp only
    split
    · exact count_update rfl changes _ _ 0 fun b => rfl
    · rfl

theorem count_changed_diffPresent (changes : Changes) (item : FactKey × FactValue) :
    (diffPresent a changes item).count (fun b => b.changed.length) =
      changes.count (fun b => b.changed.length) + if differsFrom a item then 1 else 0 := by
  unfold diffPresent differsFrom
  cases a.get? item.1 with
  | none => exact count_update rfl changes _ _ 0 fun b => rfl
  | some v =>
    rw [Option.any_some]
    dsimp only
    by_cases h : v = item.2
    · rw [if_neg (not_not.mpr h), decide_eq_false (not_not.mpr h)]
      rfl
    · rw [if_pos h, decide_eq_true h]
      exact count_update rfl changes _ _ 1 fun b => List.length_append

theorem count_removed_diffPresent (changes : Changes) (item : FactKey × FactValue) :
    (diffPresent a changes item).count (fun b => b.removed.length) =
      changes.count (fun b => b.removed.length) := by
  unfold diffPresent
  split
  · exact count_update rfl changes _ _ 0 fun b => rfl
  · split
    · exact count_update rfl changes _ _ 0 fun b => rfl
    · rfl

theorem count_removed_diffAbsent (changes : Changes) (item : FactKey × FactValue) :
    (diffAbsent b changes item).count (fun b => b.removed.length) =
      changes.count (fun b => b.removed.length) + if isMissingIn b item then 1 else 0 := by
  unfold diffAbsent isMissingIn
  split
  · exact count_update rfl changes _ _ 1 fun b => List.length_append
  · rfl

theorem count_diffAbsent {size : Bucket → Nat} (hzero : size {} = 0)
    (hsize : ∀ b : Bucket, ∀ l, size { b with removed := l } = size b)
    (changes : Changes) (item : FactKey × FactValue) :
    (diffAbsent b changes item).count size = changes.count size := by
  unfold diffAbsent
  split
  · exact count_update hzero changes _ _ 0 fun b => hsize b _
  · rfl

theorem count_foldl_same {size : Bucket → Nat} {step : Changes → FactKey × FactValue → Changes}
    (hstep : ∀ changes item, (step changes item).count size = changes.count size)
    (items : List (FactKey × FactValue)) (changes : Changes) :
    (items.foldl step changes).count size = changes.count size := by
  induction items generalizing changes with
  | nil => rfl
  | cons item items ih => rw [List.foldl_cons, ih, hstep]

/-- **The counts of a drift.** -/
theorem summary_diffMaps :
    summary (diffMaps a b) =
      { added := b.items.countP (isMissingIn a)
        removed := a.items.countP (isMissingIn b)
        changed := b.items.countP (differsFrom a)
        total := b.items.countP (isMissingIn a) + a.items.countP (isMissingIn b) +
          b.items.countP (differsFrom a) } := by
  have hempty : ∀ size : Bucket → Nat, Changes.count Dict.empty size = 0 := fun _ => rfl
  have hadded : (diffMaps a b).count (fun b => b.added.length) =
      b.items.countP (isMissingIn a) := by
    unfold diffMaps
    rw [count_foldl_same (count_diffAbsent b rfl fun _ _ => rfl),
      count_foldl (count_added_diffPresent a), hempty, Nat.zero_add]
  have hchanged : (diffMaps a b).count (fun b => b.changed.length) =
      b.items.countP (differsFrom a) := by
    unfold diffMaps
    rw [count_foldl_same (count_diffAbsent b rfl fun _ _ => rfl),
      count_foldl (count_changed_diffPresent a), hempty, Nat.zero_add]
  have hremoved : (diffMaps a b).count (fun b => b.removed.length) =
      a.items.countP (isMissingIn b) := by
    unfold diffMaps
    rw [count_foldl (count_removed_diffAbsent b),
      count_foldl_same (count_removed_diffPresent a), hempty, Nat.zero_add]
  unfold summary
  rw [hadded, hchanged, hremoved]

theorem countP_isMissingIn_eq_zero :
    a.items.countP (isMissingIn b) = 0 ↔ ∀ k, a.get? k ≠ none → b.get? k ≠ none := by
  rw [List.countP_eq_zero]
  constructor
  · intro h k hk
    obtain ⟨v, hv⟩ := Option.ne_none_iff_exists'.mp hk
    simpa [isMissingIn] using h (k, v) (Dict.mem_items_iff.mpr hv)
  · intro h item hitem
    have hk := h item.1 (by rw [Dict.mem_items_iff.mp hitem]; exact Option.some_ne_none _)
    simpa [isMissingIn] using hk

theorem countP_differsFrom_eq_zero :
    b.items.countP (differsFrom a) = 0 ↔
      ∀ k v w, a.get? k = some v → b.get? k = some w → v = w := by
  rw [List.countP_eq_zero]
  constructor
  · intro h k v w hv hw
    have hkw := h (k, w) (Dict.mem_items_iff.mpr hw)
    simpa [differsFrom, hv] using hkw
  · intro h item hitem
    have hw := Dict.mem_items_iff.mp hitem
    unfold differsFrom
    cases hv : a.get? item.1 with
    | none => simp
    | some v => simpa using h item.1 v item.2 hv hw

/-- **The verdict**: every stored fact is there now and says what it said. -/
theorem replayStatus_eq_reproducible :
    replayStatus (summary (diffMaps a b)) = .reproducible ↔
      ∀ k v, a.get? k = some v → b.get? k = some v := by
  have hstatus : ∀ s : Summary, replayStatus s = .reproducible ↔
      s.changed = 0 ∧ s.removed = 0 := by
    intro s
    unfold replayStatus
    by_cases hc : s.changed = 0 <;> by_cases hr : s.removed = 0 <;> simp [hc, hr]
  rw [hstatus, summary_diffMaps]
  dsimp only
  rw [countP_isMissingIn_eq_zero, countP_differsFrom_eq_zero]
  constructor
  · rintro ⟨hchanged, hremoved⟩ k v hv
    have hk : b.get? k ≠ none := hremoved k (by rw [hv]; exact Option.some_ne_none v)
    obtain ⟨w, hw⟩ := Option.ne_none_iff_exists'.mp hk
    rw [hw, hchanged k v w hv hw]
  · intro h
    constructor
    · intro k v w hv hw
      exact Option.some.inj ((h k v hv).symm.trans hw)
    · intro k hk
      obtain ⟨v, hv⟩ := Option.ne_none_iff_exists'.mp hk
      rw [h k v hv]
      exact Option.some_ne_none v

end Drift

/-! ## What a drift records -/

section Recorded

variable (a b : FactMap) (t : FactType)

/-- What an item adds to the bucket of a type: it is of the type, and the map lacks its key. -/
def missingEntry (m : FactMap) (item : FactKey × FactValue) : List (Text × FactValue) :=
  if item.1.1 = t ∧ m.get? item.1 = none then [(item.1.2, item.2)] else []

def changedEntry (item : FactKey × FactValue) : List (Text × FactValue × FactValue) :=
  match a.get? item.1 with
  | none => []
  | some was => if item.1.1 = t ∧ was ≠ item.2 then [(item.1.2, was, item.2)] else []

theorem bucket_update (changes : Changes) (u : FactType) (f : Bucket → Bucket) :
    (changes.update u f).bucket t = if u = t then f (changes.bucket t) else changes.bucket t := by
  unfold Changes.update Changes.bucket
  rw [Dict.get?_set]
  split
  · rename_i h
    rw [h, Option.getD_some]
  · rfl

theorem bucket_diffPresent (changes : Changes) (item : FactKey × FactValue) :
    (diffPresent a changes item).bucket t =
      { changes.bucket t with
        added := (changes.bucket t).added ++ missingEntry t a item
        changed := (changes.bucket t).changed ++ changedEntry a t item } := by
  unfold diffPresent missingEntry changedEntry
  cases a.get? item.1 with
  | none =>
    rw [bucket_update]
    by_cases h : item.1.1 = t <;> simp [h]
  | some was =>
    dsimp only
    by_cases hsame : was = item.2
    · simp [hsame]
    · rw [if_pos hsame, bucket_update]
      by_cases h : item.1.1 = t <;> simp [h, hsame]

theorem bucket_diffAbsent (changes : Changes) (item : FactKey × FactValue) :
    (diffAbsent b changes item).bucket t =
      { changes.bucket t with removed := (changes.bucket t).removed ++ missingEntry t b item } := by
  unfold diffAbsent missingEntry
  cases b.get? item.1 with
  | none =>
    rw [if_pos Option.isNone_none, bucket_update]
    by_cases h : item.1.1 = t <;> simp [h]
  | some now => simp

/-- **A drift records what differs, and nothing else**: the bucket of a type lists the facts of
the type that are new, gone and different, with their values, in the order of the maps. -/
theorem bucket_diffMaps :
    (diffMaps a b).bucket t =
      { added := b.items.flatMap (missingEntry t a)
        removed := a.items.flatMap (missingEntry t b)
        changed := b.items.flatMap (changedEntry a t) } := by
  have hpresent : ∀ items : List (FactKey × FactValue),
      (items.foldl (diffPresent a) Dict.empty).bucket t =
      { added := items.flatMap (missingEntry t a)
        changed := items.flatMap (changedEntry a t) } := by
    intro items
    induction items using List.reverseRecOn with
    | nil => rfl
    | append_singleton items item ih => simp [bucket_diffPresent, ih]
  have habsent : ∀ (items : List (FactKey × FactValue)) changes,
      (items.foldl (diffAbsent b) changes).bucket t =
      { changes.bucket t with
        removed := (changes.bucket t).removed ++ items.flatMap (missingEntry t b) } := by
    intro items changes
    induction items using List.reverseRecOn with
    | nil => simp
    | append_singleton items item ih => simp [bucket_diffAbsent, ih]
  rw [diffMaps, habsent, hpresent, List.nil_append]

end Recorded
/-! ## The replay -/

/-- What a package stored, and what its system shows now. -/
def Package.stored (pkg : Package) : FactMap := factMap pkg.facts

def Package.current (pkg : Package) (live : Nat → Live) : FactMap :=
  factMap (currentFacts live pkg)

theorem replayPackage_status (live : Nat → Live) (orgId : Option Nat) (pkg : Package) :
    (replayPackage live orgId pkg).status = .reproducible ↔
      ∀ k v, pkg.stored.get? k = some v → (pkg.current live).get? k = some v :=
  replayStatus_eq_reproducible pkg.stored (pkg.current live)

/-- **When the verdict is exact**: `reproducible` means that the two fact maps are equal unless
the only thing that happened is that facts were added. -/
theorem replay_exact_iff (live : Nat → Live) (orgId : Option Nat) (pkg : Package) :
    ((replayPackage live orgId pkg).status = .reproducible ↔
        SameFacts pkg.stored (pkg.current live)) ↔
      (∀ k, pkg.stored.get? k = none → (pkg.current live).get? k = none) ∨
        ∃ k v, pkg.stored.get? k = some v ∧ (pkg.current live).get? k ≠ some v := by
  rw [replayPackage_status]
  constructor
  · intro hexact
    by_cases hkept : ∀ k v, pkg.stored.get? k = some v → (pkg.current live).get? k = some v
    · refine .inl fun k hk => ?_
      rw [← hexact.mp hkept k]
      exact hk
    · push Not at hkept
      exact .inr hkept
  · rintro (hnew | ⟨k, v, hk, hne⟩)
    · constructor
      · intro hkept k
        cases hk : pkg.stored.get? k with
        | none => exact (hnew k hk).symm
        | some v => exact (hkept k v hk).symm
      · intro hsame k v hk
        rw [← hsame k]
        exact hk
    · constructor
      · exact fun hkept => absurd (hkept k v hk) hne
      · exact fun hsame => absurd ((hsame k).symm.trans hk) hne

def onePoam : Live where
  ksis := .ok []
  controls := .ok []
  evidence := .ok ([], [])
  dependencies := .ok []
  risks := .ok []
  poams := .ok [{ id := 7, severity := "high".toList, status := "open".toList }]
  readiness := .ok none

/-- A POA&M opened after the package was exported is in the drift, and the verdict is
`reproducible`. -/
theorem replay_misses_added :
    ¬∀ (live : Nat → Live) (orgId : Option Nat) (pkg : Package),
      (replayPackage live orgId pkg).status = .reproducible ↔
        SameFacts pkg.stored (pkg.current live) := by
  intro h
  let before : Live := { onePoam with poams := .ok [] }
  let pkg := createPackage 1 (fun _ => before) none 3 "fedramp20x".toList none none
  have hsame := (h (fun _ => onePoam) none pkg).mp (by decide +kernel)
  exact absurd (hsame (.poam, "7".toList)) (by decide +kernel)

/-- **A fresh package is reproducible**: while its system stays as it is, a replay files no
drift. -/
theorem replay_createPackage (id : Nat) (live : Nat → Live) (orgId org : Option Nat)
    (systemId : Nat) (kind : Text) (label createdBy : Option Text) (h : systemId ≠ 0) :
    let run := replayPackage live orgId
      (createPackage id live org systemId kind label createdBy)
    run.status = .reproducible ∧ run.summary.total = 0 := by
  have hcurrent : currentFacts live (createPackage id live org systemId kind label createdBy) =
      captureFacts (live systemId) := by
    unfold currentFacts createPackage
    exact if_neg h
  have hdrift : ∀ m : FactMap, m.items.countP (isMissingIn m) = 0 ∧
      m.items.countP (differsFrom m) = 0 := by
    intro m
    constructor
    · exact (countP_isMissingIn_eq_zero m m).mpr fun _ hk => hk
    · exact (countP_differsFrom_eq_zero m m).mpr fun _ _ _ hv hw =>
        Option.some.inj (hv.symm.trans hw)
  dsimp only
  unfold replayPackage
  rw [hcurrent]
  constructor
  · exact (replayStatus_eq_reproducible _ _).mpr fun _ _ hv => hv
  · show (summary (diffMaps (factMap (captureFacts (live systemId))) _)).total = 0
    rw [summary_diffMaps, (hdrift _).1, (hdrift _).2]

theorem replay_onePoam :
    let run := replayPackage (fun _ => onePoam) none
      (createPackage 1 (fun _ => onePoam) none 3 "fedramp20x".toList none none)
    run.status = .reproducible ∧ run.summary.total = 0 :=
  replay_createPackage 1 _ none none 3 _ none none (by decide)

end Concord.Packages
