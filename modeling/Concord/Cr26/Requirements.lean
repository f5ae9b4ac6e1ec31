import Concord.Cr26.Sdr
import Concord.Base.Run

/-!
# The requirements of a decision record

`merge_requirements` keeps or names every entry with a statement (`requirement_kept`), and
what it has repaired needs no repair (`mergeRequirements_again`).
-/

namespace Concord.Cr26.Sdr

open Concord.Python Concord.Base

/-! ## A requirement's entry -/

def StatusOk (entry : Json) : Prop :=
  entry.get? "frrImplementationStatus".toList = none ∨
    isStatus (entry.get? "frrImplementationStatus".toList) = true

def FieldOk (field : Text) (entry : Json) : Prop :=
  entry.get? field = none ∨
    ∃ items, entry.get? field = some (.arr items) ∧ items.all isStatement = true

section Requirement

variable {entry : Json} {field key : Text} {value : Json}

theorem repairStatus_of_ok (h : StatusOk entry) : repairStatus entry = (entry, []) := by
  unfold repairStatus
  obtain hnone | hok := h
  · rw [hnone]
  · cases hget : entry.get? "frrImplementationStatus".toList with
    | none => rfl
    | some status =>
      rw [hget] at hok
      exact if_pos hok

theorem repairField_of_ok (h : FieldOk field entry) : repairField entry field = (entry, []) := by
  unfold repairField
  obtain hnone | ⟨items, hitems, hall⟩ := h
  · rw [hnone]
  · rw [hitems]
    exact if_pos hall

theorem repairStatus_form (entry : Json) : (repairStatus entry).1 = entry ∧ StatusOk entry ∨
    (repairStatus entry).1 = entry.pop "frrImplementationStatus".toList := by
  unfold repairStatus StatusOk
  cases entry.get? "frrImplementationStatus".toList with
  | none => exact .inl ⟨rfl, .inl rfl⟩
  | some status =>
    by_cases h : isStatus (some status) = true
    · simp [h]
    · simp [h]

theorem repairField_form (entry : Json) (field : Text) :
    ((repairField entry field).1 = entry ∧ FieldOk field entry) ∨
      (repairField entry field).1 = entry.pop field ∨
      ∃ items, items.all isStatement = true ∧
        (repairField entry field).1 = entry.set field (.arr items) := by
  unfold repairField FieldOk
  cases entry.get? field with
  | none => exact .inl ⟨rfl, .inl rfl⟩
  | some value =>
    cases value with
    | arr items =>
      by_cases h : items.all isStatement = true
      · exact .inl ⟨congrArg Prod.fst (if_pos h), .inr ⟨items, rfl, h⟩⟩
      · refine .inr (.inr ⟨items.filter isStatement, ?_, congrArg Prod.fst (if_neg h)⟩)
        exact List.all_eq_true.mpr fun item hitem => (List.mem_filter.mp hitem).2
    | null => exact .inr (.inl rfl)
    | bool b => exact .inr (.inl rfl)
    | num n => exact .inr (.inl rfl)
    | str s => exact .inr (.inl rfl)
    | obj fields => exact .inr (.inl rfl)

theorem isDict_repairStatus (entry : Json) : (repairStatus entry).1.isDict = entry.isDict := by
  obtain ⟨h, -⟩ | h := repairStatus_form entry
  · rw [h]
  · rw [h, Json.isDict_pop]

theorem isDict_repairField (entry : Json) (field : Text) :
    (repairField entry field).1.isDict = entry.isDict := by
  obtain ⟨h, -⟩ | h | ⟨items, -, h⟩ := repairField_form entry field
  · rw [h]
  · rw [h, Json.isDict_pop]
  · rw [h, Json.isDict_set]

theorem statusOk_repairStatus (entry : Json) : StatusOk (repairStatus entry).1 := by
  obtain ⟨h, hok⟩ | h := repairStatus_form entry
  · rwa [h]
  · rw [h]
    left
    rw [Json.get?_pop, if_pos rfl]

theorem fieldOk_repairField (hd : entry.isDict = true) :
    FieldOk field (repairField entry field).1 := by
  obtain ⟨h, hok⟩ | h | ⟨items, hall, h⟩ := repairField_form entry field
  · rwa [h]
  · rw [h]
    left
    rw [Json.get?_pop, if_pos rfl]
  · rw [h]
    right
    refine ⟨items, ?_, hall⟩
    rw [Json.get?_set _ _ hd, if_pos rfl]

theorem repairField_get? (hd : entry.isDict = true) (hkey : key ≠ field) :
    (repairField entry field).1.get? key = entry.get? key := by
  obtain ⟨h, -⟩ | h | ⟨items, -, h⟩ := repairField_form entry field
  · rw [h]
  · rw [h, Json.get?_pop, if_neg hkey]
  · rw [h, Json.get?_set _ _ hd, if_neg hkey]

theorem repairStatus_has (h : entry.Has key value) (hkey : key ≠ "frrImplementationStatus".toList) :
    (repairStatus entry).1.Has key value := by
  obtain ⟨heq, -⟩ | heq := repairStatus_form entry
  · rwa [heq]
  · rw [heq]
    exact h.pop hkey

theorem repairField_has (h : entry.Has key value) (hkey : key ≠ field) :
    (repairField entry field).1.Has key value := by
  obtain ⟨heq, -⟩ | heq | ⟨items, -, heq⟩ := repairField_form entry field
  · rwa [heq]
  · rw [heq]
    exact h.pop hkey
  · rw [heq]
    exact h.set hkey

/-- **A repaired entry** needs no repair. -/
theorem repairEntry_again (hd : entry.isDict = true) :
    repairEntry (repairEntry entry).1 = ((repairEntry entry).1, []) := by
  have hd₁ : (repairStatus entry).1.isDict = true := (isDict_repairStatus entry).trans hd
  have hd₂ : (repairField (repairStatus entry).1 "frrValidation".toList).1.isDict = true :=
    (isDict_repairField _ _).trans hd₁
  have hstatus : StatusOk (repairEntry entry).1 := by
    show StatusOk (repairField _ _).1
    unfold StatusOk
    rw [repairField_get? hd₂ (by decide), repairField_get? hd₁ (by decide)]
    exact statusOk_repairStatus entry
  have hvalidation : FieldOk "frrValidation".toList (repairEntry entry).1 := by
    show FieldOk _ (repairField _ _).1
    unfold FieldOk
    rw [repairField_get? hd₂ (by decide)]
    exact fieldOk_repairField hd₁
  have hassessment : FieldOk "frrAssessment".toList (repairEntry entry).1 :=
    fieldOk_repairField hd₂
  generalize (repairEntry entry).1 = out at hstatus hvalidation hassessment
  unfold repairEntry
  dsimp only
  rw [repairStatus_of_ok hstatus]
  dsimp only
  rw [repairField_of_ok hvalidation]
  dsimp only
  rw [repairField_of_ok hassessment]
  rfl

theorem repairEntry_has (h : entry.Has key value) (hstatus : key ≠ "frrImplementationStatus".toList)
    (hvalidation : key ≠ "frrValidation".toList) (hassessment : key ≠ "frrAssessment".toList) :
    (repairEntry entry).1.Has key value :=
  repairField_has (repairField_has (repairStatus_has h hstatus) hvalidation) hassessment

theorem isDict_repairEntry (entry : Json) : (repairEntry entry).1.isDict = entry.isDict :=
  (isDict_repairField _ _).trans ((isDict_repairField _ _).trans (isDict_repairStatus entry))

end Requirement

/-! ## One turn -/

/-- A statement of an entry: a text that is not blank, in a list. -/
def Says (entry : Json) (field st : Text) : Prop :=
  ∃ items, entry.get? field = some (.arr items) ∧ .str st ∈ items ∧ strip st ≠ []

theorem isStatement_of_ne {st : Text} (h : strip st ≠ []) : isStatement (.str st) = true :=
  decide_eq_true h

theorem isStr_of_isStatement {item : Json} (h : isStatement item = true) : isStr item = true := by
  cases item with
  | str s => rfl
  | _ => cases h

/-- A rendered entry. -/
structure Rendered (frrId : Text) (out : Json) : Prop where
  dict : out.isDict = true
  keyed : out.get? "frrID".toList = some (.str frrId)
  again : ∀ index, repairRequirement out index = (some (frrId, out), [])

theorem rendered_repairEntry {entry : Json} (hdict : entry.isDict = true) {id : Text}
    {statements : List Json} (hid : Json.written (some (.str id)) = some id)
    (hkeyed : entry.Has "frrID".toList (.str id))
    (htold : entry.Has "frrImplementation".toList (.arr statements)) (hne : statements ≠ [])
    (hall : ∀ item ∈ statements, isStatement item = true) :
    Rendered id (repairEntry entry).1 ∧
      (repairEntry entry).1.get? "frrImplementation".toList = some (.arr statements) := by
  have hout : (repairEntry entry).1.isDict = true := (isDict_repairEntry entry).trans hdict
  have hkeyed' : (repairEntry entry).1.Has "frrID".toList (.str id) :=
    repairEntry_has hkeyed (by decide) (by decide) (by decide)
  have htold' : (repairEntry entry).1.Has "frrImplementation".toList (.arr statements) :=
    repairEntry_has htold (by decide) (by decide) (by decide)
  have hfilter : statements.filter isStatement = statements := List.filter_eq_self.mpr hall
  have hstrs : statements.all isStr = true :=
    List.all_eq_true.mpr fun item hitem => isStr_of_isStatement (hall item hitem)
  refine ⟨⟨hout, hkeyed'.get? hout, fun index => ?_⟩, htold'.get? hout⟩
  unfold repairRequirement
  rw [hout, if_neg (by decide), hkeyed'.get? hout, hid]
  dsimp only
  rw [htold'.get? hout]
  dsimp only
  rw [hfilter, if_neg hne, hstrs, if_pos rfl,
    show (repairEntry entry).1.set "frrID".toList (.str id) = _ from hkeyed',
    show (repairEntry entry).1.set "frrImplementation".toList (.arr statements) = _ from htold',
    repairEntry_again hdict]
  rfl

/-- **An entry that is kept**: its id, its statements, and that it is kept as it is the next
time. -/
theorem repairRequirement_some {raw out : Json} {index : Nat} {frrId : Text} {notes : List Note}
    (h : repairRequirement raw index = (some (frrId, out), notes)) :
    Rendered frrId out ∧ Json.written (raw.get? "frrID".toList) = some frrId ∧
      ∀ st, Says raw "frrImplementation".toList st → Says out "frrImplementation".toList st := by
  unfold repairRequirement at h
  cases hdict : raw.isDict with
  | false =>
    rw [hdict] at h
    cases h
  | true =>
    rw [hdict, if_neg (by decide)] at h
    cases hid : Json.written (raw.get? "frrID".toList) with
    | none =>
      rw [hid] at h
      cases h
    | some id =>
      rw [hid] at h
      dsimp only at h
      split at h
      · rename_i items hitems
        by_cases hnone : items.filter isStatement = []
        · rw [if_pos hnone] at h
          cases h
        · rw [if_neg hnone] at h
          obtain ⟨rfl, rfl⟩ := Prod.mk.inj (Option.some.inj (congrArg Prod.fst h))
          obtain ⟨hrendered, htold⟩ := rendered_repairEntry (by simpa using hdict)
            (written_some hid) ((Json.has_set raw _ _).set (by decide)) (Json.has_set _ _ _) hnone
            fun item hitem => (List.mem_filter.mp hitem).2
          refine ⟨hrendered, rfl, fun st hsays => ?_⟩
          obtain ⟨items', hget, hmem, hne⟩ := hsays
          obtain rfl := Json.arr.inj (Option.some.inj (hitems.symm.trans hget))
          exact ⟨_, htold, List.mem_filter.mpr ⟨hmem, isStatement_of_ne hne⟩, hne⟩
      · cases h

/-- **An entry that is not kept** is named, by its id or by its place. -/
theorem repairRequirement_none {raw : Json} {index : Nat} {notes : List Note}
    (h : repairRequirement raw index = (none, notes)) :
    ∃ note ∈ notes, note.1 = requirementLocator index ∨
      Json.written (raw.get? "frrID".toList) = some note.1 := by
  unfold repairRequirement at h
  cases hdict : raw.isDict with
  | false =>
    rw [hdict] at h
    obtain rfl := congrArg Prod.snd h
    exact ⟨_, List.mem_singleton_self _, .inl rfl⟩
  | true =>
    rw [hdict, if_neg (by decide)] at h
    cases hid : Json.written (raw.get? "frrID".toList) with
    | none =>
      rw [hid] at h
      obtain rfl := congrArg Prod.snd h
      exact ⟨_, List.mem_singleton_self _, .inl rfl⟩
    | some id =>
      rw [hid] at h
      dsimp only at h
      split at h
      · split at h
        · obtain rfl := congrArg Prod.snd h
          exact ⟨_, List.mem_cons_self, .inr rfl⟩
        · cases h
      · obtain rfl := congrArg Prod.snd h
        exact ⟨_, List.mem_singleton_self _, .inr rfl⟩

/-! ## The loop -/

theorem add_rendered (out : Requirements) (item : Json × Nat) : (out.add item).rendered =
    out.rendered ++ (repairRequirement item.1 item.2).1.toList := by
  unfold Requirements.add
  obtain ⟨kept, notes⟩ := repairRequirement item.1 item.2
  cases kept <;> simp

theorem add_notes (out : Requirements) (item : Json × Nat) {note : Note}
    (h : note ∈ out.notes ∨ note ∈ (repairRequirement item.1 item.2).2) :
    note ∈ (out.add item).notes := by
  unfold Requirements.add
  generalize repairRequirement item.1 item.2 = repaired at h
  obtain ⟨kept, notes⟩ := repaired
  cases kept with
  | none => exact List.mem_append.mpr h
  | some kept => exact List.mem_append_left _ (List.mem_append.mpr h)

theorem foldl_notes (items : List (Json × Nat)) (out : Requirements) {note : Note}
    (h : note ∈ out.notes ∨ ∃ item ∈ items, note ∈ (repairRequirement item.1 item.2).2) :
    note ∈ (items.foldl Requirements.add out).notes := by
  induction items generalizing out with
  | nil =>
    obtain h | ⟨item, hitem, -⟩ := h
    · exact h
    · cases hitem
  | cons first items ih =>
    rw [List.foldl_cons]
    refine ih _ ?_
    obtain h | ⟨item, hitem, h⟩ := h
    · exact .inl (add_notes out first (.inl h))
    · obtain rfl | htail := List.mem_cons.mp hitem
      · exact .inl (add_notes out item (.inr h))
      · exact .inr ⟨item, htail, h⟩

theorem mem_rendered {authored : List Json} {kept : Text × Json} :
    kept ∈ (authored.zipIdx.foldl Requirements.add {}).rendered ↔
      ∃ item ∈ authored.zipIdx, (repairRequirement item.1 item.2).1 = some kept := by
  rw [foldl_flatMap Requirements.rendered add_rendered, List.nil_append, List.mem_flatMap]
  exact exists_congr fun item => and_congr_right fun _ => Option.mem_toList

theorem mem_sortRendered {rendered : List (Text × Json)} {kept : Text × Json} :
    kept ∈ sortRendered rendered ↔ kept ∈ rendered :=
  (List.perm_insertionSort _ rendered).mem_iff

/-- **Every statement is rendered, or its entry is named.** -/
theorem requirement_kept {authored : List Json} {raw : Json} {index : Nat}
    (hraw : (raw, index) ∈ authored.zipIdx) {st : Text}
    (hst : Says raw "frrImplementation".toList st) :
    (∃ out ∈ (mergeRequirements authored).1, ∃ frrId,
      Json.written (raw.get? "frrID".toList) = some frrId ∧
      out.get? "frrID".toList = some (.str frrId) ∧ Says out "frrImplementation".toList st) ∨
    ∃ note ∈ (mergeRequirements authored).2, note.1 = requirementLocator index ∨
      Json.written (raw.get? "frrID".toList) = some note.1 := by
  cases hkept : (repairRequirement raw index).1 with
  | none =>
    obtain ⟨note, hnote, hname⟩ := repairRequirement_none (Prod.ext hkept rfl)
    exact .inr ⟨note, foldl_notes _ _ (.inr ⟨(raw, index), hraw, hnote⟩), hname⟩
  | some kept =>
    obtain ⟨frrId, out⟩ := kept
    obtain ⟨hrendered, hid, hsays⟩ := repairRequirement_some (Prod.ext hkept rfl)
    refine .inl ⟨out, List.mem_map.mpr ⟨(frrId, out), mem_sortRendered.mpr ?_, rfl⟩, frrId, hid,
      hrendered.keyed, hsays st hst⟩
    exact mem_rendered.mpr ⟨(raw, index), hraw, hkept⟩

/-! ## The fixed point -/

theorem rendered_again {kept : List (Text × Json)} (h : ∀ k ∈ kept, Rendered k.1 k.2) (n : Nat)
    (out : Requirements) :
    (((kept.map Prod.snd).zipIdx n).foldl Requirements.add out).rendered = out.rendered ++ kept := by
  induction kept generalizing n out with
  | nil => exact (List.append_nil _).symm
  | cons first kept ih =>
    rw [List.map_cons, List.zipIdx_cons, List.foldl_cons,
      ih (fun k hk => h k (List.mem_cons_of_mem first hk)), add_rendered,
      (h first List.mem_cons_self).again n]
    simp

/-- **Merging again** gives the same entries. -/
theorem mergeRequirements_again (authored : List Json) :
    (mergeRequirements (mergeRequirements authored).1).1 = (mergeRequirements authored).1 := by
  let kept := sortRendered (authored.zipIdx.foldl Requirements.add {}).rendered
  have hall : ∀ k ∈ kept, Rendered k.1 k.2 := by
    intro k hk
    obtain ⟨item, -, hitem⟩ := mem_rendered.mp (mem_sortRendered.mp hk)
    exact (repairRequirement_some (Prod.ext hitem rfl)).1
  show (sortRendered ((kept.map Prod.snd).zipIdx.foldl Requirements.add {}).rendered).map Prod.snd =
    kept.map Prod.snd
  rw [rendered_again hall 0 {}, List.nil_append]
  exact congrArg _ (List.pairwise_insertionSort _ _).insertionSort_eq

end Concord.Cr26.Sdr
