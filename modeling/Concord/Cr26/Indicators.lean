import Concord.Cr26.Sdr
import Concord.Base.Raises

/-!
# The indicators of a decision record

`merge_indicators` does not raise on the facts that are derived for it
(`mergeIndicators_ok`), reads the last entry of an id that has a narrative (`readsLast`), and
merging its own result gives it back (`mergeIndicators_again`).
-/

namespace Concord.Cr26.Sdr

open Concord.Python Concord.Base

/-! ## An indicator's entry -/

theorem requiredArrayFields_nodup : requiredArrayFields.Nodup := by decide

def factOf (facts : Json) (field : Text) : Json := (facts.get? field).getD .null

theorem refreshFields_ok {id : Text} {facts : Json} {fields : List Text}
    (h : ∀ field ∈ fields, ∃ items, facts.get? field = some (.arr items)) (out : Json) :
    fields.foldlM (refreshField id facts) out =
      .ok (fields.foldl (fun out field => out.set field (factOf facts field)) out) := by
  induction fields generalizing out with
  | nil => rfl
  | cons field fields ih =>
    obtain ⟨items, hitems⟩ := h field List.mem_cons_self
    have hfirst : refreshField id facts out field = .ok (out.set field (factOf facts field)) := by
      simp only [refreshField, factOf, hitems, Option.getD_some]
    rw [List.foldlM_cons, hfirst]
    exact ih (fun field' hfield' => h field' (List.mem_cons_of_mem field hfield')) _

/-- The two fields that every merged entry is given first. -/
def stamp (id : Text) (statements entry : Json) : Json :=
  (entry.set "ksiId".toList (.str id)).set "ksiImplementation".toList statements

def statusKey : Text := "ksiImplementationStatus".toList

def refreshed (facts out : Json) : Json :=
  refreshStatus facts
    (requiredArrayFields.foldl (fun out field => out.set field (factOf facts field)) out)

def carried (out : Json) : Json := carryStatus (requiredArrayFields.foldl carryArray out)

theorem mergedEntry_known {derived : FactMap} {id : Text} {facts : Json}
    (h : derived.facts.get? id = some facts) (entry statements : Json) :
    mergedEntry derived.facts id entry statements =
      .ok (refreshed facts (stamp id statements entry)) := by
  unfold mergedEntry
  simp only [h, refreshFields_ok (derived.complete id facts h)]
  rfl

theorem mergedEntry_unknown {derived : FactMap} {id : Text} (h : derived.facts.get? id = none)
    (entry statements : Json) :
    mergedEntry derived.facts id entry statements = .ok (carried (stamp id statements entry)) := by
  unfold mergedEntry
  simp only [h]
  rfl

theorem stamp_eq {id : Text} {statements out : Json} (hid : out.Has "ksiId".toList (.str id))
    (hst : out.Has "ksiImplementation".toList statements) : stamp id statements out = out := by
  show (out.set "ksiId".toList (.str id)).set "ksiImplementation".toList statements = out
  rw [show out.set "ksiId".toList (.str id) = out from hid]
  exact hst

section Status

variable {d : Json} {key : Text} {value : Json}

theorem refreshStatus_form (facts : Json) : (∀ out, refreshStatus facts out = out.pop statusKey) ∨
    ∃ status, ∀ out, refreshStatus facts out = out.set statusKey status := by
  unfold refreshStatus
  cases facts.get? "ksiImplementationStatus".toList with
  | none => exact .inl fun out => rfl
  | some status =>
    cases status with
    | null => exact .inl fun out => rfl
    | bool b => exact .inr ⟨.bool b, fun out => rfl⟩
    | num n => exact .inr ⟨.num n, fun out => rfl⟩
    | str s => exact .inr ⟨.str s, fun out => rfl⟩
    | arr items => exact .inr ⟨.arr items, fun out => rfl⟩
    | obj fields => exact .inr ⟨.obj fields, fun out => rfl⟩

theorem refreshStatus_has (facts : Json) (h : d.Has key value) (hkey : key ≠ statusKey) :
    (refreshStatus facts d).Has key value := by
  obtain hpop | ⟨status, hset⟩ := refreshStatus_form facts
  · rw [hpop]
    exact h.pop hkey
  · rw [hset]
    exact h.set hkey

theorem refreshStatus_again (facts out : Json) :
    refreshStatus facts (refreshStatus facts out) = refreshStatus facts out := by
  obtain hpop | ⟨status, hset⟩ := refreshStatus_form facts
  · rw [hpop, hpop]
    exact Json.pop_pop_self out _
  · rw [hset, hset]
    exact Json.has_set out _ _

theorem carryStatus_has (h : d.Has key value) (hkey : key ≠ statusKey) :
    (carryStatus d).Has key value := by
  unfold carryStatus
  split
  · exact h
  · exact h.pop hkey

theorem carryStatus_again (out : Json) : carryStatus (carryStatus out) = carryStatus out := by
  by_cases h : isStatus (out.get? "ksiImplementationStatus".toList) = true
  · have hout : carryStatus out = out := if_pos h
    rw [hout, hout]
  · have hout : carryStatus out = out.pop "ksiImplementationStatus".toList := if_neg h
    have hget : (out.pop "ksiImplementationStatus".toList).get?
        "ksiImplementationStatus".toList = none := by
      rw [Json.get?_pop, if_pos rfl]
    rw [hout, carryStatus, hget, if_neg (by decide), Json.pop_pop_self]

end Status

section Refreshed

variable {d : Json} {key : Text} {value : Json}

theorem ne_of_mem_fields {field : Text} (hfield : field ∈ requiredArrayFields)
    (hkey : key ∉ requiredArrayFields) : key ≠ field := fun heq => hkey (heq ▸ hfield)

theorem statusKey_notMem : statusKey ∉ requiredArrayFields := by decide

theorem refreshed_has (facts : Json) (h : d.Has key value) (hkey : key ∉ requiredArrayFields)
    (hstatus : key ≠ statusKey) : (refreshed facts d).Has key value :=
  refreshStatus_has facts
    (List.foldlRecOn (motive := fun d : Json => d.Has key value) _ _ h
      fun _ hd _ hfield => hd.set (ne_of_mem_fields hfield hkey)) hstatus

theorem refreshed_again (facts out : Json) :
    refreshed facts (refreshed facts out) = refreshed facts out := by
  have hfields : ∀ field ∈ requiredArrayFields,
      (refreshed facts out).set field (factOf facts field) = refreshed facts out := by
    intro field hfield
    have hhas := Json.foldl_each (f := fun out field => out.set field (factOf facts field))
      (P := fun field d => d.Has field (factOf facts field)) (fun d key => Json.has_set d key _)
      (fun d key other hne h => h.set hne) requiredArrayFields_nodup out field hfield
    exact refreshStatus_has facts hhas fun heq => statusKey_notMem (heq ▸ hfield)
  have hfold : requiredArrayFields.foldl (fun out field => out.set field (factOf facts field))
      (refreshed facts out) = refreshed facts out := Json.foldl_fixed hfields
  show refreshStatus facts (requiredArrayFields.foldl _ (refreshed facts out)) = _
  rw [hfold]
  exact refreshStatus_again facts _

theorem carried_has (h : d.Has key value) (hkey : key ∉ requiredArrayFields)
    (hstatus : key ≠ statusKey) : (carried d).Has key value :=
  carryStatus_has
    (List.foldlRecOn (motive := fun d : Json => d.Has key value) _ _ h
      fun _ hd _ hfield => hd.set (ne_of_mem_fields hfield hkey)) hstatus

theorem isDict_carried (out : Json) : (carried out).isDict = out.isDict := by
  have hfold : (requiredArrayFields.foldl carryArray out).isDict = out.isDict :=
    List.foldlRecOn (motive := fun d => d.isDict = out.isDict) _ _ rfl
      fun d hd key _ => (Json.isDict_set d key _).trans hd
  unfold carried carryStatus
  split
  · exact hfold
  · exact (Json.isDict_pop _ _).trans hfold

theorem isDict_refreshed (facts out : Json) : (refreshed facts out).isDict = out.isDict := by
  have hfold : (requiredArrayFields.foldl (fun out field => out.set field (factOf facts field))
      out).isDict = out.isDict :=
    List.foldlRecOn (motive := fun d => d.isDict = out.isDict) _ _ rfl
      fun d hd key _ => (Json.isDict_set d key _).trans hd
  unfold refreshed
  obtain hpop | ⟨status, hset⟩ := refreshStatus_form facts
  · rw [hpop, Json.isDict_pop, hfold]
  · rw [hset, Json.isDict_set, hfold]

theorem carried_again {out : Json} (hout : out.isDict = true) :
    carried (carried out) = carried out := by
  have hfields : ∀ field ∈ requiredArrayFields, carryArray (carried out) field = carried out := by
    intro field hfield
    obtain ⟨items, hitems⟩ := Json.foldl_each (f := carryArray)
      (P := fun field d => ∃ items, d.Has field (.arr items))
      (fun d key => ⟨_, Json.has_set d key _⟩)
      (fun d key other hne ⟨items, h⟩ => ⟨items, h.set hne⟩) requiredArrayFields_nodup out field
      hfield
    have hhas : (carried out).Has field (.arr items) :=
      carryStatus_has hitems fun heq => statusKey_notMem (heq ▸ hfield)
    have hget := hhas.get? ((isDict_carried out).trans hout)
    rw [carryArray, hget]
    exact hhas
  have hfold : requiredArrayFields.foldl carryArray (carried out) = carried out :=
    Json.foldl_fixed hfields
  show carryStatus (requiredArrayFields.foldl carryArray (carried out)) = _
  rw [hfold]
  exact carryStatus_again _

end Refreshed

/-- What a merged entry holds, and that merging it again changes nothing. -/
structure Merged (derived : FactMap) (id : Text) (statements out : Json) : Prop where
  dict : out.isDict = true
  keyed : out.Has "ksiId".toList (.str id)
  narrated : out.Has "ksiImplementation".toList statements
  again : mergedEntry derived.facts id out statements = .ok out

/-- **A merged entry**, from any stored one. -/
theorem mergedEntry_ok (derived : FactMap) (id : Text) {entry : Json} (statements : Json)
    (hentry : entry.isDict = true) :
    ∃ out, mergedEntry derived.facts id entry statements = .ok out ∧
      Merged derived id statements out := by
  have hdict : (stamp id statements entry).isDict = true := by
    simpa [stamp] using hentry
  have hid : (stamp id statements entry).Has "ksiId".toList (.str id) :=
    (Json.has_set _ _ _).set (by decide)
  have hst : (stamp id statements entry).Has "ksiImplementation".toList statements :=
    Json.has_set _ _ _
  have hidKey : "ksiId".toList ∉ requiredArrayFields := by decide
  have hstKey : "ksiImplementation".toList ∉ requiredArrayFields := by decide
  cases hfacts : derived.facts.get? id with
  | some facts =>
    have hid' := refreshed_has facts hid hidKey (by decide)
    have hst' := refreshed_has facts hst hstKey (by decide)
    refine ⟨_, mergedEntry_known hfacts entry statements,
      (isDict_refreshed facts _).trans hdict, hid', hst', ?_⟩
    rw [mergedEntry_known hfacts, stamp_eq hid' hst', refreshed_again]
  | none =>
    have hid' := carried_has hid hidKey (by decide)
    have hst' := carried_has hst hstKey (by decide)
    refine ⟨_, mergedEntry_unknown hfacts entry statements,
      (isDict_carried _).trans hdict, hid', hst', ?_⟩
    rw [mergedEntry_unknown hfacts, stamp_eq hid' hst', carried_again hdict]

/-! ## Which entry is read -/

/-- The last entry for an id that has a narrative. -/
def lastNarrative (entries : List Json) (id : Text) : Option Json :=
  (entries.filter fun e => ksiId e = some id ∧ hasNarrative (narrative e) = true).getLast?

theorem ksiId_eq_some {entry : Json} {id : Text} :
    ksiId entry = some id ↔ entry.get? "ksiId".toList = some (.str id) ∧ id ≠ [] := by
  unfold ksiId
  cases h : entry.get? "ksiId".toList with
  | none => simp
  | some value =>
    cases value with
    | str s =>
      by_cases hs : s = []
      · simp only [hs, if_true, Option.some.injEq, Json.str.injEq]
        constructor
        · exact fun h => nomatch h
        · rintro ⟨rfl, hne⟩
          exact absurd rfl hne
      · simp only [hs, if_false, Option.some.injEq, Json.str.injEq]
        constructor
        · rintro rfl
          exact ⟨rfl, hs⟩
        · exact And.left
    | _ => simp

/-- The dict by id, after a list of entries. -/
structure ReadsLast (entries : List Json) (byId : Dict Text Json) : Prop where
  told : ∀ id e, lastNarrative entries id = some e → byId.get? id = some e
  untold : ∀ id e, lastNarrative entries id = none → byId.get? id = some e →
    hasNarrative (narrative e) = false
  from_entries : ∀ id e, byId.get? id = some e → e ∈ entries ∧ ksiId e = some id

theorem lastNarrative_concat (entries : List Json) (e : Json) (id : Text) :
    lastNarrative (entries ++ [e]) id =
      if ksiId e = some id ∧ hasNarrative (narrative e) = true then some e
      else lastNarrative entries id := by
  unfold lastNarrative
  rw [List.filter_append, List.filter_singleton]
  by_cases h : ksiId e = some id ∧ hasNarrative (narrative e) = true
  · simp [h]
  · simp [h]

theorem readIndicator_cases (byId : Dict Text Json) (e : Json) :
    (readIndicator byId e = byId ∧
      (ksiId e = none ∨ hasNarrative (narrative e) = false)) ∨
    ∃ id, ksiId e = some id ∧ readIndicator byId e = byId.set id e ∧
      (hasNarrative (narrative e) = true ∨
        ∀ prior, byId.get? id = some prior → hasNarrative (narrative prior) = false) := by
  unfold readIndicator
  cases hid : ksiId e with
  | none => exact .inl ⟨rfl, .inl rfl⟩
  | some id =>
    dsimp only
    by_cases hn : hasNarrative (narrative e) = true
    · right
      refine ⟨id, rfl, ?_, .inl hn⟩
      simp [hn]
    · have hn : hasNarrative (narrative e) = false := by simpa using hn
      cases hprior : byId.get? id with
      | none =>
        right
        refine ⟨id, rfl, ?_, .inr fun prior h => ?_⟩
        · simp
        · cases hprior.symm.trans h
      | some prior =>
        cases hp : hasNarrative (narrative prior) with
        | true =>
          left
          refine ⟨?_, .inr hn⟩
          simp [hn, hp]
        | false =>
          right
          refine ⟨id, rfl, ?_, .inr fun q h => ?_⟩
          · simp [hp]
          · obtain rfl := Option.some.inj (hprior.symm.trans h)
            exact hp

theorem lastNarrative_concat_of_not {e : Json} {id : Text}
    (h : ¬(ksiId e = some id ∧ hasNarrative (narrative e) = true)) (entries : List Json) :
    lastNarrative (entries ++ [e]) id = lastNarrative entries id := by
  rw [lastNarrative_concat, if_neg h]

theorem ReadsLast.skip {entries : List Json} {byId : Dict Text Json} (h : ReadsLast entries byId)
    {e : Json} (hno : ksiId e = none ∨ hasNarrative (narrative e) = false) :
    ReadsLast (entries ++ [e]) byId := by
  have hlast : ∀ id, lastNarrative (entries ++ [e]) id = lastNarrative entries id := by
    intro id
    refine lastNarrative_concat_of_not ?_ entries
    rintro ⟨hid, hn⟩
    obtain hnone | hfalse := hno
    · rw [hnone] at hid
      cases hid
    · rw [hfalse] at hn
      cases hn
  constructor
  · intro id x hx
    rw [hlast] at hx
    exact h.told id x hx
  · intro id x hx hget
    rw [hlast] at hx
    exact h.untold id x hx hget
  · intro id x hget
    obtain ⟨hmem, hid⟩ := h.from_entries id x hget
    exact ⟨List.mem_append_left _ hmem, hid⟩

theorem ReadsLast.set {entries : List Json} {byId : Dict Text Json} (h : ReadsLast entries byId)
    {e : Json} {key : Text} (hid : ksiId e = some key)
    (hover : hasNarrative (narrative e) = true ∨
      ∀ prior, byId.get? key = some prior → hasNarrative (narrative prior) = false) :
    ReadsLast (entries ++ [e]) (byId.set key e) := by
  have hother : ∀ id, key ≠ id →
      lastNarrative (entries ++ [e]) id = lastNarrative entries id := by
    intro id hne
    exact lastNarrative_concat_of_not
      (fun hc => hne (Option.some.inj (hid.symm.trans hc.1))) entries
  constructor
  · intro id x hx
    rw [Dict.get?_set]
    by_cases hkey : key = id
    · subst hkey
      rw [if_pos rfl]
      by_cases hn : hasNarrative (narrative e) = true
      · rw [lastNarrative_concat, if_pos ⟨hid, hn⟩] at hx
        exact hx
      · -- what was told before has a narrative, and this entry would hide it
        rw [lastNarrative_concat_of_not fun hc => hn hc.2] at hx
        have hmem := List.mem_filter.mp (List.mem_of_getLast? hx)
        have htold := (of_decide_eq_true hmem.2).2
        rw [(hover.resolve_left hn) x (h.told key x hx)] at htold
        cases htold
    · rw [if_neg hkey]
      rw [hother id hkey] at hx
      exact h.told id x hx
  · intro id x hx hget
    rw [Dict.get?_set] at hget
    by_cases hkey : key = id
    · subst hkey
      rw [if_pos rfl] at hget
      obtain rfl := Option.some.inj hget
      by_contra hn
      rw [lastNarrative_concat, if_pos ⟨hid, by simpa using hn⟩] at hx
      cases hx
    · rw [if_neg hkey] at hget
      rw [hother id hkey] at hx
      exact h.untold id x hx hget
  · intro id x hget
    rw [Dict.get?_set] at hget
    by_cases hkey : key = id
    · subst hkey
      rw [if_pos rfl] at hget
      obtain rfl := Option.some.inj hget
      exact ⟨List.mem_append_right _ (List.mem_singleton_self _), hid⟩
    · rw [if_neg hkey] at hget
      obtain ⟨hmem, hid'⟩ := h.from_entries id x hget
      exact ⟨List.mem_append_left _ hmem, hid'⟩

theorem readsLast (entries : List Json) :
    ReadsLast entries (entries.foldl readIndicator .empty) := by
  induction entries using List.reverseRecOn with
  | nil => exact ⟨fun _ _ h => (nomatch h), fun _ _ _ h => (nomatch h), fun _ _ h => nomatch h⟩
  | append_singleton entries e ih =>
    rw [List.foldl_append]
    show ReadsLast _ (readIndicator (entries.foldl readIndicator .empty) e)
    obtain ⟨hsame, hno⟩ | ⟨key, hid, hset, hover⟩ :=
      readIndicator_cases (entries.foldl readIndicator .empty) e
    · rw [hsame]
      exact ih.skip hno
    · rw [hset]
      exact ih.set hid hover

theorem isDict_of_ksiId {e : Json} {id : Text} (h : ksiId e = some id) : e.isDict = true :=
  Json.isDict_of_get? (ksiId_eq_some.mp h).1

/-! ## The merge of the indicators -/

def entryOf (derived : FactMap) (byId : Dict Text Json) (id : Text) : Option Json :=
  match mergeIndicator byId derived.facts id with
  | .ok out => out
  | .error _ => none

section Indicators

variable {derived : FactMap} {entries : List Json} {byId : Dict Text Json}

/-- **One turn of the second loop**: it does not raise, and it merges an entry exactly where the
one that was read has a narrative. -/
theorem mergeIndicator_cases (derived : FactMap) (h : ReadsLast entries byId) (id : Text) :
    (∃ e statements out, byId.get? id = some e ∧ narrative e = some statements ∧
        hasNarrative (some statements) = true ∧
        mergeIndicator byId derived.facts id = .ok (some out) ∧
        Merged derived id statements out) ∨
      (mergeIndicator byId derived.facts id = .ok none ∧
        ∀ e, byId.get? id = some e → hasNarrative (narrative e) = false) := by
  unfold mergeIndicator
  cases he : byId.get? id with
  | none => exact .inr ⟨rfl, fun e h => nomatch h⟩
  | some e =>
    dsimp only
    cases hst : narrative e with
    | none =>
      refine .inr ⟨rfl, fun x hx => ?_⟩
      rw [← Option.some.inj hx, hst]
      rfl
    | some statements =>
      dsimp only
      by_cases hn : hasNarrative (some statements) = true
      · obtain ⟨out, hout, hmerged⟩ := mergedEntry_ok derived id statements
          (isDict_of_ksiId (h.from_entries id e he).2)
        refine .inl ⟨e, statements, out, rfl, hst, hn, ?_, hmerged⟩
        rw [if_pos hn, hout]
        rfl
      · refine .inr ⟨if_neg hn, fun x hx => ?_⟩
        rw [← Option.some.inj hx, hst]
        simpa using hn

theorem mergeIndicator_ok (derived : FactMap) (h : ReadsLast entries byId) (id : Text) :
    mergeIndicator byId derived.facts id = .ok (entryOf derived byId id) := by
  unfold entryOf
  obtain ⟨_, _, out, -, -, -, hout, -⟩ | ⟨hout, -⟩ := mergeIndicator_cases derived h id <;>
    rw [hout]

theorem entryOf_cases (derived : FactMap) (h : ReadsLast entries byId) (id : Text) :
    (∃ e statements out, byId.get? id = some e ∧ narrative e = some statements ∧
        hasNarrative (some statements) = true ∧ entryOf derived byId id = some out ∧
        Merged derived id statements out) ∨
      (entryOf derived byId id = none ∧
        ∀ e, byId.get? id = some e → hasNarrative (narrative e) = false) := by
  have hok := mergeIndicator_ok derived h id
  obtain ⟨e, statements, out, he, hst, hn, hout, hmerged⟩ | ⟨hout, hno⟩ :=
    mergeIndicator_cases derived h id
  · exact .inl ⟨e, statements, out, he, hst, hn, Except.ok.inj (hok.symm.trans hout), hmerged⟩
  · exact .inr ⟨Except.ok.inj (hok.symm.trans hout), hno⟩

/-- **The merge does not raise**, and this is its result. -/
theorem mergeIndicators_ok (derived : FactMap) (authored : List Json) :
    let byId := authored.foldl readIndicator .empty
    mergeIndicators authored derived.facts =
      .ok ((indicatorIds byId derived.facts).filterMap (entryOf derived byId),
        (indicatorIds byId derived.facts).filter fun id => (entryOf derived byId id).isNone) := by
  intro byId
  have hturns : (indicatorIds byId derived.facts).mapM (fun id =>
        (mergeIndicator byId derived.facts id).map fun out => (id, out)) =
      .ok ((indicatorIds byId derived.facts).map fun id => (id, entryOf derived byId id)) :=
    mapM_ok fun id _ => by
      rw [mergeIndicator_ok derived (readsLast authored) id]
      rfl
  unfold mergeIndicators
  dsimp only
  rw [hturns]
  show Except.ok _ = Except.ok _
  rw [List.filterMap_map, List.filterMap_map, ← List.filterMap_eq_filter]
  rfl

theorem mem_indicatorIds {id : Text} : id ∈ indicatorIds byId derived.facts ↔
    (byId.get? id).isSome = true ∨ (derived.facts.get? id).isSome = true := by
  rw [indicatorIds, (List.perm_insertionSort _ _).mem_iff, List.mem_dedup, List.mem_append]
  exact or_congr Dict.mem_keys_iff Dict.mem_keys_iff

theorem pairwise_indicatorIds (byId facts : Dict Text Json) :
    (indicatorIds byId facts).Pairwise Json.keyLe :=
  List.pairwise_insertionSort _ _

theorem nodup_indicatorIds (byId facts : Dict Text Json) : (indicatorIds byId facts).Nodup :=
  (List.perm_insertionSort _ _).nodup_iff.mpr (List.nodup_dedup _)

theorem Merged.ksiId {id : Text} {statements out : Json} (h : Merged derived id statements out)
    (hid : id ≠ []) : ksiId out = some id :=
  ksiId_eq_some.mpr ⟨h.keyed.get? h.dict, hid⟩

theorem Merged.narrative {id : Text} {statements out : Json}
    (h : Merged derived id statements out) : narrative out = some statements :=
  h.narrated.get? h.dict

theorem entryOf_of_mem (derived : FactMap) (h : ReadsLast entries byId) {x : Json} {id : Text}
    (hx : x ∈ (indicatorIds byId derived.facts).filterMap (entryOf derived byId))
    (hid : Sdr.ksiId x = some id) : entryOf derived byId id = some x := by
  obtain ⟨key, -, hkey⟩ := List.mem_filterMap.mp hx
  obtain ⟨e, statements, out, he, -, -, hout, hmerged⟩ | ⟨hnone, -⟩ := entryOf_cases derived h key
  · obtain rfl := Option.some.inj (hout.symm.trans hkey)
    have hne := (ksiId_eq_some.mp (h.from_entries key e he).2).2
    obtain rfl := Option.some.inj ((hmerged.ksiId hne).symm.trans hid)
    exact hkey
  · rw [hnone] at hkey
    cases hkey

theorem lastNarrative_merged (derived : FactMap) (h : ReadsLast entries byId) {out : Json}
    {id : Text} (hin : out ∈ (indicatorIds byId derived.facts).filterMap (entryOf derived byId))
    (hid : Sdr.ksiId out = some id) (hn : hasNarrative (Sdr.narrative out) = true) :
    lastNarrative ((indicatorIds byId derived.facts).filterMap (entryOf derived byId)) id =
      some out := by
  unfold lastNarrative
  cases hl : (List.filter (fun e => decide (Sdr.ksiId e = some id ∧
      hasNarrative (Sdr.narrative e) = true))
      ((indicatorIds byId derived.facts).filterMap (entryOf derived byId))).getLast? with
  | none =>
    rw [List.getLast?_eq_none_iff, List.filter_eq_nil_iff] at hl
    exact absurd (decide_eq_true ⟨hid, hn⟩) (hl out hin)
  | some x =>
    have hx := List.mem_filter.mp (List.mem_of_getLast? hl)
    have hsame := entryOf_of_mem derived h hx.1 (of_decide_eq_true hx.2).1
    exact hsame.symm.trans (entryOf_of_mem derived h hin hid)

theorem entryOf_again (derived : FactMap) (h : ReadsLast entries byId) {byId' : Dict Text Json}
    (h' : ReadsLast ((indicatorIds byId derived.facts).filterMap (entryOf derived byId)) byId')
    (id : Text) : entryOf derived byId' id = entryOf derived byId id ∧
      (byId'.get? id).isSome = (entryOf derived byId id).isSome := by
  obtain ⟨e, statements, out, he, -, hn, hout, hmerged⟩ | ⟨hnone, -⟩ := entryOf_cases derived h id
  · have hne := (ksiId_eq_some.mp (h.from_entries id e he).2).2
    have hin : out ∈ (indicatorIds byId derived.facts).filterMap (entryOf derived byId) :=
      List.mem_filterMap.mpr ⟨id, mem_indicatorIds.mpr (.inl (by rw [he]; rfl)), hout⟩
    have hnarrative : hasNarrative (Sdr.narrative out) = true := by
      rw [hmerged.narrative]
      exact hn
    have hget := h'.told id out
      (lastNarrative_merged derived h hin (hmerged.ksiId hne) hnarrative)
    have hagain : mergeIndicator byId' derived.facts id = .ok (some out) := by
      unfold mergeIndicator
      rw [hget]
      dsimp only
      rw [hmerged.narrative]
      dsimp only
      rw [if_pos hn, hmerged.again]
      rfl
    refine ⟨?_, by rw [hget, hout]⟩
    rw [entryOf, hagain, hout]
  · have hget : byId'.get? id = none := by
      cases hx : byId'.get? id with
      | none => rfl
      | some x =>
        obtain ⟨hin, hksi⟩ := h'.from_entries id x hx
        rw [entryOf_of_mem derived h hin hksi] at hnone
        cases hnone
    refine ⟨?_, by rw [hget, hnone]⟩
    rw [hnone, entryOf, mergeIndicator, hget]

/-- **Merging again** gives the same entries. -/
theorem mergeIndicators_again (derived : FactMap) {authored merged : List Json}
    {omitted : List Text} (h : mergeIndicators authored derived.facts = .ok (merged, omitted)) :
    ∃ omitted', mergeIndicators merged derived.facts = .ok (merged, omitted') := by
  have hread := readsLast authored
  have hfirst := (mergeIndicators_ok derived authored).symm.trans h
  generalize authored.foldl readIndicator .empty = byId at hread hfirst
  have hmerged := (congrArg Prod.fst (Except.ok.inj hfirst)).symm
  dsimp only at hmerged
  have hread' := readsLast merged
  have hagain := mergeIndicators_ok derived merged
  generalize merged.foldl readIndicator .empty = byId' at hread' hagain
  subst hmerged
  have hsame : entryOf derived byId' = entryOf derived byId :=
    funext fun id => (entryOf_again derived hread hread' id).1
  refine ⟨_, hagain.trans (congrArg Except.ok (Prod.ext ?_ rfl))⟩
  have hids : indicatorIds byId' derived.facts = (indicatorIds byId derived.facts).filter
      fun id => (entryOf derived byId id).isSome || (derived.facts.get? id).isSome := by
    refine Json.eq_of_sorted (pairwise_indicatorIds _ _)
      ((pairwise_indicatorIds _ _).filter _) (nodup_indicatorIds _ _)
      ((nodup_indicatorIds _ _).filter _) fun id => ?_
    rw [mem_indicatorIds, List.mem_filter, mem_indicatorIds,
      (entryOf_again derived hread hread' id).2, Bool.or_eq_true]
    constructor
    · rintro (hsome | hfact)
      · refine ⟨.inl ?_, .inl hsome⟩
        obtain ⟨e, _, _, he, -⟩ | ⟨hnone, -⟩ := entryOf_cases derived hread id
        · rw [he]
          rfl
        · rw [hnone] at hsome
          cases hsome
      · exact ⟨.inr hfact, .inr hfact⟩
    · exact And.right
  show (indicatorIds byId' derived.facts).filterMap (entryOf derived byId') = _
  rw [hsame, hids, List.filterMap_filter]
  refine List.filterMap_congr fun id _ => ?_
  cases hid : entryOf derived byId id with
  | none => simp
  | some out => simp

end Indicators

end Concord.Cr26.Sdr
