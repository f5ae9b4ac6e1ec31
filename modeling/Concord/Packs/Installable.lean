import Concord.Packs.Service

/-!
# Which accepted manifests install

`validate_manifest` says nothing of the elements of four lists but the controls, and nothing of
what the columns take. `Installable` is what it leaves unsaid; an accepted manifest is
materialized and its tests run just where it is installable (`pack_evaluable_iff`).
-/

namespace Concord.Packs.Service

open Concord.Python Concord.Base Concord.Packs.Catalog

/-! ## Texts without a NUL -/

theorem nulFree_intText (n : Int) : nulFree (intText n) = true := by
  cases n with
  | ofNat n => exact nulFree_natText n
  | negSucc n => simp [intText, nulFree_natText]

theorem strip_subset (s : Text) : strip s ⊆ s := by
  intro c hc
  have hleft : ∀ t : Text, lstrip t ⊆ t := fun t => (List.dropWhile_suffix isSpace).subset
  exact hleft s (List.mem_reverse.mp (hleft _ (List.mem_reverse.mp hc)))

theorem splitOnce_nulFree {op s left right : Text} (h : splitOnce op s = some (left, right))
    (hs : nulFree s = true) : nulFree left = true := by
  induction s generalizing left right with
  | nil => cases h
  | cons c s ih =>
    unfold splitOnce at h
    split at h
    · obtain ⟨rfl, -⟩ := Prod.mk.inj (Option.some.inj h)
      rfl
    · obtain ⟨⟨left', right'⟩, hsplit, hp⟩ := Option.map_eq_some_iff.mp h
      obtain ⟨rfl, -⟩ := Prod.mk.inj hp
      rw [nulFree_cons, Bool.and_eq_true] at hs ⊢
      exact ⟨hs.1, ih hsplit hs.2⟩

theorem evalAssert_nulFree {expr : Text} (counts : List (Text × Nat)) (h : nulFree expr = true) :
    nulFree (evalAssert expr counts).2 = true := by
  have hplain : ∀ s : Text, nulFree s = true → nulFree (s ++ expr ++ ['\'']) = true := by
    intro s hs
    rw [nulFree_append, nulFree_append, hs, h]
    rfl
  unfold evalAssert
  dsimp only
  split
  · exact hplain _ (by decide)
  · rename_i op left right hsplit
    split
    · exact hplain _ (by decide)
    · obtain ⟨op', hop, hfound⟩ := List.exists_of_findSome?_eq_some hsplit
      obtain ⟨p, hp, hsame⟩ := Option.map_eq_some_iff.mp hfound
      obtain ⟨rfl, rfl⟩ := Prod.mk.inj hsame
      have hops : [">=".toList, "<=".toList, "==".toList, ">".toList, "<".toList].all nulFree =
        true := by decide
      have hop : nulFree op' = true := List.all_eq_true.mp hops op' hop
      have hleft := nulFree_of_subset (strip_subset left) (splitOnce_nulFree hp h)
      simp [hleft, hop, nulFree_natText, nulFree_intText]

/-! ## Values that a column takes -/

theorem storable_getD {d : Json} (h : storable d = true) (default : Json)
    (hdefault : storable default = true) (key : Text) : storable (getD d key default) = true := by
  unfold getD
  cases hget : d.get? key with
  | none => exact hdefault
  | some value => exact storable_get? h hget

theorem nulFree_str (printer : Printer) {value : Json} (h : storable value = true) :
    nulFree (printer.str value) = true := by
  cases value with
  | str s =>
    rw [storable] at h
    exact h
  | _ => exact decide_eq_true (printer.escapes _)

theorem varchar_succeeds {n : Nat} {s : Text} (h : nulFree s = true) :
    Succeeds (varchar n s) ↔ fits n s = true := by
  unfold varchar
  rw [h, Bool.true_and]
  by_cases hfits : fits n s = true
  · rw [if_pos hfits]
    exact iff_of_true (succeeds_ok _) hfits
  · rw [if_neg hfits]
    exact iff_of_false (not_succeeds_error _) hfits

theorem varchar_eq {n : Nat} {s t : Text} (h : varchar n s = .ok t) : t = s.take n := by
  unfold varchar at h
  split at h
  · exact (Except.ok.inj h).symm
  · cases h

theorem nullable_succeeds {n : Nat} {value : Json} (h : storable value = true) :
    Succeeds (nullable n value) ↔ fitsOrNull n value = true := by
  cases value with
  | null => exact iff_of_true (succeeds_ok _) rfl
  | str s =>
    rw [storable] at h
    exact succeeds_map.trans (varchar_succeeds h)
  | _ => exact iff_of_false (not_succeeds_error _) (by simp [fitsOrNull])

theorem jsonb_succeeds {value : Json} : Succeeds (jsonb value) ↔ storable value = true := by
  unfold jsonb
  by_cases h : storable value = true
  · rw [if_pos h]
    exact iff_of_true (succeeds_ok _) h
  · rw [if_neg h]
    exact iff_of_false (not_succeeds_error _) h

theorem textColumn_succeeds {s : Text} : Succeeds (textColumn s) ↔ nulFree s = true := by
  unfold textColumn
  by_cases h : nulFree s = true
  · rw [if_pos h]
    exact iff_of_true (succeeds_ok _) h
  · rw [if_neg h]
    exact iff_of_false (not_succeeds_error _) h

/-! ## Rows -/

section Rows

variable (printer : Printer)

/-- What an element of `controls` must be to be a row. -/
structure ControlFits (c : Json) : Prop where
  controlId : fits 64 (printer.str (getD c "control_id".toList .null)) = true
  title : fitsOrNull 512 (getD c "title".toList .null) = true
  family : fitsOrNull 64 (getD c "family".toList .null) = true

structure MappingFits (m : Json) : Prop where
  dict : m.isDict = true
  controlId : fits 64 (printer.str (getD m "control_id".toList (.str []))) = true
  framework : fits 64 (printer.str (getD m "framework".toList (.str []))) = true
  reference : fitsOrNull 255 (getD m "reference".toList .null) = true

structure EvidenceFits (e : Json) : Prop where
  dict : e.isDict = true
  controlId : fits 64 (printer.str (getD e "control_id".toList (.str []))) = true

structure RuleFits (r : Json) : Prop where
  dict : r.isDict = true
  ruleKey : fits 64 (printer.str (getD r "key".toList (.str []))) = true
  kind : fitsOrNull 48 (getD r "kind".toList .null) = true

structure TestFits (t : Json) : Prop where
  dict : t.isDict = true
  testKey : fits 64 (printer.str (getD t "key".toList (.str "test".toList))) = true

def controlRow (c : Json) : PackControl :=
  ⟨printer.str (getD c "control_id".toList .null), getD c "title".toList .null,
    getD c "family".toList .null⟩

def mappingRow (m : Json) : PackMapping :=
  ⟨printer.str (getD m "control_id".toList (.str [])),
    printer.str (getD m "framework".toList (.str [])), getD m "reference".toList .null⟩

def evidenceRow (e : Json) : PackEvidenceRequirement :=
  ⟨printer.str (getD e "control_id".toList (.str [])),
    printer.str (getD e "description".toList (.str []))⟩

def ruleRow (r : Json) : PackRule :=
  ⟨printer.str (getD r "key".toList (.str [])), getD r "kind".toList .null,
    getD r "definition".toList (.obj [])⟩

theorem packControl_ok {c : Json} (hdict : c.isDict = true)
    (hid : (c.get? "control_id".toList).isSome = true) :
    packControl printer c = .ok (controlRow printer c) := by
  obtain ⟨controlId, hid⟩ := Option.isSome_iff_exists.mp hid
  unfold packControl controlRow getD
  rw [hdict, if_neg (by decide), hid]
  rfl

theorem guard_dict {ρ : Type} (d : Json) (row : ρ) {made : Except Failure ρ}
    (hmade : made = if !d.isDict then .error .attributeError else .ok row) :
    (Succeeds made ↔ d.isDict = true) ∧ ∀ r, made = .ok r → r = row := by
  subst hmade
  cases hdict : d.isDict with
  | true => exact ⟨iff_of_true (succeeds_ok _) rfl, fun r hr => (Except.ok.inj hr).symm⟩
  | false => exact ⟨iff_of_false (not_succeeds_error _) (by decide), fun r hr => nomatch hr⟩

theorem control_flush {c : Json} (h : storable c = true) :
    Succeeds (controlRow printer c).flush ↔ ControlFits printer c := by
  have hid := nulFree_str printer (storable_getD h .null rfl "control_id".toList)
  unfold PackControl.flush
  rw [succeeds_bind_and fun _ => succeeds_bind_and fun _ =>
      succeeds_bind_of fun _ _ => succeeds_pure _]
  unfold controlRow
  rw [varchar_succeeds hid, nullable_succeeds (storable_getD h _ rfl _),
    nullable_succeeds (storable_getD h _ rfl _)]
  exact ⟨fun ⟨a, b, c⟩ => ⟨a, b, c⟩, fun h => ⟨h.controlId, h.title, h.family⟩⟩

theorem mapping_flush {m : Json} (h : storable m = true) (hdict : m.isDict = true) :
    Succeeds (mappingRow printer m).flush ↔ MappingFits printer m := by
  have hid := nulFree_str printer (storable_getD h (.str []) rfl "control_id".toList)
  have hframework :=
    nulFree_str printer (storable_getD h (.str []) rfl "framework".toList)
  unfold PackMapping.flush
  rw [succeeds_bind_and fun _ => succeeds_bind_and fun _ =>
      succeeds_bind_of fun _ _ => succeeds_pure _]
  unfold mappingRow
  rw [varchar_succeeds hid, varchar_succeeds hframework, nullable_succeeds (storable_getD h _ rfl _)]
  exact ⟨fun ⟨a, b, c⟩ => ⟨hdict, a, b, c⟩, fun h => ⟨h.controlId, h.framework, h.reference⟩⟩

theorem evidence_flush {e : Json} (h : storable e = true) (hdict : e.isDict = true) :
    Succeeds (evidenceRow printer e).flush ↔ EvidenceFits printer e := by
  have hid := nulFree_str printer (storable_getD h (.str []) rfl "control_id".toList)
  have hdescription :=
    nulFree_str printer (storable_getD h (.str []) rfl "description".toList)
  unfold PackEvidenceRequirement.flush
  rw [succeeds_bind_and fun _ => succeeds_bind_of fun _ _ => succeeds_pure _]
  unfold evidenceRow
  rw [varchar_succeeds hid, textColumn_succeeds]
  exact ⟨fun ⟨a, _⟩ => ⟨hdict, a⟩, fun h => ⟨h.controlId, hdescription⟩⟩

theorem rule_flush {r : Json} (h : storable r = true) (hdict : r.isDict = true) :
    Succeeds (ruleRow printer r).flush ↔ RuleFits printer r := by
  have hkey := nulFree_str printer (storable_getD h (.str []) rfl "key".toList)
  have hdefinition := storable_getD h (.obj []) rfl "definition".toList
  unfold PackRule.flush
  rw [succeeds_bind_and fun _ => succeeds_bind_and fun _ =>
      succeeds_bind_of fun _ _ => succeeds_pure _]
  unfold ruleRow
  rw [varchar_succeeds hkey, nullable_succeeds (storable_getD h _ rfl _), jsonb_succeeds]
  exact ⟨fun ⟨a, b, _⟩ => ⟨hdict, a, b⟩, fun h => ⟨h.ruleKey, h.kind, hdefinition⟩⟩

def mappingKey (m : Json) : Text × Text :=
  ((mappingRow printer m).controlId.take 64, (mappingRow printer m).framework.take 64)

theorem mapping_flush_key {m : Json} {stored : PackMapping}
    (h : (mappingRow printer m).flush = .ok stored) : stored.key = mappingKey printer m := by
  obtain ⟨controlId, hid, h⟩ := bind_eq_ok.mp h
  obtain ⟨framework, hframework, h⟩ := bind_eq_ok.mp h
  obtain ⟨reference, -, h⟩ := bind_eq_ok.mp h
  obtain rfl := Except.ok.inj h
  exact Prod.ext (varchar_eq hid) (varchar_eq hframework)

theorem mapM_rows {ρ : Type} (make : Json → Except Failure ρ) (row : Json → ρ)
    (hmake : ∀ d, make d = if !d.isDict then .error .attributeError else .ok (row d))
    {elements : List Json} {rows : List ρ} : elements.mapM make = .ok rows ↔
      (∀ d ∈ elements, d.isDict = true) ∧ rows = elements.map row := by
  constructor
  · intro h
    refine ⟨fun d hd => ?_, eq_map_of_mapM (fun d r => (guard_dict d (row d) (hmake d)).2 r) h⟩
    exact (guard_dict d (row d) (hmake d)).1.mp (succeeds_mapM.mp ⟨rows, h⟩ d hd)
  · rintro ⟨hdicts, rfl⟩
    obtain ⟨rows, hrows⟩ := succeeds_mapM.mpr fun d hd =>
      (guard_dict d (row d) (hmake d)).1.mpr (hdicts d hd)
    rwa [eq_map_of_mapM (fun d r => (guard_dict d (row d) (hmake d)).2 r) hrows] at hrows

theorem flush_all {ρ : Type} {elements : List Json} {row : Json → ρ}
    {flush : ρ → Except Failure ρ} {Fits : Json → Prop}
    (h : ∀ e ∈ elements, Succeeds (flush (row e)) ↔ Fits e) :
    Succeeds ((elements.map row).mapM flush) ↔ ∀ e ∈ elements, Fits e := by
  rw [succeeds_mapM, List.forall_mem_map]
  exact forall_congr' fun e => forall_congr' fun he => h e he

/-! ## What the installation does, step by step -/

/-- `manifest.get(key, [])`, of a list. -/
def elements (manifest : Json) (key : Text) : List Json := Json.listOrEmpty (manifest.get? key)

def rowsOf (manifest : Json) : Children where
  controls := (elements manifest "controls".toList).map (controlRow printer)
  mappings := (elements manifest "mappings".toList).map (mappingRow printer)
  evidenceRequirements :=
    (elements manifest "evidence_requirements".toList).map (evidenceRow printer)
  rules := (elements manifest "rules".toList).map (ruleRow printer)

theorem iterate_elements {manifest : Json} (h : Shape manifest) (key : Text)
    (hkey : key ∈ listKeys) {items : List Json} :
    iterate (getD manifest key (.arr [])) = .ok items ↔ items = elements manifest key := by
  have hlist : getD manifest key (.arr []) = .arr (elements manifest key) := h.lists key hkey
  rw [hlist]
  exact ⟨fun h => (Except.ok.inj h).symm, fun h => congrArg Except.ok h.symm⟩

theorem len_elements {manifest : Json} (h : Shape manifest) (key : Text) (hkey : key ∈ listKeys) :
    len (getD manifest key (.arr [])) = .ok (elements manifest key).length := by
  rw [show getD manifest key (.arr []) = .arr (elements manifest key) from h.lists key hkey]
  rfl

theorem mapM_controls {manifest : Json} (h : Shape manifest) {rows : List PackControl} :
    (elements manifest "controls".toList).mapM (packControl printer) = .ok rows ↔
      rows = (elements manifest "controls".toList).map (controlRow printer) := by
  have hok : (elements manifest "controls".toList).mapM (packControl printer) =
      .ok ((elements manifest "controls".toList).map (controlRow printer)) :=
    mapM_ok fun c hc => packControl_ok printer (h.controls c hc).1 (h.controls c hc).2
  rw [hok]
  exact ⟨fun h => (Except.ok.inj h).symm, fun h => congrArg Except.ok h.symm⟩

theorem materialize_eq_ok {manifest : Json} (h : Shape manifest) {children : Children} :
    materialize printer manifest = .ok children ↔
      (∀ m ∈ elements manifest "mappings".toList, m.isDict = true) ∧
      (∀ e ∈ elements manifest "evidence_requirements".toList, e.isDict = true) ∧
      (∀ r ∈ elements manifest "rules".toList, r.isDict = true) ∧
      children = rowsOf printer manifest := by
  unfold materialize
  simp only [bind_eq_ok, iterate_elements h "controls".toList (by decide),
    iterate_elements h "mappings".toList (by decide),
    iterate_elements h "evidence_requirements".toList (by decide),
    iterate_elements h "rules".toList (by decide), exists_eq_left,
    mapM_controls printer h, mapM_rows (packMapping printer) (mappingRow printer) fun _ => rfl,
    mapM_rows (packEvidenceRequirement printer) (evidenceRow printer) fun _ => rfl,
    mapM_rows (packRule printer) (ruleRow printer) fun _ => rfl]
  constructor
  · rintro ⟨_, ⟨hmappings, rfl⟩, _, ⟨hevidence, rfl⟩, _, ⟨hrules, rfl⟩, hchildren⟩
    exact ⟨hmappings, hevidence, hrules, (Except.ok.inj hchildren).symm⟩
  · rintro ⟨hmappings, hevidence, hrules, rfl⟩
    exact ⟨_, ⟨hmappings, rfl⟩, _, ⟨hevidence, rfl⟩, _, ⟨hrules, rfl⟩, rfl⟩

theorem uniqueMappings_succeeds (mappings : List PackMapping) :
    Succeeds (uniqueMappings mappings) ↔ (mappings.map PackMapping.key).Nodup := by
  unfold uniqueMappings
  by_cases h : (mappings.map PackMapping.key).Nodup
  · rw [if_pos h]
    exact iff_of_true (succeeds_ok _) h
  · rw [if_neg h]
    exact iff_of_false (not_succeeds_error _) h

/-- **The rows of a manifest** are written just where each fits and no mapping is there twice. -/
theorem rows_flush {manifest : Json} (hstored : storable manifest = true)
    (hmappings : ∀ m ∈ elements manifest "mappings".toList, m.isDict = true)
    (hevidence : ∀ e ∈ elements manifest "evidence_requirements".toList, e.isDict = true)
    (hrules : ∀ r ∈ elements manifest "rules".toList, r.isDict = true) :
    Succeeds (rowsOf printer manifest).flush ↔
      (∀ c ∈ elements manifest "controls".toList, ControlFits printer c) ∧
      (∀ m ∈ elements manifest "mappings".toList, MappingFits printer m) ∧
      ((elements manifest "mappings".toList).map (mappingKey printer)).Nodup ∧
      (∀ e ∈ elements manifest "evidence_requirements".toList, EvidenceFits printer e) ∧
      ∀ r ∈ elements manifest "rules".toList, RuleFits printer r := by
  have hcontrol := flush_all fun c hc =>
    control_flush printer (storable_list hstored "controls".toList c hc)
  have hmapping := flush_all fun m hm =>
    mapping_flush printer (storable_list hstored "mappings".toList m hm) (hmappings m hm)
  have hevidence := flush_all fun e he =>
    evidence_flush printer (storable_list hstored "evidence_requirements".toList e he)
      (hevidence e he)
  have hrule := flush_all fun r hr =>
    rule_flush printer (storable_list hstored "rules".toList r hr) (hrules r hr)
  have hkeys : ∀ ms, ((elements manifest "mappings".toList).map (mappingRow printer)).mapM
      PackMapping.flush = .ok ms →
      ms.map PackMapping.key = (elements manifest "mappings".toList).map (mappingKey printer) := by
    intro ms hms
    rw [List.mapM_map] at hms
    exact map_of_mapM (fun m stored => mapping_flush_key printer) hms
  constructor
  · intro h
    obtain ⟨cs, hcs, h⟩ := succeeds_bind.mp h
    obtain ⟨ms, hms, h⟩ := succeeds_bind.mp h
    obtain ⟨_, hunique, h⟩ := succeeds_bind.mp h
    obtain ⟨es, hes, h⟩ := succeeds_bind.mp h
    obtain ⟨rs, hrs, -⟩ := succeeds_bind.mp h
    have hnodup := (uniqueMappings_succeeds ms).mp ⟨_, hunique⟩
    rw [hkeys ms hms] at hnodup
    exact ⟨hcontrol.mp ⟨cs, hcs⟩, hmapping.mp ⟨ms, hms⟩, hnodup, hevidence.mp ⟨es, hes⟩,
      hrule.mp ⟨rs, hrs⟩⟩
  · rintro ⟨hc, hm, hnodup, he, hr⟩
    obtain ⟨cs, hcs⟩ := hcontrol.mpr hc
    obtain ⟨ms, hms⟩ := hmapping.mpr hm
    obtain ⟨es, hes⟩ := hevidence.mpr he
    obtain ⟨rs, hrs⟩ := hrule.mpr hr
    obtain ⟨_, hunique⟩ := (uniqueMappings_succeeds ms).mpr (by rwa [hkeys ms hms])
    exact succeeds_bind.mpr ⟨cs, hcs, succeeds_bind.mpr ⟨ms, hms, succeeds_bind.mpr ⟨_, hunique,
      succeeds_bind.mpr ⟨es, hes, succeeds_bind.mpr ⟨rs, hrs, succeeds_pure _⟩⟩⟩⟩⟩

/-! ## The pack's own row -/

theorem nulFree_manifestText {manifest : Json} (h : storable manifest = true) (key : Text)
    {default : Text} (hdefault : nulFree default = true) :
    nulFree (manifestText printer manifest key default) = true := by
  refine nulFree_str printer (storable_getD h (.str default) ?_ key)
  rwa [storable]

theorem nulFree_packKey {manifest : Json} (h : storable manifest = true) :
    nulFree (packKey printer manifest) = true :=
  nulFree_manifestText printer h _ rfl

/-- The source of the pack, a column of its own. -/
def SourceFits (source : Option Text) : Prop :=
  ∀ s, source = some s → nulFree s = true ∧ fits 255 s = true

theorem flushSource_succeeds (source : Option Text) :
    Succeeds (flushSource source) ↔ SourceFits source := by
  unfold flushSource SourceFits
  cases source with
  | none => exact iff_of_true (succeeds_ok _) fun s h => nomatch h
  | some source =>
    rw [succeeds_map]
    constructor
    · rintro ⟨stored, hstored⟩ s hs
      obtain rfl := Option.some.inj hs
      unfold varchar at hstored
      split at hstored
      · rename_i h
        exact Bool.and_eq_true_iff.mp h
      · cases hstored
    · intro h
      exact (varchar_succeeds (h source rfl).1).mpr (h source rfl).2

/-- The four texts of a pack. -/
structure HeaderFits (manifest : Json) : Prop where
  key : fits 64 (packKey printer manifest) = true
  name : fits 255 (manifestText printer manifest "name".toList (packKey printer manifest)) = true
  version : fits 24 (manifestText printer manifest "version".toList ['0']) = true
  schemaVersion : fits 8 (manifestText printer manifest "schema_version".toList ['1']) = true

theorem assignPack_flush (db : Database) (orgId : Option Nat) {manifest : Json}
    (source : Option Text) (existing : Option CompliancePack) :
    Succeeds (assignPack printer db orgId manifest source (packKey printer manifest)
      existing).flush ↔
      storable manifest = true ∧ SourceFits source ∧
      fits 255 (manifestText printer manifest "name".toList (packKey printer manifest)) = true ∧
      fits 24 (manifestText printer manifest "version".toList ['0']) = true ∧
      fits 8 (manifestText printer manifest "schema_version".toList ['1']) = true := by
  unfold CompliancePack.flush
  rw [succeeds_bind_and fun _ => succeeds_bind_and fun _ => succeeds_bind_and fun _ =>
    succeeds_bind_and fun _ => succeeds_bind_of fun _ _ => succeeds_pure _]
  show Succeeds (varchar 255 (manifestText printer manifest "name".toList _)) ∧
    Succeeds (varchar 24 (manifestText printer manifest "version".toList ['0'])) ∧
    Succeeds (varchar 8 (manifestText printer manifest "schema_version".toList ['1'])) ∧
    Succeeds (flushSource source) ∧ Succeeds (jsonb manifest) ↔ _
  rw [flushSource_succeeds, jsonb_succeeds]
  by_cases h : storable manifest = true
  · rw [varchar_succeeds (nulFree_manifestText printer h _ (nulFree_packKey printer h)),
      varchar_succeeds (nulFree_manifestText printer h _ rfl),
      varchar_succeeds (nulFree_manifestText printer h _ rfl)]
    tauto
  · exact iff_of_false (fun hall => h hall.2.2.2.2) fun hall => h hall.1

/-- No stored pack has the key that a new one gets. -/
def NewKey (db : Database) (orgId : Option Nat) (key : Text) : Prop :=
  db.matching orgId key = [] → orgId.isSome = true →
    ∀ p ∈ db.packs, p.organizationId = orgId → p.packKey ≠ key.take 64

theorem uniquePack_succeeds (db : Database) (orgId : Option Nat) (key : Text) :
    Succeeds (uniquePack db orgId key) ↔
      (orgId.isSome = true → ∀ p ∈ db.packs, p.organizationId = orgId → p.packKey ≠ key) := by
  unfold uniquePack
  rw [succeeds_guard, and_iff_left (succeeds_ok _), Bool.and_eq_true, List.any_eq_true, not_and]
  simp only [decide_eq_true_eq, not_exists, not_and]

theorem existing_succeeds (db : Database) (orgId : Option Nat) {key : Text}
    (hkey : nulFree key = true) (hfits : fits 64 key = true) :
    (∃ existing, scalarOneOrNone (db.matching orgId key) = .ok existing ∧
      Succeeds (flushKey db orgId key existing)) ↔
      (db.matching orgId key).length ≤ 1 ∧ NewKey db orgId key := by
  unfold NewKey
  match db.matching orgId key with
  | [] =>
    have hnew : Succeeds (flushKey db orgId key none) ↔ (orgId.isSome = true →
        ∀ p ∈ db.packs, p.organizationId = orgId → p.packKey ≠ key.take 64) := by
      obtain ⟨stored, hstored⟩ := (varchar_succeeds hkey).mpr hfits
      unfold flushKey
      rw [← uniquePack_succeeds, succeeds_bind]
      constructor
      · rintro ⟨stored', hstored', h⟩
        obtain ⟨_, hunique, -⟩ := succeeds_bind.mp h
        rw [varchar_eq hstored'] at hunique
        exact ⟨_, hunique⟩
      · rintro ⟨_, hunique⟩
        rw [← varchar_eq hstored] at hunique
        exact ⟨stored, hstored, succeeds_bind.mpr ⟨_, hunique, succeeds_pure _⟩⟩
    constructor
    · rintro ⟨existing, hexisting, h⟩
      obtain rfl := Except.ok.inj hexisting
      exact ⟨by simp, fun _ => hnew.mp h⟩
    · rintro ⟨-, h⟩
      exact ⟨none, rfl, hnew.mpr (h rfl)⟩
  | [p] => exact iff_of_true ⟨some p, rfl, succeeds_ok _⟩ ⟨by simp, fun h => nomatch h⟩
  | p :: q :: rest =>
    refine iff_of_false ?_ fun h => absurd h.1 (by simp)
    rintro ⟨existing, hexisting, -⟩
    cases hexisting

/-! ## The records of the installation -/

theorem installRun_succeeds (orgId : Option Nat) {manifest : Json} (hshape : Shape manifest)
    (hstored : storable manifest = true) (action : Text) {version : Text}
    (hversion : nulFree version = true) :
    Succeeds (installRun orgId manifest (packKey printer manifest) action version) ↔
      fits 64 (packKey printer manifest) = true := by
  unfold installRun
  rw [len_elements hshape "controls".toList (by decide),
    len_elements hshape "mappings".toList (by decide)]
  rw [← varchar_succeeds (n := 64) (nulFree_packKey printer hstored)]
  have hsummary : ∀ a b : Nat, storable (Json.ofItems [("controls".toList, Json.nat a),
      ("mappings".toList, Json.nat b), ("version".toList, .str version)]) = true := by
    intro a b
    have hitems : Json.ofItems [("controls".toList, Json.nat a), ("mappings".toList, Json.nat b),
        ("version".toList, .str version)] = .obj [("controls".toList, Json.nat a),
        ("mappings".toList, Json.nat b), ("version".toList, .str version)] := rfl
    rw [hitems]
    simp only [storable, storableFields, Json.nat, isFinite_ofNat, hversion, Bool.and_true]
    decide
  obtain ⟨summary, hsummary⟩ := jsonb_succeeds.mpr (hsummary _ _)
  show Succeeds (jsonb _ >>= _) ↔ _
  rw [hsummary]
  exact succeeds_bind_of fun _ _ => succeeds_pure _

theorem version_succeeds (v : CompliancePackVersion) (hstored : storable v.manifest = true)
    (hversion : nulFree v.version = true) :
    Succeeds v.flush ↔ fits 24 v.version = true := by
  unfold CompliancePackVersion.flush
  rw [succeeds_bind_of fun _ _ => (succeeds_bind_of fun _ _ => succeeds_pure _).mpr
    (jsonb_succeeds.mpr hstored), varchar_succeeds hversion]

/-! ## The tests -/

theorem countOf_ok {manifest : Json} (h : Shape manifest) :
    Succeeds (countKeys.mapM (countOf manifest)) := by
  have hkeys : countKeys ⊆ listKeys := by decide
  refine succeeds_mapM.mpr fun key hkey => ?_
  unfold countOf
  rw [len_elements h key (hkeys hkey)]
  exact succeeds_ok _

/-- The result of a test, whatever was counted. -/
def testRow (counts : List (Text × Nat)) (t : Json) : PackTestResult :=
  let outcome := evalAssert (printer.str (getD t "assert".toList (.str []))) counts
  ⟨printer.str (getD t "key".toList (.str "test".toList)),
    if outcome.1 then "pass".toList else "fail".toList, outcome.2⟩

theorem test_flush (counts : List (Text × Nat)) {t : Json} (h : storable t = true)
    (hdict : t.isDict = true) :
    Succeeds (testRow printer counts t).flush ↔ TestFits printer t := by
  have hkey := nulFree_str printer (storable_getD h (.str "test".toList) (by decide) "key".toList)
  have hdetail := evalAssert_nulFree counts
    (nulFree_str printer (storable_getD h (.str []) rfl "assert".toList))
  unfold PackTestResult.flush
  rw [succeeds_bind_and fun _ => succeeds_bind_of fun _ _ => succeeds_pure _]
  unfold testRow
  rw [varchar_succeeds hkey, textColumn_succeeds]
  exact ⟨fun ⟨a, _⟩ => ⟨hdict, a⟩, fun h => ⟨h.testKey, hdetail⟩⟩

/-- **The tests of an accepted manifest** run just where each is an object whose key fits. -/
theorem runTests_succeeds (db : Database) (pack : CompliancePack) (hshape : Shape pack.manifest)
    (hstored : storable pack.manifest = true) :
    Succeeds (runTests printer db pack) ↔
      ∀ t ∈ elements pack.manifest "tests".toList, TestFits printer t := by
  obtain ⟨counts, hcounts⟩ := countOf_ok hshape
  have htests := (iterate_elements hshape "tests".toList (by decide)).mpr rfl
  have hflush : (∀ t ∈ elements pack.manifest "tests".toList, t.isDict = true) →
      (Succeeds (((elements pack.manifest "tests".toList).map (testRow printer counts)).mapM
        PackTestResult.flush) ↔
      ∀ t ∈ elements pack.manifest "tests".toList, TestFits printer t) := fun hdicts =>
    flush_all fun t ht =>
      test_flush printer counts (storable_list hstored "tests".toList t ht) (hdicts t ht)
  have hrows := @mapM_rows _ (packTestResult printer counts) (testRow printer counts)
    (fun _ => rfl) (elements pack.manifest "tests".toList)
  unfold runTests
  rw [hcounts, htests]
  show Succeeds ((elements pack.manifest "tests".toList).mapM (packTestResult printer counts) >>=
    _) ↔ _
  constructor
  · intro h
    obtain ⟨rows, hmade, h⟩ := succeeds_bind.mp h
    obtain ⟨stored, hstored, -⟩ := succeeds_bind.mp h
    obtain ⟨hdicts, rfl⟩ := hrows.mp hmade
    exact (hflush hdicts).mp ⟨stored, hstored⟩
  · intro h
    have hdicts : ∀ t ∈ elements pack.manifest "tests".toList, t.isDict = true :=
      fun t ht => (h t ht).dict
    obtain ⟨stored, hstored⟩ := (hflush hdicts).mpr h
    exact succeeds_bind.mpr ⟨_, hrows.mpr ⟨hdicts, rfl⟩,
      succeeds_bind.mpr ⟨stored, hstored, succeeds_pure _⟩⟩

end Rows

/-! ## The condition -/

section Condition

variable (printer : Printer) (registry : Registry)

/-- What an accepted manifest must be, beyond what is checked, to be installed and tested: its
texts fit their columns, its elements are objects, and no mapping is in it twice. -/
structure Installable (db : Database) (orgId : Option Nat) (source : Option Text)
    (manifest : Json) : Prop where
  stored : storable manifest = true
  source : SourceFits source
  header : HeaderFits printer manifest
  controls : ∀ c ∈ elements manifest "controls".toList, ControlFits printer c
  mappings : ∀ m ∈ elements manifest "mappings".toList, MappingFits printer m
  distinct : ((elements manifest "mappings".toList).map (mappingKey printer)).Nodup
  evidence : ∀ e ∈ elements manifest "evidence_requirements".toList, EvidenceFits printer e
  rules : ∀ r ∈ elements manifest "rules".toList, RuleFits printer r
  tests : ∀ t ∈ elements manifest "tests".toList, TestFits printer t
  onePack : (db.matching orgId (packKey printer manifest)).length ≤ 1
  newKey : NewKey db orgId (packKey printer manifest)

/-- The manifest is installed, and the tests of the pack run. -/
def Installs (db : Database) (orgId : Option Nat) (source : Option Text) (manifest : Json) :
    Prop :=
  ∃ db' pack, installPack printer registry db orgId manifest source = .ok (db', pack) ∧
    Succeeds (runTests printer db' pack)

/-- No other pack of the organization has a posture rule key of the manifest. -/
def NoCollision (db : Database) (orgId : Option Nat) (manifest : Json) : Prop :=
  ruleKeyCollisions printer db orgId (packKey printer manifest) (postureRuleKeys manifest) = []

variable {printer registry} {db : Database} {orgId : Option Nat} {source : Option Text}
  {manifest : Json}

theorem installPack_manifest {db' : Database} {pack : CompliancePack}
    (h : installPack printer registry db orgId manifest source = .ok (db', pack)) :
    pack.manifest = manifest := by
  unfold installPack at h
  iterate 10 obtain ⟨_, -, h⟩ := bind_eq_ok.mp h
  obtain ⟨-, rfl⟩ := Prod.mk.inj (Except.ok.inj h)
  rfl

theorem Installs.installable (haccepted : validateManifest printer registry manifest = .ok [])
    (h : Installs printer registry db orgId source manifest) :
    Installable printer db orgId source manifest := by
  have hshape := shape_of_accepted printer registry haccepted
  obtain ⟨db', pack, hinstall, hrun⟩ := h
  unfold installPack at hinstall
  obtain ⟨_, -, h⟩ := bind_eq_ok.mp hinstall
  obtain ⟨_, -, h⟩ := bind_eq_ok.mp h
  obtain ⟨_, -, h⟩ := bind_eq_ok.mp h
  obtain ⟨existing, hexisting, h⟩ := bind_eq_ok.mp h
  obtain ⟨storedKey, hkey, h⟩ := bind_eq_ok.mp h
  obtain ⟨stored, hflush, h⟩ := bind_eq_ok.mp h
  obtain ⟨children, hchildren, h⟩ := bind_eq_ok.mp h
  obtain ⟨written, hwritten, h⟩ := bind_eq_ok.mp h
  obtain ⟨version, -, h⟩ := bind_eq_ok.mp h
  obtain ⟨run, hrunRow, h⟩ := bind_eq_ok.mp h
  obtain ⟨-, rfl⟩ := Prod.mk.inj (Except.ok.inj h)
  obtain ⟨hstored, hsource, hname, hversion, hschema⟩ :=
    (assignPack_flush printer db orgId source existing).mp ⟨stored, hflush⟩
  obtain ⟨hmappings, hevidence, hrules, rfl⟩ := (materialize_eq_ok printer hshape).mp hchildren
  obtain ⟨hc, hm, hdistinct, he, hr⟩ :=
    (rows_flush printer hstored hmappings hevidence hrules).mp ⟨written, hwritten⟩
  have hfits : fits 64 (packKey printer manifest) = true :=
    (installRun_succeeds printer orgId hshape hstored _
      (nulFree_manifestText printer hstored _ rfl)).mp ⟨run, hrunRow⟩
  obtain ⟨hone, hnew⟩ := (existing_succeeds db orgId (nulFree_packKey printer hstored) hfits).mp
    ⟨existing, hexisting, storedKey, hkey⟩
  have htests := (runTests_succeeds printer db' _ hshape hstored).mp hrun
  exact ⟨hstored, hsource, ⟨hfits, hname, hversion, hschema⟩, hc, hm, hdistinct, he, hr, htests,
    hone, hnew⟩

/-- What is installable is installed. -/
theorem Installable.installs (haccepted : validateManifest printer registry manifest = .ok [])
    (hcollisions : NoCollision printer db orgId manifest)
    (h : Installable printer db orgId source manifest) :
    Installs printer registry db orgId source manifest := by
  have hshape := shape_of_accepted printer registry haccepted
  obtain ⟨existing, hexisting, storedKey, hkey⟩ :=
    (existing_succeeds db orgId (nulFree_packKey printer h.stored) h.header.key).mpr
      ⟨h.onePack, h.newKey⟩
  obtain ⟨stored, hstored⟩ := (assignPack_flush printer db orgId source existing).mpr
    ⟨h.stored, h.source, h.header.name, h.header.version, h.header.schemaVersion⟩
  have hmappings := fun m hm => (h.mappings m hm).dict
  have hevidence := fun e he => (h.evidence e he).dict
  have hrules := fun r hr => (h.rules r hr).dict
  obtain ⟨written, hwritten⟩ := (rows_flush printer h.stored hmappings hevidence hrules).mpr
    ⟨h.controls, h.mappings, h.distinct, h.evidence, h.rules⟩
  let pack := assignPack printer db orgId manifest source (packKey printer manifest) existing
  have hfree : nulFree pack.version = true :=
    nulFree_manifestText printer h.stored _ (by decide : nulFree ['0'] = true)
  obtain ⟨version, hversion⟩ :=
    (version_succeeds ⟨pack.id, pack.version, pack.manifestSha, manifest⟩ h.stored hfree).mpr
      h.header.version
  obtain ⟨run, hrun⟩ := (installRun_succeeds printer orgId hshape h.stored
    (if existing.isNone then "install".toList else "upgrade".toList) hfree).mpr h.header.key
  have hinstall : Succeeds (installPack printer registry db orgId manifest source) := by
    unfold installPack
    rw [haccepted]
    refine succeeds_bind.mpr ⟨[], rfl, succeeds_bind.mpr ⟨(), rfl, ?_⟩⟩
    refine succeeds_bind.mpr ⟨(), if_pos hcollisions, ?_⟩
    refine succeeds_bind.mpr ⟨existing, hexisting, succeeds_bind.mpr ⟨storedKey, hkey, ?_⟩⟩
    refine succeeds_bind.mpr ⟨stored, hstored, ?_⟩
    refine succeeds_bind.mpr ⟨rowsOf printer manifest, ?_, ?_⟩
    · exact (materialize_eq_ok printer hshape).mpr ⟨hmappings, hevidence, hrules, rfl⟩
    · refine succeeds_bind.mpr ⟨written, hwritten, succeeds_bind.mpr ⟨version, hversion, ?_⟩⟩
      exact succeeds_bind.mpr ⟨run, hrun, succeeds_pure _⟩
  obtain ⟨⟨db', pack'⟩, hinstall⟩ := hinstall
  have hmanifest := installPack_manifest hinstall
  refine ⟨db', pack', hinstall, (runTests_succeeds printer db' pack' ?_ ?_).mpr ?_⟩ <;>
    rw [hmanifest]
  · exact hshape
  · exact h.stored
  · exact h.tests

end Condition

/-- **A pack that installs is evaluable** just where its manifest can be read to the end and,
if it is accepted and no other pack has its rule keys, can be installed: of any JSON, stored
packs, organization and source. -/
theorem pack_evaluable_iff (printer : Printer) (registry : Registry) (db : Database)
    (orgId : Option Nat) (source : Option Text) (manifest : Json) :
    (Succeeds (validateManifest printer registry manifest) ∧
      (validateManifest printer registry manifest = .ok [] →
        NoCollision printer db orgId manifest →
        Installs printer registry db orgId source manifest)) ↔
      Readable manifest ∧
        (validateManifest printer registry manifest = .ok [] →
          NoCollision printer db orgId manifest →
          Installable printer db orgId source manifest) := by
  rw [validateManifest_succeeds]
  refine and_congr_right fun _ => ?_
  refine forall_congr' fun haccepted => forall_congr' fun hcollisions => ?_
  exact ⟨Installs.installable haccepted, Installable.installs haccepted hcollisions⟩

/-! ## An accepted manifest that does not install -/

def noPrinter : Printer := ⟨fun _ => [], fun _ => List.not_mem_nil⟩

def noDatabase : Database := ⟨[], [], [], 1⟩

def bareMapping : Json := .obj
  [("controls".toList, .arr [.obj [("control_id".toList, .str "AC-2".toList)]]),
    ("id".toList, .str "baseline".toList), ("mappings".toList, .arr [.str "AC-2".toList]),
    ("name".toList, .str "Baseline".toList), ("schema_version".toList, .str "1".toList),
    ("version".toList, .str "1.0".toList)]

/-- The manifest is accepted, and its installation raises; and a manifest whose `controls` is
`null` is not even checked. -/
theorem bare_mapping_raises :
    ¬ (Succeeds (validateManifest noPrinter ⟨[], [], []⟩ bareMapping) ∧
      (validateManifest noPrinter ⟨[], [], []⟩ bareMapping = .ok [] →
        NoCollision noPrinter noDatabase (some 1) bareMapping →
        Installs noPrinter ⟨[], [], []⟩ noDatabase (some 1) none bareMapping)) ∧
    ¬ Succeeds (validateManifest noPrinter ⟨[], [], []⟩
      (.obj [("controls".toList, .null)])) := by
  constructor
  · rintro ⟨-, h⟩
    have hinstalls := h rfl rfl
    have hinstallable := Installs.installable rfl hinstalls
    have hdict := (hinstallable.mappings _ (List.mem_singleton_self _)).dict
    cases hdict
  · rw [validateManifest_succeeds]
    intro h
    exact absurd (h.controls _ rfl) (by decide)

end Concord.Packs.Service
