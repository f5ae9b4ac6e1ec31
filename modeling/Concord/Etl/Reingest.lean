import Concord.Etl.Pipeline
import Concord.Governance.Tasks
import Mathlib.Data.List.ReduceOption

/-!
# Ingesting again

What a run of `_ingest_assessment` keeps: a key keeps its id, what is referred to stays, and a
sheet that is ingested again changes nothing. The control of a row is the one of its key, and the
key of a row that repeats an identifier has the number of the row in it: rows inserted or deleted
above it give it another control.

`identity_preserved_iff`: an edit of unrelated rows leaves every other row its control if and only
if no row that repeats an identifier changes its number.
-/

namespace Concord.Etl

open Concord.Python

variable {env : Workbench}

/-! ## A turn of the loop -/

/-- What a turn does. -/
inductive Turn (env : Workbench) (existing : Dict Text Control) (headers : List Text)
    (st : Loading) (idx : Nat) (row : Row) (st' : Loading) : Prop
  | skipped (hrow : rowIdentifier headers row = none) (hcontrols : st'.controls = st.controls)
      (hmappings : st'.mappings = st.mappings) (hnext : st'.nextId = st.nextId)
      (hseen : st'.seen = st.seen)
  | loaded (identifier : Text) (content : Content) (control : Control)
      (hrow : rowIdentifier headers row = some identifier)
      (hcontent : contentOf env idx (record headers row) = .ok content)
      (hup : upsert existing st (rowKey st.seen idx identifier) content =
        .ok (control, st'.nextId))
      (hcontrols : st'.controls = st.controls.set (rowKey st.seen idx identifier) control)
      (hmappings : st'.mappings = st.mappings ++ mappingsOf env control.id (record headers row))
      (hseen : st'.seen = st.seen ++ [rowKey st.seen idx identifier])

theorem turn_of_loadRow {existing : Dict Text Control} {headers : List Text} {st st' : Loading}
    {idx : Nat} {row : Row} (h : loadRow env existing headers st idx row = .ok st') :
    Turn env existing headers st idx row st' := by
  unfold loadRow at h
  cases hrow : rowIdentifier headers row with
  | none =>
    rw [hrow] at h
    have h := Except.ok.inj h
    refine .skipped hrow ?_ ?_ ?_ ?_ <;>
    · rw [← h]
      split <;> rfl
  | some identifier =>
    rw [hrow] at h
    dsimp only at h
    cases hcontent : contentOf env idx (record headers row) with
    | error e =>
      rw [hcontent] at h
      cases h
    | ok content =>
      rw [hcontent] at h
      change (if _ then _ else _) = _ at h
      split at h
      case isTrue => cases h
      case isFalse =>
        cases hup : upsert existing st (rowKey st.seen idx identifier) content with
        | error e =>
          rw [hup] at h
          cases h
        | ok made =>
          rw [hup] at h
          change (if _ then _ else _) = _ at h
          split at h
          case isTrue => cases h
          case isFalse =>
            have h := Except.ok.inj h
            rw [← h]
            exact .loaded identifier content made.1 hrow hcontent hup rfl rfl rfl

theorem upsert_eq_ok {existing : Dict Text Control} {st : Loading} {key : Text}
    {content : Content} {control : Control} {next : Nat}
    (h : upsert existing st key content = .ok (control, next)) :
    control.content = content ∧
      ((∃ c, existing.get? key = some c ∧ control.id = c.id ∧ next = st.nextId) ∨
        (existing.get? key = none ∧ st.controls.get? key = none ∧ control.id = st.nextId ∧
          next = st.nextId + 1)) := by
  unfold upsert at h
  cases hold : existing.get? key with
  | some c =>
    rw [hold] at h
    have h := Prod.mk.inj (Except.ok.inj h)
    rw [← h.1]
    exact ⟨rfl, .inl ⟨c, rfl, rfl, h.2.symm⟩⟩
  | none =>
    rw [hold] at h
    dsimp only at h
    split at h
    case isTrue => cases h
    case isFalse hnew =>
      have h := Prod.mk.inj (Except.ok.inj h)
      rw [← h.1]
      exact ⟨rfl, .inr ⟨rfl, Option.not_isSome_iff_eq_none.mp hnew, rfl, h.2.symm⟩⟩

/-! ## What the loop keeps -/

/-- Ids are distinct and from the sequence, and references are to controls that are there. -/
structure Tables.Sound (t : Tables) : Prop where
  distinct : ∀ k k' c c', t.controls.get? k = some c → t.controls.get? k' = some c' →
    c.id = c'.id → k = k'
  fresh : ∀ k c, t.controls.get? k = some c → c.id < t.nextId
  references : ∀ id ∈ t.referenced, ∃ k c, t.controls.get? k = some c ∧ c.id = id

/-- The load so far, of the tables it began with. -/
structure Loaded (t : Tables) (st : Loading) : Prop where
  kept : ∀ k c, t.controls.get? k = some c →
    ∃ c', st.controls.get? k = some c' ∧ c'.id = c.id ∧ (k ∉ st.seen → c' = c)
  made : ∀ k c, st.controls.get? k = some c → t.controls.get? k = none →
    k ∈ st.seen ∧ t.nextId ≤ c.id
  fresh : ∀ k c, st.controls.get? k = some c → c.id < st.nextId
  seen : ∀ k ∈ st.seen, ∃ c, st.controls.get? k = some c
  distinct : ∀ k k' c c', st.controls.get? k = some c → st.controls.get? k' = some c' →
    c.id = c'.id → k = k'
  grown : t.nextId ≤ st.nextId

def Tables.begin (t : Tables) : Loading := ⟨t.controls, [], t.nextId, [], []⟩

theorem loaded_begin {t : Tables} (ht : t.Sound) : Loaded t t.begin where
  kept _ c h := ⟨c, h, rfl, fun _ => rfl⟩
  made _ c h hnone := by
    rw [show t.begin.controls = t.controls from rfl, hnone] at h
    cases h
  fresh := ht.fresh
  seen _ h := absurd h List.not_mem_nil
  distinct := ht.distinct
  grown := Nat.le_refl _

/-- What a turn writes: the id its key had, or a new one, and no other key's. -/
structure Writes (t : Tables) (st : Loading) (key : Text) (control : Control) (next : Nat) :
    Prop where
  grown : st.nextId ≤ next
  fresh : control.id < next
  kept : ∀ c, st.controls.get? key = some c → control.id = c.id
  made : t.controls.get? key = none → t.nextId ≤ control.id
  alone : ∀ k c, st.controls.get? k = some c → c.id = control.id → k = key

theorem writes_of_upsert {t : Tables} {st : Loading} {key : Text} {content : Content}
    {control : Control} {next : Nat} (hst : Loaded t st)
    (h : upsert t.controls st key content = .ok (control, next)) :
    Writes t st key control next := by
  rcases (upsert_eq_ok h).2 with ⟨c₀, hold, hid, hnext⟩ | ⟨-, hnew, hid, hnext⟩
  · -- the key had a control before the load, and the load has kept its id
    obtain ⟨c', hc', hid', -⟩ := hst.kept key c₀ hold
    have hlt := hst.fresh key c' hc'
    refine ⟨by omega, by omega, fun c hc => ?_, fun hnone => ?_, fun k c hc hsame => ?_⟩
    · rw [hid, ← hid', Option.some.inj (hc'.symm.trans hc)]
    · rw [hnone] at hold
      cases hold
    · exact hst.distinct k key c c' hc hc' (by omega)
  · have hgrown := hst.grown
    refine ⟨by omega, by omega, fun c hc => ?_, fun _ => by omega, fun k c hc hsame => ?_⟩
    · rw [hnew] at hc
      cases hc
    · have hlt := hst.fresh k c hc
      omega

theorem Loaded.write {t : Tables} {st st' : Loading} {key : Text} {control : Control}
    (hst : Loaded t st) (hw : Writes t st key control st'.nextId)
    (hcontrols : st'.controls = st.controls.set key control)
    (hseen : st'.seen = st.seen ++ [key]) : Loaded t st' := by
  have hget : ∀ k, st'.controls.get? k =
      if key = k then some control else st.controls.get? k := by
    intro k
    rw [hcontrols, Dict.get?_set]
  have hin : key ∈ st'.seen := hseen ▸ List.mem_append_right _ (List.mem_singleton_self key)
  refine ⟨?_, ?_, ?_, ?_, ?_, Nat.le_trans hst.grown hw.grown⟩
  · intro k c hc
    obtain ⟨c', hc', hid, hsame⟩ := hst.kept k c hc
    rw [hget]
    by_cases hk : key = k
    · subst hk
      exact ⟨control, if_pos rfl, (hw.kept c' hc').trans hid, fun hnot => absurd hin hnot⟩
    · refine ⟨c', by rw [if_neg hk, hc'], hid, fun hnot => hsame fun hold => hnot ?_⟩
      rw [hseen]
      exact List.mem_append_left _ hold
  · intro k c hc hnone
    rw [hget] at hc
    split at hc
    case isTrue hk =>
      rw [← Option.some.inj hc]
      exact ⟨hk ▸ hin, hw.made (hk ▸ hnone)⟩
    case isFalse hk =>
      obtain ⟨hold, hle⟩ := hst.made k c hc hnone
      exact ⟨hseen ▸ List.mem_append_left _ hold, hle⟩
  · intro k c hc
    rw [hget] at hc
    split at hc
    case isTrue => exact Option.some.inj hc ▸ hw.fresh
    case isFalse => exact Nat.lt_of_lt_of_le (hst.fresh k c hc) hw.grown
  · intro k hk
    rw [hget]
    by_cases heq : key = k
    · exact ⟨control, if_pos heq⟩
    · rw [hseen, List.mem_append] at hk
      rw [if_neg heq]
      exact hst.seen k (hk.resolve_right fun hnew => heq (List.mem_singleton.mp hnew).symm)
  · intro k k' c c' hc hc' hid
    rw [hget] at hc hc'
    split at hc
    case isTrue hk =>
      split at hc'
      case isTrue hk' => exact hk.symm.trans hk'
      case isFalse hk' =>
        rw [← Option.some.inj hc] at hid
        exact hk.symm.trans (hw.alone k' c' hc' hid.symm).symm
    case isFalse hk =>
      split at hc'
      case isTrue hk' =>
        rw [← Option.some.inj hc'] at hid
        exact (hw.alone k c hc hid).trans hk'
      case isFalse hk' => exact hst.distinct k k' c c' hc hc' hid

theorem loaded_turn {t : Tables} {headers : List Text} {st st' : Loading} {idx : Nat} {row : Row}
    (hst : Loaded t st) (hturn : Turn env t.controls headers st idx row st') : Loaded t st' := by
  cases hturn with
  | skipped hrow hcontrols hmappings hnext hseen =>
    constructor <;> simp only [hcontrols, hseen, hnext]
    exacts [hst.kept, hst.made, hst.fresh, hst.seen, hst.distinct, hst.grown]
  | loaded identifier content control hrow hcontent hup hcontrols hmappings hseen =>
    exact hst.write (writes_of_upsert hst hup) hcontrols hseen

theorem loadRows_cons_eq_ok {existing : Dict Text Control} {headers : List Text}
    {st st' : Loading} {idx : Nat} {row : Row} {rows : List Row}
    (h : loadRows env existing headers st idx (row :: rows) = .ok st') :
    ∃ mid, Turn env existing headers st idx row mid ∧
      loadRows env existing headers mid (idx + 1) rows = .ok st' := by
  rw [loadRows] at h
  cases hrow : loadRow env existing headers st idx row with
  | error e =>
    rw [hrow] at h
    cases h
  | ok mid =>
    rw [hrow] at h
    exact ⟨mid, turn_of_loadRow hrow, h⟩

theorem loaded_rows {t : Tables} {headers : List Text} {rows : List Row} :
    ∀ {st st' : Loading} {idx : Nat}, Loaded t st →
      loadRows env t.controls headers st idx rows = .ok st' → Loaded t st' := by
  induction rows with
  | nil =>
    intro st st' idx hst h
    exact Except.ok.inj h ▸ hst
  | cons row rows ih =>
    intro st st' idx hst h
    obtain ⟨mid, hturn, hrest⟩ := loadRows_cons_eq_ok h
    exact ih (loaded_turn hst hturn) hrest

/-! ## Keys -/

def keysFrom (headers : List Text) : List Text → Nat → List Row → List (Option Text)
  | _, _, [] => []
  | seen, idx, row :: rows =>
    let key := (rowIdentifier headers row).map (rowKey seen idx)
    key :: keysFrom headers (seen ++ key.toList) (idx + 1) rows

def Sheet.keys (sheet : Sheet) : List (Option Text) := keysFrom sheet.headers [] 1 sheet.rows

theorem turn_seen {existing : Dict Text Control} {headers : List Text} {st st' : Loading}
    {idx : Nat} {row : Row} (h : Turn env existing headers st idx row st') :
    st'.seen = st.seen ++ ((rowIdentifier headers row).map (rowKey st.seen idx)).toList := by
  cases h with
  | skipped hrow _ _ _ hseen =>
    rw [hseen, hrow]
    exact (List.append_nil _).symm
  | loaded identifier _ _ hrow _ _ _ _ hseen =>
    rw [hseen, hrow]
    rfl

theorem loadRows_seen {existing : Dict Text Control} {headers : List Text} {rows : List Row} :
    ∀ {st st' : Loading} {idx : Nat}, loadRows env existing headers st idx rows = .ok st' →
      st'.seen = st.seen ++ (keysFrom headers st.seen idx rows).reduceOption := by
  induction rows with
  | nil =>
    intro st st' idx h
    rw [← Except.ok.inj h]
    exact (List.append_nil _).symm
  | cons row rows ih =>
    intro st st' idx h
    obtain ⟨mid, hturn, hrest⟩ := loadRows_cons_eq_ok h
    rw [ih hrest, turn_seen hturn, keysFrom, List.append_assoc]
    cases (rowIdentifier headers row).map (rowKey st.seen idx) with
    | none => rw [List.reduceOption_cons_of_none]; rfl
    | some key => rw [List.reduceOption_cons_of_some]; rfl

/-! ## A whole run -/

theorem map_setNull {deleted : List Nat} {references : List (Option Nat)}
    (h : ∀ id ∈ deleted, some id ∉ references) : references.map (setNull deleted) = references := by
  induction references with
  | nil => rfl
  | cons reference references ih =>
    rw [List.map_cons, ih fun id hid hin => h id hid (List.mem_cons_of_mem _ hin)]
    congr 1
    cases reference with
    | none => rfl
    | some id =>
      refine if_neg fun hid => h id hid List.mem_cons_self

/-- What a run of `_ingest_assessment` does to the tables. -/
structure Ingested (t : Tables) (sheet : Sheet) (t' : Tables) : Prop where
  sound : t'.Sound
  ids : ∀ k c c', t.controls.get? k = some c → t'.controls.get? k = some c' → c'.id = c.id
  made : ∀ k c, t'.controls.get? k = some c → t.controls.get? k = none → t.nextId ≤ c.id
  held : ∀ k c, t.controls.get? k = some c → c.id ∈ t.referenced →
    ∃ c', t'.controls.get? k = some c' ∧ c'.id = c.id
  implementations : t'.implementations = t.implementations
  poams : t'.poams = t.poams
  risks : t'.risks = t.risks
  keys : ∀ key, some key ∈ sheet.keys → ∃ c, t'.controls.get? key = some c

theorem retire_references (existing : Dict Text Control) (seen : List Text) (t : Tables) :
    (retireAbsentControls existing seen t).poams = t.poams ∧
      (retireAbsentControls existing seen t).risks = t.risks := by
  have hdeleted : ∀ id ∈ ((t.controls.filter fun k c =>
      retired existing seen t k c).items.map fun q => q.2.id), id ∉ t.referenced := by
    intro id hid
    obtain ⟨q, hq, rfl⟩ := List.mem_map.mp hid
    have hretired : retired existing seen t q.1 q.2 = true := (List.mem_filter.mp hq).2
    unfold retired at hretired
    rw [Bool.and_eq_true, decide_eq_true_iff] at hretired
    exact hretired.2
  constructor
  · refine map_setNull fun id hid hin => hdeleted id hid ?_
    exact List.mem_append_left _ (List.mem_append_right _ (List.reduceOption_mem_iff.mpr hin))
  · refine map_setNull fun id hid hin => hdeleted id hid ?_
    exact List.mem_append_right _ (List.reduceOption_mem_iff.mpr hin)

theorem retire_get? {existing : Dict Text Control} {seen : List Text} {t : Tables} {k : Text}
    {c : Control} : (retireAbsentControls existing seen t).controls.get? k = some c ↔
      t.controls.get? k = some c ∧
        ((existing.get? k).isSome → k ∉ seen → c.id ∈ t.referenced) := by
  unfold retireAbsentControls
  rw [Dict.get?_filter_eq_some]
  refine and_congr_right fun _ => ?_
  show (!retired existing seen t k c) = true ↔ _
  unfold retired
  cases hold : (existing.get? k).isSome <;> by_cases hseen : k ∈ seen <;>
    by_cases href : c.id ∈ t.referenced <;> simp [hseen, href]

theorem ingest_eq_ok {t t' : Tables} {sheet : Sheet} (h : ingestAssessment env t sheet = .ok t') :
    ∃ st, loadRows env t.controls sheet.headers t.begin 1 sheet.rows = .ok st ∧
      t' = retireAbsentControls t.controls st.seen
        { t with controls := st.controls, mappings := st.mappings, nextId := st.nextId } := by
  unfold ingestAssessment at h
  cases hcontract : env.contract sheet.headers with
  | error e =>
    rw [hcontract] at h
    cases h
  | ok u =>
    rw [hcontract] at h
    change (loadRows env t.controls sheet.headers t.begin 1 sheet.rows >>= _) = _ at h
    cases hrows : loadRows env t.controls sheet.headers t.begin 1 sheet.rows with
    | error e =>
      rw [hrows] at h
      cases h
    | ok st =>
      rw [hrows] at h
      exact ⟨st, rfl, (Except.ok.inj h).symm⟩

theorem ingested {t t' : Tables} {sheet : Sheet} (ht : t.Sound)
    (h : ingestAssessment env t sheet = .ok t') : Ingested t sheet t' := by
  obtain ⟨st, hrows, rfl⟩ := ingest_eq_ok h
  have hst := loaded_rows (loaded_begin ht) hrows
  have hseen : st.seen = sheet.keys.reduceOption := loadRows_seen hrows
  have hrefs := retire_references t.controls st.seen
    { t with controls := st.controls, mappings := st.mappings, nextId := st.nextId }
  have hheld : ∀ k c, t.controls.get? k = some c → c.id ∈ t.referenced →
      ∃ c', (retireAbsentControls t.controls st.seen
        { t with controls := st.controls, mappings := st.mappings,
                 nextId := st.nextId }).controls.get? k = some c' ∧ c'.id = c.id := by
    intro k c hc href
    obtain ⟨c', hc', hid, -⟩ := hst.kept k c hc
    exact ⟨c', retire_get?.mpr ⟨hc', fun _ _ => hid ▸ href⟩, hid⟩
  refine ⟨⟨?_, ?_, ?_⟩, ?_, ?_, hheld, rfl, hrefs.1, hrefs.2, ?_⟩
  · intro k k' c c' hc hc' hid
    exact hst.distinct k k' c c' (retire_get?.mp hc).1 (retire_get?.mp hc').1 hid
  · exact fun k c hc => hst.fresh k c (retire_get?.mp hc).1
  · intro id hid
    have hid : id ∈ t.referenced := by
      unfold Tables.referenced at hid ⊢
      rw [hrefs.1, hrefs.2] at hid
      exact hid
    obtain ⟨k, c, hc, rfl⟩ := ht.references id hid
    obtain ⟨c', hc', hsame⟩ := hheld k c hc hid
    exact ⟨k, c', hc', hsame⟩
  · intro k c c' hc hc'
    obtain ⟨d, hd, hid, -⟩ := hst.kept k c hc
    rw [← Option.some.inj (hd.symm.trans (retire_get?.mp hc').1)]
    exact hid
  · exact fun k c hc hnone => (hst.made k c (retire_get?.mp hc).1 hnone).2
  · intro key hkey
    have hin : key ∈ st.seen := hseen ▸ List.reduceOption_mem_iff.mpr hkey
    obtain ⟨c, hc⟩ := hst.seen key hin
    exact ⟨c, retire_get?.mpr ⟨hc, fun _ hnot => absurd hin hnot⟩⟩

/-! ## The same sheet again -/

theorem id_kept_turn {t : Tables} {headers : List Text} {st st' : Loading} {idx : Nat} {row : Row}
    (hst : Loaded t st) (hturn : Turn env t.controls headers st idx row st') {k : Text}
    {c : Control} (hc : st.controls.get? k = some c) :
    ∃ c', st'.controls.get? k = some c' ∧ c'.id = c.id := by
  cases hturn with
  | skipped hrow hcontrols hmappings hnext hseen => exact ⟨c, by rw [hcontrols, hc], rfl⟩
  | loaded identifier content control hrow hcontent hup hcontrols hmappings hseen =>
    rw [hcontrols, Dict.get?_set]
    by_cases hk : rowKey st.seen idx identifier = k
    · exact ⟨control, if_pos hk, (writes_of_upsert hst hup).kept c (hk ▸ hc)⟩
    · exact ⟨c, by rw [if_neg hk, hc], rfl⟩

theorem id_kept_rows {t : Tables} {headers : List Text} {rows : List Row} :
    ∀ {st st' : Loading} {idx : Nat}, Loaded t st →
      loadRows env t.controls headers st idx rows = .ok st' →
      ∀ {k : Text} {c : Control}, st.controls.get? k = some c →
        ∃ c', st'.controls.get? k = some c' ∧ c'.id = c.id := by
  induction rows with
  | nil =>
    intro st st' idx hst h k c hc
    exact ⟨c, Except.ok.inj h ▸ hc, rfl⟩
  | cons row rows ih =>
    intro st st' idx hst h k c hc
    obtain ⟨mid, hturn, hrest⟩ := loadRows_cons_eq_ok h
    obtain ⟨d, hd, hid⟩ := id_kept_turn hst hturn hc
    obtain ⟨c', hc', hid'⟩ := ih (loaded_turn hst hturn) hrest hd
    exact ⟨c', hc', hid'.trans hid⟩

/-- The second run, beside the first: what has been loaded again is as it was loaded, and the rest
as the first run left it. -/
structure Again (left : Dict Text Control) (st st₂ : Loading) : Prop where
  seen : st₂.seen = st.seen
  mappings : st₂.mappings = st.mappings
  loaded : ∀ k ∈ st.seen, st₂.controls.get? k = st.controls.get? k
  rest : ∀ k, k ∉ st.seen → st₂.controls.get? k = left.get? k

theorem again_turn {left existing : Dict Text Control} {headers : List Text}
    {st st' st₂ st₂' : Loading} {idx : Nat} {row : Row} (hrel : Again left st st₂)
    (hfirst : Turn env existing headers st idx row st')
    (hsecond : Turn env left headers st₂ idx row st₂')
    (hleft : ∀ k ∈ st'.seen, ∀ c, st'.controls.get? k = some c →
      ∃ d, left.get? k = some d ∧ d.id = c.id) : Again left st' st₂' := by
  cases hfirst with
  | skipped hrow hcontrols hmappings hnext hseen =>
    cases hsecond with
    | loaded identifier content control hrow' => rw [hrow] at hrow'; cases hrow'
    | skipped hrow' hcontrols' hmappings' hnext' hseen' =>
      constructor <;> simp only [hcontrols, hcontrols', hmappings, hmappings', hseen, hseen']
      exacts [hrel.seen, hrel.mappings, hrel.loaded, hrel.rest]
  | loaded identifier content control hrow hcontent hup hcontrols hmappings hseen =>
    cases hsecond with
    | skipped hrow' => rw [hrow] at hrow'; cases hrow'
    | loaded identifier' content' control' hrow' hcontent' hup' hcontrols' hmappings' hseen' =>
      obtain rfl : identifier = identifier' := Option.some.inj (hrow.symm.trans hrow')
      obtain rfl : content = content' := Except.ok.inj (hcontent.symm.trans hcontent')
      rw [hrel.seen] at hup' hcontrols' hseen'
      generalize rowKey st.seen idx identifier = key at *
      have hself : st'.controls.get? key = some control := by
        rw [hcontrols, Dict.get?_set, if_pos rfl]
      obtain ⟨d, hd, hid⟩ := hleft key (hseen ▸ List.mem_append_right _
        (List.mem_singleton_self key)) control hself
      -- both runs write the same content under the id that the key has
      have hsame : control' = control := by
        obtain ⟨hcontent', hcase⟩ := upsert_eq_ok hup'
        obtain ⟨hcontent, -⟩ := upsert_eq_ok hup
        rcases hcase with ⟨d', hd', hid', -⟩ | ⟨hnone, -⟩
        · rw [← Option.some.inj (hd.symm.trans hd'), hid] at hid'
          show Control.mk control'.id control'.content = Control.mk control.id control.content
          rw [hid', hcontent', hcontent]
        · rw [hd] at hnone
          cases hnone
      rw [hsame] at hcontrols' hmappings'
      refine ⟨?_, ?_, fun k hk => ?_, fun k hk => ?_⟩
      · rw [hseen, hseen']
      · rw [hmappings, hmappings', hrel.mappings]
      · rw [hcontrols, hcontrols', Dict.get?_set, Dict.get?_set]
        by_cases hkey : key = k
        · rw [if_pos hkey, if_pos hkey]
        · rw [if_neg hkey, if_neg hkey]
          rw [hseen] at hk
          refine hrel.loaded k ((List.mem_append.mp hk).resolve_right fun hin => ?_)
          exact hkey (List.mem_singleton.mp hin).symm
      · rw [hseen, List.mem_append, not_or] at hk
        rw [hcontrols', Dict.get?_set, if_neg fun hkey => hk.2 (List.mem_singleton.mpr hkey.symm)]
        exact hrel.rest k hk.1

theorem seen_begins {existing : Dict Text Control} {headers : List Text} {rows : List Row}
    {st st' : Loading} {idx : Nat} (h : loadRows env existing headers st idx rows = .ok st') :
    ∀ k ∈ st.seen, k ∈ st'.seen := by
  intro k hk
  rw [loadRows_seen h]
  exact List.mem_append_left _ hk

theorem again_rows {t : Tables} {left : Dict Text Control} {headers : List Text} {final : Loading}
    {rows : List Row}
    (hleft : ∀ k ∈ final.seen, left.get? k = final.controls.get? k) :
    ∀ {st st₂ final₂ : Loading} {idx : Nat}, Loaded t st → Again left st st₂ →
      loadRows env t.controls headers st idx rows = .ok final →
      loadRows env left headers st₂ idx rows = .ok final₂ → Again left final final₂ := by
  induction rows with
  | nil =>
    intro st st₂ final₂ idx _ hrel h h₂
    exact Except.ok.inj h ▸ Except.ok.inj h₂ ▸ hrel
  | cons row rows ih =>
    intro st st₂ final₂ idx hst hrel h h₂
    obtain ⟨mid, hturn, hrest⟩ := loadRows_cons_eq_ok h
    obtain ⟨mid₂, hturn₂, hrest₂⟩ := loadRows_cons_eq_ok h₂
    have hmid := loaded_turn hst hturn
    refine ih hmid (again_turn hrel hturn hturn₂ fun k hk c hc => ?_) hrest hrest₂
    obtain ⟨d, hd, hid⟩ := id_kept_rows hmid hrest hc
    exact ⟨d, (hleft k (seen_begins hrest k hk)).trans hd, hid⟩

/-- The tables hold the same controls and the same mappings. -/
structure SameTables (t t' : Tables) : Prop where
  controls : ∀ k, t'.controls.get? k = t.controls.get? k
  mappings : t'.mappings = t.mappings

/-- **A sheet that is ingested again changes nothing.** -/
theorem ingest_again {t t₁ t₂ : Tables} {sheet : Sheet} (ht : t.Sound)
    (h : ingestAssessment env t sheet = .ok t₁) (h' : ingestAssessment env t₁ sheet = .ok t₂) :
    SameTables t₁ t₂ := by
  obtain ⟨final, hrows, rfl⟩ := ingest_eq_ok h
  obtain ⟨final₂, hrows₂, rfl⟩ := ingest_eq_ok h'
  have hfinal := loaded_rows (loaded_begin ht) hrows
  -- the two loads run beside each other, the second from what the first left
  have hrefs := retire_references t.controls final.seen
    { t with controls := final.controls, mappings := final.mappings, nextId := final.nextId }
  generalize hleft : retireAbsentControls t.controls final.seen
    { t with controls := final.controls, mappings := final.mappings, nextId := final.nextId } = left
    at *
  have hget : ∀ k c, left.controls.get? k = some c ↔ final.controls.get? k = some c ∧
      ((t.controls.get? k).isSome → k ∉ final.seen → c.id ∈ t.referenced) := by
    intro k c
    rw [← hleft]
    exact retire_get?
  have hseen : ∀ k ∈ final.seen, left.controls.get? k = final.controls.get? k := by
    intro k hk
    refine Option.ext fun c => (hget k c).trans ⟨And.left, fun hc => ⟨hc, fun _ hnot => ?_⟩⟩
    exact absurd hk hnot
  have hsame : left.referenced = t.referenced := by
    unfold Tables.referenced
    rw [hrefs.1, hrefs.2, ← hleft]
    rfl
  have hbegin : Again left.controls t.begin left.begin :=
    ⟨rfl, rfl, fun _ hk => absurd hk List.not_mem_nil, fun _ _ => rfl⟩
  have hrel := again_rows hseen (loaded_begin ht) hbegin hrows hrows₂
  have hall : ∀ k, final₂.controls.get? k = left.controls.get? k := by
    intro k
    by_cases hk : k ∈ final.seen
    · exact (hrel.loaded k hk).trans (hseen k hk).symm
    · exact hrel.rest k hk
  refine ⟨fun k => Option.ext fun c => retire_get?.trans ?_, ?_⟩
  · show final₂.controls.get? k = some c ∧ _ ↔ _
    rw [hall, hrel.seen]
    refine ⟨And.left, fun hc => ⟨hc, fun _ hnot => ?_⟩⟩
    -- what the sheet does not have was kept because something refers to it
    obtain ⟨hc', hkept⟩ := (hget k c).mp hc
    show c.id ∈ left.referenced
    rw [hsame]
    refine hkept ?_ hnot
    by_contra hnone
    exact hnot (hfinal.made k c hc' (Option.not_isSome_iff_eq_none.mp hnone)).1
  · show final₂.mappings = left.mappings
    rw [hrel.mappings, ← hleft]
    rfl

/-! ## Edits of the sheet -/

/-- What an edit does with a row. -/
inductive Change
  | kept | deleted | inserted
  deriving DecidableEq

/-- An edit: the rows of the sheet before it and after it, in order. -/
abbrev Script := List (Change × Row)

/-- The row is in the sheet of a side: before the edit (`deleted`) or after it (`inserted`). -/
def Change.on (side c : Change) : Bool := c = .kept || c = side

def Script.rows (side : Change) (script : Script) : List Row :=
  (script.filter fun e => side.on e.1).map Prod.snd

/-- The keys of the rows of a side, with what the edit does to them. -/
def Script.keys (headers : List Text) (side : Change) :
    List Text → Nat → Script → List (Change × Option Text)
  | _, _, [] => []
  | seen, idx, (c, row) :: rest =>
    if side.on c then
      let key := (rowIdentifier headers row).map (rowKey seen idx)
      (c, key) :: Script.keys headers side (seen ++ key.toList) (idx + 1) rest
    else Script.keys headers side seen idx rest

def keptKeys (keys : List (Change × Option Text)) : List (Option Text) :=
  (keys.filter fun e => e.1 = .kept).map Prod.snd

def changedKeys (keys : List (Change × Option Text)) : List Text :=
  ((keys.filter fun e => e.1 ≠ .kept).map Prod.snd).reduceOption

def Script.identifiers (headers : List Text) (script : Script) : List Text :=
  ((script.filter fun e => e.1 = .kept).map fun e => rowIdentifier headers e.2).reduceOption

/-- A row that repeats an identifier, in the sheet before the edit, has the same number after it.
`seen` and `i` are of the sheet before the edit, `j` counts the rows after it. -/
def Script.Steady (headers : List Text) : List Text → Nat → Nat → Script → Prop
  | _, _, _, [] => True
  | seen, i, j, (.kept, row) :: rest =>
    (∀ x, rowIdentifier headers row = some x → x ∈ seen → i = j) ∧
      Script.Steady headers (seen ++ ((rowIdentifier headers row).map (rowKey seen i)).toList)
        (i + 1) (j + 1) rest
  | seen, i, j, (.deleted, row) :: rest =>
    Script.Steady headers (seen ++ ((rowIdentifier headers row).map (rowKey seen i)).toList)
      (i + 1) j rest
  | seen, i, j, (.inserted, _) :: rest => Script.Steady headers seen i (j + 1) rest

theorem rows_cons (side c : Change) (row : Row) (script : Script) :
    Script.rows side ((c, row) :: script) =
      if side.on c then row :: Script.rows side script else Script.rows side script := by
  unfold Script.rows
  rw [List.filter_cons]
  show List.map Prod.snd (if side.on c = true then _ else _) = _
  split <;> rfl

theorem map_snd_keys (headers : List Text) (side : Change) (script : Script) :
    ∀ (seen : List Text) (idx : Nat), (script.keys headers side seen idx).map Prod.snd =
      keysFrom headers seen idx (script.rows side) := by
  induction script with
  | nil => exact fun _ _ => rfl
  | cons e script ih =>
    intro seen idx
    obtain ⟨c, row⟩ := e
    rw [rows_cons, Script.keys]
    split
    · rw [keysFrom, List.map_cons, ih]
    · exact ih seen idx

theorem rowKey_eq_iff {seen seen' : List Text} {i j : Nat} {x : Text}
    (h : x ∈ seen ↔ x ∈ seen') : rowKey seen i x = rowKey seen' j x ↔ (x ∈ seen → i = j) := by
  unfold rowKey
  by_cases hx : x ∈ seen
  · rw [if_pos hx, if_pos (h.mp hx)]
    constructor
    · intro heq _
      exact natText_injective (List.append_cancel_left heq)
    · intro hij
      rw [hij hx]
  · rw [if_neg hx, if_neg fun hx' => hx (h.mpr hx')]
    exact ⟨fun _ hin => absurd hin hx, fun _ => rfl⟩

section

variable {headers : List Text} {row : Row} {script : Script} {seen : List Text} {idx : Nat}
  {side : Change}

theorem identifiers_kept : Script.identifiers headers ((.kept, row) :: script) =
    (rowIdentifier headers row).toList ++ script.identifiers headers := by
  show (rowIdentifier headers row :: _).reduceOption = _ ++ List.reduceOption _
  cases rowIdentifier headers row with
  | none => rw [List.reduceOption_cons_of_none]; rfl
  | some x => rw [List.reduceOption_cons_of_some]; rfl

theorem identifiers_changed {c : Change} (h : c ≠ .kept) :
    Script.identifiers headers ((c, row) :: script) = script.identifiers headers := by
  cases c with
  | kept => exact absurd rfl h
  | deleted => rfl
  | inserted => rfl

theorem keys_kept : Script.keys headers side seen idx ((.kept, row) :: script) =
    (.kept, (rowIdentifier headers row).map (rowKey seen idx)) ::
      script.keys headers side
        (seen ++ ((rowIdentifier headers row).map (rowKey seen idx)).toList) (idx + 1) := rfl

theorem keys_changed (h : side ≠ .kept) :
    Script.keys headers side seen idx ((side, row) :: script) =
      (side, (rowIdentifier headers row).map (rowKey seen idx)) ::
        script.keys headers side
          (seen ++ ((rowIdentifier headers row).map (rowKey seen idx)).toList) (idx + 1) := by
  cases side with
  | kept => exact absurd rfl h
  | deleted => rfl
  | inserted => rfl

theorem keptKeys_kept {key : Option Text} {keys : List (Change × Option Text)} :
    keptKeys ((.kept, key) :: keys) = key :: keptKeys keys := rfl

theorem changedKeys_kept {key : Option Text} {keys : List (Change × Option Text)} :
    changedKeys ((.kept, key) :: keys) = changedKeys keys := rfl

theorem keptKeys_changed {c : Change} (h : c ≠ .kept) {key : Option Text}
    {keys : List (Change × Option Text)} : keptKeys ((c, key) :: keys) = keptKeys keys := by
  cases c with
  | kept => exact absurd rfl h
  | deleted => rfl
  | inserted => rfl

theorem mem_changedKeys {c : Change} (h : c ≠ .kept) {key : Option Text}
    {keys : List (Change × Option Text)} {x : Text} :
    x ∈ changedKeys ((c, key) :: keys) ↔ x ∈ key.toList ∨ x ∈ changedKeys keys := by
  have hcons : changedKeys ((c, key) :: keys) =
      (key :: (keys.filter fun e => e.1 ≠ .kept).map Prod.snd).reduceOption := by
    cases c with
    | kept => exact absurd rfl h
    | deleted => rfl
    | inserted => rfl
  rw [hcons, changedKeys, List.reduceOption_mem_iff, List.reduceOption_mem_iff, List.mem_cons,
    Option.mem_toList]
  exact or_congr eq_comm Iff.rfl

end

/-- The rows that stay have the same keys before and after an edit of rows whose keys are none of
their identifiers, if and only if each that repeats an identifier has the same number. -/
theorem keptKeys_eq_iff {headers : List Text} {script : Script} :
    ∀ {seen seen' : List Text} {i j : Nat},
      (∀ x ∈ script.identifiers headers, x ∈ seen ↔ x ∈ seen') →
      (∀ x ∈ script.identifiers headers,
        x ∉ changedKeys (script.keys headers .deleted seen i) ∧
          x ∉ changedKeys (script.keys headers .inserted seen' j)) →
      (keptKeys (script.keys headers .deleted seen i) =
          keptKeys (script.keys headers .inserted seen' j) ↔
        script.Steady headers seen i j) := by
  induction script with
  | nil => exact fun _ _ => iff_of_true rfl trivial
  | cons e script ih =>
    intro seen seen' i j hagree hunrelated
    obtain ⟨c, row⟩ := e
    cases c with
    | kept =>
      rw [identifiers_kept] at hagree hunrelated
      rw [keys_kept, keys_kept] at *
      simp only [changedKeys_kept] at hunrelated
      rw [keptKeys_kept, keptKeys_kept, List.cons.injEq, Script.Steady]
      cases hrow : rowIdentifier headers row with
      | none =>
        rw [hrow] at hagree hunrelated
        refine and_congr ?_ (ih (fun x hx => ?_) hunrelated)
        · exact iff_of_true rfl fun x hx => by cases hx
        · simpa using hagree x hx
      | some x =>
        rw [hrow] at hagree hunrelated
        have hx := hagree x (List.mem_append_left _ (List.mem_singleton_self x))
        have hkey : some (rowKey seen i x) = some (rowKey seen' j x) ↔
            ∀ y, some x = some y → y ∈ seen → i = j := by
          rw [Option.some.injEq, rowKey_eq_iff hx]
          exact ⟨fun h y hy => Option.some.inj hy ▸ h, fun h => h x rfl⟩
        show some (rowKey seen i x) = some (rowKey seen' j x) ∧ _ ↔ _
        rw [hkey]
        refine and_congr_right fun hcond => ih (fun y hy => ?_) fun y hy => ?_
        · -- the row has one key on both sides
          have hsame := Option.some.inj (hkey.mpr hcond)
          show y ∈ seen ++ [rowKey seen i x] ↔ y ∈ seen' ++ [rowKey seen' j x]
          rw [List.mem_append, List.mem_append, hagree y (List.mem_append_right _ hy), hsame]
        · exact hunrelated y (List.mem_append_right _ hy)
    | deleted =>
      rw [identifiers_changed (by decide)] at hagree hunrelated
      rw [keys_changed (by decide)] at *
      rw [keptKeys_changed (by decide)]
      refine ih (fun x hx => ?_) fun x hx => ⟨fun hin => ?_, (hunrelated x hx).2⟩
      · rw [List.mem_append, ← hagree x hx]
        have hnot := fun hin => (hunrelated x hx).1 ((mem_changedKeys (by decide)).mpr (.inl hin))
        exact ⟨fun h => h.resolve_right hnot, .inl⟩
      · exact (hunrelated x hx).1 ((mem_changedKeys (by decide)).mpr (.inr hin))
    | inserted =>
      rw [identifiers_changed (by decide)] at hagree hunrelated
      have hkeys : Script.keys headers .inserted seen' j ((.inserted, row) :: script) = _ :=
        keys_changed (by decide)
      rw [hkeys] at *
      rw [keptKeys_changed (by decide)]
      refine ih (fun x hx => ?_) fun x hx => ⟨(hunrelated x hx).1, fun hin => ?_⟩
      · rw [List.mem_append, hagree x hx]
        have hnot := fun hin => (hunrelated x hx).2 ((mem_changedKeys (by decide)).mpr (.inl hin))
        exact ⟨.inl, fun h => h.resolve_right hnot⟩
      · exact (hunrelated x hx).2 ((mem_changedKeys (by decide)).mpr (.inr hin))

/-! ## Identity -/

def rowControl (t : Tables) (key : Option Text) : Option Nat :=
  key.bind fun k => (t.controls.get? k).map Control.id

theorem rowControl_eq_iff {t t' : Tables} {sheet : Sheet} (ht : t.Sound)
    (h : Ingested t sheet t') {a b : Option Text}
    (ha : ∀ k, a = some k → ∃ c, t.controls.get? k = some c)
    (hb : ∀ k, b = some k → ∃ c, t'.controls.get? k = some c) :
    rowControl t a = rowControl t' b ↔ a = b := by
  cases a with
  | none =>
    cases b with
    | none => exact iff_of_true rfl rfl
    | some k' =>
      obtain ⟨c', hc'⟩ := hb k' rfl
      refine iff_of_false (fun heq => ?_) (fun heq => by cases heq)
      rw [rowControl, rowControl, Option.bind_some, hc'] at heq
      cases heq
  | some k =>
    obtain ⟨c, hc⟩ := ha k rfl
    cases b with
    | none =>
      refine iff_of_false (fun heq => ?_) (fun heq => by cases heq)
      rw [rowControl, rowControl, Option.bind_some, hc] at heq
      cases heq
    | some k' =>
      obtain ⟨c', hc'⟩ := hb k' rfl
      rw [rowControl, rowControl, Option.bind_some, Option.bind_some, hc, hc', Option.map_some,
        Option.map_some, Option.some.injEq, Option.some.injEq]
      constructor
      · intro hid
        cases hold : t.controls.get? k' with
        | some d =>
          have hsame := h.ids k' d c' hold hc'
          exact ht.distinct k k' c d hc hold (hid.trans hsame)
        | none =>
          -- a new control has an id that none had before
          have hnew := h.made k' c' hc' hold
          have hfresh := ht.fresh k c hc
          omega
      · rintro rfl
        exact (h.ids k c c' hc hc').symm

theorem map_rowControl_eq_iff {t t' : Tables} {sheet : Sheet} (ht : t.Sound)
    (h : Ingested t sheet t') {keys : List (Option Text)} :
    ∀ {keys' : List (Option Text)}, (∀ k, some k ∈ keys → ∃ c, t.controls.get? k = some c) →
      (∀ k, some k ∈ keys' → ∃ c, t'.controls.get? k = some c) →
      (keys.map (rowControl t) = keys'.map (rowControl t') ↔ keys = keys') := by
  induction keys with
  | nil =>
    intro keys' _ _
    cases keys' with
    | nil => exact iff_of_true rfl rfl
    | cons b keys' => exact iff_of_false (fun heq => by cases heq) (fun heq => by cases heq)
  | cons a keys ih =>
    intro keys' hkeys hkeys'
    cases keys' with
    | nil => exact iff_of_false (fun heq => by cases heq) (fun heq => by cases heq)
    | cons b keys' =>
      rw [List.map_cons, List.map_cons, List.cons.injEq, List.cons.injEq]
      refine and_congr (rowControl_eq_iff ht h (fun k hk => ?_) fun k hk => ?_)
        (ih (fun k hk => hkeys k (List.mem_cons_of_mem a hk))
          fun k hk => hkeys' k (List.mem_cons_of_mem b hk))
      · exact hkeys k (hk ▸ List.mem_cons_self)
      · exact hkeys' k (hk ▸ List.mem_cons_self)

/-- A key that is there before and after keeps its id. -/
def IdsKept (t t' : Tables) : Prop :=
  ∀ k c c', t.controls.get? k = some c → t'.controls.get? k = some c' → c'.id = c.id

/-- No reference is cut, and each is to the control of the key it was to. -/
structure ReferencesKept (t t' : Tables) : Prop where
  implementations : t'.implementations = t.implementations
  poams : t'.poams = t.poams
  risks : t'.risks = t.risks
  held : ∀ k c, t.controls.get? k = some c → c.id ∈ t.referenced →
    ∃ c', t'.controls.get? k = some c' ∧ c'.id = c.id

def Script.sheet (header : Row) (side : Change) (script : Script) : Sheet :=
  ⟨header, script.rows side⟩

/-- The keys of the rows that stay, on a side of the edit. -/
def Script.rowKeys (header : Row) (side : Change) (script : Script) : List (Option Text) :=
  keptKeys (script.keys (script.sheet header side).headers side [] 1)

/-- The edit is of other rows: no key of a row that does not stay is an identifier of one that
does. -/
def Script.Unrelated (header : Row) (script : Script) : Prop :=
  let headers := (script.sheet header .kept).headers
  ∀ x ∈ script.identifiers headers,
    x ∉ changedKeys (script.keys headers .deleted [] 1) ∧
      x ∉ changedKeys (script.keys headers .inserted [] 1)

/-- The tables after a sheet is ingested once more. -/
def Tables.again (env : Workbench) (t : Tables) (sheet : Sheet) : Tables :=
  (ingestAssessment env t sheet).toOption.getD t

/-- What is promised of a sheet that is ingested (from `t` to `t₁`), edited, and ingested again
(to `t₂`). -/
structure Preserved (env : Workbench) (header : Row) (script : Script) (t t₁ t₂ : Tables) :
    Prop where
  ids : IdsKept t t₁ ∧ IdsKept t₁ t₂
  references : ReferencesKept t t₁ ∧ ReferencesKept t₁ t₂
  again : SameTables t₁ (t₁.again env (script.sheet header .deleted)) ∧
    SameTables t₂ (t₂.again env (script.sheet header .inserted))
  rows : (script.rowKeys header .deleted).map (rowControl t₁) =
    (script.rowKeys header .inserted).map (rowControl t₂)

theorem Ingested.references {t t' : Tables} {sheet : Sheet} (h : Ingested t sheet t') :
    ReferencesKept t t' := ⟨h.implementations, h.poams, h.risks, h.held⟩

theorem sameTables_again {t t₁ : Tables} {sheet : Sheet} (ht : t.Sound)
    (h : ingestAssessment env t sheet = .ok t₁) : SameTables t₁ (t₁.again env sheet) := by
  unfold Tables.again
  cases hagain : ingestAssessment env t₁ sheet with
  | error e => exact ⟨fun _ => rfl, rfl⟩
  | ok t₂ => exact ingest_again ht h hagain

theorem rowKeys_present {t t' : Tables} {header : Row} {side : Change} {script : Script}
    (h : Ingested t (script.sheet header side) t') :
    ∀ k, some k ∈ script.rowKeys header side → ∃ c, t'.controls.get? k = some c := by
  intro k hk
  obtain ⟨e, he, hsnd⟩ := List.mem_map.mp hk
  refine h.keys k ?_
  rw [Sheet.keys, ← hsnd, show (script.sheet header side).rows = script.rows side from rfl,
    ← map_snd_keys]
  exact List.mem_map_of_mem (List.mem_filter.mp he).1

/-- **Identity over edits.** A sheet is ingested, rows are inserted and deleted, and it is
ingested again: ids, references and the tables are kept as promised, and every row that stays
keeps its control, if and only if each of these that repeats an identifier keeps its number. -/
theorem identity_preserved_iff {header : Row} {script : Script} {t t₁ t₂ : Tables}
    (ht : t.Sound) (hunrelated : script.Unrelated header)
    (h : ingestAssessment env t (script.sheet header .deleted) = .ok t₁)
    (h' : ingestAssessment env t₁ (script.sheet header .inserted) = .ok t₂) :
    Preserved env header script t t₁ t₂ ↔
      script.Steady (script.sheet header .kept).headers [] 1 1 := by
  have hfirst := ingested ht h
  have hsecond := ingested hfirst.sound h'
  have hrows := (map_rowControl_eq_iff hfirst.sound hsecond (rowKeys_present hfirst)
    (rowKeys_present hsecond)).trans (keptKeys_eq_iff (fun _ _ => Iff.rfl) hunrelated)
  constructor
  · exact fun hp => hrows.mp hp.rows
  · intro hsteady
    exact ⟨⟨hfirst.ids, hsecond.ids⟩, ⟨hfirst.references, hsecond.references⟩,
      ⟨sameTables_again ht h, sameTables_again hfirst.sound h'⟩, hrows.mpr hsteady⟩

/-! ## A row above a repeated identifier -/

def plainWorkbench : Workbench where
  contract _ := .ok ()
  ensureFamily _ := .ok none
  framework _ := none
  accepts _ _ := true

def noTables : Tables where
  controls := .empty
  mappings := []
  nextId := 1
  implementations := []
  poams := []
  risks := []

theorem noTables_sound : noTables.Sound where
  distinct := by
    intro k k' c c' h
    cases h
  fresh := by
    intro k c h
    cases h
  references := by
    intro id h
    cases h

def identifierHeader : Row := [.str "identifier".toList]

def identified (identifier : Text) : Row := [.str identifier]

def insertAbove : Script :=
  [(.inserted, identified "AC-1".toList), (.kept, identified "AC-2".toList),
    (.kept, identified "AC-2".toList)]

/-- The second of the two rows gets another control. -/
theorem insertAbove_not_preserved :
    ∃ t₁ t₂, ingestAssessment plainWorkbench noTables
        (insertAbove.sheet identifierHeader .deleted) = .ok t₁ ∧
      ingestAssessment plainWorkbench t₁ (insertAbove.sheet identifierHeader .inserted) = .ok t₂ ∧
      insertAbove.Unrelated identifierHeader ∧
      ¬Preserved plainWorkbench identifierHeader insertAbove noTables t₁ t₂ := by
  refine ⟨_, _, rfl, rfl, ?_, fun h => ?_⟩
  · unfold Script.Unrelated
    decide +kernel
  · exact absurd h.rows (by decide +kernel)

def insertBetween : Script :=
  [(.kept, identified "AC-2".toList), (.inserted, identified "AC-3".toList),
    (.kept, identified "AC-4".toList)]

theorem insertBetween_preserved_iff :
    ∃ t₁ t₂, ingestAssessment plainWorkbench noTables
        (insertBetween.sheet identifierHeader .deleted) = .ok t₁ ∧
      ingestAssessment plainWorkbench t₁ (insertBetween.sheet identifierHeader .inserted) = .ok t₂ ∧
      (Preserved plainWorkbench identifierHeader insertBetween noTables t₁ t₂ ↔
        insertBetween.Steady (insertBetween.sheet identifierHeader .kept).headers [] 1 1) := by
  have hunrelated : insertBetween.Unrelated identifierHeader := by
    unfold Script.Unrelated
    decide +kernel
  exact ⟨_, _, rfl, rfl, identity_preserved_iff noTables_sound hunrelated rfl rfl⟩

end Concord.Etl
