import Concord.Governance.Exports

/-!
# Importing what was exported

An import of an exported file finds each row again by its id. Its dates come back as they
were, but `_clean` strips each text, and an empty text or the word `None` comes back as null;
then a risk is scored anew. `roundTrip_iff` is the exact condition, the same in both formats:
each listed row is `Plain`.
-/

namespace Concord.Governance.Datasets

open Concord.Python
open Importer (Row Purpose Summary isNothing)

/-! ## A cell of the file -/

/-- What `_clean` makes of an exported text. -/
def cleaned (value : Option Text) : Option Text :=
  value.bind fun t => if t = [] ∨ t = "None".toList then none else some (strip t)

theorem clean_textCell (py : Interpreter) (fmt : Format) (value : Option Text) :
    py.lib.clean ((textCell value).value fmt) = cleaned value := by
  cases value with
  | none => cases fmt <;> rfl
  | some t =>
    have hstr : py.lib.clean (.str t) = cleaned (some t) := by
      simp only [Importer.Library.clean, isNothing, decide_eq_true_eq]
      rfl
    cases fmt <;> exact hstr

theorem coerceDate_dateCell (py : Interpreter) (fmt : Format) (value : Option Date) :
    py.coerceDate ((dateCell value).value fmt) = .ok value := by
  cases value with
  | none => cases fmt <;> rfl
  | some d =>
    have hsomething : isNothing (.str d.isoformat) = false := by
      refine decide_eq_false fun h => ?_
      rcases h with h | h
      · exact absurd (congrArg List.length h) (by rw [isoformat_length]; decide)
      · exact absurd (congrArg List.length h) (by rw [isoformat_length]; decide)
    have htake : d.isoformat.take 10 = d.isoformat :=
      List.take_of_length_le (Nat.le_of_eq (isoformat_length d))
    have hstr : py.coerceDate (.str d.isoformat) = .ok (some d) := by
      rw [Interpreter.coerceDate, hsomething, if_neg Bool.false_ne_true]
      show ((Date.fromisoformat py.repr (d.isoformat.take 10)).map some) = _
      rw [htake, fromisoformat_isoformat]
      rfl
    cases fmt <;> exact hstr

theorem strip_of_isDigit {s : Text} (h : ∀ c ∈ s, c.isDigit = true) : strip s = s := by
  have hspace : ∀ c : Char, c.isDigit = true → isSpace c = false := by
    intro c hc
    simp only [Char.isDigit, Bool.and_eq_true, decide_eq_true_eq] at hc
    have hlo : 48 ≤ c.toNat := hc.1
    have hhi : c.toNat ≤ 57 := hc.2
    simp only [isSpace, decide_eq_false_iff_not]
    omega
  have hlstrip : ∀ t : Text, (∀ c ∈ t, c.isDigit = true) → lstrip t = t := by
    intro t ht
    cases t with
    | nil => rfl
    | cons c t =>
      exact List.dropWhile_cons_of_neg (by simp [hspace c (ht c List.mem_cons_self)])
  have hreverse : ∀ c ∈ s.reverse, c.isDigit = true := fun c hc => h c (List.mem_reverse.mp hc)
  rw [strip, hlstrip s h, hlstrip _ hreverse, List.reverse_reverse]

theorem decimalValue_digit {c : Char} (h : c.isDigit = true) :
    isDecimal c = true ∧ decimalValue c = c.toNat - '0'.toNat := by
  simp only [Char.isDigit, Bool.and_eq_true, decide_eq_true_eq] at h
  have hlo : 48 ≤ c.toNat := h.1
  have hhi : c.toNat ≤ 57 := h.2
  have hfirst : (decide (48 ≤ c.toNat ∧ c.toNat < 48 + 10)) = true :=
    decide_eq_true ⟨hlo, by omega⟩
  constructor
  · show (decide (48 ≤ c.toNat ∧ c.toNat < 48 + 10) || _) = true
    rw [hfirst, Bool.true_or]
  · have hfind : (decimalZeros.find? fun z => z ≤ c.toNat ∧ c.toNat < z + 10) = some 0x30 :=
      List.find?_cons_of_pos hfirst
    rw [decimalValue, hfind]
    rfl

theorem parseId_natText {n : Nat} (h : n < 2 ^ 31) : parseId (natText n) = .ok (some n) := by
  have hdigit : ∀ c ∈ natText n, c.isDigit = true := isDigit_of_mem_toDigits
  have hdecimal : (natText n).all isDecimal = true :=
    List.all_eq_true.mpr fun c hc => (decimalValue_digit (hdigit c hc)).1
  have hall : (natText n).all isDigit = true := List.all_eq_true.mpr fun c hc => by
    rw [isDigit, (decimalValue_digit (hdigit c hc)).1, Bool.true_or]
  have hne : (natText n).isEmpty = false := by
    rw [List.isEmpty_eq_false_iff]
    exact Nat.toDigits_ne_nil
  have hlength : (natText n).length ≤ 4300 := Nat.le_trans (length_natText h) (by decide)
  have hvalue : (natText n).foldl (fun n c => 10 * n + decimalValue c) 0 = n := by
    calc (natText n).foldl (fun n c => 10 * n + decimalValue c) 0
      _ = (natText n).foldl (fun n c => 10 * n + (c.toNat - '0'.toNat)) 0 :=
        List.foldl_ext _ _ _ fun a c hc => by rw [(decimalValue_digit (hdigit c hc)).2]
      _ = Nat.ofDigitChars 10 (Nat.toDigits 10 n) 0 := Nat.ofDigitChars_eq_foldl.symm
      _ = n := Nat.ofDigitChars_ten_toDigits
  rw [parseId, hne, hall, hdecimal, if_pos hlength, hvalue]
  rfl

theorem isZero_ofNat {n : Nat} (hn : 0 < n) : Importer.isZero (Number.ofNat n) = false := by
  obtain ⟨c, s, hdigits, hc, hzero⟩ := Json.head_toDigits hn
  have hother : c ≠ 'e' ∧ c ≠ '.' ∧ c ≠ '-' := by
    refine ⟨?_, ?_, ?_⟩ <;> (rintro rfl; revert hc; decide)
  rw [Importer.isZero, Number.ofNat_text, hdigits,
    List.takeWhile_cons_of_pos (by simpa using hother.1), List.all_cons]
  simp [hzero, hother]

theorem rawId_value (py : Interpreter) (fmt : Format) {r : Row} {n : Nat} (hn : 0 < n)
    (h : r.get "id" = some ((Cell.int n).value fmt)) : py.lib.rawId r = natText n := by
  have hstrip : strip (natText n) = natText n := strip_of_isDigit isDigit_of_mem_toDigits
  rw [Importer.Library.rawId, h]
  cases fmt with
  | json =>
    have htruthy : Importer.truthy (.num (Number.ofNat n)) = true := by
      rw [Importer.truthy, isZero_ofNat hn]
      rfl
    show (if Importer.truthy (.num (Number.ofNat n)) = true then
      strip (Number.ofNat n).text else []) = _
    rw [if_pos htruthy, Number.ofNat_text]
    exact hstrip
  | csv =>
    have htruthy : Importer.truthy (.str (natText n)) = true := by
      have hne : (natText n).isEmpty = false :=
        List.isEmpty_eq_false_iff.mpr Nat.toDigits_ne_nil
      rw [Importer.truthy, hne]
      rfl
    show (if Importer.truthy (.str (natText n)) = true then strip (natText n) else []) = _
    rw [if_pos htruthy, hstrip]

/-! ## A row of the file -/

section Rows

variable {d : Dataset} {fmt : Format} {e : Entity}

theorem get_map {α : Type} (name : α → String) (value : α → Json) {l : List α} {c : α}
    (hnodup : (l.map fun c => (name c).toList).Nodup) (hc : c ∈ l) :
    Row.get (l.map fun c => ((name c).toList, value c)) (name c) = some (value c) := by
  unfold Importer.Row.get
  induction l with
  | nil => exact absurd hc List.not_mem_nil
  | cons b l ih =>
    rw [List.map_cons, List.nodup_cons] at hnodup
    rw [List.map_cons, List.find?_cons]
    rcases List.mem_cons.mp hc with rfl | hc
    · rw [decide_eq_true rfl]
      rfl
    · have hne : (name b).toList ≠ (name c).toList :=
        fun heq => hnodup.1 (heq ▸ List.mem_map_of_mem hc)
      rw [decide_eq_false hne]
      exact ih hnodup.2 hc

theorem get_fileRow (d : Dataset) (fmt : Format) (e : Entity) {c : Exported}
    (hc : c ∈ d.exported) : (d.fileRow fmt e).get c.name = some ((c.cell e).value fmt) :=
  get_map Exported.name (fun c => (c.cell e).value fmt) (header_nodup d) hc

theorem get_text {f : String} (hf : f ∈ d.spec.textFields) :
    (d.fileRow fmt e).get f = some ((textCell (e.text f)).value fmt) :=
  get_fileRow d fmt e ((text_mem_exported d).1 f hf)

theorem textCell_fileRow (py : Interpreter) {f : String} (hf : f ∈ d.spec.textFields) :
    py.textCell (d.fileRow fmt e) f = some (cleaned (e.text f)) := by
  rw [Interpreter.textCell, get_text hf]
  exact congrArg some (clean_textCell py fmt _)

theorem dateCell_fileRow (py : Interpreter) {f : String} (hf : f ∈ d.spec.dateFields) :
    py.dateCell (d.fileRow fmt e) f = .ok (some (e.date f)) := by
  have hget : (d.fileRow fmt e).get f = some ((dateCell (e.date f)).value fmt) :=
    get_fileRow d fmt e (date_mem_exported d f hf)
  rw [Interpreter.dateCell, hget]
  dsimp only
  rw [coerceDate_dateCell]
  rfl

/-- What a row of the file makes of its own row. -/
def Dataset.imported (d : Dataset) (e : Entity) : Entity :=
  d.spec.rescore
    { e with text := fun f => if f ∈ d.spec.textFields then cleaned (e.text f) else e.text f }

theorem dateParses_fileRow (py : Interpreter) {f : String} (hf : f ∈ d.spec.dateFields) :
    py.dateParses (d.fileRow fmt e) f = true := by
  rw [Interpreter.dateParses, dateCell_fileRow py hf]
  rfl

theorem applyTexts_fileRow (py : Interpreter) :
    py.applyTexts (d.fileRow fmt e) d.spec.textFields e =
      { e with text := fun f =>
          if f ∈ d.spec.textFields then cleaned (e.text f) else e.text f } := by
  rw [applyTexts_eq]
  refine Entity.ext rfl rfl (funext fun f => ?_) rfl rfl rfl
  dsimp only
  split
  · rename_i hf
    rw [textCell_fileRow py hf]
    rfl
  · rfl

theorem applyDates_fileRow (py : Interpreter) (x : Entity) (hx : x.date = e.date) :
    py.applyDates (d.fileRow fmt e) d.spec.dateFields x = (x, none) := by
  refine Prod.ext ?_ ?_
  · rw [applyDates_fst]
    refine Entity.ext rfl rfl rfl (funext fun f => ?_) rfl rfl
    dsimp only
    split
    · rename_i hf
      have hfield := (List.takeWhile_sublist _).subset hf
      rw [Interpreter.dateValue, dateCell_fileRow py hfield, hx]
      rfl
    · rfl
  · rw [← Option.not_isSome_iff_eq_none, applyDates_isSome]
    rintro ⟨f, hf, hbad⟩
    rw [dateParses_fileRow py hf] at hbad
    cases hbad

theorem applyFields_fileRow (py : Interpreter) :
    py.applyFields d.spec (d.fileRow fmt e) e = (d.imported e, none) := by
  have hdates : ∀ x : Entity, x.date = e.date →
      py.applyDates (d.fileRow fmt e) d.spec.dateFields x = (x, none) :=
    applyDates_fileRow py
  rw [Interpreter.applyFields, applyTexts_fileRow, hdates]
  · rfl
  · rfl

/-! ## Plain rows -/

/-- A text that `_clean` leaves as it is: null, or stripped, not empty and not the word
`None`. -/
def PlainText (value : Option Text) : Prop :=
  ∀ t, value = some t → t ≠ [] ∧ t ≠ "None".toList ∧ strip t = t

/-- A row that an import leaves as it is: its texts are plain, and a risk has the scores that
its fields give. -/
structure Dataset.Plain (d : Dataset) (e : Entity) : Prop where
  texts : ∀ f ∈ d.spec.textFields, PlainText (e.text f)
  scores : d.spec.model = .risk → (e.inherentScore, e.residualScore) = e.scores

theorem cleaned_eq_self_iff {value : Option Text} : cleaned value = value ↔ PlainText value := by
  unfold PlainText cleaned
  cases value with
  | none => exact ⟨fun _ t h => (nomatch h), fun _ => rfl⟩
  | some t =>
    rw [Option.bind_some]
    constructor
    · intro h u hu
      obtain rfl := Option.some.inj hu
      split at h
      · cases h
      · rename_i hne
        exact ⟨fun h => hne (.inl h), fun h => hne (.inr h), Option.some.inj h⟩
    · intro h
      obtain ⟨hempty, hnone, hstrip⟩ := h t rfl
      rw [if_neg (not_or.mpr ⟨hempty, hnone⟩), hstrip]

theorem textCell_injective {v w : Option Text} (h : textCell v = textCell w) : v = w := by
  cases v <;> cases w <;> cases h <;> rfl

theorem intCell_injective {v w : Option Nat} (h : intCell v = intCell w) : v = w := by
  cases v <;> cases w <;> cases h <;> rfl

theorem imported_of_cleaned (h : ∀ f ∈ d.spec.textFields, cleaned (e.text f) = e.text f) :
    d.imported e = d.spec.rescore e := by
  refine congrArg d.spec.rescore (Entity.ext rfl rfl (funext fun f => ?_) rfl rfl rfl)
  dsimp only
  split
  · rename_i hf
    exact h f hf
  · rfl

theorem imported_of_plain (h : d.Plain e) : d.imported e = e := by
  rw [imported_of_cleaned fun f hf => cleaned_eq_self_iff.mpr (h.texts f hf), Spec.rescore]
  split
  · rename_i hrisk
    rw [← h.scores hrisk]
  · rfl

theorem rescore_text (spec : Spec) (e : Entity) : (spec.rescore e).text = e.text := by
  unfold Spec.rescore
  split <;> rfl

theorem scores_mem_exported (d : Dataset) (h : d.spec.model = .risk) :
    Exported.inherentScore ∈ d.exported ∧ Exported.residualScore ∈ d.exported := by
  cases d with
  | risks => decide
  | _ => cases h

theorem plain_of_cells (h : d.cells (d.imported e) = d.cells e) : d.Plain e := by
  have hcell : ∀ c ∈ d.exported, c.cell (d.imported e) = c.cell e :=
    List.map_inj_left.mp h
  have htexts : ∀ f ∈ d.spec.textFields, cleaned (e.text f) = e.text f := by
    intro f hf
    have heq := textCell_injective (hcell _ ((text_mem_exported d).1 f hf))
    rw [Dataset.imported, rescore_text] at heq
    dsimp only at heq
    rwa [if_pos hf] at heq
  refine ⟨fun f hf => cleaned_eq_self_iff.mp (htexts f hf), fun hrisk => ?_⟩
  obtain ⟨hinherent, hresidual⟩ := scores_mem_exported d hrisk
  have himported : d.imported e =
      { e with inherentScore := e.scores.1, residualScore := e.scores.2 } := by
    rw [imported_of_cleaned htexts, Spec.rescore, if_pos hrisk]
  rw [himported] at hcell
  exact Prod.ext (intCell_injective (hcell _ hinherent)).symm
    (intCell_injective (hcell _ hresidual)).symm

end Rows

/-! ## The loop over the file -/

section Loop

variable {d : Dataset} {t : Table d.spec} {q : Request} {fmt : Format}

/-- A row whose name is not blank for `_clean`. -/
def Dataset.named (d : Dataset) (e : Entity) : Bool :=
  (orElse (cleaned (e.text d.spec.required)) none).isSome

theorem required_mem (d : Dataset) : d.spec.required ∈ d.spec.textFields := by
  cases d <;> decide +kernel

theorem id_mem (d : Dataset) : Exported.id ∈ d.exported := by cases d <;> decide

theorem listed_perm (q : Request) (t : Table d.spec) :
    (q.listed t).Perm (t.rows.filter (q.owns d.spec)) := by
  unfold Request.listed
  split
  · exact List.Perm.refl _
  · exact q.collate_perm _

theorem mem_rows_of_listed {e : Entity} (h : e ∈ q.listed t) : e ∈ t.rows :=
  List.mem_of_mem_filter ((listed_perm q t).mem_iff.mp h)

theorem listed_nodup (q : Request) (t : Table d.spec) : ((q.listed t).map Entity.id).Nodup :=
  ((listed_perm q t).map Entity.id).nodup_iff.mpr
    ((List.filter_sublist.map Entity.id).nodup t.ids_nodup)

theorem id_bounds {e : Entity} (h : e ∈ t.rows) : 0 < e.id ∧ e.id < 2 ^ 31 := by
  have hfits := t.fits e h
  simp only [Spec.accepts, Bool.and_eq_true, decide_eq_true_eq, fitsInteger] at hfits
  exact ⟨hfits.1.1.2.1, hfits.1.1.2.2⟩

theorem purpose_fileRow (fmt : Format) {e : Entity} (h : e ∈ q.listed t) :
    (d.named e = true → (q.toImport t).purpose (d.fileRow fmt e) = .updates e.id) ∧
      (d.named e = false →
        ∃ error, (q.toImport t).purpose (d.fileRow fmt e) = .skipped error) := by
  obtain ⟨hpos, hlt⟩ := id_bounds (mem_rows_of_listed h)
  have hclean : ((d.fileRow fmt e).get d.spec.required).bind q.py.lib.clean =
      cleaned (e.text d.spec.required) := by
    rw [get_text (required_mem d), Option.bind_some, clean_textCell]
  have hid : parseId (q.py.lib.rawId (d.fileRow fmt e)) = .ok (some e.id) := by
    rw [rawId_value q.py fmt hpos (get_fileRow d fmt e (id_mem d)), parseId_natText hlt]
  have howned : e.id ∈ (q.toImport t).owned := List.mem_map_of_mem h
  constructor
  · intro hnamed
    have hne : orElse (cleaned (e.text d.spec.required)) none ≠ none := by
      intro hnone
      rw [Dataset.named, hnone] at hnamed
      cases hnamed
    rw [← hclean] at hne
    exact purpose_of_owned hne hid howned
  · intro hblank
    have hnone : orElse (cleaned (e.text d.spec.required)) none = none := by
      rw [Dataset.named] at hblank
      exact Option.not_isSome_iff_eq_none.mp (Bool.not_eq_true _ ▸ hblank)
    rw [← hclean] at hnone
    exact ⟨_, purpose_of_blank hnone⟩

theorem required_not_null (d : Dataset) :
    ∃ c ∈ d.spec.strFields, c.name = d.spec.required ∧ c.nullable = false := by
  cases d <;> decide +kernel

theorem exists_required {e : Entity} (h : e ∈ t.rows) :
    ∃ name, e.text d.spec.required = some name := by
  obtain ⟨c, hc, hname, hnull⟩ := required_not_null d
  have hfits := t.fits e h
  simp only [Spec.accepts, Bool.and_eq_true, List.all_eq_true] at hfits
  have haccepts := hfits.1.1.1 c hc
  rw [hname] at haccepts
  cases hvalue : e.text d.spec.required with
  | some name => exact ⟨name, rfl⟩
  | none =>
    rw [hvalue] at haccepts
    exact absurd (hnull.symm.trans haccepts) (by decide)

theorem named_of_plain {e : Entity} (h : e ∈ t.rows) (hplain : d.Plain e) :
    d.named e = true := by
  obtain ⟨name, hname⟩ := exists_required h
  obtain ⟨hempty, hnone, hstrip⟩ := hplain.texts _ (required_mem d) name hname
  rw [Dataset.named, hname, cleaned, Option.bind_some, if_neg (not_or.mpr ⟨hempty, hnone⟩), hstrip]
  cases name with
  | nil => exact absurd rfl hempty
  | cons c name => rfl

theorem importRow_fileRow {e : Entity} (h : e ∈ q.listed t) (hnamed : d.named e = true)
    (o : Objects) :
    (q.toImport t).importRow o (d.fileRow fmt e) =
      ({ o with
          stored := o.stored.map fun x =>
            if x.id = e.id then (q.py.applyFields d.spec (d.fileRow fmt e) x).1 else x },
        .updated) := by
  have hraises : (q.toImport t).raises (d.fileRow fmt e) = none := by
    rw [← applyFields_raises _ _ e]
    exact congrArg Prod.snd (applyFields_fileRow q.py)
  rw [Import.importRow, (purpose_fileRow fmt h).1 hnamed]
  dsimp only
  rw [hraises]
  rfl

/-- The row that an import leaves in the place of another, when it has taken the rows of the
ids. -/
def Dataset.after (d : Dataset) (ids : List Nat) (x : Entity) : Entity :=
  if x.id ∈ ids then d.imported x else x

theorem imported_id (e : Entity) : (d.imported e).id = e.id := by
  unfold Dataset.imported Spec.rescore
  split <;> rfl

theorem after_id (ids : List Nat) (x : Entity) : (d.after ids x).id = x.id := by
  unfold Dataset.after
  split
  · exact imported_id x
  · rfl

theorem loop_fileRows (fmt : Format) (es : List Entity) (hes : ∀ e ∈ es, e ∈ q.listed t)
    (hnamed : ∀ e ∈ es, d.named e = true) (hnodup : (es.map Entity.id).Nodup) (s : Summary)
    (n : Nat) :
    (q.toImport t).loop ⟨t.rows, []⟩ s n (es.map (d.fileRow fmt)) =
      (⟨t.rows.map (d.after (es.map Entity.id)), []⟩,
        { s with updated := s.updated + es.length }) := by
  induction es using List.reverseRecOn with
  | nil =>
    have hid : t.rows.map (d.after []) = t.rows := map_eq_self_iff.mpr fun x _ => rfl
    rw [List.map_nil, List.map_nil, hid]
    rfl
  | append_singleton es e ih =>
    rw [List.map_append, List.map_singleton, List.nodup_append] at hnodup
    have hnew : e.id ∉ es.map Entity.id := fun hm =>
      hnodup.2.2 _ hm _ List.mem_cons_self rfl
    have hlisted := hes e (List.mem_append_right _ List.mem_cons_self)
    rw [List.map_append, List.map_singleton, loop_append,
      ih (fun x hx => hes x (List.mem_append_left _ hx))
        (fun x hx => hnamed x (List.mem_append_left _ hx)) hnodup.1,
      Import.loop, Import.loop,
      importRow_fileRow hlisted (hnamed e (List.mem_append_right _ List.mem_cons_self))]
    refine Prod.ext (Objects.ext ?_ rfl) ?_
    · dsimp only
      rw [List.map_map]
      refine List.map_congr_left fun x hx => ?_
      rw [Function.comp_apply, after_id]
      by_cases hid : x.id = e.id
      · -- the row itself, which no row before it has touched
        obtain rfl := Table.eq_of_id hx (mem_rows_of_listed hlisted) hid
        have hself : d.after (es.map Entity.id) x = x := if_neg hnew
        rw [if_pos rfl, hself, applyFields_fileRow]
        exact (if_pos (by simp)).symm
      · rw [if_neg hid]
        simp only [Dataset.after, List.map_append, List.mem_append, List.map_cons, List.map_nil,
          List.mem_singleton, hid, or_false]
    · rw [List.length_append, List.length_singleton, ← Nat.add_assoc]
      rfl

def Outcome.isUpdated : Outcome → Bool
  | .updated => true
  | _ => false

theorem record_updated (s : Summary) (n : Nat) (outcome : Outcome) :
    (record s n outcome).updated = s.updated + if outcome.isUpdated = true then 1 else 0 := by
  cases outcome <;> rfl

theorem loop_updated (c : Import) (o : Objects) (s : Summary) (n : Nat) (rs : List Row) :
    (c.loop o s n rs).2.updated =
      s.updated + (rs.filter fun r => (c.outcome r).isUpdated).length := by
  induction rs generalizing o s n with
  | nil => rfl
  | cons r rs ih =>
    rw [Import.loop, ih, record_updated, importRow_snd, List.filter_cons, Nat.add_assoc]
    split
    · rw [List.length_cons, Nat.add_comm 1]
    · rw [Nat.zero_add]

theorem named_of_updated (fmt : Format) {s : Summary} {o : Objects}
    (h : (q.toImport t).loop ⟨t.rows, []⟩ {} 1 ((q.listed t).map (d.fileRow fmt)) = (o, s))
    (hs : s.updated = (q.listed t).length) : ∀ e ∈ q.listed t, d.named e = true := by
  have hcount := loop_updated (q.toImport t) ⟨t.rows, []⟩ {} 1
    ((q.listed t).map (d.fileRow fmt))
  rw [h] at hcount
  have hlength : (((q.listed t).map (d.fileRow fmt)).filter fun r =>
      ((q.toImport t).outcome r).isUpdated).length =
      ((q.listed t).map (d.fileRow fmt)).length := by
    rw [List.length_map, ← hs, hcount]
    exact (Nat.zero_add _).symm
  have hall := List.length_filter_eq_length_iff.mp hlength
  intro e he
  by_contra hnamed
  obtain ⟨error, hskipped⟩ :=
    (purpose_fileRow fmt he).2 (Bool.not_eq_true _ ▸ hnamed)
  have hupdated := hall _ (List.mem_map_of_mem he)
  rw [Import.outcome, Import.importRow, hskipped] at hupdated
  cases hupdated

end Loop

/-! ## The round trip -/

/-- Importing what was exported finds each listed row again, counts it as updated and no row
as created or skipped, and leaves its exported fields as they were. -/
def RoundTrips (q : Request) (d : Dataset) (t : Table d.spec) (fmt : Format) : Prop :=
  ∃ t', q.importFile t (q.export d t fmt) fmt =
      some (t', { updated := (q.listed t).length }) ∧
    ∀ e ∈ q.listed t, ∃ e' ∈ t'.rows, e'.id = e.id ∧ d.cells e' = d.cells e

section RoundTrip

variable {q : Request} {d : Dataset} {t : Table d.spec} {fmt : Format}

theorem importFile_export :
    q.importFile t (q.export d t fmt) fmt =
      (q.toImport t).importRows t ((q.listed t).map (d.fileRow fmt)) := by
  rw [Request.importFile, Request.export,
    parseRows_render q.float d _ fmt fun e he => t.fits e (mem_rows_of_listed he)]
  rfl

theorem roundTrips_of_plain (h : ∀ e ∈ q.listed t, d.Plain e) : RoundTrips q d t fmt := by
  have hloop := loop_fileRows fmt (q.listed t) (fun e he => he)
    (fun e he => named_of_plain (mem_rows_of_listed he) (h e he)) (listed_nodup q t) {} 1
  have hsame : t.rows.map (d.after ((q.listed t).map Entity.id)) = t.rows := by
    refine map_eq_self_iff.mpr fun x hx => ?_
    unfold Dataset.after
    split
    · rename_i hid
      obtain ⟨e, he, heq⟩ := List.mem_map.mp hid
      obtain rfl := Table.eq_of_id (mem_rows_of_listed he) hx heq
      exact imported_of_plain (h e he)
    · rfl
  have hflush : Objects.flush ⟨t.rows, []⟩ t = some t := by
    rw [Objects.flush, Table.updates_self fun e he => he]
    rfl
  refine ⟨t, ?_, fun e he => ⟨e, mem_rows_of_listed he, rfl, rfl⟩⟩
  rw [importFile_export]
  refine importRows_eq_some.mpr ⟨?_, ?_⟩
  · rw [hloop, hsame]
    exact hflush
  · rw [hloop, Nat.zero_add]
    rfl

theorem plain_of_roundTrips (h : RoundTrips q d t fmt) : ∀ e ∈ q.listed t, d.Plain e := by
  obtain ⟨t', himport, hcells⟩ := h
  rw [importFile_export] at himport
  obtain ⟨hflush, hsummary⟩ := importRows_eq_some.mp himport
  have hnamed := named_of_updated fmt (q := q) rfl (congrArg Summary.updated hsummary)
  have hloop := loop_fileRows fmt (q.listed t) (fun e he => he) hnamed
    (listed_nodup q t) {} 1
  rw [hloop] at hflush
  obtain ⟨t₁, hupdates, hinserts⟩ := Option.bind_eq_some_iff.mp hflush
  obtain rfl := Option.some.inj hinserts
  have hids : (t.rows.map (d.after ((q.listed t).map Entity.id))).map Entity.id =
      t.rows.map Entity.id := by
    rw [List.map_map]
    exact List.map_congr_left fun x _ => after_id _ x
  have hthere : ∀ e ∈ t.rows.map (d.after ((q.listed t).map Entity.id)),
      ∃ x ∈ t.rows, x.id = e.id := by
    intro e he
    obtain ⟨x, hx, rfl⟩ := List.mem_map.mp he
    exact ⟨x, hx, (after_id _ x).symm⟩
  obtain ⟨hmem, -⟩ := Table.mem_of_updates hupdates (hids ▸ t.ids_nodup) hthere
  intro e he
  -- the row is stored as the import left it, and it is the one row of its id
  have himported : d.imported e ∈ t₁.rows := by
    refine hmem _ (List.mem_map.mpr ⟨e, mem_rows_of_listed he, ?_⟩)
    exact if_pos (List.mem_map_of_mem he)
  obtain ⟨e', he', hid, hsame⟩ := hcells e he
  obtain rfl := Table.eq_of_id he' himported (hid.trans (imported_id e).symm)
  exact plain_of_cells hsame

/-- **An export can be imported without effect just if every listed row is plain.** -/
theorem roundTrip_iff (q : Request) (d : Dataset) (t : Table d.spec) (fmt : Format) :
    RoundTrips q d t fmt ↔ ∀ e ∈ q.listed t, d.Plain e :=
  ⟨plain_of_roundTrips, roundTrips_of_plain⟩

end RoundTrip

/-! ### A name with a blank after it -/

def spaced : Entity := acme.setText "name" (some "Acme ".toList)

theorem spaced_fits : vendorSpec.accepts spaced = true := by decide +kernel

def spacedTable : Table Dataset.vendors.spec := .single spaced spaced_fits

def spacedRequest : Request where
  py := vendorImport.py
  float := fun _ => Number.ofNat 0
  systems := []
  orgId := some 1
  collate := id
  collate_perm := List.Perm.refl

theorem spaced_import (fmt : Format) :
    (spacedRequest.importFile spacedTable (spacedRequest.export .vendors spacedTable fmt) fmt).map
        (fun result => result.1.rows.map fun e => (e.id, Dataset.vendors.cells e)) =
      some [(1, [.int 1, .text "Acme".toList, .text "medium".toList, .text "active".toList,
        .null, .null, .null, .null])] := by
  rw [importFile_export]
  cases fmt <;> decide +kernel

/-- The vendor's name loses its blank, in either format. -/
theorem import_strips :
    ¬RoundTrips spacedRequest .vendors spacedTable .csv ∧
      ¬RoundTrips spacedRequest .vendors spacedTable .json := by
  have hnot : ∀ fmt, ¬RoundTrips spacedRequest .vendors spacedTable fmt := by
    rintro fmt ⟨t', himport, hcells⟩
    have hstored := spaced_import fmt
    rw [himport] at hstored
    have hlisted : spaced ∈ spacedRequest.listed spacedTable :=
      List.mem_filter.mpr ⟨List.mem_singleton_self _, by decide +kernel⟩
    obtain ⟨e', he', -, hsame⟩ := hcells spaced hlisted
    have hrows : (t'.rows.map fun e => (e.id, Dataset.vendors.cells e)) = [(1, _)] :=
      Option.some.inj hstored
    have hmem := List.mem_map_of_mem he' (f := fun e => (e.id, Dataset.vendors.cells e))
    rw [hrows, List.mem_singleton] at hmem
    have hname := congrArg (fun p => p.2) hmem
    dsimp only at hname
    rw [hsame] at hname
    exact absurd hname (by decide +kernel)
  exact ⟨hnot .csv, hnot .json⟩

end Concord.Governance.Datasets
