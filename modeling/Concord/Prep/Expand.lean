import Concord.Prep.Stages

/-!
# What an expanded passage leaves out

`expand_line` of `ccf/prep/expand.py`, with any integer as the window. A table cell is expanded to
its row. Any other line is expanded to the lines of its own page and section among its neighbours,
and these are picked one by one: where a label comes back within the window, the lines between are
dropped and the rest is joined across them. So a passage is a run of the document exactly where
this does not happen (`expandLine_realContext_iff`).
-/

namespace Concord.Prep.Expand

open Concord.Python

/-! ## Contiguous selections -/

section Runs

variable {α : Type}

theorem not_sublist_swap {xs : List α} (hxs : xs.Nodup) {a b : α} (h : [a, b].Sublist xs) :
    ¬ [b, a].Sublist xs := by
  induction xs with
  | nil => cases h
  | cons x xs ih =>
    obtain ⟨hx, hxs⟩ := List.nodup_cons.mp hxs
    intro hswap
    cases h with
    | cons _ h =>
      cases hswap with
      | cons _ hswap => exact ih hxs h hswap
      | cons_cons _ hswap => exact hx (h.subset (by simp))
    | cons_cons _ h =>
      cases hswap with
      | cons _ hswap => exact hx (hswap.subset (by simp))
      | cons_cons _ hswap => exact hx (h.subset (by simp))

theorem mem_of_between {xs run : List α} (hxs : xs.Nodup) (hrun : run <:+: xs) {a b c : α}
    (h : [a, b, c].Sublist xs) (ha : a ∈ run) (hc : c ∈ run) : b ∈ run := by
  obtain ⟨before, after, rfl⟩ := hrun
  have hab : [a, b].Sublist (before ++ run ++ after) :=
    ((List.Sublist.refl [a, b]).append (List.nil_sublist [c])).trans h
  have hbc : [b, c].Sublist (before ++ run ++ after) := (List.sublist_cons_self a _).trans h
  have hpair {x y : α} {us vs : List α} (hx : x ∈ us) (hy : y ∈ vs) : [x, y].Sublist (us ++ vs) :=
    (List.singleton_sublist.mpr hx).append (List.singleton_sublist.mpr hy)
  have hb : b ∈ before ++ run ++ after := h.subset (by simp)
  rcases List.mem_append.mp hb with hb | hb
  · rcases List.mem_append.mp hb with hb | hb
    · exact absurd ((hpair hb ha).trans (List.sublist_append_left _ _)) (not_sublist_swap hxs hab)
    · exact hb
  · exact absurd (hpair (List.mem_append_right before hc) hb) (not_sublist_swap hxs hbc)

theorem isPrefix_filter {p : α → Bool} {xs : List α}
    (h : ∀ y z, [y, z].Sublist xs → p z = true → p y = true) : xs.filter p <+: xs := by
  induction xs with
  | nil => exact List.prefix_rfl
  | cons x xs ih =>
    by_cases hx : p x = true
    · rw [List.filter_cons_of_pos hx, List.prefix_cons_inj]
      exact ih fun y z hyz => h y z (hyz.cons x)
    · have hrest : xs.filter p = [] := by
        refine List.filter_eq_nil_iff.mpr fun z hz hpz => hx ?_
        exact h x z (List.cons_sublist_cons.mpr (List.singleton_sublist.mpr hz)) hpz
      rw [List.filter_cons_of_neg hx, hrest]
      exact List.nil_prefix

theorem isInfix_filter {p : α → Bool} {xs : List α}
    (h : ∀ x y z, [x, y, z].Sublist xs → p x = true → p z = true → p y = true) :
    xs.filter p <:+: xs := by
  induction xs with
  | nil => exact List.infix_rfl
  | cons x xs ih =>
    by_cases hx : p x = true
    · rw [List.filter_cons_of_pos hx]
      refine ((List.prefix_cons_inj x).mpr (isPrefix_filter fun y z hyz => ?_)).isInfix
      exact h x y z (List.cons_sublist_cons.mpr hyz) hx
    · rw [List.filter_cons_of_neg hx]
      exact (ih fun a b c habc => h a b c (habc.cons x)).trans (List.suffix_cons x xs).isInfix

end Runs

/-! ## The passage -/

/-- `xs[start:stop]`. -/
def pySlice {α : Type} (xs : List α) (start stop : Int) : List α :=
  let bound (i : Int) : Nat := (if i < 0 then i + xs.length else i).toNat
  (xs.take (bound stop)).drop (bound start)

def sameLabels (trigger line : PrepLine) : Bool :=
  line.pageNumber = trigger.pageNumber ∧ line.sectionPath = trigger.sectionPath

/-- `expand_line`. -/
def expandLine (trigger : PrepLine) (siblings : List PrepLine) (window : Int) :
    ExpansionResult :=
  let row := tableRow trigger siblings
  if row.length > 1 then ⟨row, joinText " | ".toList (row.map renderCell)⟩
  else
    let ordered := orderedLines siblings
    match ordered.findIdx? fun l => l.id = trigger.id with
    | none => ⟨[trigger], trigger.content⟩
    | some position =>
      let neighbours :=
        pySlice ordered (max 0 ((position : Int) - window)) ((position : Int) + window + 1)
      let members := neighbours.filter (sameLabels trigger)
      if members.length > 1 then ⟨members, joinText [' '] (members.map (·.content))⟩
      else ⟨[trigger], trigger.content⟩

theorem expandLine_natCast (trigger : PrepLine) (siblings : List PrepLine) (window : Nat) :
    expandLine trigger siblings window = Prep.expandLine trigger siblings window := by
  have hslice (xs : List PrepLine) (position : Nat) :
      pySlice xs (max 0 ((position : Int) - window)) ((position : Int) + window + 1) =
        (xs.drop (position - window)).take
          (position + window + 1 - (position - window)) := by
    unfold pySlice
    dsimp only
    rw [if_neg (by omega), if_neg (by omega), List.drop_take]
    congr 1
    · omega
    · congr 1
      omega
  unfold expandLine Prep.expandLine
  simp only [hslice]
  rfl

/-! ## Documents -/

/-- The lines of a run, in any order. -/
structure Document where
  lines : List PrepLine
  ids_nodup : (lines.map (·.id)).Nodup

namespace Document

variable (d : Document)

def ordered : List PrepLine := orderedLines d.lines

/-- How many lines of the document stand before a line. -/
def place (line : PrepLine) : Nat := d.ordered.findIdx fun l => l.id = line.id

/-- A line is within `window` lines of the trigger. -/
def Near (window : Int) (trigger line : PrepLine) : Prop :=
  (d.place line : Int) - d.place trigger ≤ window ∧ (d.place trigger : Int) - d.place line ≤ window

/-- The trigger lies in a table row with other cells. -/
def InRow (trigger : PrepLine) : Prop :=
  (trigger.tableId.isSome = true ∧ trigger.rowIndex.isSome = true) ∧
    ∃ other ∈ d.lines, other.id ≠ trigger.id ∧ other.tableId = trigger.tableId ∧
      other.rowIndex = trigger.rowIndex

/-- Between two lines near the trigger that have its page and section, every line has them. -/
def Unbroken (window : Int) (trigger : PrepLine) : Prop :=
  ∀ x y z, [x, y, z].Sublist d.ordered → d.Near window trigger x → d.Near window trigger z →
    sameLabels trigger x = true → sameLabels trigger z = true → sameLabels trigger y = true

variable {d} {line trigger : PrepLine} {window : Int}

theorem mem_ordered : line ∈ d.ordered ↔ line ∈ d.lines :=
  (List.perm_insertionSort _ _).mem_iff

theorem ordered_ids_nodup : (d.ordered.map (·.id)).Nodup :=
  ((List.perm_insertionSort _ d.lines).map (·.id)).nodup_iff.mpr d.ids_nodup

theorem ordered_nodup : d.ordered.Nodup := ordered_ids_nodup.of_map _

theorem eq_of_id (hline : line ∈ d.lines) (htrigger : trigger ∈ d.lines)
    (h : line.id = trigger.id) : line = trigger :=
  List.inj_on_of_nodup_map d.ids_nodup hline htrigger h

theorem place_eq {i : Nat} (h : d.ordered[i]? = some line) : d.place line = i := by
  obtain ⟨hi, hline⟩ := List.getElem?_eq_some_iff.mp h
  refine (List.findIdx_eq hi).mpr ⟨decide_eq_true (congrArg _ hline), fun j hj => ?_⟩
  refine decide_eq_false fun hid => ?_
  have hj' : j < d.ordered.length := hj.trans hi
  have hj'' : j < (d.ordered.map (·.id)).length := hj'.trans_eq (List.length_map _).symm
  have hi' : i < (d.ordered.map (·.id)).length := hi.trans_eq (List.length_map _).symm
  have hmap : (d.ordered.map (·.id))[j] = (d.ordered.map (·.id))[i] := by
    rw [List.getElem_map, List.getElem_map, hid, hline]
  exact absurd ((ordered_ids_nodup.getElem_inj_iff).mp hmap) (Nat.ne_of_lt hj)

theorem mem_slice (hwindow : 0 ≤ window) :
    line ∈ pySlice d.ordered (max 0 ((d.place trigger : Int) - window))
        ((d.place trigger : Int) + window + 1) ↔
      line ∈ d.ordered ∧ d.Near window trigger line := by
  unfold pySlice
  dsimp only
  rw [if_neg (by omega), if_neg (by omega), List.mem_drop_iff_getElem]
  constructor
  · rintro ⟨i, hi, hline⟩
    rw [List.length_take] at hi
    rw [List.getElem_take] at hline
    have hplace := place_eq (List.getElem?_eq_some_iff.mpr ⟨by omega, hline⟩)
    refine ⟨hline ▸ List.getElem_mem _, ?_⟩
    unfold Near
    omega
  · rintro ⟨hmem, hnear⟩
    obtain ⟨i, hi, hline⟩ := List.mem_iff_getElem.mp hmem
    have hplace := place_eq (List.getElem?_eq_some_iff.mpr ⟨hi, hline⟩)
    unfold Near at hnear
    refine ⟨i - (max 0 ((d.place trigger : Int) - window)).toNat, ?_, ?_⟩
    · rw [List.length_take]
      omega
    · rw [List.getElem_take]
      -- its place in the slice, counted from where the slice begins
      have hindex : (max 0 ((d.place trigger : Int) - window)).toNat +
          (i - (max 0 ((d.place trigger : Int) - window)).toNat) = i := by omega
      simp only [hindex]
      exact hline

theorem slice_sublist (start stop : Int) : (pySlice d.ordered start stop).Sublist d.ordered :=
  (List.drop_sublist _ _).trans (List.take_sublist _ _)

theorem isInfix_slice (start stop : Int) : pySlice d.ordered start stop <:+: d.ordered :=
  (List.drop_suffix _ _).isInfix.trans (List.take_prefix _ _).isInfix

omit d in
theorem one_lt_length_iff {lines : List PrepLine} (hlines : lines.Nodup) (h : line ∈ lines) :
    1 < lines.length ↔ ∃ other ∈ lines, other ≠ line := by
  have hpos := List.length_pos_of_mem h
  have hone : lines ≠ [line] ↔ 1 < lines.length := by
    rw [Ne, ← not_iff_not, not_not, Nat.not_lt]
    constructor
    · rintro rfl
      exact Nat.le_refl 1
    · intro hle
      obtain ⟨only, rfl⟩ := List.length_eq_one_iff.mp (le_antisymm hle hpos)
      rw [List.mem_singleton.mp h]
  rw [← hone, hlines.ne_singleton_iff, or_iff_right (List.ne_nil_of_mem h)]

theorem one_lt_length_tableRow (htrigger : trigger ∈ d.lines) :
    1 < (tableRow trigger d.lines).length ↔ d.InRow trigger := by
  unfold tableRow
  by_cases hcell : trigger.tableId.isSome = true ∧ trigger.rowIndex.isSome = true
  · rw [if_pos hcell, List.length_insertionSort]
    set cells := d.lines.filter fun l =>
      decide (l.tableId = trigger.tableId ∧ l.rowIndex = trigger.rowIndex)
    have hcells : cells.Nodup := (d.ids_nodup.of_map _).filter _
    have htrigger' : trigger ∈ cells :=
      List.mem_filter.mpr ⟨htrigger, decide_eq_true ⟨rfl, rfl⟩⟩
    rw [one_lt_length_iff hcells htrigger']
    constructor
    · rintro ⟨line, hline, hne⟩
      obtain ⟨hmem, hsame⟩ := List.mem_filter.mp hline
      refine ⟨hcell, line, hmem, fun hid => hne (eq_of_id hmem htrigger hid), ?_⟩
      exact of_decide_eq_true hsame
    · rintro ⟨-, other, hother, hne, hsame⟩
      have hother' : other ∈ cells := List.mem_filter.mpr ⟨hother, decide_eq_true hsame⟩
      exact ⟨other, hother', fun heq => hne (congrArg _ heq)⟩
  · rw [if_neg hcell]
    exact iff_of_false (Nat.not_lt_zero 1) fun h => hcell h.1

/-- What makes a passage real context: the trigger is in it once and no line twice. For a cell with
others beside it, it is their row in column order; for any other line, a run of the document near
the trigger, on its page and in its section. -/
structure RealContext (d : Document) (window : Int) (trigger : PrepLine) (r : ExpansionResult) :
    Prop where
  once : (r.members.map (·.id)).count trigger.id = 1
  nodup : (r.members.map (·.id)).Nodup
  row : d.InRow trigger →
    r.members.Perm (d.lines.filter fun l =>
        l.tableId = trigger.tableId ∧ l.rowIndex = trigger.rowIndex) ∧
      r.members.Pairwise (fun a b => a.colIndex.getD 0 ≤ b.colIndex.getD 0) ∧
      r.content = joinText " | ".toList (r.members.map renderCell)
  run : ¬ d.InRow trigger →
    r.members <:+: d.ordered ∧
      (∀ line ∈ r.members, d.Near window trigger line ∧ sameLabels trigger line = true) ∧
      r.content = joinText [' '] (r.members.map (·.content))

theorem once_of_mem {members : List PrepLine} (hids : (members.map (·.id)).Nodup)
    (h : trigger ∈ members) : (members.map (·.id)).count trigger.id = 1 :=
  List.count_eq_one_of_mem hids (List.mem_map.mpr ⟨trigger, h, rfl⟩)

theorem realContext_of_inRow (htrigger : trigger ∈ d.lines) (h : d.InRow trigger) :
    RealContext d window trigger (expandLine trigger d.lines window) := by
  have hlen := (one_lt_length_tableRow htrigger).mpr h
  have hrow : tableRow trigger d.lines = (d.lines.filter fun l =>
      l.tableId = trigger.tableId ∧ l.rowIndex = trigger.rowIndex).insertionSort
        fun a b => a.colIndex.getD 0 ≤ b.colIndex.getD 0 :=
    if_pos h.1
  have hperm : (tableRow trigger d.lines).Perm (d.lines.filter fun l =>
      l.tableId = trigger.tableId ∧ l.rowIndex = trigger.rowIndex) :=
    hrow ▸ List.perm_insertionSort _ _
  have hids : ((tableRow trigger d.lines).map (·.id)).Nodup :=
    (hperm.map _).nodup_iff.mpr ((List.filter_sublist.map _).nodup d.ids_nodup)
  have hexpand : expandLine trigger d.lines window =
      ⟨tableRow trigger d.lines, joinText " | ".toList ((tableRow trigger d.lines).map renderCell)⟩ :=
    if_pos hlen
  rw [hexpand]
  refine ⟨once_of_mem hids (hperm.mem_iff.mpr ?_), hids, fun _ => ⟨hperm, ?_, rfl⟩,
    fun hnot => absurd h hnot⟩
  · exact List.mem_filter.mpr ⟨htrigger, decide_eq_true ⟨rfl, rfl⟩⟩
  · rw [hrow]
    exact List.pairwise_insertionSort _ _

/-- The lines near the trigger with its page and section. -/
def members (d : Document) (window : Int) (trigger : PrepLine) : List PrepLine :=
  (pySlice d.ordered (max 0 ((d.place trigger : Int) - window))
    ((d.place trigger : Int) + window + 1)).filter (sameLabels trigger)

theorem mem_members (hwindow : 0 ≤ window) :
    line ∈ d.members window trigger ↔
      line ∈ d.ordered ∧ d.Near window trigger line ∧ sameLabels trigger line = true := by
  rw [members, List.mem_filter, mem_slice hwindow, and_assoc]

theorem near_self (hwindow : 0 ≤ window) : d.Near window trigger trigger := by
  unfold Near
  omega

theorem sameLabels_self (trigger : PrepLine) : sameLabels trigger trigger = true :=
  decide_eq_true ⟨rfl, rfl⟩

theorem expandLine_of_not_inRow (htrigger : trigger ∈ d.lines) (hrow : ¬ d.InRow trigger)
    (hwindow : 0 ≤ window) :
    expandLine trigger d.lines window =
      ⟨d.members window trigger, joinText [' '] ((d.members window trigger).map (·.content))⟩ := by
  have hlen : ¬ (tableRow trigger d.lines).length > 1 := fun hlen =>
    hrow ((one_lt_length_tableRow htrigger).mp hlen)
  have hfind : (orderedLines d.lines).findIdx? (fun l => l.id = trigger.id) =
      some (d.place trigger) :=
    List.findIdx?_eq_some_of_exists ⟨trigger, mem_ordered.mpr htrigger, decide_eq_true rfl⟩
  have hmem : trigger ∈ d.members window trigger :=
    (mem_members hwindow).mpr
      ⟨mem_ordered.mpr htrigger, near_self hwindow, sameLabels_self trigger⟩
  unfold expandLine
  dsimp only
  rw [if_neg hlen, hfind]
  show (if (d.members window trigger).length > 1 then _ else _) = _
  split
  · rfl
  -- of the trigger alone the text is its own, joined or not
  · rename_i hone
    obtain ⟨only, honly⟩ := List.length_eq_one_iff.mp
      (le_antisymm (Nat.le_of_not_lt hone) (List.length_pos_of_mem hmem))
    rw [honly, List.mem_singleton] at hmem
    subst hmem
    rw [honly]
    simp [joinText]

theorem members_sublist : (d.members window trigger).Sublist d.ordered :=
  List.filter_sublist.trans (slice_sublist _ _)

/-- **An expanded passage is real context** exactly where the trigger is a cell of a row, or no line
with another page or section stands between two lines that are taken. -/
theorem expandLine_realContext_iff (htrigger : trigger ∈ d.lines) :
    RealContext d window trigger (expandLine trigger d.lines window) ↔
      d.InRow trigger ∨ 0 ≤ window ∧ d.Unbroken window trigger := by
  by_cases hrow : d.InRow trigger
  · exact iff_of_true (realContext_of_inRow htrigger hrow) (.inl hrow)
  rw [or_iff_right hrow]
  constructor
  · intro h
    obtain ⟨hrun, hlines, -⟩ := h.run hrow
    -- the trigger is in the passage, so that it is near itself
    have hwindow : 0 ≤ window := by
      have hmem : trigger.id ∈ (expandLine trigger d.lines window).members.map (·.id) :=
        List.count_pos_iff.mp (h.once ▸ Nat.one_pos)
      obtain ⟨line, hline, hid⟩ := List.mem_map.mp hmem
      have hplace : d.place line = d.place trigger := by
        unfold place
        simp only [hid]
      have hnear := (hlines line hline).1
      unfold Near at hnear
      omega
    refine ⟨hwindow, fun x y z hsub hx hz hxl hzl => ?_⟩
    rw [expandLine_of_not_inRow htrigger hrow hwindow] at hrun hlines
    have hx := (mem_members hwindow).mpr ⟨hsub.subset (by simp), hx, hxl⟩
    have hz := (mem_members hwindow).mpr ⟨hsub.subset (by simp), hz, hzl⟩
    exact (hlines y (mem_of_between ordered_nodup hrun hsub hx hz)).2
  · rintro ⟨hwindow, hunbroken⟩
    have hids : ((d.members window trigger).map (·.id)).Nodup :=
      (members_sublist.map _).nodup ordered_ids_nodup
    have hmem : trigger ∈ d.members window trigger :=
      (mem_members hwindow).mpr
        ⟨mem_ordered.mpr htrigger, near_self hwindow, sameLabels_self trigger⟩
    rw [expandLine_of_not_inRow htrigger hrow hwindow]
    refine ⟨once_of_mem hids hmem, hids, fun h => absurd h hrow, fun _ => ⟨?_, ?_, rfl⟩⟩
    · refine (isInfix_filter fun x y z hsub hx hz => ?_).trans (isInfix_slice _ _)
      have hnear {line : PrepLine} (hline : line ∈ [x, y, z]) : d.Near window trigger line :=
        ((mem_slice hwindow).mp (hsub.subset hline)).2
      exact hunbroken x y z (hsub.trans (slice_sublist _ _)) (hnear (by simp)) (hnear (by simp))
        hx hz
    · exact fun line hline => ((mem_members hwindow).mp hline).2

end Document

def textLine (n : Nat) (heading : Text) : PrepLine where
  id := n
  organizationId := 1
  lineNumber := n
  content := "Sentence.".toList
  pageNumber := some 1
  sectionPath := some heading
  blockId := none
  blockType := some "paragraph".toList
  tableId := none
  rowIndex := none
  colIndex := none
  cellLabel := none

def twoSections : Document where
  lines := [textLine 1 "AC".toList, textLine 2 "AC".toList, textLine 3 "AU".toList]
  ids_nodup := by decide

theorem twoSections_realContext :
    Document.RealContext twoSections 1 (textLine 1 "AC".toList)
      (expandLine (textLine 1 "AC".toList) twoSections.lines 1) := by
  refine (Document.expandLine_realContext_iff List.mem_cons_self).mpr (.inr ⟨by decide, ?_⟩)
  intro x y z hsub _ hz _ hzl
  have hordered : twoSections.ordered = twoSections.lines := rfl
  rw [hordered] at hsub
  -- the last of three lines is in the next section
  have hlast : z = textLine 3 "AU".toList := by
    have heq := hsub.eq_of_length rfl
    exact (List.cons.inj (List.cons.inj (List.cons.inj heq).2).2).1
  rw [hlast] at hzl
  exact absurd hzl (by decide)

def sectionReturns : Document where
  lines := [textLine 1 "AC".toList, textLine 2 "AU".toList, textLine 3 "AC".toList]
  ids_nodup := by decide

/-- The line between is left out, and the passage joins what stood around it. -/
theorem sectionReturns_spliced :
    ¬ Document.RealContext sectionReturns 2 (textLine 1 "AC".toList)
      (expandLine (textLine 1 "AC".toList) sectionReturns.lines 2) := by
  intro h
  rcases (Document.expandLine_realContext_iff List.mem_cons_self).mp h with hrow | ⟨-, hunbroken⟩
  · exact absurd hrow.1.1 (by decide)
  · have hbetween := hunbroken (textLine 1 "AC".toList) (textLine 2 "AU".toList)
      (textLine 3 "AC".toList) (List.Sublist.refl _)
      (Document.near_self (by decide)) ⟨by decide, by decide⟩ (by decide) (by decide)
    exact absurd hbetween (by decide)

end Concord.Prep.Expand
