import Concord.Base.Raises
import Concord.Scoring.Derivation

/-!
# Whether derived states are current

What a derivation is to leave behind (`Current`): every status labelled derived is what the
profile and the vendors give now, no status a person set is overwritten, the order in which the
vendors were read does not show, and deriving again changes nothing.

`derive_system` refreshes by the stored state and not by its origin. A derived status it finds
stays as it is, so the vendors and answers it rests on must not have changed (`UpToDate`); a
person's `not_assessed` is replaced.

`_seed_gap_poams` opens a row where no POA&M of the system has the title of the gap, closed ones
included. `on_scoring_status_changed` closes the rows of a practice that is met. A practice that
is a gap, is met and is a gap again finds the title taken by the row that was closed.
-/

namespace Concord.Scoring

open Concord.Base
open Concord.Python
open Concord.Governance

/-! ## Vendors in the order in which they were read -/

/-- A vendor from which a practice is inherited. -/
def Vendor.links (orgId : Option Nat) (cid : Text) (v : Vendor) : Prop :=
  v.counts orgId = true ∧ cid ∈ v.linkedControls

section Inheritance

variable {orgId : Option Nat} {cid : Text}

theorem exists_links_of_get? {rows : List Vendor} {name : Text}
    (h : (vendorInheritance orgId rows).get? cid = some name) :
    ∃ v ∈ rows, v.links orgId cid ∧ v.name = name := by
  rw [vendorInheritance, Dict.get?_ofPairs, Option.map_eq_some_iff] at h
  obtain ⟨pair, hfind, hname⟩ := h
  have hmem := List.mem_reverse.mp (List.mem_of_find?_eq_some hfind)
  have hkey : pair.1 = cid := by simpa using List.find?_some hfind
  obtain ⟨v, hv, hpair⟩ := List.mem_flatMap.mp hmem
  obtain ⟨c, hc, rfl⟩ := List.mem_map.mp hpair
  rw [List.mem_filter] at hv
  exact ⟨v, hv.1, ⟨hv.2, hkey ▸ hc⟩, hname⟩

theorem get?_ne_none_of_links {rows : List Vendor} {v : Vendor} (hv : v ∈ rows)
    (h : v.links orgId cid) : (vendorInheritance orgId rows).get? cid ≠ none := by
  rw [vendorInheritance, Dict.get?_ofPairs]
  intro hnone
  rw [Option.map_eq_none_iff, List.find?_eq_none] at hnone
  refine hnone (cid, v.name) (List.mem_reverse.mpr (List.mem_flatMap.mpr ⟨v, ?_, ?_⟩)) (by simp)
  · exact List.mem_filter.mpr ⟨hv, h.1⟩
  · exact List.mem_map_of_mem h.2

theorem get?_eq_none_of_perm {read rows : List Vendor} (hperm : read.Perm rows)
    (h : (vendorInheritance orgId read).get? cid = none) :
    (vendorInheritance orgId rows).get? cid = none := by
  cases hrows : (vendorInheritance orgId rows).get? cid with
  | none => rfl
  | some name =>
    obtain ⟨v, hv, hvl, -⟩ := exists_links_of_get? hrows
    exact absurd h (get?_ne_none_of_links (hperm.mem_iff.mpr hv) hvl)

theorem get?_concat_of_links (rows : List Vendor) {v : Vendor} (h : v.links orgId cid) :
    (vendorInheritance orgId (rows ++ [v])).get? cid = some v.name := by
  have hpairs : ((rows ++ [v]).filter (Vendor.counts orgId)).flatMap
      (fun v => v.linkedControls.map fun cid => (cid, v.name)) =
      ((rows.filter (Vendor.counts orgId)).flatMap
        fun v => v.linkedControls.map fun cid => (cid, v.name)) ++
      v.linkedControls.map fun cid => (cid, v.name) := by
    rw [List.filter_append, List.filter_singleton, h.1, cond_true, List.flatMap_append,
      List.flatMap_singleton]
  rw [vendorInheritance, hpairs, Dict.get?_ofPairs, List.reverse_append, List.find?_append]
  cases hfind : (v.linkedControls.map fun cid => (cid, v.name)).reverse.find?
      fun p => p.1 = cid with
  | none =>
    have hmem := List.mem_reverse.mpr (List.mem_map_of_mem (f := fun cid => (cid, v.name)) h.2)
    exact absurd (List.find?_eq_none.mp hfind _ hmem) (by simp)
  | some pair =>
    have hmem := List.mem_reverse.mp (List.mem_of_find?_eq_some hfind)
    obtain ⟨c, -, rfl⟩ := List.mem_map.mp hmem
    rfl

/-- Which vendor a practice is inherited from does not depend on the order of the rows where all
that it could be inherited from have one name. -/
theorem get?_perm_iff {rows : List Vendor} :
    (∀ read, read.Perm rows →
      (vendorInheritance orgId read).get? cid = (vendorInheritance orgId rows).get? cid) ↔
      ∀ v ∈ rows, ∀ w ∈ rows, v.links orgId cid → w.links orgId cid → v.name = w.name := by
  constructor
  · intro h v hv w hw hvl hwl
    have hlast : ∀ u ∈ rows, u.links orgId cid →
        (vendorInheritance orgId rows).get? cid = some u.name := by
      intro u hu hul
      have hperm : (rows.erase u ++ [u]).Perm rows :=
        (List.perm_append_singleton u _).trans (List.perm_cons_erase hu).symm
      rw [← h _ hperm, get?_concat_of_links _ hul]
    have heq := (hlast v hv hvl).symm.trans (hlast w hw hwl)
    exact Option.some.inj heq
  · intro h read hperm
    cases hread : (vendorInheritance orgId read).get? cid with
    | none => rw [get?_eq_none_of_perm hperm hread]
    | some name =>
      cases hrows : (vendorInheritance orgId rows).get? cid with
      | none =>
        rw [get?_eq_none_of_perm hperm.symm hrows] at hread
        cases hread
      | some name' =>
        obtain ⟨v, hv, hvl, rfl⟩ := exists_links_of_get? hread
        obtain ⟨w, hw, hwl, rfl⟩ := exists_links_of_get? hrows
        rw [h v (hperm.mem_iff.mp hv) w hw hvl hwl]

end Inheritance

section Runs

variable (m : Matrix) (sys : SystemRef)

/-- A practice that the vendors speak of with one voice: it is not applicable, or all vendors it
could be inherited from have one name. -/
def Desk.Unambiguous (d : Desk) (sc : ScoringControl) : Prop :=
  sc.controlId ∈ naControlIds d.profile ∨
    ∀ v ∈ d.vendors, ∀ w ∈ d.vendors, v.links sys.organizationId sc.controlId →
      w.links sys.organizationId sc.controlId → v.name = w.name

theorem rule_perm_iff {d : Desk} {sc : ScoringControl} :
    (∀ read, read.Perm d.vendors → d.rule sys read sc = d.rule sys d.vendors sc) ↔
      d.Unambiguous sys sc := by
  by_cases hna : sc.controlId ∈ naControlIds d.profile
  · refine iff_of_true (fun read _ => ?_) (Or.inl hna)
    rw [Desk.rule, Desk.rule, ruleFor, ruleFor, if_pos hna, if_pos hna]
  · rw [Desk.Unambiguous, or_iff_right hna, ← get?_perm_iff]
    refine forall₂_congr fun read hperm => ?_
    rw [Desk.rule, Desk.rule, ruleFor, ruleFor, if_neg hna, if_neg hna]
    constructor
    · intro h
      -- a vendor's name shows in the source, and no platform's source begins like it
      cases hread : (vendorInheritance sys.organizationId read).get? sc.controlId with
      | none => rw [get?_eq_none_of_perm hperm hread]
      | some name =>
        cases hrows : (vendorInheritance sys.organizationId d.vendors).get? sc.controlId with
        | none =>
          rw [get?_eq_none_of_perm hperm.symm hrows] at hread
          cases hread
        | some name' =>
          rw [hread, hrows] at h
          exact congrArg some (List.append_cancel_left (congrArg Rule.source h))
    · intro h
      rw [h]

/-! ## What a derivation is to leave -/

/-- A status is what a rule gives, label included. -/
structure Labels (st : ScoringStatus) (r : Rule) : Prop where
  state : st.state = r.state
  derivedFrom : st.derivedFrom = some (r.source.take 64)
  notes : st.notes = some (derivedNote ++ r.source)

/-- **The derived states are current.** -/
structure Desk.Current (d : Desk) (today : Int) (createPoams : Bool) (read : List Vendor) :
    Prop where
  /-- a status labelled derived is what the profile and the vendors give, in any order -/
  current : ∀ sc ∈ m.practices, ∀ st,
    (d.deriveSystem m sys today createPoams read).statuses sc.id = some st →
    st.source = .derived → ∀ rows, rows.Perm d.vendors → Labels st (d.rule sys rows sc)
  /-- what a person set stays -/
  human : ∀ sc ∈ m.practices, ∀ st, d.statuses sc.id = some st → st.source = .assessed →
    (d.deriveSystem m sys today createPoams read).statuses sc.id = some st
  /-- the order of the vendor rows does not show -/
  order : ∀ read', read'.Perm d.vendors →
    d.deriveSystem m sys today createPoams read' = d.deriveSystem m sys today createPoams read
  /-- a second run changes nothing -/
  again : ∀ read', read'.Perm d.vendors → ∀ today',
    (d.deriveSystem m sys today createPoams read).deriveSystem m sys today' createPoams read' =
      d.deriveSystem m sys today createPoams read

/-- The condition on the state in which a system is derived. -/
structure Desk.UpToDate (d : Desk) : Prop where
  /-- the vendors speak with one voice -/
  unambiguous : ∀ sc ∈ m.practices, d.Unambiguous sys sc
  /-- no practice was set to `not_assessed` by a person -/
  assessed : ∀ sc ∈ m.practices, ∀ st, d.statuses sc.id = some st → st.source = .assessed →
    st.state ≠ .notAssessed
  /-- nothing that a derived status rests on has changed since -/
  unchanged : ∀ sc ∈ m.practices, ∀ st, d.statuses sc.id = some st → st.source = .derived →
    Labels st (d.rule sys d.vendors sc)

/-- No status is labelled derived and not assessed. -/
def Desk.Labelled (d : Desk) : Prop :=
  ∀ id st, d.statuses id = some st → st.source = .derived → st.state ≠ .notAssessed

/-! ## Statuses that are kept -/

theorem newStatus_kept {st : ScoringStatus} (h : st.state ≠ .notAssessed) (r : Rule) :
    newStatus (some st) r = st := by
  rw [newStatus, if_neg h]

theorem labels_recordDerived (st : ScoringStatus) (r : Rule) :
    Labels (recordDerivedState st r.state r.source) r := ⟨rfl, rfl, rfl⟩

theorem newStatus_cases (stored : Option ScoringStatus) (r : Rule) :
    (∃ st, newStatus stored r = recordDerivedState st r.state r.source) ∨
      (stored = some (newStatus stored r) ∧ (newStatus stored r).state ≠ .notAssessed) := by
  cases stored with
  | none => exact Or.inl ⟨{}, rfl⟩
  | some st =>
    by_cases h : st.state = .notAssessed
    · refine Or.inl ⟨st, ?_⟩
      rw [newStatus, if_pos h]
    · rw [newStatus_kept h]
      exact Or.inr ⟨rfl, h⟩

theorem effective_state_ne (d : Desk) (read : List Vendor) (sc : ScoringControl) :
    (d.effective sys read sc).state ≠ .notAssessed := by
  rcases newStatus_cases (d.statuses sc.id) (d.rule sys read sc) with ⟨st, h⟩ | ⟨-, h⟩
  · rw [Desk.effective, h]
    exact ruleFor_state_ne _ _ _
  · exact h

theorem deriveSystem_statuses {d : Desk} {today : Int} {createPoams : Bool} {read : List Vendor}
    {id : Nat} {st : ScoringStatus}
    (h : (d.deriveSystem m sys today createPoams read).statuses id = some st) :
    (∃ sc ∈ m.practices, sc.id = id ∧ st = d.effective sys read sc) ∨
      d.statuses id = some st := by
  by_cases hid : ∃ sc ∈ m.practices, sc.id = id
  · obtain ⟨sc, hsc, rfl⟩ := hid
    rw [deriveSystem_status m sys hsc] at h
    exact Or.inl ⟨sc, hsc, rfl, (Option.some.inj h).symm⟩
  · refine Or.inr ?_
    have hother : (d.deriveSystem m sys today createPoams read).statuses id = d.statuses id := by
      refine foldl_other (fun f : Nat → Option ScoringStatus => f id) ?_ d.statuses
        fun sc hsc heq => hid ⟨sc, hsc, heq⟩
      intro f sc hne
      exact Function.update_of_ne (Ne.symm hne) _ f
    exact hother ▸ h

theorem assess_self (d : Desk) (sc : ScoringControl) (state : ScoreState)
    (notes evidenceRef : Option Text) :
    (d.assess sc state notes evidenceRef).statuses sc.id =
      some (recordAssessedState ((d.statuses sc.id).getD {}) state notes evidenceRef) :=
  Function.update_self _ _ _

theorem assess_other {sc : ScoringControl} {id : Nat} (h : id ≠ sc.id) (d : Desk)
    (state : ScoreState) (notes evidenceRef : Option Text) :
    (d.assess sc state notes evidenceRef).statuses id = d.statuses id :=
  Function.update_of_ne h _ _

theorem step_labelled {d d' : Desk} {a : Action} (h : d.Labelled)
    (hstep : d.step m sys a = some d') : d'.Labelled := by
  have hassess : ∀ sc state notes evidenceRef, (d.assess sc state notes evidenceRef).Labelled := by
    intro sc state notes evidenceRef id st hst hsource
    by_cases hid : id = sc.id
    · rw [hid, assess_self, Option.some.injEq] at hst
      rw [← hst] at hsource
      cases hsource
    · rw [assess_other hid] at hst
      exact h id st hst hsource
  cases a with
  | derive today createPoams read =>
    rw [Desk.step] at hstep
    split at hstep
    · rw [← Option.some.inj hstep]
      intro id st hst hsource
      rcases deriveSystem_statuses m sys hst with ⟨sc, -, -, rfl⟩ | hst
      · exact effective_state_ne sys d read sc
      · exact h id st hst hsource
    · cases hstep
  | saveProfile profile =>
    rw [← Option.some.inj hstep]
    exact h
  | saveVendors vendors =>
    rw [← Option.some.inj hstep]
    exact h
  | setControlState today controlId state notes evidenceRef =>
    obtain ⟨sc, -, rfl⟩ := Option.map_eq_some_iff.mp hstep
    exact hassess sc state notes evidenceRef
  | scoringSetState controlId state =>
    rw [← Option.some.inj hstep]
    split
    · exact h
    · exact hassess _ state none none

/-! ## Exactly when they are current -/

theorem seedGapPoams_spec (today : Int) (resp : ScoringControl → Responsibility)
    (gaps : List ScoringControl) (poams : List Poam) :
    ∃ rows, seedGapPoams sys.id today resp gaps poams = poams ++ rows ∧
      List.Forall₂ (fun sc p => ∃ id, p = gapPoam sys.id id today (resp sc) sc)
        (gaps.filter fun sc => gapTitle sc ∉ titlesOf sys.id poams) rows := by
  -- the titles are read before the loop, whatever it has written so far
  have hloop : ∀ (titles : List Text) (out : List Poam), ∃ rows,
      gaps.foldl (fun out sc => if gapTitle sc ∈ titles then out
        else out ++ [gapPoam sys.id (nextId out) today (resp sc) sc]) out = out ++ rows ∧
      List.Forall₂ (fun sc p => ∃ id, p = gapPoam sys.id id today (resp sc) sc)
        (gaps.filter fun sc => gapTitle sc ∉ titles) rows := by
    intro titles
    induction gaps with
    | nil => exact fun out => ⟨[], (List.append_nil out).symm, List.Forall₂.nil⟩
    | cons sc gaps ih =>
      intro out
      by_cases htitle : gapTitle sc ∈ titles
      · rw [List.foldl_cons, if_pos htitle, List.filter_cons_of_neg (by simpa using htitle)]
        exact ih out
      · rw [List.foldl_cons, if_neg htitle, List.filter_cons_of_pos (by simpa using htitle)]
        obtain ⟨rows, hrows, hall⟩ := ih (out ++ [gapPoam sys.id (nextId out) today (resp sc) sc])
        refine ⟨_ :: rows, ?_, List.Forall₂.cons ⟨nextId out, rfl⟩ hall⟩
        rw [hrows, List.append_assoc, List.singleton_append]
  exact hloop (titlesOf sys.id poams) poams

theorem seedGapPoams_eq_self {today : Int} {resp : ScoringControl → Responsibility}
    {gaps : List ScoringControl} {poams : List Poam}
    (h : ∀ sc ∈ gaps, gapTitle sc ∈ titlesOf sys.id poams) :
    seedGapPoams sys.id today resp gaps poams = poams := by
  obtain ⟨rows, hrows, hall⟩ := seedGapPoams_spec sys today resp gaps poams
  have hnone : (gaps.filter fun sc => gapTitle sc ∉ titlesOf sys.id poams) = [] :=
    List.filter_eq_nil_iff.mpr fun sc hsc => by simpa using h sc hsc
  rw [hnone, List.forall₂_nil_left_iff] at hall
  rw [hrows, hall, List.append_nil]

theorem gapPoam_mem_seedGapPoams (today : Int) (resp : ScoringControl → Responsibility)
    {gaps : List ScoringControl} {poams : List Poam} {sc : ScoringControl} (hsc : sc ∈ gaps)
    (htitle : gapTitle sc ∉ titlesOf sys.id poams) :
    ∃ id, gapPoam sys.id id today (resp sc) sc ∈ seedGapPoams sys.id today resp gaps poams := by
  obtain ⟨rows, hrows, hall⟩ := seedGapPoams_spec sys today resp gaps poams
  obtain ⟨p, hp, id, rfl⟩ := exists_of_forall₂ hall
    (List.mem_filter.mpr ⟨hsc, by simpa using htitle⟩)
  exact ⟨id, hrows ▸ List.mem_append_right _ hp⟩

theorem of_mem_seedGapPoams {today : Int} {resp : ScoringControl → Responsibility}
    {gaps : List ScoringControl} {poams : List Poam} {p : Poam}
    (hp : p ∈ seedGapPoams sys.id today resp gaps poams) :
    p ∈ poams ∨ ∃ sc ∈ gaps, gapTitle sc ∉ titlesOf sys.id poams ∧
      ∃ id, p = gapPoam sys.id id today (resp sc) sc := by
  obtain ⟨rows, hrows, hall⟩ := seedGapPoams_spec sys today resp gaps poams
  rw [hrows, List.mem_append] at hp
  refine hp.imp_right fun hp => ?_
  obtain ⟨sc, hsc, hid⟩ := exists_of_forall₂ hall.flip hp
  rw [List.mem_filter] at hsc
  exact ⟨sc, hsc.1, by simpa using hsc.2, hid⟩

theorem title_mem_seedGapPoams {today : Int} {resp : ScoringControl → Responsibility}
    {gaps : List ScoringControl} {poams : List Poam} {sc : ScoringControl} (hsc : sc ∈ gaps) :
    gapTitle sc ∈ titlesOf sys.id (seedGapPoams sys.id today resp gaps poams) := by
  by_cases htitle : gapTitle sc ∈ titlesOf sys.id poams
  · obtain ⟨rows, hrows, -⟩ := seedGapPoams_spec sys today resp gaps poams
    rw [hrows, titlesOf, List.filter_append, List.map_append]
    exact List.mem_append_left _ htitle
  · obtain ⟨id, hid⟩ := gapPoam_mem_seedGapPoams sys today resp hsc htitle
    exact List.mem_map.mpr ⟨_, List.mem_filter.mpr ⟨hid, decide_eq_true rfl⟩, rfl⟩

theorem deriveSystem_congr {d : Desk} {today : Int} {createPoams : Bool} {read read' : List Vendor}
    (h : ∀ sc ∈ m.practices, d.rule sys read sc = d.rule sys read' sc) :
    d.deriveSystem m sys today createPoams read = d.deriveSystem m sys today createPoams read' := by
  have heffective : ∀ sc ∈ m.practices, d.effective sys read sc = d.effective sys read' sc :=
    fun sc hsc => by rw [Desk.effective, Desk.effective, h sc hsc]
  have hgaps : m.practices.filter (d.isGap sys read) = m.practices.filter (d.isGap sys read') :=
    List.filter_congr fun sc hsc => by rw [Desk.isGap, Desk.isGap, heffective sc hsc, h sc hsc]
  have hstatuses := foldl_update_congr ScoringControl.id _ _ d.statuses
    (fun sc hsc => congrArg some (heffective sc hsc))
  have hentries := foldl_update_congr ScoringControl.controlId
    (fun sc => some (d.entry sys read sc)) (fun sc => some (d.entry sys read' sc))
    (fun _ => none) (fun sc (hsc : sc ∈ m.practices) => by
      rw [Desk.entry, Desk.entry, heffective sc hsc, h sc hsc])
  have hseed : seedGapPoams sys.id today (fun sc => (d.rule sys read sc).responsibility)
      (m.practices.filter (d.isGap sys read')) d.poams =
      seedGapPoams sys.id today (fun sc => (d.rule sys read' sc).responsibility)
      (m.practices.filter (d.isGap sys read')) d.poams := by
    refine List.foldl_ext _ _ _ fun out sc hsc => ?_
    simp only [h sc (List.mem_of_mem_filter hsc)]
  rw [Desk.deriveSystem, Desk.deriveSystem, hstatuses, hentries, hgaps, hseed]

/-- The first run leaves statuses that no later one replaces: where the rules are the same, the
second run changes nothing. -/
theorem deriveSystem_again {d : Desk} {today today' : Int} {createPoams : Bool}
    {read read' : List Vendor} (h : ∀ sc ∈ m.practices, d.rule sys read' sc = d.rule sys read sc) :
    (d.deriveSystem m sys today createPoams read).deriveSystem m sys today' createPoams read' =
      d.deriveSystem m sys today createPoams read := by
  have hrule : ∀ sc ∈ m.practices,
      (d.deriveSystem m sys today createPoams read).rule sys read' sc = d.rule sys read sc := h
  have heffective : ∀ sc ∈ m.practices,
      (d.deriveSystem m sys today createPoams read).effective sys read' sc =
        d.effective sys read sc := by
    intro sc hsc
    rw [Desk.effective, deriveSystem_status m sys hsc, newStatus_kept]
    exact effective_state_ne sys d read sc
  have hstatuses := foldl_update_eq ScoringControl.id
    (fun sc => some ((d.deriveSystem m sys today createPoams read).effective sys read' sc))
    (fun sc (hsc : sc ∈ m.practices) =>
      (deriveSystem_status m sys hsc d today createPoams read).trans
        (congrArg some (heffective sc hsc).symm))
  have hentries := foldl_update_congr ScoringControl.controlId
    (fun sc => some ((d.deriveSystem m sys today createPoams read).entry sys read' sc))
    (fun sc => some (d.entry sys read sc)) (fun _ => none)
    (fun sc (hsc : sc ∈ m.practices) => by
      rw [Desk.entry, Desk.entry, heffective sc hsc, hrule sc hsc])
  have hgaps : m.practices.filter
      ((d.deriveSystem m sys today createPoams read).isGap sys read') =
      m.practices.filter (d.isGap sys read) :=
    List.filter_congr fun sc hsc => by
      rw [Desk.isGap, Desk.isGap, heffective sc hsc, hrule sc hsc]
  refine Desk.ext rfl rfl hstatuses hentries ?_
  cases createPoams with
  | false => rfl
  | true =>
    -- the first run has left a POA&M of every gap's title
    refine seedGapPoams_eq_self sys fun sc hsc => ?_
    exact title_mem_seedGapPoams sys (hgaps ▸ hsc)

theorem Desk.UpToDate.current {d : Desk} (h : d.UpToDate m sys) {today : Int} {createPoams : Bool}
    {read : List Vendor} (hread : read.Perm d.vendors) :
    d.Current m sys today createPoams read := by
  have hrule : ∀ sc ∈ m.practices, ∀ rows, rows.Perm d.vendors →
      d.rule sys rows sc = d.rule sys d.vendors sc :=
    fun sc hsc => (rule_perm_iff sys).mpr (h.unambiguous sc hsc)
  have hread' : ∀ read', read'.Perm d.vendors → ∀ sc ∈ m.practices,
      d.rule sys read' sc = d.rule sys read sc := by
    intro read' hread' sc hsc
    rw [hrule sc hsc read' hread', hrule sc hsc read hread]
  refine ⟨?_, ?_, ?_, ?_⟩
  · intro sc hsc st hst hsource rows hrows
    rw [deriveSystem_status m sys hsc, Option.some.injEq] at hst
    rw [hrule sc hsc rows hrows, ← hst]
    rcases newStatus_cases (d.statuses sc.id) (d.rule sys read sc) with ⟨st', h'⟩ | ⟨h', -⟩
    · rw [Desk.effective, h', hrule sc hsc read hread]
      exact labels_recordDerived st' _
    · exact h.unchanged sc hsc _ h' (hst ▸ hsource)
  · intro sc hsc st hst hsource
    rw [deriveSystem_status m sys hsc, Desk.effective, hst,
      newStatus_kept (h.assessed sc hsc st hst hsource)]
  · exact fun read' hr => deriveSystem_congr m sys (hread' read' hr)
  · exact fun read' hr _ => deriveSystem_again m sys (hread' read' hr)

theorem Desk.UpToDate.of_current {d : Desk} (hlabelled : d.Labelled) {today : Int}
    {createPoams : Bool} {read : List Vendor} (h : d.Current m sys today createPoams read) :
    d.UpToDate m sys := by
  refine ⟨fun sc hsc => (rule_perm_iff sys).mp fun rows hrows => ?_, ?_, ?_⟩
  · -- the snapshot holds all that a rule gives
    have heq := (h.order rows hrows).trans (h.order d.vendors (List.Perm.refl _)).symm
    have hentry := congrArg (fun d : Desk => d.derivation sc.controlId) heq
    simp only [deriveSystem_entry m sys hsc, Option.some.injEq] at hentry
    exact Rule.ext (congrArg Derived.derivedState hentry)
      (congrArg Derived.responsibility hentry) (congrArg Derived.source hentry)
  · -- a person's `not_assessed` would be relabelled
    intro sc hsc st hst hsource hstate
    have hkept := h.human sc hsc st hst hsource
    rw [deriveSystem_status m sys hsc, Option.some.injEq, Desk.effective, hst, newStatus,
      if_pos hstate] at hkept
    rw [← hkept] at hsource
    cases hsource
  · intro sc hsc st hst hsource
    refine h.current sc hsc st ?_ hsource d.vendors (List.Perm.refl _)
    rw [deriveSystem_status m sys hsc, Desk.effective, hst,
      newStatus_kept (hlabelled sc.id st hst hsource)]

/-- **When the derived states are current**, of a derivation in a state whose labels are in
order. -/
theorem current_iff {d : Desk} (hlabelled : d.Labelled) {today : Int} {createPoams : Bool}
    {read : List Vendor} (hread : read.Perm d.vendors) :
    d.Current m sys today createPoams read ↔ d.UpToDate m sys :=
  ⟨Desk.UpToDate.of_current m sys hlabelled, fun h => h.current m sys hread⟩

/-- A system that nobody has derived or assessed. -/
def Desk.fresh (profile : Profile) (vendors : List Vendor) (poams : List Poam) : Desk where
  profile := profile
  vendors := vendors
  statuses := fun _ => none
  derivation := fun _ => none
  poams := poams

/-- **Derived states are current** after a derivation, in whatever run of derivations, edits of
the profile and the vendors, and assessments it stands, if and only if the system was up to date
before it. -/
theorem derivation_current_iff {profile : Profile} {vendors : List Vendor} {poams : List Poam}
    {actions : List Action} {d : Desk}
    (hrun : exec (fun d a => d.step m sys a) (Desk.fresh profile vendors poams) actions = some d)
    {today : Int} {createPoams : Bool} {read : List Vendor} (hread : read.Perm d.vendors) :
    d.Current m sys today createPoams read ↔ d.UpToDate m sys := by
  have hlabelled : d.Labelled := exec_invariant (fun d a d' h => step_labelled m sys h)
    (I := Desk.Labelled) (fun id st hst => by cases hst) hrun
  exact current_iff m sys hlabelled hread

end Runs

/-! ## A vendor that is offboarded -/

def awareness : ScoringControl where
  id := 1
  controlId := "AT.L2-3.2.1".toList
  nistId := some "3.2.1".toList
  domain := "AT".toList
  title := some "Role-Based Risk Awareness".toList
  pointValue := "5".toList
  m365CoverageStatus := some "Customer Responsibility".toList

def onePractice : Matrix := ⟨[awareness], List.nodup_singleton _, List.nodup_singleton _⟩

def acme (status : String) : Vendor :=
  ⟨3, some 1, "Acme".toList, status.toList, ["AT.L2-3.2.1".toList]⟩

def noCloud : Profile := ⟨["mobile".toList], some "wireless".toList, none⟩

/-- A system of organization 1 that inherits a practice from Acme, then Acme is offboarded. -/
def acmeLeaves : List Action :=
  [.derive 0 true [acme "active"], .saveVendors [acme "offboarded"]]

theorem acmeLeaves_not_current :
    ∃ d, exec (fun d a => d.step onePractice ⟨1, some 1⟩ a)
        (Desk.fresh noCloud [acme "active"] []) acmeLeaves = some d ∧
      ¬ d.Current onePractice ⟨1, some 1⟩ 1 true [acme "offboarded"] := by
  refine ⟨_, rfl, fun h => ?_⟩
  have hlabels := h.current awareness List.mem_cons_self _ rfl rfl [acme "offboarded"]
    (List.Perm.refl _)
  exact absurd hlabels.state (by decide +kernel)

/-- After that run the system is not up to date, and that is why. -/
theorem acmeLeaves_current_iff :
    ∃ d, exec (fun d a => d.step onePractice ⟨1, some 1⟩ a)
        (Desk.fresh noCloud [acme "active"] []) acmeLeaves = some d ∧
      (d.Current onePractice ⟨1, some 1⟩ 1 true [acme "offboarded"] ↔
        d.UpToDate onePractice ⟨1, some 1⟩) := by
  have hrun : ∀ d, exec (fun d a => d.step onePractice ⟨1, some 1⟩ a)
      (Desk.fresh noCloud [acme "active"] []) acmeLeaves = some d →
      [acme "offboarded"].Perm d.vendors →
      (d.Current onePractice ⟨1, some 1⟩ 1 true [acme "offboarded"] ↔
        d.UpToDate onePractice ⟨1, some 1⟩) :=
    fun d hd hread => derivation_current_iff onePractice ⟨1, some 1⟩ hd hread
  exact ⟨_, rfl, hrun _ rfl (List.Perm.refl _)⟩

/-! ## The POA&M of a gap -/

/-- An active POA&M of the system whose title begins as the gap POA&Ms of the practice do. -/
def Tracks (sys : SystemRef) (sc : ScoringControl) (p : Poam) : Prop :=
  p.systemId = sys.id ∧ p.status.active = true ∧ sc.controlId ++ " —".toList <+: p.title

section Gaps

variable (m : Matrix) (sys : SystemRef)

/-- **Every gap has active remediation**, right after a derivation that opens POA&Ms. -/
def Desk.GapsTracked (d : Desk) (today : Int) (read : List Vendor) : Prop :=
  ∀ sc ∈ m.practices, d.isGap sys read sc = true →
    ∃ p ∈ (d.deriveSystem m sys today true read).poams, Tracks sys sc p

/-- A gap can be tracked: it is, or a row will be opened under its id, since a gap's title is
still free. -/
def Desk.Trackable (d : Desk) (read : List Vendor) (sc : ScoringControl) : Prop :=
  (∃ p ∈ d.poams, Tracks sys sc p) ∨
    ∃ g ∈ m.practices, d.isGap sys read g = true ∧ gapTitle g ∉ titlesOf sys.id d.poams ∧
      sc.controlId ++ " —".toList <+: gapTitle g

theorem tracked_iff {d : Desk} {today : Int} {read : List Vendor} {sc : ScoringControl} :
    (∃ p ∈ (d.deriveSystem m sys today true read).poams, Tracks sys sc p) ↔
      d.Trackable m sys read sc := by
  constructor
  · rintro ⟨p, hp, htracks⟩
    rcases of_mem_seedGapPoams sys hp with hp | ⟨g, hg, hfree, id, rfl⟩
    · exact Or.inl ⟨p, hp, htracks⟩
    · rw [List.mem_filter] at hg
      exact Or.inr ⟨g, hg.1, hg.2, hfree, htracks.2.2⟩
  · rintro (⟨p, hp, htracks⟩ | ⟨g, hg, hgap, hfree, hprefix⟩)
    · obtain ⟨rows, hrows, -⟩ := seedGapPoams_spec sys today
        (fun sc => (d.rule sys read sc).responsibility) (m.practices.filter (d.isGap sys read))
        d.poams
      refine ⟨p, ?_, htracks⟩
      show p ∈ seedGapPoams sys.id today _ _ d.poams
      rw [hrows]
      exact List.mem_append_left rows hp
    · obtain ⟨id, hid⟩ := gapPoam_mem_seedGapPoams sys today
        (fun sc => (d.rule sys read sc).responsibility) (List.mem_filter.mpr ⟨hg, hgap⟩) hfree
      exact ⟨_, hid, rfl, rfl, hprefix⟩

/-- **When every derived gap has active remediation**: in a run of derivations, assessments with
and without their reaction, and edits, every derivation that opens POA&Ms tracks all its gaps if
and only if each finds its gaps trackable. -/
theorem gaps_tracked_iff (profile : Profile) (vendors : List Vendor) (poams : List Poam)
    (actions : List Action) :
    Guarded (fun d a => d.step m sys a)
        (fun d a => ∀ today read, a = .derive today true read → d.GapsTracked m sys today read)
        (Desk.fresh profile vendors poams) actions ↔
      Guarded (fun d a => d.step m sys a)
        (fun d a => ∀ today read, a = .derive today true read →
          ∀ sc ∈ m.practices, d.isGap sys read sc = true → d.Trackable m sys read sc)
        (Desk.fresh profile vendors poams) actions := by
  refine guarded_congr fun d a => forall₂_congr fun today read => imp_congr_right fun _ => ?_
  exact forall₂_congr fun sc _ => imp_congr_right fun _ => tracked_iff m sys

end Gaps

/-! ## A gap that comes back -/

def gapAgain : List Action :=
  [.derive 0 true [], .setControlState 1 awareness.controlId .implemented none none,
    .setControlState 2 awareness.controlId .notImplemented none none]

/-- The title is that of the POA&M that was closed. -/
theorem gapAgain_not_tracked :
    ∃ d, exec (fun d a => d.step onePractice ⟨1, some 1⟩ a) (Desk.fresh noCloud [] [])
        gapAgain = some d ∧ ¬ d.GapsTracked onePractice ⟨1, some 1⟩ 3 [] := by
  have hrun : ∃ d, exec (fun d a => d.step onePractice ⟨1, some 1⟩ a) (Desk.fresh noCloud [] [])
      gapAgain = some d ∧ d.isGap ⟨1, some 1⟩ [] awareness = true ∧
      (d.deriveSystem onePractice ⟨1, some 1⟩ 3 true []).poams.all (fun p => !p.status.active) =
        true := ⟨_, rfl, by decide +kernel, by decide +kernel⟩
  obtain ⟨d, hd, hgap, hclosed⟩ := hrun
  refine ⟨d, hd, fun h => ?_⟩
  obtain ⟨p, hp, -, hactive, -⟩ := h awareness List.mem_cons_self hgap
  have hp := List.all_eq_true.mp hclosed p hp
  rw [hactive] at hp
  cases hp

end Concord.Scoring
