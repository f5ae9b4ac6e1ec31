import Concord.Analytics.Posture

/-!
# Do the numbers reconcile?

Every count of `Concord.Analytics.Posture` is a count of rows of live systems, but for the
evidence, the accepted and the undated POA&Ms and the risks by status of the global view: these
are counted of any system and of none.

`reconciles_iff`: the numbers reconcile exactly where there are no such rows, no status is
overwritten under its label, and no last month with closures has a mean that rounds to zero.
-/

namespace Concord.Analytics

open Concord.Base Concord.Python
open Concord.Governance (PoamStatus Severity)

/-- The counts of a view. -/
inductive Measure where
  /-- What the cards add up to. -/
  | cards (f : Card → Nat)
  | systemsTotal
  | systemsScored
  | openTotal
  | overdue
  | noDueDate
  | onTrack
  | bucket (b : Bucket)
  | severity (s : Severity)
  | accepted
  | completedMissingClosure
  | evidenceTotal
  | evidence (f : Freshness)
  | risks (s : RiskStatus)
  | systemsByAto (label : AtoStatus)
  | band (b : Band)
  | closedTotal

def measure (st : Setting) (db : Db) (today : Today) (months : Nat) (view : Option Nat) :
    Measure → Nat
  | .cards f => ((orgSummary st db today.date view).systems.map f).sum
  | .systemsTotal => (orgSummary st db today.date view).systemsTotal
  | .systemsScored => (orgSummary st db today.date view).systemsScored
  | .openTotal => (orgSummary st db today.date view).poamAging.openTotal
  | .overdue => (orgSummary st db today.date view).poamAging.overdue
  | .noDueDate => (orgSummary st db today.date view).poamAging.noDueDate
  | .onTrack => (orgSummary st db today.date view).poamAging.onTrack
  | .bucket b => (orgSummary st db today.date view).poamAging.buckets b
  | .severity s => (orgSummary st db today.date view).poamAging.bySeverity s
  | .accepted => (orgSummary st db today.date view).poamAging.accepted
  | .completedMissingClosure =>
    (orgSummary st db today.date view).poamAging.completedMissingClosure
  | .evidenceTotal => (orgSummary st db today.date view).evidence.total
  | .evidence f => (orgSummary st db today.date view).evidence.counts f
  | .risks s => (orgSummary st db today.date view).risksByStatus s
  | .systemsByAto label => (orgSummary st db today.date view).systemsByAto label
  | .band b => riskByBand db view b
  | .closedTotal => (mttrTrend db today.date view months).closedTotal

/-- The last month of the window that has closures. -/
def mostRecent (db : Db) (today : Date) (view : Option Nat) (months : Nat) : Option Month :=
  (window months (monthOf today)).find? fun k => closures db view k ≠ []

/-- The numbers agree with each other, and those of all organizations with those of each. -/
structure Reconciles (st : Setting) (db : Db) (today : Today) (months : Nat) : Prop where
  openPoams : ∀ view, ((orgSummary st db today.date view).systems.map Card.openPoams).sum =
    (orgSummary st db today.date view).poamAging.openTotal
  overduePoams : ∀ view, ((orgSummary st db today.date view).systems.map Card.overduePoams).sum =
    (orgSummary st db today.date view).poamAging.overdue
  expiredEvidence : ∀ view,
    ((orgSummary st db today.date view).systems.map Card.expiredEvidence).sum =
      (orgSummary st db today.date view).evidence.counts .expired
  openRisks : ∀ view, (bands.map (riskByBand db view)).sum =
    ([.opened, .mitigated, .accepted].map (orgSummary st db today.date view).risksByStatus).sum
  global : ∀ m, measure st db today months none m =
    (db.organizations.map fun o => measure st db today months (some o) m).sum
  latest : ∀ view, (mttrTrend db today.date view months).latest =
    (mostRecent db today.date view months).map fun k => meanTenths (closures db view k)

/-- The live systems of a view that are counted under no label: of those without a status and
those whose status is `none`, the group that comes first, if there are both. -/
def overwritten (st : Setting) (db : Db) (view : Option Nat) : Nat :=
  if st.nullLast view then
    (if countAto db view none = 0 then 0 else countAto db view (some .none))
  else if countAto db view (some .none) = 0 then 0 else countAto db view none

/-- The rows that are counted of any system are of live ones, and the last month with closures
took some time. -/
structure Tidy (st : Setting) (db : Db) (today : Today) (months : Nat) : Prop where
  evidence : ∀ e ∈ db.evidence, inSystems db none (db.systemOf e) = true
  accepted : ∀ p ∈ db.poams, p.status = .riskAccepted → inSystems db none p.systemId = true
  completed : ∀ p ∈ db.poams, p.status = .completed → p.closedOn = none →
    inSystems db none p.systemId = true
  risks : ∀ r ∈ db.risks, inSystems db none r.systemId = true
  statuses : overwritten st db none =
    (db.organizations.map fun o => overwritten st db (some o)).sum
  closures : ∀ view k, mostRecent db today.date view months = some k →
    meanTenths (closures db view k) ≠ 0

section Views

variable {st : Setting} {db : Db} {today : Date} {view : Option Nat} {α : Type}

/-! ## Whose rows -/

theorem nodup_subq (db : Db) (view : Option Nat) : (orgSystemSubq db view).Nodup :=
  db.systemIds.sublist (List.filter_sublist.map System.id)

def home (db : Db) (systemId : Option Nat) : Option Nat :=
  systemId.bind fun i =>
    (db.systems.find? fun s => s.id = i && !s.deleted).map System.organizationId

theorem mem_subq {i : Nat} :
    i ∈ orgSystemSubq db view ↔ ∃ s ∈ db.systems, s.deleted = false ∧
      (∀ o ∈ view, s.organizationId = o) ∧ s.id = i := by
  simp [orgSystemSubq, liveSystems, Option.all_eq_true, and_assoc]

theorem home_some {i o : Nat} :
    home db (some i) = some o ↔
      ∃ s ∈ db.systems, s.deleted = false ∧ s.organizationId = o ∧ s.id = i := by
  show (db.systems.find? fun s => s.id = i && !s.deleted).map System.organizationId = some o ↔ _
  constructor
  · intro h
    obtain ⟨s, hs, horg⟩ := Option.map_eq_some_iff.mp h
    have hcond := List.find?_some hs
    simp only [Bool.and_eq_true, decide_eq_true_eq, Bool.not_eq_true'] at hcond
    exact ⟨s, List.mem_of_find?_eq_some hs, hcond.2, horg, hcond.1⟩
  · rintro ⟨s, hs, hlive, rfl, rfl⟩
    cases hfind : db.systems.find? fun x => x.id = s.id && !x.deleted with
    | none =>
      have hnot := List.find?_eq_none.mp hfind s hs
      simp [hlive] at hnot
    | some x =>
      have hcond := List.find?_some hfind
      simp only [Bool.and_eq_true, decide_eq_true_eq] at hcond
      have hid : x.id = s.id := hcond.1
      rw [List.inj_on_of_nodup_map db.systemIds (List.mem_of_find?_eq_some hfind) hs hid]
      rfl

theorem inSystems_some {o : Nat} {i : Option Nat} :
    inSystems db (some o) i = decide (home db i = some o) := by
  rw [Bool.eq_iff_iff, decide_eq_true_eq]
  cases i with
  | none => simp [inSystems, home]
  | some i =>
    rw [home_some]
    show decide (i ∈ orgSystemSubq db (some o)) = true ↔ _
    rw [decide_eq_true_eq, mem_subq]
    simp

theorem inSystems_none {i : Option Nat} :
    inSystems db none i = decide (home db i ∈ db.organizations.map some) := by
  rw [Bool.eq_iff_iff, decide_eq_true_eq]
  cases i with
  | none => simp [inSystems, home]
  | some i =>
    show decide (i ∈ orgSystemSubq db none) = true ↔ _
    rw [decide_eq_true_eq, mem_subq, List.mem_map]
    constructor
    · rintro ⟨s, hs, hlive, -, hid⟩
      exact ⟨s.organizationId, db.homes s hs, (home_some.mpr ⟨s, hs, hlive, rfl, hid⟩).symm⟩
    · rintro ⟨o, -, ho⟩
      obtain ⟨s, hs, hlive, -, hid⟩ := home_some.mp ho.symm
      exact ⟨s, hs, hlive, fun _ h => (nomatch h), hid⟩

/-- **The rows of live systems** are those of the organizations. -/
theorem global_countP (db : Db) (systemId : α → Option Nat) (p : α → Bool) (rows : List α) :
    (rows.countP fun a => inSystems db none (systemId a) && p a) =
      (db.organizations.map fun o =>
        rows.countP fun a => inSystems db (some o) (systemId a) && p a).sum := by
  have hkeys : (db.organizations.map some).Nodup :=
    db.orgIds.map (Option.some_injective Nat)
  have hsum := sum_countP_key (fun a => home db (systemId a)) hkeys p rows
  rw [List.map_map] at hsum
  simp only [inSystems_none, inSystems_some]
  refine (List.countP_congr fun a _ => ?_).trans hsum.symm
  simp only [Bool.and_eq_true, decide_eq_true_eq]

theorem global_systems (db : Db) (f : System → Nat) :
    ((liveSystems db none).map f).sum =
      (db.organizations.map fun o => ((liveSystems db (some o)).map f).sum).sum := by
  have hsum := sum_filter_key System.organizationId db.orgIds f (fun s => !s.deleted) db.systems
  have hnone : liveSystems db none = db.systems.filter fun s =>
      decide (s.organizationId ∈ db.organizations) && !s.deleted := by
    refine List.filter_congr fun s hs => ?_
    simp [db.homes s hs]
  have hsome : ∀ o, liveSystems db (some o) = db.systems.filter fun s =>
      decide (s.organizationId = o) && !s.deleted := by
    intro o
    refine List.filter_congr fun s _ => ?_
    rw [Bool.and_comm]
    rfl
  simp only [hnone, hsome]
  exact hsum.symm

theorem sum_systems (db : Db) (view : Option Nat) (systemId : α → Option Nat) (p : α → Bool)
    (rows : List α) :
    ((liveSystems db view).map fun s =>
        rows.countP fun a => decide (systemId a = some s.id) && p a).sum =
      rows.countP fun a => inSystems db view (systemId a) && p a := by
  have hkeys : ((orgSystemSubq db view).map some).Nodup :=
    (nodup_subq db view).map (Option.some_injective Nat)
  have hsum := sum_countP_key systemId hkeys p rows
  rw [orgSystemSubq, List.map_map, List.map_map] at hsum
  refine hsum.trans (List.countP_congr fun a _ => ?_)
  have hin : decide (systemId a ∈ (liveSystems db view).map (some ∘ System.id)) =
      inSystems db view (systemId a) := by
    rw [Bool.eq_iff_iff, decide_eq_true_eq]
    cases systemId a with
    | none => simp [inSystems]
    | some i => simp [inSystems, orgSystemSubq]
  rw [← hin]
  simp

/-- A count that is filtered only in the view of an organization is the sum of these exactly if
all that is counted is of live systems. -/
theorem global_unscoped_iff (db : Db) (systemId : α → Option Nat) (p : α → Bool)
    (rows : List α) :
    (rows.countP fun a => inSystemsIfScoped db none (systemId a) && p a) =
        (db.organizations.map fun o =>
          rows.countP fun a => inSystemsIfScoped db (some o) (systemId a) && p a).sum ↔
      ∀ a ∈ rows, p a = true → inSystems db none (systemId a) = true := by
  have hsome : ∀ o i, inSystemsIfScoped db (some o) i = inSystems db (some o) i :=
    fun o i => Bool.false_or _
  have hnone : ∀ i, inSystemsIfScoped db none i = true := fun i => Bool.true_or _
  simp only [hsome, hnone, Bool.true_and]
  rw [← global_countP]
  exact eq_comm.trans countP_and_eq_iff

/-! ## Every count is a count of rows -/

theorem tick_apply {κ : Type} [DecidableEq κ] (counts : κ → Nat) (key k : κ) :
    tick counts key k = counts k + if decide (key = k) = true then 1 else 0 := by
  unfold tick
  by_cases h : key = k
  · rw [← h, Function.update_self, if_pos (decide_eq_true rfl)]
  · rw [Function.update_of_ne (Ne.symm h), if_neg (by simpa using h), Nat.add_zero]

theorem foldl_tick {κ : Type} [DecidableEq κ] (key : α → κ) (rows : List α) (k : κ) :
    rows.foldl (fun counts a => tick counts (key a)) (fun _ => 0) k =
      rows.countP fun a => key a = k := by
  have h := foldl_count (fun counts : κ → Nat => counts k)
    (fun counts a => tick_apply counts (key a) k) rows fun _ => 0
  exact h.trans (Nat.zero_add _)

theorem countP_openPoams (db : Db) (view : Option Nat) (q : Poam → Bool) :
    (openPoams db view).countP q =
      db.poams.countP fun p => inSystems db view p.systemId && (p.active && q p) := by
  rw [openPoams, List.countP_filter]
  refine List.countP_congr fun p _ => ?_
  simp only [Bool.and_eq_true]
  tauto

theorem tally_overdue (today : Date) (rows : List Poam) :
    (rows.foldl (Tally.add today) Tally.zero).overdue = rows.countP (Poam.overdue today) := by
  refine (foldl_count Tally.overdue (fun t p => ?_) rows Tally.zero).trans (Nat.zero_add _)
  show (if p.overdue today then t.overdue + 1 else t.overdue) = _
  split <;> rfl

theorem tally_noDueDate (today : Date) (rows : List Poam) :
    (rows.foldl (Tally.add today) Tally.zero).noDueDate =
      rows.countP fun p => p.effectiveDue.isNone := by
  refine (foldl_count Tally.noDueDate (fun t p => ?_) rows Tally.zero).trans (Nat.zero_add _)
  show (if p.effectiveDue.isNone then t.noDueDate + 1 else t.noDueDate) = _
  split <;> rfl

theorem tally_buckets (today : Date) (rows : List Poam) (b : Bucket) :
    (rows.foldl (Tally.add today) Tally.zero).buckets b =
      rows.countP fun p => bucketOf today p = b :=
  (foldl_count (fun t : Tally => t.buckets b) (fun t _ => tick_apply t.buckets _ b) rows
    Tally.zero).trans (Nat.zero_add _)

theorem tally_bySeverity (today : Date) (rows : List Poam) (s : Severity) :
    (rows.foldl (Tally.add today) Tally.zero).bySeverity s =
      rows.countP fun p => p.severity = s :=
  (foldl_count (fun t : Tally => t.bySeverity s) (fun t _ => tick_apply t.bySeverity _ s) rows
    Tally.zero).trans (Nat.zero_add _)

end Views

section Measures

variable {st : Setting} {db : Db} {today : Today} {months : Nat} {view : Option Nat}

theorem sum_cards (st : Setting) (db : Db) (today : Date) (view : Option Nat) (f : Card → Nat) :
    ((systemsScorecard st db today view).map f).sum =
      ((liveSystems db view).map fun s => f (card st db today s)).sum := by
  rw [systemsScorecard, List.map_map]
  exact ((List.perm_insertionSort _ _).map _).sum_eq

theorem measure_openTotal : measure st db today months view .openTotal =
    db.poams.countP fun p => inSystems db view p.systemId && p.active := by
  show (openPoams db view).length = _
  rw [openPoams, ← List.countP_eq_length_filter]
  refine List.countP_congr fun p _ => ?_
  rw [Bool.and_comm]

theorem measure_overdue : measure st db today months view .overdue =
    db.poams.countP fun p =>
      inSystems db view p.systemId && (p.active && p.overdue today.date) :=
  (tally_overdue _ _).trans (countP_openPoams db view _)

theorem measure_noDueDate : measure st db today months view .noDueDate =
    db.poams.countP fun p =>
      inSystems db view p.systemId && (p.active && p.effectiveDue.isNone) :=
  (tally_noDueDate _ _).trans (countP_openPoams db view _)

theorem measure_onTrack : measure st db today months view .onTrack =
    db.poams.countP fun p => inSystems db view p.systemId &&
      (p.active && (!p.overdue today.date && !p.effectiveDue.isNone)) := by
  have hexcl : ∀ p : Poam, p.overdue today.date = true → p.effectiveDue.isNone = false := by
    intro p hp
    unfold Poam.overdue at hp
    cases hdue : p.effectiveDue with
    | none =>
      rw [hdue] at hp
      cases hp
    | some d => rfl
  have hsum := countP_neither hexcl (openPoams db view)
  show (openPoams db view).length - (Tally.overdue _) - (Tally.noDueDate _) = _
  rw [tally_overdue, tally_noDueDate, ← countP_openPoams]
  omega

theorem measure_bucket (b : Bucket) : measure st db today months view (.bucket b) =
    db.poams.countP fun p =>
      inSystems db view p.systemId && (p.active && decide (bucketOf today.date p = b)) :=
  (tally_buckets _ _ b).trans (countP_openPoams db view _)

theorem measure_severity (s : Severity) : measure st db today months view (.severity s) =
    db.poams.countP fun p =>
      inSystems db view p.systemId && (p.active && decide (p.severity = s)) :=
  (tally_bySeverity _ _ s).trans (countP_openPoams db view _)

theorem measure_evidenceTotal : measure st db today months view .evidenceTotal =
    db.evidence.countP fun e => inSystemsIfScoped db view (db.systemOf e) && true := by
  simp only [Bool.and_true]
  exact List.countP_eq_length_filter.symm

theorem measure_evidence (f : Freshness) : measure st db today months view (.evidence f) =
    db.evidence.countP fun e =>
      inSystemsIfScoped db view (db.systemOf e) && decide (freshnessOf today.date e = f) := by
  refine (foldl_tick (freshnessOf today.date) _ f).trans ?_
  rw [List.countP_filter]
  exact List.countP_congr fun e _ => by rw [Bool.and_comm]

theorem riskByBand_eq (db : Db) (view : Option Nat) (b : Band) :
    riskByBand db view b = db.risks.countP fun r => inSystems db view r.systemId &&
      (!decide (r.status = .closed) && decide (band r.residualScore = b)) := by
  have hadd : ∀ (out : Band → Nat) (r : Risk),
      (if r.status = .closed then out else tick out (band r.residualScore)) b =
        out b + if !decide (r.status = .closed) && decide (band r.residualScore = b) then 1
          else 0 := by
    intro out r
    by_cases hclosed : r.status = .closed
    · simp [hclosed]
    · rw [if_neg hclosed, tick_apply]
      simp [hclosed]
  refine (foldl_count (fun out : Band → Nat => out b) hadd _ fun _ => 0).trans ?_
  rw [Nat.zero_add, List.countP_filter]
  exact List.countP_congr fun r _ => by rw [Bool.and_comm]

def closedIn (m : Month) (p : Poam) : Bool :=
  p.identifiedOn.isSome && p.closedOn.any fun d => monthOf d = m

theorem closures_length (db : Db) (view : Option Nat) (m : Month) :
    (closures db view m).length =
      db.poams.countP fun p => inSystems db view p.systemId && closedIn m p := by
  unfold closures
  rw [List.length_filterMap_eq_countP]
  refine List.countP_congr fun p _ => ?_
  unfold closedIn
  cases p.closedOn with
  | none => simp
  | some closedOn =>
    cases p.identifiedOn with
    | none => simp
    | some identifiedOn =>
      dsimp only
      split <;> simp_all

theorem systemsByAto_add (st : Setting) (db : Db) (view : Option Nat) :
    systemsByAto st db view .none + overwritten st db view =
      countAto db view none + countAto db view (some .none) := by
  unfold systemsByAto overwritten
  rw [if_pos rfl]
  dsimp only
  split
  · split
    · omega
    · omega
  · split
    · omega
    · omega

theorem global_countAto (db : Db) (s : Option AtoStatus) :
    countAto db none s = (db.organizations.map fun o => countAto db (some o) s).sum := by
  have hcount : ∀ v, countAto db v s =
      ((liveSystems db v).map fun x => if x.atoStatus = s then 1 else 0).sum := by
    intro v
    rw [countAto, countP_eq_sum, sum_filter]
    simp only [decide_eq_true_eq]
  simp only [hcount]
  exact global_systems db _

/-- The count of the global view is the sum of that of the organizations. -/
def Additive (st : Setting) (db : Db) (today : Today) (months : Nat) (m : Measure) : Prop :=
  measure st db today months none m =
    (db.organizations.map fun o => measure st db today months (some o) m).sum

theorem additive_of_countP {α : Type} {m : Measure} {systemId : α → Option Nat} {p : α → Bool}
    {rows : List α} (h : ∀ view, measure st db today months view m =
      rows.countP fun a => inSystems db view (systemId a) && p a) :
    Additive st db today months m := by
  unfold Additive
  simp only [h]
  exact global_countP db systemId p rows

/-- The counts that are filtered only for an organization are additive exactly if all that is
counted is of live systems. -/
theorem additive_iff_of_unscoped {α : Type} {m : Measure} {systemId : α → Option Nat}
    {p : α → Bool} {rows : List α} (h : ∀ view, measure st db today months view m =
      rows.countP fun a => inSystemsIfScoped db view (systemId a) && p a) :
    Additive st db today months m ↔
      ∀ a ∈ rows, p a = true → inSystems db none (systemId a) = true := by
  unfold Additive
  simp only [h]
  exact global_unscoped_iff db systemId p rows

theorem additive_cards (f : Card → Nat) : Additive st db today months (.cards f) := by
  have hcards : ∀ view, measure st db today months view (.cards f) =
      ((liveSystems db view).map fun s => f (card st db today.date s)).sum :=
    fun view => sum_cards st db today.date view f
  unfold Additive
  simp only [hcards]
  exact global_systems db _

theorem additive_systemsTotal : Additive st db today months .systemsTotal := by
  have hone : ∀ view, measure st db today months view .systemsTotal =
      measure st db today months view (.cards fun _ => 1) := by
    intro view
    show (systemsScorecard st db today.date view).length = _
    rw [← List.countP_true, countP_eq_sum, List.filter_true]
    rfl
  unfold Additive
  simp only [hone]
  exact additive_cards _

theorem additive_systemsScored : Additive st db today months .systemsScored := by
  have hone : ∀ view, measure st db today months view .systemsScored =
      measure st db today months view (.cards fun c => if c.assessed then 1 else 0) := by
    intro view
    show ((systemsScorecard st db today.date view).filter Card.assessed).length = _
    rw [← List.countP_eq_length_filter, countP_eq_sum, sum_filter]
    rfl
  unfold Additive
  simp only [hone]
  exact additive_cards _

theorem additive_ato_iff (label : AtoStatus) :
    Additive st db today months (.systemsByAto label) ↔
      (label = .none → overwritten st db none =
        (db.organizations.map fun o => overwritten st db (some o)).sum) := by
  show systemsByAto st db none label =
    (db.organizations.map fun o => systemsByAto st db (some o) label).sum ↔ _
  by_cases hlabel : label = .none
  · subst hlabel
    -- with what is overwritten the label has the systems of both groups
    have hglobal := systemsByAto_add st db none
    have horgs : (db.organizations.map fun o => systemsByAto st db (some o) .none).sum +
        (db.organizations.map fun o => overwritten st db (some o)).sum =
        (db.organizations.map fun o => countAto db (some o) none).sum +
          (db.organizations.map fun o => countAto db (some o) (some .none)).sum := by
      rw [← List.sum_map_add, ← List.sum_map_add]
      exact congrArg List.sum (List.map_congr_left fun o _ => systemsByAto_add st db (some o))
    rw [← global_countAto, ← global_countAto] at horgs
    constructor
    · intro h _
      omega
    · intro h
      have hover := h rfl
      omega
  · have hcount : ∀ view, systemsByAto st db view label = countAto db view (some label) :=
      fun view => if_neg hlabel
    simp only [hcount]
    exact iff_of_true (global_countAto db _) fun h => absurd h hlabel

theorem additive_closedTotal : Additive st db today months .closedTotal := by
  show ((window months (monthOf today.date)).reverse.map fun k =>
      (closures db none k).length).sum =
    (db.organizations.map fun o => ((window months (monthOf today.date)).reverse.map fun k =>
      (closures db (some o) k).length).sum).sum
  rw [sum_sum_comm]
  refine congrArg List.sum (List.map_congr_left fun k _ => ?_)
  simp only [closures_length]
  exact global_countP db _ _ _

/-- **The global view is the sum of the organizations** exactly where nothing is counted that
is of no live system, and no status is overwritten. -/
theorem global_iff :
    (∀ m, Additive st db today months m) ↔
      (∀ e ∈ db.evidence, inSystems db none (db.systemOf e) = true) ∧
      (∀ p ∈ db.poams, p.status = .riskAccepted → inSystems db none p.systemId = true) ∧
      (∀ p ∈ db.poams, p.status = .completed → p.closedOn = none →
        inSystems db none p.systemId = true) ∧
      (∀ r ∈ db.risks, inSystems db none r.systemId = true) ∧
      overwritten st db none =
        (db.organizations.map fun o => overwritten st db (some o)).sum := by
  -- the global view counts these of every system
  have hevidence : Additive st db today months .evidenceTotal ↔ ∀ e ∈ db.evidence, true = true →
      inSystems db none (db.systemOf e) = true :=
    additive_iff_of_unscoped fun _ => measure_evidenceTotal
  have haccepted : Additive st db today months .accepted ↔ ∀ p ∈ db.poams,
      decide (p.status = .riskAccepted) = true → inSystems db none p.systemId = true :=
    additive_iff_of_unscoped (p := fun p : Poam => decide (p.status = .riskAccepted)) fun _ => rfl
  have hcompleted : Additive st db today months .completedMissingClosure ↔ ∀ p ∈ db.poams,
      (decide (p.status = .completed) && p.closedOn.isNone) = true →
        inSystems db none p.systemId = true :=
    additive_iff_of_unscoped
      (p := fun p : Poam => decide (p.status = .completed) && p.closedOn.isNone) fun _ => rfl
  have hrisks : ∀ s, Additive st db today months (.risks s) ↔ ∀ r ∈ db.risks,
      decide (r.status = s) = true → inSystems db none r.systemId = true :=
    fun s => additive_iff_of_unscoped (p := fun r : Risk => decide (r.status = s)) fun _ => rfl
  simp only [Bool.and_eq_true, decide_eq_true_eq, Option.isNone_iff_eq_none, forall_const]
    at hevidence haccepted hcompleted hrisks
  constructor
  · intro h
    exact ⟨hevidence.mp (h _), haccepted.mp (h _),
      fun p hp hstatus hclosed => hcompleted.mp (h _) p hp ⟨hstatus, hclosed⟩,
      fun r hr => (hrisks r.status).mp (h _) r hr rfl,
      (additive_ato_iff _).mp (h (.systemsByAto .none)) rfl⟩
  · rintro ⟨hev, hacc, hcomp, hrisk, hover⟩ m
    -- every other count is of rows of live systems, each in one organization
    cases m with
    | cards f => exact additive_cards f
    | systemsTotal => exact additive_systemsTotal
    | systemsScored => exact additive_systemsScored
    | openTotal => exact additive_of_countP fun _ => measure_openTotal
    | overdue => exact additive_of_countP fun _ => measure_overdue
    | noDueDate => exact additive_of_countP fun _ => measure_noDueDate
    | onTrack => exact additive_of_countP fun _ => measure_onTrack
    | bucket b => exact additive_of_countP fun _ => measure_bucket b
    | severity s => exact additive_of_countP fun _ => measure_severity s
    | accepted => exact haccepted.mpr hacc
    | completedMissingClosure =>
      exact hcompleted.mpr fun p hp hboth => hcomp p hp hboth.1 hboth.2
    | evidenceTotal => exact hevidence.mpr hev
    | evidence f =>
      exact (additive_iff_of_unscoped fun _ => measure_evidence f).mpr fun e he _ => hev e he
    | risks s => exact (hrisks s).mpr fun r hr _ => hrisk r hr
    | systemsByAto label => exact (additive_ato_iff label).mpr fun _ => hover
    | band b => exact additive_of_countP fun view => riskByBand_eq db view b
    | closedTotal => exact additive_closedTotal

/-! ## The sums of one view -/

theorem sum_openPoams (st : Setting) (db : Db) (today : Today) (view : Option Nat) :
    ((orgSummary st db today.date view).systems.map Card.openPoams).sum =
      (orgSummary st db today.date view).poamAging.openTotal := by
  have htotal : measure st db today 0 view .openTotal = _ := measure_openTotal
  refine (sum_cards st db today.date view _).trans (Eq.trans ?_ htotal.symm)
  have hsum := sum_systems db view (fun p : Poam => some p.systemId) Poam.active db.poams
  simp only [Option.some.injEq] at hsum
  exact hsum

theorem sum_overduePoams (st : Setting) (db : Db) (today : Today) (view : Option Nat) :
    ((orgSummary st db today.date view).systems.map Card.overduePoams).sum =
      (orgSummary st db today.date view).poamAging.overdue := by
  have htotal : measure st db today 0 view .overdue = _ := measure_overdue
  refine (sum_cards st db today.date view _).trans (Eq.trans ?_ htotal.symm)
  have hsum := sum_systems db view (fun p : Poam => some p.systemId)
    (fun p => p.active && p.overdue today.date) db.poams
  simp only [Option.some.injEq] at hsum
  exact hsum

theorem freshnessOf_expired {today : Date} {e : Evidence} :
    freshnessOf today e = .expired ↔ e.expiresOn.any (·.lt today) = true := by
  unfold freshnessOf
  cases e.expiresOn with
  | none => simp
  | some d =>
    rw [Option.any_some]
    dsimp only
    split
    · rename_i hlt
      exact iff_of_true rfl hlt
    · rename_i hlt
      refine iff_of_false ?_ hlt
      split <;> simp

/-- The expired evidence of the cards is that of the view, where its evidence is that of live
systems. -/
theorem sum_expiredEvidence (st : Setting) (db : Db) (today : Today) (view : Option Nat)
    (h : view = none → ∀ e ∈ db.evidence, inSystems db none (db.systemOf e) = true) :
    ((orgSummary st db today.date view).systems.map Card.expiredEvidence).sum =
      (orgSummary st db today.date view).evidence.counts .expired := by
  have htotal : measure st db today 0 view (.evidence .expired) = _ := measure_evidence .expired
  refine (sum_cards st db today.date view _).trans (Eq.trans ?_ htotal.symm)
  refine (sum_systems db view db.systemOf (fun e => e.expiresOn.any (·.lt today.date))
    db.evidence).trans (List.countP_congr fun e he => ?_)
  simp only [Bool.and_eq_true, decide_eq_true_eq, freshnessOf_expired]
  refine and_congr_left fun _ => ?_
  cases view with
  | none => exact iff_of_true (h rfl e he) rfl
  | some o => rfl

/-- The open risks of the bands are those of the statuses, where the risks are of live
systems. -/
theorem sum_openRisks (st : Setting) (db : Db) (today : Today) (view : Option Nat)
    (h : view = none → ∀ r ∈ db.risks, inSystems db none r.systemId = true) :
    (bands.map (riskByBand db view)).sum =
      ([.opened, .mitigated, .accepted].map (orgSummary st db today.date view).risksByStatus).sum
      := by
  have hscope : ∀ r ∈ db.risks,
      inSystemsIfScoped db view r.systemId = inSystems db view r.systemId := by
    intro r hr
    cases view with
    | none => exact (h rfl r hr).symm
    | some o => rfl
  have hband : ∀ b, b ∈ bands := fun b => by cases b <;> decide
  have hopen : ∀ s : RiskStatus,
      s ∈ [RiskStatus.opened, .mitigated, .accepted] ↔ s ≠ .closed :=
    fun s => by cases s <;> decide
  -- both sides count the risks that are not closed
  have hbands := sum_countP_key (fun r : Risk => band r.residualScore)
    (show bands.Nodup by decide)
    (fun r => inSystems db view r.systemId && !decide (r.status = .closed)) db.risks
  have hstatuses := sum_countP_key Risk.status
    (show [RiskStatus.opened, .mitigated, .accepted].Nodup by decide)
    (fun r => inSystemsIfScoped db view r.systemId) db.risks
  have hleft : (bands.map (riskByBand db view)).sum =
      (bands.map fun b => db.risks.countP fun r => decide (band r.residualScore = b) &&
        (inSystems db view r.systemId && !decide (r.status = .closed))).sum := by
    refine congrArg List.sum (List.map_congr_left fun b _ => (riskByBand_eq db view b).trans ?_)
    refine List.countP_congr fun r _ => ?_
    simp only [Bool.and_eq_true]
    tauto
  have hright : ([.opened, .mitigated, .accepted].map
      (orgSummary st db today.date view).risksByStatus).sum =
      ([RiskStatus.opened, .mitigated, .accepted].map fun s => db.risks.countP fun r =>
        decide (r.status = s) && inSystemsIfScoped db view r.systemId).sum := by
    refine congrArg List.sum (List.map_congr_left fun s _ => List.countP_congr fun r _ => ?_)
    rw [Bool.and_comm]
  rw [hleft, hright, hbands, hstatuses]
  refine List.countP_congr fun r hr => ?_
  simp only [Bool.and_eq_true, decide_eq_true_eq, hband, true_and, hopen, hscope r hr,
    Bool.not_eq_true', decide_eq_false_iff_not]
  exact and_comm

/-! ## The last month -/

/-- The first value that is not zero is that of the first key with one, exactly if that is not
zero. -/
theorem find_map_iff {κ : Type} (p : κ → Bool) (f : κ → Int) (ks : List κ) :
    ((ks.map fun k => if p k then f k else 0).find? (· ≠ 0)) = (ks.find? p).map f ↔
      ∀ k, ks.find? p = some k → f k ≠ 0 := by
  induction ks with
  | nil => simp
  | cons k ks ih =>
    rw [List.map_cons, List.find?_cons, List.find?_cons]
    cases hp : p k with
    | false => simpa [hp] using ih
    | true =>
      by_cases hf : f k = 0
      · simp only [if_true, hf, ne_eq, not_true, decide_false, Option.map_some,
          Option.some.injEq, forall_eq', iff_false]
        intro hfind
        have hne := List.find?_some hfind
        simp at hne
      · simp [hf]

theorem latest_iff (db : Db) (today : Date) (view : Option Nat) (months : Nat) :
    (mttrTrend db today view months).latest =
        (mostRecent db today view months).map (fun k => meanTenths (closures db view k)) ↔
      ∀ k, mostRecent db today view months = some k → meanTenths (closures db view k) ≠ 0 := by
  have h := find_map_iff (fun k => decide (closures db view k ≠ []))
    (fun k => meanTenths (closures db view k)) (window months (monthOf today))
  have hlatest : (mttrTrend db today view months).latest =
      ((window months (monthOf today)).map fun k =>
        if decide (closures db view k ≠ []) = true then meanTenths (closures db view k)
          else 0).find? (· ≠ 0) := by
    unfold mttrTrend
    dsimp only
    rw [← List.map_reverse, List.reverse_reverse]
    refine congrArg (List.find? _) (List.map_congr_left fun k _ => ?_)
    by_cases hk : closures db view k = []
    · simp [hk]
    · simp [hk]
  rw [hlatest]
  exact h

end Measures

/-- **Executive numbers reconcile** exactly where no evidence, accepted or undated POA&M or
risk is of a deleted system or of none, no status is overwritten, and no last month with
closures has a mean that rounds to zero. -/
theorem reconciles_iff (st : Setting) (db : Db) (today : Today) (months : Nat) :
    Reconciles st db today months ↔ Tidy st db today months := by
  constructor
  · intro h
    obtain ⟨hevidence, haccepted, hcompleted, hrisks, hover⟩ := global_iff.mp h.global
    exact ⟨hevidence, haccepted, hcompleted, hrisks, hover,
      fun view => (latest_iff db today.date view months).mp (h.latest view)⟩
  · intro h
    refine ⟨sum_openPoams st db today, sum_overduePoams st db today,
      fun view => sum_expiredEvidence st db today view fun _ => h.evidence,
      fun view => sum_openRisks st db today view fun _ => h.risks,
      global_iff.mpr ⟨h.evidence, h.accepted, h.completed, h.risks, h.statuses⟩,
      fun view => (latest_iff db today.date view months).mpr (h.closures view)⟩

/-! ## A risk of a deleted system -/

theorem nodup_deletedSystem : [1].Nodup := List.nodup_singleton 1

def deletedSystem : Db where
  organizations := [1]
  systems := [⟨1, 1, [], none, true⟩]
  implementations := []
  evidence := []
  poams := []
  risks := [⟨some 1, .opened, none⟩]
  orgIds := nodup_deletedSystem
  systemIds := nodup_deletedSystem
  homes := List.forall_mem_singleton.mpr List.mem_cons_self

/-- The risk is counted in the global view, and in no organization. -/
theorem deleted_risk_counted :
    ¬∀ (st : Setting) (db : Db) (today : Today) (months : Nat),
      Reconciles st db today months := by
  intro h
  let st : Setting := ⟨fun _ => ⟨0, 0, 0, 0⟩, fun _ _ => true, fun _ => true⟩
  let today : Today := ⟨⟨2026, 9, 1, by decide, by decide, by decide, by decide, by decide,
    by decide⟩, by decide +kernel⟩
  have hsum := (h st deletedSystem today 12).global (.risks .opened)
  exact absurd hsum (by decide +kernel)

end Concord.Analytics
