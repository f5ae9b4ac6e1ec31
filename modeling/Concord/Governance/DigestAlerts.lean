import Concord.Governance.Digest
import Concord.Governance.Tasks
import Concord.Python.Ints

/-!
# Whom the digest reaches

The key of an alert names an object, and no organization: an alert that the digest of the platform
raised first stays the platform's, and the digest of the organization either refreshes it there or
is refused the row. `alerts_reach_iff` says when a digest for an organization shows it everything
that concerns it.
-/

namespace Concord.Digest

open Concord.Base
open Concord.Bus
open Concord.Python

/-! ## Keys -/

/-- The beginnings of the keys are short, and without a colon. -/
def shortFamily (family : String) : Bool :=
  family.toList.length ≤ 24 && decide (':' ∉ family.toList)

def Keyed (family : String) (n : Notice) : Prop :=
  ∃ subject edition, n.dedupeKey = alertKey family subject edition

def KeyedBy (family : String) (id : RowId) (n : Notice) : Prop :=
  ∃ edition, n.dedupeKey = alertKey family (natText id.id) edition

theorem KeyedBy.keyed {family : String} {id : RowId} {n : Notice} (h : KeyedBy family id n) :
    Keyed family n := by
  obtain ⟨edition, h⟩ := h
  exact ⟨natText id.id, edition, h⟩

theorem colon_notMem_natText (n : Nat) : ':' ∉ natText n := by
  intro h
  exact absurd (isDigit_of_mem_natText _ h) (by decide)

theorem alertKey_eq (family : String) (subject : Text) (edition : Option Text) :
    alertKey family subject edition =
      family.toList ++ ':' :: (subject ++ edition.elim [] (':' :: ·)) := by
  rw [alertKey, List.append_assoc, List.cons_append]

theorem family_of_heldKey {f g : String} (hf : shortFamily f = true) (hg : shortFamily g = true)
    {n m : Notice} {s s' : Text} {e e' : Option Text} (hn : n.dedupeKey = alertKey f s e)
    (hm : m.dedupeKey = alertKey g s' e') (h : n.heldKey = m.heldKey) :
    f = g ∧ (s ++ e.elim [] (':' :: ·)).take (200 - f.toList.length - 1) =
      (s' ++ e'.elim [] (':' :: ·)).take (200 - f.toList.length - 1) := by
  simp only [shortFamily, Bool.and_eq_true, decide_eq_true_eq] at hf hg
  rw [Notice.heldKey, Notice.heldKey, hn, hm, alertKey_eq, alertKey_eq] at h
  obtain ⟨hfamily, hrest⟩ := take_append_separator_inj hf.2 hg.2 (by omega) (by omega) h
  exact ⟨String.toList_injective hfamily, hrest⟩

theorem natText_of_take {i j k : Nat} {e e' : Option Text} (hi : (natText i).length < k)
    (hj : (natText j).length < k)
    (h : (natText i ++ e.elim [] (':' :: ·)).take k =
      (natText j ++ e'.elim [] (':' :: ·)).take k) : natText i = natText j := by
  cases e with
  | none =>
    cases e' with
    | none =>
      simp only [Option.elim_none, List.append_nil] at h
      rwa [List.take_of_length_le hi.le, List.take_of_length_le hj.le] at h
    | some t =>
      -- a colon on one side only
      refine absurd ?_ (colon_notMem_natText i)
      simp only [Option.elim_none, Option.elim_some, List.append_nil] at h
      rw [List.take_of_length_le hi.le, List.take_append, List.take_of_length_le hj.le] at h
      obtain ⟨l, hl⟩ : ∃ l, k - (natText j).length = l + 1 :=
        ⟨k - (natText j).length - 1, by omega⟩
      rw [h, hl, List.take_succ_cons]
      exact List.mem_append_right _ List.mem_cons_self
  | some t =>
    cases e' with
    | none =>
      refine absurd ?_ (colon_notMem_natText j)
      simp only [Option.elim_none, Option.elim_some, List.append_nil] at h
      rw [List.take_of_length_le hj.le, List.take_append, List.take_of_length_le hi.le] at h
      obtain ⟨l, hl⟩ : ∃ l, k - (natText i).length = l + 1 :=
        ⟨k - (natText i).length - 1, by omega⟩
      rw [← h, hl, List.take_succ_cons]
      exact List.mem_append_right _ List.mem_cons_self
    | some t' =>
      exact (take_append_separator_inj (colon_notMem_natText i) (colon_notMem_natText j) hi hj h).1

theorem id_of_heldKey {f : String} (hf : shortFamily f = true) {i j : RowId} {n m : Notice}
    (hn : KeyedBy f i n) (hm : KeyedBy f j m) (h : n.heldKey = m.heldKey) : i = j := by
  obtain ⟨e, hn⟩ := hn
  obtain ⟨e', hm⟩ := hm
  have hshort := hf
  simp only [shortFamily, Bool.and_eq_true, decide_eq_true_eq] at hshort
  have hi := i.digits
  have hj := j.digits
  have htext := natText_of_take (by omega) (by omega) (family_of_heldKey hf hf hn hm h).2
  cases i
  cases j
  simp only [RowId.mk.injEq]
  exact natText_injective htext

/-! ## The alerts of a run have keys of their own -/

/-- Alerts of one kind, each with a key of its own. -/
structure WellKeyed (family : String) (ns : List Notice) : Prop where
  short : shortFamily family = true
  keyed : ∀ n ∈ ns, Keyed family n
  nodup : (ns.map Notice.heldKey).Nodup

theorem wellKeyed_rows {family : String} (hshort : shortFamily family = true) {α : Type}
    {rows : List (RowId × α)} (hrows : (rows.map Prod.fst).Nodup) {f : RowId × α → Notice}
    (hf : ∀ q, KeyedBy family q.1 (f q)) : WellKeyed family (rows.map f) where
  short := hshort
  keyed := by
    intro n hn
    obtain ⟨q, -, rfl⟩ := List.mem_map.mp hn
    exact (hf q).keyed
  nodup := by
    rw [List.map_map]
    refine List.pairwise_map.mpr ((List.pairwise_map.mp hrows).imp fun {p q} hne heq => ?_)
    exact hne (id_of_heldKey hshort (hf p) (hf q) heq)

theorem wellKeyed_counted {family : String} (hshort : shortFamily family = true)
    {alert : Nat → Notice} (halert : ∀ n, Keyed family (alert n)) (n : Nat) :
    WellKeyed family (counted alert n) := by
  unfold counted
  split
  · exact ⟨hshort, nofun, List.nodup_nil⟩
  · refine ⟨hshort, ?_, List.nodup_singleton _⟩
    intro m hm
    rw [List.mem_singleton.mp hm]
    exact halert n

theorem nodup_sections (ps : List (String × List Notice)) (hfamilies : (ps.map Prod.fst).Nodup)
    (h : ∀ p ∈ ps, WellKeyed p.1 p.2) :
    ((ps.flatMap Prod.snd).map Notice.heldKey).Nodup := by
  rw [List.map_flatMap, List.nodup_flatMap]
  refine ⟨fun p hp => (h p hp).nodup, ?_⟩
  refine (List.pairwise_map.mp hfamilies).imp_of_mem fun {p q} hp hq hne => ?_
  show List.Disjoint _ _
  rw [List.disjoint_left]
  intro key hkp hkq
  obtain ⟨n, hn, rfl⟩ := List.mem_map.mp hkp
  obtain ⟨m, hm, heq⟩ := List.mem_map.mp hkq
  obtain ⟨s, e, hn⟩ := (h p hp).keyed n hn
  obtain ⟨s', e', hm⟩ := (h q hq).keyed m hm
  exact hne (family_of_heldKey (h p hp).short (h q hq).short hn hm heq.symm).1

section Dated

variable {α : Type} {table : Dict RowId α} {date : α → Option Date} {p : α → Date → Bool}

theorem mem_dated {q : RowId × α × Date} : q ∈ dated table date p ↔
    table.get? q.1 = some q.2.1 ∧ date q.2.1 = some q.2.2 ∧ p q.2.1 q.2.2 = true := by
  unfold dated
  rw [List.mem_filterMap]
  constructor
  · rintro ⟨⟨id, row⟩, hrow, hq⟩
    obtain ⟨d, hd, hq⟩ := Option.bind_eq_some_iff.mp hq
    split at hq
    case isTrue hp =>
      obtain rfl := Option.some.inj hq
      exact ⟨Dict.mem_items_iff.mp hrow, hd, hp⟩
    case isFalse => cases hq
  · rintro ⟨hrow, hd, hp⟩
    refine ⟨(q.1, q.2.1), Dict.mem_items_iff.mpr hrow, ?_⟩
    rw [hd, Option.bind_some, if_pos hp]

theorem nodup_dated : ((dated table date p).map Prod.fst).Nodup := by
  refine List.pairwise_map.mpr (List.pairwise_filterMap.mpr ?_)
  refine (List.pairwise_map.mp table.nodup).imp fun {a b} hne q hq r hr => ?_
  obtain ⟨d, -, hq⟩ := Option.bind_eq_some_iff.mp hq
  obtain ⟨d', -, hr⟩ := Option.bind_eq_some_iff.mp hr
  split at hq
  case isTrue =>
    split at hr
    case isTrue => exact Option.some.inj hq ▸ Option.some.inj hr ▸ hne
    case isFalse => cases hr
  case isFalse => cases hq

end Dated

/-! ## Conditions -/

variable {org : Option Nat} {today : Date} {t : Tables}

/-- The overdue tasks that no digest alerts, as their priority is critical. -/
def criticalTasks (org : Option Nat) (today : Date) (t : Tables) : List (RowId × Task × Date) :=
  dated t.tasks (·.dueOn) fun task due =>
    overdue today org task due && decide (task.priority = "critical".toList)

/-- The overdue tasks, with the priority that they have after a digest. -/
def overdueTasks (org : Option Nat) (today : Date) (t : Tables) : List (RowId × Task × Date) :=
  criticalTasks org today t ++
    (escalatable org today t).map fun q => (q.1, q.2.1.escalate, q.2.2)

/-- What the tables give cause to say to an organization, on a day. -/
def conditions (org : Nat) (today : Date) (t : Tables) : List Notice :=
  ((criticalTasks (some org) today t).map fun q => taskAlert (some org) q.1 q.2.1 q.2.2) ++
    alerts (some org) today t

theorem nodup_overdueTasks : ((overdueTasks org today t).map Prod.fst).Nodup := by
  rw [overdueTasks, List.map_append, List.map_map]
  refine List.nodup_append.mpr ⟨nodup_dated, nodup_dated, fun id hid id' hid' heq => ?_⟩
  obtain ⟨q, hq, rfl⟩ := List.mem_map.mp hid
  obtain ⟨r, hr, rfl⟩ := List.mem_map.mp hid'
  obtain ⟨hqrow, -, hqp⟩ := mem_dated.mp hq
  obtain ⟨hrrow, -, hrp⟩ := mem_dated.mp hr
  -- one row of the table is not of critical priority and of another
  rw [show q.1 = r.1 from heq, hrrow] at hqrow
  simp only [Bool.and_eq_true, decide_eq_true_eq] at hqp hrp
  exact hrp.2 (Option.some.inj hqrow ▸ hqp.2)

theorem wellKeyed_sections : ∀ p ∈ sections org today t, WellKeyed p.1 p.2 := by
  simp only [sections, List.forall_mem_cons]
  refine ⟨?_, ?_, ?_, ?_, ?_, ?_, ?_, ?_, ?_, ?_, ?_, ?_, nofun⟩
  · exact wellKeyed_rows (by decide) nodup_dated fun q => ⟨_, rfl⟩
  · refine wellKeyed_rows (by decide) ?_ fun q => ⟨_, rfl⟩
    exact Dict.nodup_filter (fun _ src => src.lastStatus = some "changed".toList)
      t.catalogSources.nodup
  · exact wellKeyed_counted (by decide) (fun n => ⟨_, _, rfl⟩) _
  · exact wellKeyed_rows (by decide) nodup_dated fun q => ⟨_, rfl⟩
  · exact wellKeyed_rows (by decide) nodup_dated fun q => ⟨_, rfl⟩
  · exact wellKeyed_rows (by decide) nodup_dated fun q => ⟨_, rfl⟩
  · exact wellKeyed_rows (by decide) nodup_dated fun q => ⟨_, rfl⟩
  · exact wellKeyed_rows (by decide) (overdueRequests org today t).nodup fun q => ⟨_, rfl⟩
  · exact wellKeyed_counted (by decide) (fun n => ⟨_, _, rfl⟩) _
  · exact wellKeyed_counted (by decide) (fun n => ⟨_, _, rfl⟩) _
  · exact wellKeyed_rows (by decide) nodup_dated fun q => ⟨_, rfl⟩
  · exact wellKeyed_rows (by decide) nodup_dated fun q => ⟨_, rfl⟩

theorem nodup_withTasks (org : Option Nat) (today : Date) (t : Tables)
    {rows : List (RowId × Task × Date)} (hrows : (rows.map Prod.fst).Nodup) :
    (((rows.map fun q => taskAlert org q.1 q.2.1 q.2.2) ++
      (sections org today t).flatMap Prod.snd).map Notice.heldKey).Nodup := by
  have htasks : WellKeyed "task-overdue" (rows.map fun q => taskAlert org q.1 q.2.1 q.2.2) :=
    wellKeyed_rows (by decide) hrows fun q => ⟨_, rfl⟩
  exact nodup_sections (("task-overdue", _) :: sections org today t) (by
    show List.Nodup ["task-overdue", "ato", "catalog", "poam-overdue", "policy-review",
      "vendor-review", "risk-review", "regulatory-due", "audit-overdue", "training-overdue",
      "screening-gap", "access-review-overdue", "questionnaire-overdue"]
    decide) (List.forall_mem_cons.mpr ⟨htasks, wellKeyed_sections⟩)

theorem nodup_alerts (org : Option Nat) (today : Date) (t : Tables) :
    ((alerts org today t).map Notice.heldKey).Nodup := by
  have hrows : (((escalatable org today t).map fun q => (q.1, q.2.1.escalate, q.2.2)).map
      Prod.fst).Nodup := by
    rw [List.map_map]
    exact nodup_dated
  have hnodup := nodup_withTasks org today t hrows
  rw [List.map_map] at hnodup
  exact hnodup

theorem nodup_conditions (org : Nat) (today : Date) (t : Tables) :
    ((conditions org today t).map Notice.heldKey).Nodup := by
  have hsplit : conditions org today t =
      ((overdueTasks (some org) today t).map fun q => taskAlert (some org) q.1 q.2.1 q.2.2) ++
        (sections (some org) today t).flatMap Prod.snd := by
    rw [conditions, alerts, overdueTasks, List.map_append, List.map_map, List.append_assoc]
    rfl
  rw [hsplit]
  exact nodup_withTasks (some org) today t nodup_overdueTasks

theorem orgId_of_mem_conditions {org : Nat} :
    ∀ n ∈ conditions org today t, n.orgId = some org := by
  have hrows : ∀ {α : Type} {rows : List α} {f : α → Notice}, (∀ q, (f q).orgId = some org) →
      ∀ n ∈ rows.map f, n.orgId = some org := by
    intro α rows f hf n hn
    obtain ⟨q, -, rfl⟩ := List.mem_map.mp hn
    exact hf q
  have hcounted : ∀ {alert : Nat → Notice} {k : Nat}, (∀ k, (alert k).orgId = some org) →
      ∀ n ∈ counted alert k, n.orgId = some org := by
    intro alert k halert n hn
    unfold counted at hn
    split at hn
    · exact absurd hn List.not_mem_nil
    · exact List.mem_singleton.mp hn ▸ halert k
  have hsections : ∀ p ∈ sections (some org) today t, ∀ n ∈ p.2, n.orgId = some org := by
    simp only [sections, List.forall_mem_cons]
    exact ⟨hrows fun _ => rfl, hrows fun _ => rfl, hcounted fun _ => rfl, hrows fun _ => rfl,
      hrows fun _ => rfl, hrows fun _ => rfl, hrows fun _ => rfl, hrows fun _ => rfl,
      hcounted fun _ => rfl, hcounted fun _ => rfl, hrows fun _ => rfl, hrows fun _ => rfl, nofun⟩
  intro n hn
  rw [conditions, alerts, List.mem_append, List.mem_append, List.mem_flatMap] at hn
  rcases hn with hn | hn | ⟨p, hp, hn⟩
  · exact hrows (fun _ => rfl) n hn
  · exact hrows (fun _ => rfl) n hn
  · exact hsections p hp n hn

/-! ## Histories -/

/-- A digest, for an organization in a session of its own or of none, or for the platform; or
whatever else changes the tables and the notifications. -/
inductive Action
  | digest (today : Date) (org : Option Nat) (clamped : Bool)
  | elsewhere (d : Desk)

/-- The tenant of a session for an organization. -/
def sessionTenant (clamped : Bool) (org : Option Nat) : Option Nat :=
  if clamped then org else none

/-- A digest that raises leaves everything as it was. -/
def step (d : Desk) : Action → Option Desk
  | .digest today org clamped =>
    match run org today (sessionTenant clamped org) d with
    | .ok (d', _) => some d'
    | .error _ => some d
  | .elsewhere d' => some d'

def Any (_ : Option Int) : Prop := True

/-- **What is asked of a digest for an organization**: it returns, and of every condition that
holds for the organization there is a notification of its own, with the text of now. -/
def Reached (d : Desk) : Action → Prop
  | .digest today (some org) clamped =>
    ∃ d' counts, run (some org) today (sessionTenant clamped (some org)) d = .ok (d', counts) ∧
      ∀ n ∈ conditions org today d.tables, Shown Any org d'.notifications n
  | _ => True

/-- **When it is met**: every alert can be stored, none that holds the key of one is the
platform's or another organization's, and the overdue tasks that are already critical have
theirs. -/
def Meets (d : Desk) : Action → Prop
  | .digest today (some org) _ =>
    (∀ n ∈ alerts (some org) today d.tables, Free Any org d.notifications n) ∧
      ∀ q ∈ criticalTasks (some org) today d.tables,
        Shown Any org d.notifications (taskAlert (some org) q.1 q.2.1 q.2.2)
  | _ => True

theorem serves_sessionTenant (clamped : Bool) (org : Nat) :
    Serves (sessionTenant clamped (some org)) org := by
  cases clamped with
  | true => exact .inr rfl
  | false => exact .inl rfl

theorem exists_run {tenant : Option Nat} {d : Desk} {P : Notifications → Prop} :
    (∃ d' counts, run org today tenant d = .ok (d', counts) ∧ P d'.notifications) ↔
      ∃ rows, notifyAll tenant d.notifications (alerts org today d.tables) = .ok rows ∧ P rows := by
  constructor
  · rintro ⟨d', counts, h, hP⟩
    obtain ⟨rows, hrows, heq⟩ := map_eq_ok.mp h
    obtain ⟨rfl, rfl⟩ := Prod.mk.inj heq
    exact ⟨rows, hrows, hP⟩
  · rintro ⟨rows, hrows, hP⟩
    exact ⟨_, _, map_eq_ok.mpr ⟨rows, hrows, rfl⟩, hP⟩

theorem reached_iff (d : Desk) (a : Action) : Reached d a ↔ Meets d a := by
  cases a with
  | elsewhere d' => exact Iff.rfl
  | digest today org clamped =>
    cases org with
    | none => exact Iff.rfl
    | some org =>
      have hkeys := nodup_conditions org today d.tables
      rw [conditions, List.map_append] at hkeys
      obtain ⟨-, hrun, hdisjoint⟩ := List.nodup_append.mp hkeys
      have horg : ∀ n ∈ alerts (some org) today d.tables, n.orgId = some org := fun n hn =>
        orgId_of_mem_conditions n (List.mem_append_right _ hn)
      have hnotices : (∃ rows, notifyAll (sessionTenant clamped (some org)) d.notifications
          (alerts (some org) today d.tables) = .ok rows ∧
            ∀ n ∈ alerts (some org) today d.tables, Shown Any org rows n) ↔
          ∀ n ∈ alerts (some org) today d.tables, Free Any org d.notifications n :=
        notifyAll_iff trivial (serves_sessionTenant clamped org) horg hrun
      -- the digest leaves the alerts of the tasks that it does not alert
      have hcritical : ∀ {rows},
          notifyAll (sessionTenant clamped (some org)) d.notifications
            (alerts (some org) today d.tables) = .ok rows →
          ((∀ n ∈ (criticalTasks (some org) today d.tables).map fun q =>
              taskAlert (some org) q.1 q.2.1 q.2.2, Shown Any org rows n) ↔
            ∀ q ∈ criticalTasks (some org) today d.tables,
              Shown Any org d.notifications (taskAlert (some org) q.1 q.2.1 q.2.2)) := by
        intro rows hrows
        rw [List.forall_mem_map]
        refine forall₂_congr fun q hq => ?_
        unfold Shown
        rw [get?_notifyAll_of_notMem hrows fun hmem => ?_]
        exact hdisjoint _ (List.mem_map_of_mem (List.mem_map_of_mem hq)) _ hmem rfl
      refine (exists_run (P := fun rows =>
        ∀ n ∈ conditions org today d.tables, Shown Any org rows n)).trans ?_
      rw [Meets, ← hnotices]
      constructor
      · rintro ⟨rows, hrows, hshown⟩
        obtain ⟨hcrit, hrest⟩ := List.forall_mem_append.mp hshown
        exact ⟨⟨rows, hrows, hrest⟩, (hcritical hrows).mp hcrit⟩
      · rintro ⟨⟨rows, hrows, hrest⟩, hcrit⟩
        exact ⟨rows, hrows, List.forall_mem_append.mpr ⟨(hcritical hrows).mpr hcrit, hrest⟩⟩

/-- **When the alerts reach their tenants throughout a history.** -/
theorem alerts_reach_iff (d : Desk) (history : List Action) :
    Guarded step Reached d history ↔ Guarded step Meets d history :=
  guarded_congr reached_iff

/-! ## The platform first -/

theorem firstId_digits : (natText 1).length ≤ 19 := by decide

def firstId : RowId where
  id := 1
  digits := firstId_digits

def changedCatalog : Desk where
  tables :=
    { tasks := .empty
      systems := .empty
      catalogSources := .ofPairs [(firstId,
        { name := "NIST SP 800-53".toList
          revisionLabel := some "5.2.0".toList
          lastSha256 := some "9f".toList
          lastStatus := some "changed".toList })]
      poams := .empty
      policies := .empty
      vendors := .empty
      risks := .empty
      regulatoryUpdates := .empty
      engagements := .empty
      requests := .empty
      people := .empty
      training := .empty
      accessReviews := .empty
      questionnaires := .empty }
  notifications := .empty

/-- The digest of the platform takes the key: that of the organization raises. -/
theorem changedCatalog_not_reached :
    ∃ today, Date.mk? 2026 7 1 = .ok today ∧ ¬Guarded step Reached changedCatalog
      [.digest today none false, .digest today (some 1) true] := by
  refine ⟨_, rfl, fun h => ?_⟩
  obtain ⟨d', counts, hrun, -⟩ := (h.2 _ rfl).1
  have hok : (run _ _ _ _).isOk = true := (congrArg Except.isOk hrun).trans rfl
  exact absurd hok (by decide +kernel)

end Concord.Digest
