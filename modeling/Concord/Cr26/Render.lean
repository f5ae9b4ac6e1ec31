import Concord.Cr26.Sla
import Concord.Python.Ints
import Concord.Python.JsonDict
import Concord.Python.Dict
import Concord.Base.Run

/-!
# Rendering POA&M rows

`render_vulnerability` and `render_all` of `ccf/cr26/ver.py`. The walk gives every row one
destination (`place`), and what it reports of the rows is a fold over their destinations. A
system's rows are a `PoamTable`: `POAM.id` is an `Integer` primary key.
-/

namespace Concord.Cr26

open Concord.Python Concord.Governance Concord.Base

/-- `_first_written`. -/
def firstWritten (values : List (Option Text)) : Option Text := values.findSome? written

/-- `str(poam.id)`. -/
def Poam.key (p : Poam) : Text := natText p.id

def midnight (d : Date) : Text := d.isoformat ++ "T00:00:00Z".toList

/-- `_detected_at`. -/
def Poam.detectedAt (p : Poam) : Option Text := p.identifiedOn.map midnight

/-- `_overdue_status`. -/
def overdueStatus (p : Poam) (today : Date) (window : RemediationWindow) : Option Json :=
  match classify p (window.daysFor p.severity) today with
  | .breached => some (Json.ofItems [("isOverdue".toList, .bool true)])
  | .withinSla => some (Json.ofItems [("isOverdue".toList, .bool false)])
  | _ => none

def noDate : Text := "no identification date".toList

def noSource : Text := "no detection source".toList

def noDescription : Text := "no description".toList

def notMeasurable : Text := "not measurable as accepted or not".toList

/-- The reason a field is missing for, if it is. -/
def missing (value : Option Text) (reason : Text) : List Text :=
  if value = none then [reason] else []

def Poam.detectionSource (p : Poam) : Option Text := firstWritten [p.scanner, p.source]

def Poam.description (p : Poam) : Option Text := firstWritten [p.weakness, some p.title]

/-- `providerTrackingId` and the other fields of a `vulnerabilityDetail`. -/
def detailOf (p : Poam) (detected source description : Text) (overdue : Option Json) : Json :=
  let detail := Json.ofItems
    [("providerTrackingId".toList, .str p.key),
     ("detection".toList, Json.ofItems
       [("detectedAt".toList, .str detected), ("detectionSource".toList, .str source)]),
     ("vulnerabilityDescription".toList, .str description)]
  match overdue with
  | none => detail
  | some status => detail.set "overdueStatus".toList status

/-- `render_vulnerability`; the error is the list of reasons. -/
def renderVulnerability (p : Poam) (today : Date) (window : RemediationWindow) :
    Except (List Text) Json :=
  match p.detectedAt, p.detectionSource, p.description with
  | some detected, some source, some description =>
    .ok (detailOf p detected source description (overdueStatus p today window))
  | detected, source, description =>
    .error (missing detected noDate ++ missing source noSource ++
      missing description noDescription)

/-! ## The reporting period -/

/-- An aware `datetime`, in UTC. -/
structure Instant where
  date : Date
  hour : Nat
  minute : Nat
  second : Nat
  hour_lt : hour < 24
  minute_lt : minute < 60
  second_lt : second < 60

/-- `_instant`. -/
def Instant.text (i : Instant) : Text :=
  i.date.isoformat ++ 'T' :: (padded 2 i.hour ++ ':' :: (padded 2 i.minute ++ ':' ::
    (padded 2 i.second ++ ['Z'])))

/-- The two ends of a reporting period. -/
structure Period where
  start : Instant
  finish : Instant

/-- `not (bounds[0] <= detected_at <= bounds[1])`. -/
def outsideBounds (bounds : Text × Text) (detected : Text) : Bool :=
  Json.keyLt detected bounds.1 || Json.keyLt bounds.2 detected

def Period.bounds (period : Period) : Text × Text := (period.start.text, period.finish.text)

/-- Whether the period filter excludes the row. -/
def Poam.outside (p : Poam) (period : Option Period) : Bool :=
  match period, p.detectedAt with
  | some period, some detected => outsideBounds period.bounds detected
  | _, _ => false

/-! ## The walk -/

/-- Where a row goes. -/
inductive Placement
  | notAFlaw
  | outsidePeriod
  | unplaced (reasons : List Text)
  | rendered (accepted : Bool) (detail : Json)

def unmeasured (p : Poam) (today : Date) : List Text :=
  if acceptedWeaknessState p today = .unknown then [notMeasurable] else []

/-- A row that was not filtered: its detail, or every reason that applies. -/
def placeFlaw (p : Poam) (today : Date) (window : RemediationWindow) : Placement :=
  match renderVulnerability p today window with
  | .error more => .unplaced (unmeasured p today ++ more)
  | .ok detail =>
    if unmeasured p today = [] then .rendered (acceptedWeaknessState p today = .accepted) detail
    else .unplaced (unmeasured p today)

def place (p : Poam) (today : Date) (window : RemediationWindow) (period : Option Period) :
    Placement :=
  if !p.isFlaw then .notAFlaw
  else if p.outside period then .outsidePeriod
  else placeFlaw p today window

/-- An id as a filing reports it: a number where the text reads as one. -/
inductive RowId
  | int (n : Int)
  | str (s : Text)
  deriving DecidableEq

abbrev OmittedRow := RowId × Text

/-- `VerRendering`. -/
structure VerRendering where
  active : List Json := []
  accepted : List Json := []
  omitted : List OmittedRow := []
  notAFlaw : Nat := 0
  outsidePeriod : Nat := 0
  rendered : Nat := 0
  omittedRows : Nat := 0
  unplaced : Dict Text (List Text) := .empty
  excluded : List Text := []
  columnRationale : Dict Text Text := .empty

/-- `column_rationale[str(poam.id)] = ...`, of a row that carries one. -/
def VerRendering.collect (out : VerRendering) (p : Poam) : VerRendering :=
  match written p.acceptanceRationale with
  | none => out
  | some rationale => { out with columnRationale := out.columnRationale.set p.key rationale }

/-- What the loop does with a row that is placed. -/
def VerRendering.put (out : VerRendering) (p : Poam) : Placement → VerRendering
  | .notAFlaw => { out with notAFlaw := out.notAFlaw + 1, excluded := out.excluded ++ [p.key] }
  | .outsidePeriod =>
    { out with outsidePeriod := out.outsidePeriod + 1, excluded := out.excluded ++ [p.key] }
  | .unplaced reasons =>
    { out with
      omittedRows := out.omittedRows + 1
      omitted := out.omitted ++ reasons.map fun reason => (.int p.id, reason)
      unplaced := out.unplaced.set p.key reasons }
  | .rendered true detail =>
    { out with rendered := out.rendered + 1, accepted := out.accepted ++ [detail] }
  | .rendered false detail =>
    { out with rendered := out.rendered + 1, active := out.active ++ [detail] }

def VerRendering.walk (today : Date) (window : RemediationWindow) (period : Option Period)
    (out : VerRendering) (p : Poam) : VerRendering :=
  (out.collect p).put p (place p today window period)

/-- `render_all`. -/
def renderAll (rows : List Poam) (today : Date) (window : RemediationWindow)
    (period : Option Period) : VerRendering :=
  rows.foldl (VerRendering.walk today window period) {}

/-! ## What the walk reports -/

theorem missing_eq_nil {value : Option Text} {reason : Text} (h : missing value reason = []) :
    value ≠ none := by
  intro hnone
  rw [missing, if_pos hnone] at h
  cases h

theorem renderVulnerability_error {p : Poam} {today : Date} {window : RemediationWindow}
    {reasons : List Text} (h : renderVulnerability p today window = .error reasons) :
    reasons ≠ [] ∧ reasons = missing p.detectedAt noDate ++
      missing p.detectionSource noSource ++ missing p.description noDescription := by
  unfold renderVulnerability at h
  split at h
  · cases h
  · rename_i hall
    obtain rfl := Except.error.inj h
    refine ⟨fun hnil => ?_, rfl⟩
    rw [List.append_eq_nil_iff, List.append_eq_nil_iff] at hnil
    obtain ⟨detected, hd⟩ := Option.ne_none_iff_exists'.mp (missing_eq_nil hnil.1.1)
    obtain ⟨source, hs⟩ := Option.ne_none_iff_exists'.mp (missing_eq_nil hnil.1.2)
    obtain ⟨description, hdesc⟩ := Option.ne_none_iff_exists'.mp (missing_eq_nil hnil.2)
    exact hall detected source description hd hs hdesc

theorem renderVulnerability_ok {p : Poam} {today : Date} {window : RemediationWindow}
    {detail : Json} (h : renderVulnerability p today window = .ok detail) :
    ∃ detected source description, p.detectedAt = some detected ∧
      p.detectionSource = some source ∧ p.description = some description ∧
      detail = detailOf p detected source description (overdueStatus p today window) := by
  unfold renderVulnerability at h
  split at h
  · rename_i detected source description hd hs hdesc
    exact ⟨detected, source, description, hd, hs, hdesc, (Except.ok.inj h).symm⟩
  · cases h

theorem detailOf_id (p : Poam) (detected source description : Text) (overdue : Option Json) :
    (detailOf p detected source description overdue).get? "providerTrackingId".toList =
      some (.str p.key) := by
  cases overdue with
  | none => rfl
  | some status => rfl

theorem unmeasured_eq_nil {p : Poam} {today : Date} :
    unmeasured p today = [] ↔ acceptedWeaknessState p today ≠ .unknown := by
  unfold unmeasured
  split
  · rename_i h
    exact ⟨fun hnil => (nomatch hnil), fun hne => absurd h hne⟩
  · rename_i h
    exact ⟨fun _ => h, fun _ => rfl⟩

/-- **A flaw goes into one half, or nowhere**, for a reason. -/
theorem placeFlaw_cases (p : Poam) (today : Date) (window : RemediationWindow) :
    (∃ reasons, placeFlaw p today window = .unplaced reasons ∧ reasons ≠ [] ∧
      (acceptedWeaknessState p today = .unknown ∨
        ∃ more, renderVulnerability p today window = .error more)) ∨
    ∃ detail, renderVulnerability p today window = .ok detail ∧
      acceptedWeaknessState p today ≠ .unknown ∧
      placeFlaw p today window = .rendered (acceptedWeaknessState p today = .accepted) detail := by
  unfold placeFlaw
  cases hr : renderVulnerability p today window with
  | error more =>
    refine .inl ⟨_, rfl, fun hnil => ?_, .inr ⟨more, rfl⟩⟩
    exact (renderVulnerability_error hr).1 (List.append_eq_nil_iff.mp hnil).2
  | ok detail =>
    by_cases hm : unmeasured p today = []
    · exact .inr ⟨detail, rfl, unmeasured_eq_nil.mp hm, if_pos hm⟩
    · refine .inl ⟨_, if_neg hm, hm, .inl ?_⟩
      by_contra hknown
      exact hm (unmeasured_eq_nil.mpr hknown)

/-- **The destinations of a row.** -/
theorem place_cases (p : Poam) (today : Date) (window : RemediationWindow)
    (period : Option Period) :
    (p.isFlaw = false ∧ place p today window period = .notAFlaw) ∨
    (p.isFlaw = true ∧ p.outside period = true ∧
      place p today window period = .outsidePeriod) ∨
    (p.isFlaw = true ∧ p.outside period = false ∧
      place p today window period = placeFlaw p today window) := by
  unfold place
  cases hflaw : p.isFlaw with
  | false => exact .inl ⟨rfl, rfl⟩
  | true =>
    cases hout : p.outside period with
    | true => exact .inr (.inl ⟨rfl, rfl, rfl⟩)
    | false => exact .inr (.inr ⟨rfl, rfl, rfl⟩)

theorem place_of_inScope {p : Poam} (today : Date) (window : RemediationWindow)
    {period : Option Period} (hflaw : p.isFlaw = true) (hin : p.outside period = false) :
    place p today window period = placeFlaw p today window := by
  obtain ⟨h, -⟩ | ⟨-, h, -⟩ | ⟨-, -, h⟩ := place_cases p today window period
  · rw [hflaw] at h
    cases h
  · rw [hin] at h
    cases h
  · exact h

/-- The rows of a system. -/
structure PoamTable where
  rows : List Poam
  distinct : (rows.map Poam.id).Nodup
  bounded : ∀ p ∈ rows, p.id < 2 ^ 31

theorem PoamTable.distinct_keys (t : PoamTable) : (t.rows.map Poam.key).Nodup := by
  have h := t.distinct.map fun _ _ heq => natText_injective heq
  rwa [List.map_map] at h

theorem PoamTable.eq_of_key {t : PoamTable} {p q : Poam} (hp : p ∈ t.rows) (hq : q ∈ t.rows)
    (h : p.key = q.key) : p = q :=
  List.inj_on_of_nodup_map t.distinct_keys hp hq h

def Placement.half (b : Bool) : Placement → List Json
  | .rendered b' detail => if b' = b then [detail] else []
  | _ => []

def Placement.reasons? : Placement → Option (List Text)
  | .unplaced reasons => some reasons
  | _ => none

def Placement.excludes : Placement → Bool
  | .notAFlaw => true
  | .outsidePeriod => true
  | _ => false

theorem mem_half {placement : Placement} {b : Bool} {detail : Json} :
    detail ∈ placement.half b ↔ placement = .rendered b detail := by
  cases placement with
  | rendered b' d =>
    show detail ∈ (if b' = b then [d] else []) ↔ _
    rw [Placement.rendered.injEq]
    by_cases h : b' = b
    · rw [if_pos h, List.mem_singleton, eq_comm]
      exact (and_iff_right h).symm
    · rw [if_neg h]
      exact ⟨fun hm => (nomatch hm), fun heq => absurd heq.1 h⟩
  | notAFlaw => exact ⟨fun hm => (nomatch hm), fun h => nomatch h⟩
  | outsidePeriod => exact ⟨fun hm => (nomatch hm), fun h => nomatch h⟩
  | unplaced reasons => exact ⟨fun hm => (nomatch hm), fun h => nomatch h⟩

theorem reasons?_eq_some {placement : Placement} {reasons : List Text} :
    placement.reasons? = some reasons ↔ placement = .unplaced reasons := by
  cases placement with
  | unplaced r => rw [Placement.reasons?, Option.some.injEq, Placement.unplaced.injEq]
  | notAFlaw => exact ⟨fun h => (nomatch h), fun h => nomatch h⟩
  | outsidePeriod => exact ⟨fun h => (nomatch h), fun h => nomatch h⟩
  | rendered b d => exact ⟨fun h => (nomatch h), fun h => nomatch h⟩

theorem excludes_iff (p : Poam) (today : Date) (window : RemediationWindow)
    (period : Option Period) : (place p today window period).excludes = true ↔
      p.isFlaw = false ∨ p.outside period = true := by
  obtain ⟨hflaw, hp⟩ | ⟨hflaw, hout, hp⟩ | ⟨hflaw, hin, hp⟩ := place_cases p today window period
  · rw [hp]
    exact ⟨fun _ => .inl hflaw, fun _ => rfl⟩
  · rw [hp]
    exact ⟨fun _ => .inr hout, fun _ => rfl⟩
  · rw [hp, hflaw, hin]
    obtain ⟨reasons, hr, -⟩ | ⟨detail, -, -, hr⟩ := placeFlaw_cases p today window <;>
    · rw [hr]
      exact ⟨fun h => (nomatch h), fun h => h.elim (fun h => nomatch h) fun h => nomatch h⟩

section Walk

variable (rows : List Poam) (today : Date) (window : RemediationWindow) (period : Option Period)

theorem collect_eq (out : VerRendering) (p : Poam) :
    ∃ d, out.collect p = { out with columnRationale := d } := by
  unfold VerRendering.collect
  split
  · exact ⟨out.columnRationale, rfl⟩
  · exact ⟨_, rfl⟩

theorem renderAll_half : (renderAll rows today window period).accepted =
      rows.flatMap (fun p => (place p today window period).half true) ∧
    (renderAll rows today window period).active =
      rows.flatMap (fun p => (place p today window period).half false) := by
  constructor
  · refine foldl_flatMap VerRendering.accepted (fun out p => ?_) {} rows
    obtain ⟨d, hd⟩ := collect_eq out p
    unfold VerRendering.walk
    rw [hd]
    cases place p today window period with
    | rendered b detail => cases b <;> simp [VerRendering.put, Placement.half]
    | _ => simp [VerRendering.put, Placement.half]
  · refine foldl_flatMap VerRendering.active (fun out p => ?_) {} rows
    obtain ⟨d, hd⟩ := collect_eq out p
    unfold VerRendering.walk
    rw [hd]
    cases place p today window period with
    | rendered b detail => cases b <;> simp [VerRendering.put, Placement.half]
    | _ => simp [VerRendering.put, Placement.half]

theorem renderAll_omitted : (renderAll rows today window period).omitted =
    rows.flatMap fun p => ((place p today window period).reasons?.getD []).map
      fun reason => (.int p.id, reason) := by
  refine foldl_flatMap VerRendering.omitted (fun out p => ?_) {} rows
  obtain ⟨d, hd⟩ := collect_eq out p
  unfold VerRendering.walk
  rw [hd]
  cases place p today window period with
  | rendered b detail => cases b <;> simp [VerRendering.put, Placement.reasons?]
  | _ => simp [VerRendering.put, Placement.reasons?]

theorem renderAll_excluded : (renderAll rows today window period).excluded =
    rows.flatMap fun p => if (place p today window period).excludes then [p.key] else [] := by
  refine foldl_flatMap VerRendering.excluded (fun out p => ?_) {} rows
  obtain ⟨d, hd⟩ := collect_eq out p
  unfold VerRendering.walk
  rw [hd]
  cases place p today window period with
  | rendered b detail => cases b <;> simp [VerRendering.put, Placement.excludes]
  | _ => simp [VerRendering.put, Placement.excludes]

def Tallied (out : VerRendering) (n : Nat) : Prop :=
  out.notAFlaw + out.outsidePeriod + out.rendered + out.omittedRows = n ∧
    out.rendered = out.active.length + out.accepted.length

theorem tallied_walk {out : VerRendering} {n : Nat} (h : Tallied out n) (p : Poam) :
    Tallied (out.walk today window period p) (n + 1) := by
  obtain ⟨d, hd⟩ := collect_eq out p
  obtain ⟨hsum, hhalves⟩ := h
  unfold VerRendering.walk
  rw [hd]
  cases place p today window period with
  | rendered b detail =>
    cases b <;> simp only [Tallied, VerRendering.put, List.length_append, List.length_singleton] <;>
      omega
  | _ =>
    simp only [Tallied, VerRendering.put]
    omega

/-- **The four counts** are a partition of the rows. -/
theorem tallied_renderAll : Tallied (renderAll rows today window period) rows.length := by
  have hrun : ∀ (rows : List Poam) (out : VerRendering) (n : Nat), Tallied out n →
      Tallied (rows.foldl (VerRendering.walk today window period) out) (n + rows.length) := by
    intro rows
    induction rows with
    | nil => exact fun out n h => h
    | cons p rows ih =>
      intro out n h
      have htail := ih _ _ (tallied_walk today window period h p)
      rwa [Nat.add_assoc, Nat.add_comm 1] at htail
  have hall := hrun rows {} 0 ⟨rfl, rfl⟩
  rwa [Nat.zero_add] at hall

variable {rows} {today} {window} {period}

theorem mem_accepted {detail : Json} : detail ∈ (renderAll rows today window period).accepted ↔
    ∃ p ∈ rows, place p today window period = .rendered true detail := by
  rw [(renderAll_half rows today window period).1, List.mem_flatMap]
  exact exists_congr fun p => and_congr_right fun _ => mem_half

theorem mem_active {detail : Json} : detail ∈ (renderAll rows today window period).active ↔
    ∃ p ∈ rows, place p today window period = .rendered false detail := by
  rw [(renderAll_half rows today window period).2, List.mem_flatMap]
  exact exists_congr fun p => and_congr_right fun _ => mem_half

theorem mem_omitted {row : OmittedRow} : row ∈ (renderAll rows today window period).omitted ↔
    ∃ p ∈ rows, ∃ reasons, place p today window period = .unplaced reasons ∧
      row.1 = .int p.id ∧ row.2 ∈ reasons := by
  rw [renderAll_omitted, List.mem_flatMap]
  refine exists_congr fun p => and_congr_right fun _ => ?_
  rw [List.mem_map]
  constructor
  · rintro ⟨reason, hreason, rfl⟩
    cases hr : (place p today window period).reasons? with
    | none =>
      rw [hr] at hreason
      cases hreason
    | some reasons =>
      rw [hr] at hreason
      exact ⟨reasons, reasons?_eq_some.mp hr, rfl, hreason⟩
  · rintro ⟨reasons, hp, hid, hreason⟩
    refine ⟨row.2, ?_, Prod.ext hid.symm rfl⟩
    rw [reasons?_eq_some.mpr hp]
    exact hreason

theorem mem_excluded {key : Text} : key ∈ (renderAll rows today window period).excluded ↔
    ∃ p ∈ rows, p.key = key ∧ (p.isFlaw = false ∨ p.outside period = true) := by
  rw [renderAll_excluded, List.mem_flatMap]
  refine exists_congr fun p => and_congr_right fun _ => ?_
  rw [← excludes_iff p today window period]
  cases (place p today window period).excludes with
  | true =>
    exact ⟨fun h => ⟨(List.mem_singleton.mp h).symm, rfl⟩, fun h => List.mem_singleton.mpr h.1.symm⟩
  | false => exact ⟨fun h => (nomatch h), fun h => nomatch h.2⟩

theorem walk_get? (out : VerRendering) (p : Poam) (key : Text) :
    (out.walk today window period p).unplaced.get? key =
        (if p.key = key then (place p today window period).reasons?.or (out.unplaced.get? key)
          else out.unplaced.get? key) ∧
      (out.walk today window period p).columnRationale.get? key =
        (if p.key = key then (written p.acceptanceRationale).or (out.columnRationale.get? key)
          else out.columnRationale.get? key) := by
  have hcollect : (out.collect p).unplaced = out.unplaced ∧
      (out.collect p).columnRationale.get? key =
        if p.key = key then (written p.acceptanceRationale).or (out.columnRationale.get? key)
        else out.columnRationale.get? key := by
    unfold VerRendering.collect
    split
    · rename_i h
      rw [h, Option.none_or, ite_self]
      exact ⟨rfl, rfl⟩
    · rename_i rationale h
      rw [h, Option.some_or]
      exact ⟨rfl, Dict.get?_set _ _ _ _⟩
  rw [← hcollect.1, ← hcollect.2]
  unfold VerRendering.walk
  cases place p today window period with
  | rendered b detail =>
    simp only [Placement.reasons?, Option.none_or, ite_self]
    cases b <;> exact ⟨rfl, rfl⟩
  | unplaced reasons =>
    rw [Placement.reasons?, Option.some_or]
    exact ⟨Dict.get?_set _ _ _ _, rfl⟩
  | notAFlaw =>
    simp only [Placement.reasons?, Option.none_or, ite_self]
    exact ⟨rfl, rfl⟩
  | outsidePeriod =>
    simp only [Placement.reasons?, Option.none_or, ite_self]
    exact ⟨rfl, rfl⟩

/-- **What is known of a row's key** is what the walk made of that row. -/
theorem unplaced_of_mem {t : PoamTable} {p : Poam} (hp : p ∈ t.rows) :
    (renderAll t.rows today window period).unplaced.get? p.key =
      (place p today window period).reasons? := by
  refine (foldl_keyed (fun out : VerRendering => out.unplaced.get? p.key)
    (fun q old => (place q today window period).reasons?.or old) t.distinct_keys hp
    (fun out => ?_) (fun out q hq => ?_) {}).trans (Option.or_none)
  · exact (walk_get? out p p.key).1.trans (if_pos rfl)
  · exact (walk_get? out q p.key).1.trans (if_neg hq)

theorem columnRationale_of_mem {t : PoamTable} {p : Poam} (hp : p ∈ t.rows) :
    (renderAll t.rows today window period).columnRationale.get? p.key =
      written p.acceptanceRationale := by
  refine (foldl_keyed (fun out : VerRendering => out.columnRationale.get? p.key)
    (fun q old => (written q.acceptanceRationale).or old) t.distinct_keys hp
    (fun out => ?_) (fun out q hq => ?_) {}).trans (Option.or_none)
  · exact (walk_get? out p p.key).2.trans (if_pos rfl)
  · exact (walk_get? out q p.key).2.trans (if_neg hq)

theorem unplaced_eq_none {key : Text} (h : ∀ p ∈ rows, p.key ≠ key) :
    (renderAll rows today window period).unplaced.get? key = none :=
  foldl_other (fun out : VerRendering => out.unplaced.get? key)
    (fun out q hq => (walk_get? out q key).1.trans (if_neg hq)) {} h

theorem rendered_id {p : Poam} {b : Bool} {detail : Json}
    (h : place p today window period = .rendered b detail) :
    detail.get? "providerTrackingId".toList = some (.str p.key) := by
  obtain ⟨-, hp⟩ | ⟨-, -, hp⟩ | ⟨-, -, hp⟩ := place_cases p today window period
  · rw [hp] at h
    cases h
  · rw [hp] at h
    cases h
  · rw [hp] at h
    obtain ⟨reasons, hr, -⟩ | ⟨d, hd, -, hr⟩ := placeFlaw_cases p today window
    · rw [hr] at h
      cases h
    · rw [hr] at h
      obtain ⟨detected, source, description, -, -, -, rfl⟩ := renderVulnerability_ok hd
      rw [← (Placement.rendered.inj h).2]
      exact detailOf_id p detected source description _

end Walk

end Concord.Cr26
