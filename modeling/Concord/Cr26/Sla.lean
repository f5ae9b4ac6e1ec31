import Concord.Governance.Register
import Concord.Governance.Poams
import Concord.Python.Dates

/-!
# What state a weakness is in

`classify` and `accepted_weakness_state` of `ccf/patching/sla.py`, with the declared
remediation window. The two ask for the status before any date.
-/

namespace Concord.Cr26

open Concord.Python Concord.Governance

/-- The columns of a POA&M that the VER family reads. -/
structure Poam where
  id : Nat
  title : Text
  weakness : Option Text
  severity : Severity
  status : PoamStatus
  identifiedOn : Option Date
  closedOn : Option Date
  source : Option Text
  scanner : Option Text
  acceptanceRationale : Option Text
  deriving DecidableEq

/-- `(later - earlier).days`. -/
def daysBetween (earlier later : Date) : Int :=
  (ymdToOrd later.year later.month later.day : Int) -
    ymdToOrd earlier.year earlier.month earlier.day

/-- `RemediationWindow`. -/
structure RemediationWindow where
  critical : Int := 30
  high : Int := 30
  moderate : Int := 90
  low : Int := 180

/-- `days_for`, for the severities there are. -/
def RemediationWindow.daysFor (w : RemediationWindow) : Severity → Int
  | .critical => w.critical
  | .high => w.high
  | .moderate => w.moderate
  | .low => w.low

/-- `ACCEPTED_WEAKNESS_DAYS`. -/
def acceptedWeaknessDays : Int := 192

/-- `SLA_BUCKETS`. -/
inductive SlaBucket
  | withinSla | breached | accepted | closedOnTime | closedLate | unknown
  deriving DecidableEq

/-- `ACCEPTED_WEAKNESS_STATES`. -/
inductive WeaknessState
  | accepted | notAccepted | unknown
  deriving DecidableEq

/-- `(poam.source or "") in FLAW_SOURCES`. -/
def Poam.isFlaw (p : Poam) : Bool := p.source = some "scan".toList

/-- `_latency`. -/
def Poam.latency (p : Poam) : Option Int :=
  match p.identifiedOn, p.closedOn with
  | some identified, some closed =>
    let days := daysBetween identified closed
    if 0 ≤ days then some days else none
  | _, _ => none

/-- `classify`. -/
def classify (p : Poam) (allowedDays : Int) (today : Date) : SlaBucket :=
  if p.status = .riskAccepted then .accepted
  else
    match p.identifiedOn with
    | none => .unknown
    | some identified =>
      if p.status.closes then
        match p.latency with
        | none => .unknown
        | some latency => if latency ≤ allowedDays then .closedOnTime else .closedLate
      else if p.closedOn ≠ none then .unknown
      else if daysBetween identified today ≤ allowedDays then .withinSla
      else .breached

/-- `accepted_weakness_state`. -/
def acceptedWeaknessState (p : Poam) (today : Date) : WeaknessState :=
  if p.status = .riskAccepted then .accepted
  else
    match p.identifiedOn with
    | none => .unknown
    | some identified =>
      if p.status.closes then
        if p.latency = none then .unknown else .notAccepted
      else if p.closedOn ≠ none then .unknown
      else if acceptedWeaknessDays < daysBetween identified today then .accepted
      else .notAccepted

theorem identified_of_notAccepted {p : Poam} {today : Date}
    (h : acceptedWeaknessState p today = .notAccepted) : p.identifiedOn ≠ none := by
  intro hnone
  rw [acceptedWeaknessState, hnone] at h
  split at h <;> cases h

end Concord.Cr26
