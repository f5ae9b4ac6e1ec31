import Concord.Base.Counts
import Concord.Governance.Register
import Concord.Python.Dates
import Concord.Python.Floats

/-!
# Executive numbers

`systems_scorecard`, `poam_aging`, `evidence_freshness` and `org_summary` of
`src/ccf/analytics/posture.py`, `_risk_by_band` and `_mttr_trend` of
`src/ccf/analytics/overview.py`: for one organization, or for all of them. What SPRS says of a
system is a parameter, and so are the orders in which the database returns groups and names.
-/

namespace Concord.Analytics

open Concord.Base Concord.Python
open Concord.Governance (PoamStatus Severity)

/-! ## The tables -/

inductive AtoStatus where
  | none
  | inProgress
  | authorized
  | expired
  deriving DecidableEq

inductive ImplStatus where
  | notImplemented
  | planned
  | partly
  | implemented
  | inherited
  | notApplicable
  deriving DecidableEq

inductive RiskStatus where
  | opened
  | mitigated
  | accepted
  | closed
  deriving DecidableEq

structure System where
  id : Nat
  organizationId : Nat
  name : Text
  atoStatus : Option AtoStatus
  /-- `deleted_at` is set. -/
  deleted : Bool

structure ControlImplementation where
  id : Nat
  systemId : Nat
  status : ImplStatus

structure Evidence where
  implementationId : Option Nat
  expiresOn : Option Date

structure Poam where
  systemId : Nat
  severity : Severity
  status : PoamStatus
  identifiedOn : Option Date
  dueOn : Option Date
  closedOn : Option Date
  scheduledCompletion : Option Date
  originalDueOn : Option Date

structure Risk where
  systemId : Option Nat
  status : RiskStatus
  residualScore : Option Int

/-- The database; a system is of one of the organizations. -/
structure Db where
  organizations : List Nat
  systems : List System
  implementations : List ControlImplementation
  evidence : List Evidence
  poams : List Poam
  risks : List Risk
  orgIds : organizations.Nodup
  systemIds : (systems.map System.id).Nodup
  homes : ∀ s ∈ systems, s.organizationId ∈ organizations

/-- The system of a piece of evidence, over its implementation. -/
def Db.systemOf (db : Db) (e : Evidence) : Option Nat :=
  e.implementationId.bind fun i =>
    (db.implementations.find? fun c => c.id = i).map ControlImplementation.systemId

/-- What `system_score_summary` says of a system. -/
structure Sprs where
  score : Int
  totalControls : Int
  notAssessed : Int
  assessedControls : Int

/-- What the modules are told: the scores, whether a name comes before another, and whether of
the two groups of the label `none` the one without a status comes last. -/
structure Setting where
  sprs : Nat → Sprs
  collate : Text → Text → Bool
  nullLast : Option Nat → Bool

/-- The day of a report: `today + timedelta(days=30)` is a date. -/
structure Today where
  date : Date
  horizon : ymdToOrd date.year date.month date.day + 30 ≤ 3652059

/-- `date.toordinal()`. -/
def ordinal (d : Date) : Int := ymdToOrd d.year d.month d.day

/-! ## Which rows -/

/-- The live systems of an organization, or of all. -/
def liveSystems (db : Db) (orgId : Option Nat) : List System :=
  db.systems.filter fun s => !s.deleted && orgId.all (s.organizationId = ·)

/-- `org_system_subq`. -/
def orgSystemSubq (db : Db) (orgId : Option Nat) : List Nat :=
  (liveSystems db orgId).map System.id

/-- `system_id IN (...)`; null is in no list. -/
def inSystems (db : Db) (orgId : Option Nat) (systemId : Option Nat) : Bool :=
  systemId.any (· ∈ orgSystemSubq db orgId)

/-- `.where(...)` under `if org_id is not None`. -/
def inSystemsIfScoped (db : Db) (orgId : Option Nat) (systemId : Option Nat) : Bool :=
  orgId.isNone || inSystems db orgId systemId

/-! ## POA&Ms -/

/-- `POAM_ACTIVE_STATUSES` -/
def Poam.active (p : Poam) : Bool := p.status.active

/-- `p.due_on or p.scheduled_completion or p.original_due_on`, the same as the `coalesce`. -/
def Poam.effectiveDue (p : Poam) : Option Date :=
  (p.dueOn.or p.scheduledCompletion).or p.originalDueOn

def Poam.overdue (today : Date) (p : Poam) : Bool := p.effectiveDue.any (·.lt today)

inductive Bucket where
  | days30
  | days60
  | days90
  | older
  | unknown
  deriving DecidableEq

def bucketOf (today : Date) (p : Poam) : Bucket :=
  match p.identifiedOn with
  | none => .unknown
  | some identifiedOn =>
    let age := ordinal today - ordinal identifiedOn
    if age ≤ 30 then .days30
    else if age ≤ 60 then .days60
    else if age ≤ 90 then .days90
    else .older

/-- `counts[key] += 1`. -/
def tick {κ : Type} [DecidableEq κ] (counts : κ → Nat) (key : κ) : κ → Nat :=
  Function.update counts key (counts key + 1)

/-- The counters of the loop of `poam_aging`. -/
structure Tally where
  buckets : Bucket → Nat
  overdue : Nat
  noDueDate : Nat
  bySeverity : Severity → Nat

def Tally.add (today : Date) (t : Tally) (p : Poam) : Tally where
  buckets := tick t.buckets (bucketOf today p)
  overdue := if p.overdue today then t.overdue + 1 else t.overdue
  noDueDate := if p.effectiveDue.isNone then t.noDueDate + 1 else t.noDueDate
  bySeverity := tick t.bySeverity p.severity

def Tally.zero : Tally := ⟨fun _ => 0, 0, 0, fun _ => 0⟩

structure PoamAging where
  openTotal : Nat
  overdue : Nat
  noDueDate : Nat
  onTrack : Nat
  buckets : Bucket → Nat
  bySeverity : Severity → Nat
  accepted : Nat
  completedMissingClosure : Nat

def openPoams (db : Db) (orgId : Option Nat) : List Poam :=
  db.poams.filter fun p => p.active && inSystems db orgId p.systemId

/-- `poam_aging`. -/
def poamAging (db : Db) (today : Date) (orgId : Option Nat) : PoamAging :=
  let rows := openPoams db orgId
  let t := rows.foldl (Tally.add today) Tally.zero
  { openTotal := rows.length
    overdue := t.overdue
    noDueDate := t.noDueDate
    onTrack := rows.length - t.overdue - t.noDueDate
    buckets := t.buckets
    bySeverity := t.bySeverity
    accepted := db.poams.countP fun p =>
      inSystemsIfScoped db orgId p.systemId && p.status = .riskAccepted
    completedMissingClosure := db.poams.countP fun p =>
      inSystemsIfScoped db orgId p.systemId && (p.status = .completed && p.closedOn.isNone) }

/-! ## Evidence -/

inductive Freshness where
  | noExpiry
  | expired
  | expiringSoon
  | fresh
  deriving DecidableEq

def freshnessOf (today : Date) (e : Evidence) : Freshness :=
  match e.expiresOn with
  | none => .noExpiry
  | some expiresOn =>
    if expiresOn.lt today then .expired
    else if ordinal expiresOn ≤ ordinal today + 30 then .expiringSoon
    else .fresh

structure EvidenceFreshness where
  total : Nat
  counts : Freshness → Nat

/-- `evidence_freshness`. -/
def evidenceFreshness (db : Db) (today : Date) (orgId : Option Nat) : EvidenceFreshness :=
  let rows := db.evidence.filter fun e => inSystemsIfScoped db orgId (db.systemOf e)
  { total := rows.length
    counts := rows.foldl (fun counts e => tick counts (freshnessOf today e)) fun _ => 0 }

/-! ## The scorecard -/

structure Card where
  systemId : Nat
  name : Text
  atoStatus : Option AtoStatus
  assessed : Bool
  sprsScore : Option Int
  controlsAssessed : Int
  controlsReviewed : Int
  implTotal : Nat
  implMet : Nat
  openPoams : Nat
  overduePoams : Nat
  evidenceTotal : Nat
  expiredEvidence : Nat

def card (st : Setting) (db : Db) (today : Date) (s : System) : Card :=
  let sprs := st.sprs s.id
  let controlsAssessed := sprs.totalControls - sprs.notAssessed
  let ofSystem := db.implementations.filter fun c => c.systemId = s.id
  { systemId := s.id
    name := s.name
    atoStatus := s.atoStatus
    assessed := 0 < controlsAssessed
    sprsScore := if 0 < controlsAssessed then some sprs.score else none
    controlsAssessed := controlsAssessed
    controlsReviewed := sprs.assessedControls
    implTotal := ofSystem.length
    implMet := ofSystem.countP fun c => c.status = .implemented || c.status = .inherited
    openPoams := db.poams.countP fun p => p.systemId = s.id && p.active
    overduePoams := db.poams.countP fun p => p.systemId = s.id && (p.active && p.overdue today)
    evidenceTotal := db.evidence.countP fun e => db.systemOf e = some s.id
    expiredEvidence := db.evidence.countP fun e =>
      db.systemOf e = some s.id && e.expiresOn.any (·.lt today) }

/-- `systems_scorecard`. -/
def systemsScorecard (st : Setting) (db : Db) (today : Date) (orgId : Option Nat) : List Card :=
  ((liveSystems db orgId).insertionSort fun a b => st.collate a.name b.name).map
    (card st db today)

/-! ## Risks -/

inductive Band where
  | critical
  | high
  | moderate
  | low
  | unknown
  deriving DecidableEq

/-- `band`. -/
def band : Option Int → Band
  | none => .unknown
  | some score =>
    if score = 0 then .unknown
    else if score ≤ 4 then .low
    else if score ≤ 9 then .moderate
    else if score ≤ 15 then .high
    else .critical

def bands : List Band := [.critical, .high, .moderate, .low, .unknown]

/-- `_risk_by_band`. -/
def riskByBand (db : Db) (orgId : Option Nat) : Band → Nat :=
  (db.risks.filter fun r => inSystems db orgId r.systemId).foldl
    (fun out r => if r.status = .closed then out else tick out (band r.residualScore)) fun _ => 0

/-! ## The summary -/

def countAto (db : Db) (orgId : Option Nat) (s : Option AtoStatus) : Nat :=
  (liveSystems db orgId).countP fun x => x.atoStatus = s

/-- `{(s or "none"): n for s, n in ato_rows}`: of two groups with one label the last one stays. -/
def systemsByAto (st : Setting) (db : Db) (orgId : Option Nat) (label : AtoStatus) : Nat :=
  if label = .none then
    let nulls := countAto db orgId none
    let nones := countAto db orgId (some .none)
    if st.nullLast orgId then (if nulls = 0 then nones else nulls)
    else (if nones = 0 then nulls else nones)
  else countAto db orgId (some label)

structure OrgSummary where
  systemsTotal : Nat
  systemsScored : Nat
  poamAging : PoamAging
  evidence : EvidenceFreshness
  risksByStatus : RiskStatus → Nat
  systemsByAto : AtoStatus → Nat
  systems : List Card

/-- `org_summary`. -/
def orgSummary (st : Setting) (db : Db) (today : Date) (orgId : Option Nat) : OrgSummary :=
  let cards := systemsScorecard st db today orgId
  { systemsTotal := cards.length
    systemsScored := (cards.filter Card.assessed).length
    poamAging := poamAging db today orgId
    evidence := evidenceFreshness db today orgId
    risksByStatus := fun status => db.risks.countP fun r =>
      inSystemsIfScoped db orgId r.systemId && r.status = status
    systemsByAto := systemsByAto st db orgId
    systems := cards }

/-! ## Time to close -/

abbrev Month := Int × Nat

def monthOf (d : Date) : Month := (d.year, d.month)

def previous (m : Month) : Month := if m.2 = 1 then (m.1 - 1, 12) else (m.1, m.2 - 1)

/-- The window of so many months, the last one first. -/
def window : Nat → Month → List Month
  | 0, _ => []
  | n + 1, m => m :: window n (previous m)

/-- The days that the closures of a month took. -/
def closures (db : Db) (orgId : Option Nat) (m : Month) : List Nat :=
  db.poams.filterMap fun p =>
    match p.closedOn, p.identifiedOn with
    | some closedOn, some identifiedOn =>
      if inSystems db orgId p.systemId ∧ monthOf closedOn = m then
        some (ordinal closedOn - ordinal identifiedOn).toNat
      else none
    | _, _ => none

structure MttrTrend where
  /-- In tenths of a day. -/
  series : List Int
  closedTotal : Nat
  monthsWithData : Nat
  latest : Option Int

/-- `_mttr_trend`. -/
def mttrTrend (db : Db) (today : Date) (orgId : Option Nat) (months : Nat) : MttrTrend :=
  let keys := (window months (monthOf today)).reverse
  let series := keys.map fun k =>
    if closures db orgId k = [] then 0 else meanTenths (closures db orgId k)
  { series := series
    closedTotal := (keys.map fun k => (closures db orgId k).length).sum
    monthsWithData := keys.countP fun k => closures db orgId k ≠ []
    latest := series.reverse.find? (· ≠ 0) }

end Concord.Analytics
