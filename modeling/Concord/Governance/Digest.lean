import Concord.Governance.Bus
import Concord.Python.Dates

/-!
# The alert digest

`run` of `ccf/governance/digest.py`: overdue tasks are escalated, and each condition that the
tables meet raises an alert, for one organization or, as the scheduler runs it, for the platform.
The notices are a function of the tables and of the day; `notify` decides whose they become.

A column that the digest does not read is left out.
-/

namespace Concord.Digest

open Concord.Bus
open Concord.Python

/-! ## Tables -/

/-- A primary key: of at most nineteen digits. -/
structure RowId where
  id : Nat
  digits : (natText id).length ≤ 19
  deriving DecidableEq

structure Task where
  organizationId : Option Nat
  title : Text
  status : Text
  priority : Text
  dueOn : Option Date

structure System where
  organizationId : Nat
  name : Text
  atoExpiresOn : Option Date

structure CatalogSource where
  name : Text
  revisionLabel : Option Text
  lastSha256 : Option Text
  lastStatus : Option Text

structure Poam where
  systemId : RowId
  status : Text
  dueOn : Option Date

/-- A policy or a vendor. -/
structure Reviewed where
  organizationId : Option Nat
  name : Text
  nextReviewOn : Option Date

structure Risk where
  systemId : Option RowId
  title : Text
  status : Text
  nextReviewOn : Option Date

structure RegulatoryUpdate where
  organizationId : Option Nat
  title : Text
  frameworkImpacted : Option Text
  status : Text
  dueOn : Option Date

structure AuditEngagement where
  organizationId : Option Nat
  name : Text

structure AuditRequest where
  engagementId : RowId
  status : Text
  dueOn : Option Date

structure Person where
  organizationId : Option Nat
  status : Text
  backgroundCheckStatus : Text

structure TrainingRecord where
  personId : RowId
  status : Text
  dueOn : Option Date

/-- An access review or a vendor questionnaire. -/
structure Requested where
  organizationId : Option Nat
  name : Text
  status : Text
  dueOn : Option Date

structure Tables where
  tasks : Dict RowId Task
  systems : Dict RowId System
  catalogSources : Dict RowId CatalogSource
  poams : Dict RowId Poam
  policies : Dict RowId Reviewed
  vendors : Dict RowId Reviewed
  risks : Dict RowId Risk
  regulatoryUpdates : Dict RowId RegulatoryUpdate
  engagements : Dict RowId AuditEngagement
  requests : Dict RowId AuditRequest
  people : Dict RowId Person
  training : Dict RowId TrainingRecord
  accessReviews : Dict RowId Requested
  questionnaires : Dict RowId Requested

/-! ## Conditions -/

/-- `d.toordinal()`. -/
def toordinal (d : Date) : Nat := ymdToOrd d.year d.month d.day

/-- `due_on < today`. -/
def past (today due : Date) : Bool := toordinal due < toordinal today

/-- `next_review_on <= horizon`. -/
def withinReview (today due : Date) : Bool := toordinal due ≤ toordinal today + 30

/-- `where(organization_id == org_id)`, with an organization. -/
def owned (org owner : Option Nat) : Bool := org.isNone || decide (owner = org)

/-- `system_id.in_(select(System.id).where(System.organization_id == org_id))`, with an
organization. -/
def ownedThrough (org : Option Nat) (systems : Dict RowId System) (system : Option RowId) : Bool :=
  org.isNone || match system.bind systems.get? with
    | none => false
    | some s => decide (some s.organizationId = org)

/-- The rows of a table that have the date and meet the condition. -/
def dated {α : Type} (table : Dict RowId α) (date : α → Option Date) (p : α → Date → Bool) :
    List (RowId × α × Date) :=
  table.items.filterMap fun q =>
    (date q.2).bind fun d => if p q.2 d then some (q.1, q.2, d) else none

def overdue (today : Date) (org : Option Nat) (t : Task) (due : Date) : Bool :=
  (t.status = "open".toList ∨ t.status = "in_progress".toList) && past today due &&
    owned org t.organizationId

/-! ## Alerts -/

/-- `f"{family}:{subject}"`, or `f"{family}:{subject}:{edition}"`. -/
def alertKey (family : String) (subject : Text) (edition : Option Text) : Text :=
  family.toList ++ ':' :: subject ++ edition.elim [] (':' :: ·)

/-- `f"{value}"` of a text or `None`. -/
def orNone (value : Option Text) : Text := value.getD "None".toList

/-- `value or other`. -/
def orElse (value : Option Text) (other : String) : Text :=
  match value with
  | none => other.toList
  | some [] => other.toList
  | some s => s

variable (org : Option Nat)

def taskAlert (id : RowId) (t : Task) (due : Date) : Notice where
  category := "task".toList
  title := "Overdue task escalated: ".toList ++ t.title
  body := some ("Due ".toList ++ due.isoformat ++ "; now ".toList ++ t.priority ++
    " priority.".toList)
  orgId := org
  severity := "warning".toList
  entityType := some "task".toList
  entityId := some (natText id.id)
  dedupeKey := alertKey "task-overdue" (natText id.id) (some due.isoformat)

def atoAlert (today : Date) (id : RowId) (s : System) (expires : Date) : Notice where
  category := "ato".toList
  title :=
    if past today expires then "ATO expired for ".toList ++ s.name
    else "ATO for ".toList ++ s.name ++ " expires in ".toList ++
      natText (toordinal expires - toordinal today) ++ " days".toList
  orgId := org
  severity := if past today expires then "critical".toList else "warning".toList
  entityType := some "system".toList
  entityId := some (natText id.id)
  dedupeKey := alertKey "ato" (natText id.id) none

def catalogAlert (id : RowId) (src : CatalogSource) : Notice where
  category := "catalog".toList
  title := "Catalog drift: ".toList ++ src.name
  body := some ("Upstream revision ".toList ++ orElse src.revisionLabel "?" ++
    " differs from ingested baseline.".toList)
  orgId := org
  severity := "warning".toList
  entityType := some "catalog_source".toList
  entityId := some (natText id.id)
  dedupeKey := alertKey "catalog" (natText id.id) (some (orNone src.lastSha256))

/-- An alert that is one for all rows of its kind. -/
def rollup (category family entityType : String) (title : Text) : Notice where
  category := category.toList
  title := title
  orgId := org
  severity := "warning".toList
  entityType := some entityType.toList
  dedupeKey := alertKey family (orNone (org.map natText)) none

def poamAlert (n : Nat) : Notice :=
  rollup org "poam" "poam-overdue" "poam" (natText n ++ " POA&M(s) overdue".toList)

def trainingAlert (n : Nat) : Notice :=
  rollup org "training" "training-overdue" "training"
    (natText n ++ " security training(s) overdue".toList)

def screeningAlert (n : Nat) : Notice :=
  rollup org "screening" "screening-gap" "person"
    (natText n ++ " active personnel without completed screening".toList)

def reviewAlert (category family : String) (title : Text) (id : RowId) (due : Date) : Notice where
  category := category.toList
  title := title
  orgId := org
  severity := "info".toList
  entityType := some category.toList
  entityId := some (natText id.id)
  dedupeKey := alertKey family (natText id.id) (some due.isoformat)

def policyAlert (id : RowId) (p : Reviewed) (due : Date) : Notice :=
  reviewAlert org "policy" "policy-review" ("Policy review due: ".toList ++ p.name) id due

def vendorAlert (id : RowId) (v : Reviewed) (due : Date) : Notice :=
  reviewAlert org "vendor" "vendor-review" ("Vendor review due: ".toList ++ v.name) id due

def riskAlert (id : RowId) (r : Risk) (due : Date) : Notice :=
  reviewAlert org "risk" "risk-review" ("Risk review due: ".toList ++ r.title) id due

def regulatoryAlert (today : Date) (id : RowId) (u : RegulatoryUpdate) (due : Date) : Notice where
  category := "regulatory".toList
  title := "Regulatory change ".toList ++
    (if past today due then "overdue".toList else "due".toList) ++ ": ".toList ++ u.title
  body := some (orElse u.frameworkImpacted "framework" ++ " · due ".toList ++ due.isoformat ++
    ".".toList)
  orgId := org
  severity := if past today due then "warning".toList else "info".toList
  entityType := some "regulatory_update".toList
  entityId := some (natText id.id)
  dedupeKey := alertKey "regulatory-due" (natText id.id) (some due.isoformat)

def auditAlert (id : RowId) (name : Text) (n : Nat) : Notice where
  category := "audit".toList
  title := natText n ++ " overdue evidence request(s): ".toList ++ name
  orgId := org
  severity := "warning".toList
  entityType := some "audit_engagement".toList
  entityId := some (natText id.id)
  dedupeKey := alertKey "audit-overdue" (natText id.id) none

def requestedAlert (category family entityType : String) (title : Text) (id : RowId)
    (due : Date) : Notice where
  category := category.toList
  title := title
  orgId := org
  severity := "warning".toList
  entityType := some entityType.toList
  entityId := some (natText id.id)
  dedupeKey := alertKey family (natText id.id) (some due.isoformat)

def accessReviewAlert (id : RowId) (ar : Requested) (due : Date) : Notice :=
  requestedAlert org "access_review" "access-review-overdue" "access_review"
    ("Access review overdue: ".toList ++ ar.name) id due

def questionnaireAlert (id : RowId) (vq : Requested) (due : Date) : Notice :=
  requestedAlert org "questionnaire" "questionnaire-overdue" "vendor_questionnaire"
    ("Vendor questionnaire overdue: ".toList ++ vq.name) id due

/-! ## The rows of each kind -/

variable (today : Date) (t : Tables)

def escalatable : List (RowId × Task × Date) :=
  dated t.tasks (·.dueOn) fun task due =>
    overdue today org task due && decide (task.priority ≠ "critical".toList)

def Task.escalate (task : Task) : Task :=
  { task with
    priority := if task.priority = "high".toList then "critical".toList else "high".toList }

def expiring : List (RowId × System × Date) :=
  dated t.systems (·.atoExpiresOn) fun s expires =>
    decide (toordinal expires ≤ toordinal today + 90) && owned org (some s.organizationId)

def changedSources : List (RowId × CatalogSource) :=
  t.catalogSources.items.filter fun p => p.2.lastStatus = some "changed".toList

def overduePoams : List (RowId × Poam × Date) :=
  dated t.poams (·.dueOn) fun p due =>
    decide (p.status = "open".toList ∨ p.status = "in_progress".toList) && past today due &&
      ownedThrough org t.systems (some p.systemId)

def policyReviews : List (RowId × Reviewed × Date) :=
  dated t.policies (·.nextReviewOn) fun p due =>
    withinReview today due && owned org p.organizationId

def vendorReviews : List (RowId × Reviewed × Date) :=
  dated t.vendors (·.nextReviewOn) fun v due =>
    withinReview today due && owned org v.organizationId

def riskReviews : List (RowId × Risk × Date) :=
  dated t.risks (·.nextReviewOn) fun r due =>
    withinReview today due && decide (r.status = "open".toList ∨ r.status = "mitigated".toList) &&
      ownedThrough org t.systems r.systemId

def regulatoryDue : List (RowId × RegulatoryUpdate × Date) :=
  dated t.regulatoryUpdates (·.dueOn) fun u due =>
    withinReview today due &&
      decide (u.status ∉ ["closed".toList, "dismissed".toList, "implemented".toList]) &&
      owned org u.organizationId

def overdueRequests : Dict RowId (Text × Nat) :=
  (dated t.requests (·.dueOn) fun req due =>
      decide (req.status = "open".toList ∨ req.status = "in_progress".toList) &&
        past today due).foldl
    (fun counted q =>
      match t.engagements.get? q.2.1.engagementId with
      | none => counted
      | some eng =>
        if owned org eng.organizationId then
          let (name, n) := (counted.get? q.2.1.engagementId).getD (eng.name, 0)
          counted.set q.2.1.engagementId (name, n + 1)
        else counted)
    .empty

def overdueTraining : List (RowId × TrainingRecord × Date) :=
  dated t.training (·.dueOn) fun tr due =>
    decide (tr.status = "assigned".toList) && past today due &&
      match t.people.get? tr.personId with
      | none => false
      | some person => owned org person.organizationId

def screeningGaps : List (RowId × Person) :=
  t.people.items.filter fun p =>
    decide (p.2.status = "active".toList) &&
      decide (p.2.backgroundCheckStatus ∉ ["completed".toList, "waived".toList]) &&
      owned org p.2.organizationId

def overdueAccessReviews : List (RowId × Requested × Date) :=
  dated t.accessReviews (·.dueOn) fun ar due =>
    decide (ar.status ≠ "completed".toList) && past today due && owned org ar.organizationId

def overdueQuestionnaires : List (RowId × Requested × Date) :=
  dated t.questionnaires (·.dueOn) fun vq due =>
    decide (vq.status = "sent".toList ∨ vq.status = "in_progress".toList) && past today due &&
      owned org vq.organizationId

/-! ## A run -/

/-- An alert where there is something to count. -/
def counted (alert : Nat → Notice) (n : Nat) : List Notice := if n = 0 then [] else [alert n]

/-- The alerts other than those of tasks, in order, each kind with the beginning of its keys. -/
def sections : List (String × List Notice) :=
  [("ato", (expiring org today t).map fun q => atoAlert org today q.1 q.2.1 q.2.2),
    ("catalog", (changedSources t).map fun q => catalogAlert org q.1 q.2),
    ("poam-overdue", counted (poamAlert org) (overduePoams org today t).length),
    ("policy-review", (policyReviews org today t).map fun q => policyAlert org q.1 q.2.1 q.2.2),
    ("vendor-review", (vendorReviews org today t).map fun q => vendorAlert org q.1 q.2.1 q.2.2),
    ("risk-review", (riskReviews org today t).map fun q => riskAlert org q.1 q.2.1 q.2.2),
    ("regulatory-due",
      (regulatoryDue org today t).map fun q => regulatoryAlert org today q.1 q.2.1 q.2.2),
    ("audit-overdue",
      (overdueRequests org today t).items.map fun q => auditAlert org q.1 q.2.1 q.2.2),
    ("training-overdue", counted (trainingAlert org) (overdueTraining org today t).length),
    ("screening-gap", counted (screeningAlert org) (screeningGaps org t).length),
    ("access-review-overdue",
      (overdueAccessReviews org today t).map fun q => accessReviewAlert org q.1 q.2.1 q.2.2),
    ("questionnaire-overdue",
      (overdueQuestionnaires org today t).map fun q => questionnaireAlert org q.1 q.2.1 q.2.2)]

def alerts : List Notice :=
  ((escalatable org today t).map fun q => taskAlert org q.1 q.2.1.escalate q.2.2) ++
    (sections org today t).flatMap Prod.snd

def escalated : Dict RowId Task :=
  (escalatable org today t).foldl (fun tasks q => tasks.set q.1 q.2.1.escalate) t.tasks

/-- What a run returns. -/
structure Counts where
  tasksEscalated : Nat
  ato : Nat
  catalog : Nat
  poam : Nat
  policy : Nat
  vendor : Nat
  risk : Nat
  regulatory : Nat
  audit : Nat
  training : Nat
  screening : Nat
  accessReview : Nat
  questionnaire : Nat

def counts : Counts where
  tasksEscalated := (escalatable org today t).length
  ato := (expiring org today t).length
  catalog := (changedSources t).length
  poam := (overduePoams org today t).length
  policy := (policyReviews org today t).length
  vendor := (vendorReviews org today t).length
  risk := (riskReviews org today t).length
  regulatory := (regulatoryDue org today t).length
  audit := ((overdueRequests org today t).items.map (·.2.2)).sum
  training := (overdueTraining org today t).length
  screening := (screeningGaps org t).length
  accessReview := (overdueAccessReviews org today t).length
  questionnaire := (overdueQuestionnaires org today t).length

/-- The tables and the notifications. -/
structure Desk where
  tables : Tables
  notifications : Notifications

/-- `run`, in a session of a tenant or of none. -/
def run (tenant : Option Nat) (d : Desk) : Except Text (Desk × Counts) :=
  (notifyAll tenant d.notifications (alerts org today d.tables)).map fun rows =>
    ({ tables := { d.tables with tasks := escalated org today d.tables }
       notifications := rows },
      counts org today d.tables)

end Concord.Digest
