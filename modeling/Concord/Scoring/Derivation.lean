import Concord.Base.Run
import Concord.Governance.Register
import Concord.Python.Dict

/-!
# Deriving a system's scoring states

`ccf/governance/automation.py`: `derive_system` computes, for every practice of the scoring
matrix, what the intake profile, the vendor register and the cloud platform say of it
(`ruleFor`), records that where nobody has assessed the practice, and opens a POA&M for every
gap. `ccf/scoring/service.py` records a state, and `ccf/governance/reactions.py` closes the
POA&Ms of a practice that is met.

A stored state is replaced only where it is `not_assessed` (`newStatus`), whoever set it: what
was derived once stays.
-/

namespace Concord.Scoring

open Concord.Base
open Concord.Python
open Concord.Governance

/-- `STATES`. -/
inductive ScoreState
  | notAssessed | notImplemented | planned | partly | implemented | inherited | notApplicable
  deriving DecidableEq

/-- Who bears a practice. -/
inductive Responsibility
  | customer | shared | inherited | notApplicable | unknown
  deriving DecidableEq

def Responsibility.text : Responsibility → Text
  | .customer => "customer".toList
  | .shared => "shared".toList
  | .inherited => "inherited".toList
  | .notApplicable => "not_applicable".toList
  | .unknown => "unknown".toList

/-- `SOURCES`. -/
inductive Provenance
  | assessed | derived
  deriving DecidableEq

/-- A row of `scoring_controls`: a practice. -/
structure ScoringControl where
  id : Nat
  controlId : Text
  nistId : Option Text
  domain : Text
  title : Option Text
  pointValue : Text
  m365CoverageStatus : Option Text
  deriving DecidableEq

/-- The scoring matrix, in its sort order. Both keys are unique. -/
structure Matrix where
  practices : List ScoringControl
  ids_nodup : (practices.map ScoringControl.id).Nodup
  controlIds_nodup : (practices.map ScoringControl.controlId).Nodup

/-- A row of `scoring_statuses`, of one system. -/
structure ScoringStatus where
  state : ScoreState := .notAssessed
  source : Provenance := .assessed
  derivedFrom : Option Text := none
  notes : Option Text := none
  evidenceRef : Option Text := none
  deriving DecidableEq

/-- What `derive_system` reads of the intake profile. -/
structure Profile where
  endpointScope : List Text
  connectivity : Option Text
  cloudPlatform : Option Text
  deriving DecidableEq

/-- A row of `vendors`. -/
structure Vendor where
  id : Nat
  organizationId : Option Nat
  name : Text
  status : Text
  linkedControls : List Text
  deriving DecidableEq

/-- What the rules say of a practice. -/
@[ext] structure Rule where
  state : ScoreState
  responsibility : Responsibility
  source : Text
  deriving DecidableEq

/-! ## The rules -/

def mobileCtrls : List Text := ["AC.L2-3.1.18".toList, "AC.L2-3.1.19".toList]

def wirelessCtrls : List Text := ["AC.L2-3.1.16".toList, "AC.L2-3.1.17".toList]

/-- `na_control_ids`. -/
def naControlIds (p : Profile) : List Text :=
  (if "mobile".toList ∉ p.endpointScope ∧ "byod".toList ∉ p.endpointScope then mobileCtrls
    else []) ++
  (if p.connectivity.getD [] ≠ "wireless".toList then wirelessCtrls else [])

/-- The vendors a derivation reads: those of the organization and the shared ones. -/
def Vendor.counts (orgId : Option Nat) (v : Vendor) : Bool :=
  (match orgId with
    | none => true
    | some _ => v.organizationId = orgId || v.organizationId = none)
  && v.status ≠ "offboarded".toList

/-- `_vendor_inheritance`, of the rows in the order in which they were read: no order is asked
for, and the last vendor of a control is kept. -/
def vendorInheritance (orgId : Option Nat) (rows : List Vendor) : Dict Text Text :=
  Dict.ofPairs ((rows.filter (Vendor.counts orgId)).flatMap fun v =>
    v.linkedControls.map fun cid => (cid, v.name))

/-- `_COVERAGE_TO_STATE`. -/
def coverageToState : List (Text × ScoreState × Responsibility) :=
  [("Microsoft Coverage".toList, .inherited, .inherited),
    ("Shared Coverage".toList, .partly, .shared),
    ("Customer Responsibility".toList, .notImplemented, .customer),
    ("Not Applicable".toList, .notApplicable, .customer)]

/-- `_PLATFORM_DOMAIN`, the same table for each of its platforms. -/
def platformDomain : List (Text × ScoreState × Responsibility) :=
  [("PE".toList, .inherited, .inherited), ("MA".toList, .partly, .shared),
    ("SC".toList, .partly, .shared), ("AU".toList, .partly, .shared),
    ("CM".toList, .partly, .shared), ("SI".toList, .partly, .shared)]

def domainPlatforms : List Text :=
  ["azure_gov".toList, "aws_govcloud".toList, "gcp".toList]

/-- `dict.get`. -/
def lookupState (table : List (Text × ScoreState × Responsibility)) (key : Text) :
    Option (ScoreState × Responsibility) :=
  (table.find? fun entry => entry.1 = key).map Prod.snd

def defaultCustomer : ScoreState × Responsibility := (.notImplemented, .customer)

def defaultUnknown : ScoreState × Responsibility := (.notImplemented, .unknown)

/-- `_platform_state`. -/
def platformState (platform : Option Text) (sc : ScoringControl) : Rule :=
  match platform with
  | none => ⟨defaultCustomer.1, defaultCustomer.2, "customer".toList⟩
  | some p =>
    if p = "m365_gcc_high".toList then
      let (state, resp) :=
        (lookupState coverageToState (sc.m365CoverageStatus.getD [])).getD defaultCustomer
      ⟨state, resp, "platform:m365_gcc_high".toList⟩
    else if p ∈ domainPlatforms then
      let (state, resp) := (lookupState platformDomain sc.domain).getD defaultUnknown
      ⟨state, resp, "platform:".toList ++ p⟩
    else ⟨defaultCustomer.1, defaultCustomer.2, "customer".toList⟩

def ruleFor (profile : Profile) (vendorMap : Dict Text Text) (sc : ScoringControl) : Rule :=
  if sc.controlId ∈ naControlIds profile then
    ⟨.notApplicable, .notApplicable, "profile:not_applicable".toList⟩
  else
    match vendorMap.get? sc.controlId with
    | some name => ⟨.inherited, .inherited, "vendor:".toList ++ name⟩
    | none => platformState profile.cloudPlatform sc

theorem ruleFor_state_ne (profile : Profile) (vendorMap : Dict Text Text) (sc : ScoringControl) :
    (ruleFor profile vendorMap sc).state ≠ .notAssessed := by
  have htable : ∀ table ∈ [coverageToState, platformDomain], ∀ key d,
      d ∈ [defaultCustomer, defaultUnknown] →
      ((lookupState table key).getD d).1 ≠ .notAssessed := by
    intro table htable key d hd
    rw [lookupState]
    cases hfind : table.find? fun entry => entry.1 = key with
    | none =>
      show d.1 ≠ _
      have hall : ∀ d ∈ [defaultCustomer, defaultUnknown], d.1 ≠ .notAssessed := by decide
      exact hall d hd
    | some entry =>
      show entry.2.1 ≠ _
      have hall : ∀ t ∈ [coverageToState, platformDomain], ∀ e ∈ t, e.2.1 ≠ .notAssessed := by
        decide
      exact hall table htable entry (List.mem_of_find?_eq_some hfind)
  unfold ruleFor platformState
  split
  · exact ScoreState.noConfusion
  · split
    · exact ScoreState.noConfusion
    · split
      · exact ScoreState.noConfusion
      · split
        · exact htable _ (by simp) _ _ (by simp)
        · split
          · exact htable _ (by simp) _ _ (by simp)
          · exact ScoreState.noConfusion

/-! ## Recording a state -/

def derivedNote : Text := "derived: ".toList

/-- `record_derived_state`. -/
def recordDerivedState (st : ScoringStatus) (state : ScoreState) (derivedFrom : Text) :
    ScoringStatus :=
  { st with
    state := state
    source := .derived
    derivedFrom := some (derivedFrom.take 64)
    notes := some (derivedNote ++ derivedFrom) }

/-- `record_assessed_state`. -/
def recordAssessedState (st : ScoringStatus) (state : ScoreState)
    (notes evidenceRef : Option Text) : ScoringStatus :=
  { st with
    state := state
    source := .assessed
    derivedFrom := none
    notes := match notes with
      | some n => some n
      | none => if derivedNote.isPrefixOf (st.notes.getD []) then none else st.notes
    evidenceRef := evidenceRef.or st.evidenceRef }

/-- What `derive_system` makes of the stored status of a practice. -/
def newStatus (stored : Option ScoringStatus) (r : Rule) : ScoringStatus :=
  match stored with
  | none => recordDerivedState {} r.state r.source
  | some st => if st.state = .notAssessed then recordDerivedState st r.state r.source else st

/-! ## The gap POA&Ms -/

/-- `_SEV_FOR_PV`. -/
def sevForPv (pointValue : Text) : Severity :=
  if pointValue = "5".toList ∨ pointValue = "3/5".toList then .high
  else if pointValue = "1".toList then .low
  else .moderate

/-- `f"{sc.control_id} — {sc.title or 'gap'}"`. -/
def gapTitle (sc : ScoringControl) : Text :=
  sc.controlId ++ " — ".toList ++
    (match sc.title with
      | some (c :: cs) => c :: cs
      | _ => "gap".toList)

/-- The text of an optional column in an f-string. -/
def optText : Option Text → Text
  | some t => t
  | none => "None".toList

def nextId (poams : List Poam) : Nat := (poams.map Poam.id).foldl max 0 + 1

def gapPoam (systemId id : Nat) (today : Int) (resp : Responsibility) (sc : ScoringControl) :
    Poam where
  id := id
  systemId := systemId
  controlId := none
  title := gapTitle sc
  weakness := some ("Practice ".toList ++ sc.controlId ++ " (".toList ++ optText sc.nistId ++
    ") not yet implemented (responsibility: ".toList ++ resp.text ++ ").".toList)
  severity := sevForPv sc.pointValue
  status := .opened
  identifiedOn := some today
  dueOn := none
  closedOn := none
  ownerUserId := none
  source := some "profile_gap".toList
  pointOfContact := none
  remediationPlan := none
  remediationPlanSource := .generated
  resourcesRequired := none
  costEstimate := none
  scheduledCompletion := none
  originalDueOn := none
  riskId := none
  vendorId := none
  sourceRef := none
  acceptanceRationale := none
  milestones := []

/-- The titles of the POA&Ms of a system, whatever their status. -/
def titlesOf (systemId : Nat) (poams : List Poam) : List Text :=
  (poams.filter fun p => p.systemId = systemId).map Poam.title

/-- `_seed_gap_poams`: one row for each gap whose title no POA&M of the system has. -/
def seedGapPoams (systemId : Nat) (today : Int) (resp : ScoringControl → Responsibility)
    (gaps : List ScoringControl) (poams : List Poam) : List Poam :=
  let existing := titlesOf systemId poams
  gaps.foldl (fun out sc =>
    if gapTitle sc ∈ existing then out
    else out ++ [gapPoam systemId (nextId out) today (resp sc) sc]) poams

/-- SQL `LIKE`, without an `ESCAPE` clause. -/
def like : Text → Text → Bool
  | [] => fun t => t.isEmpty
  | '%' :: ps => fun t => t.tails.any (like ps)
  | '_' :: ps => fun
    | [] => false
    | _ :: t => like ps t
  | '\\' :: c :: ps => fun
    | [] => false
    | d :: t => d = c && like ps t
  | c :: ps => fun
    | [] => false
    | d :: t => d = c && like ps t

/-- `_MET`. -/
def ScoreState.met : ScoreState → Bool
  | .implemented | .inherited | .notApplicable => true
  | _ => false

/-- `on_scoring_status_changed`. -/
def onScoringStatusChanged (systemId : Nat) (today : Int) (controlId : Text) (state : ScoreState)
    (poams : List Poam) : List Poam :=
  if state.met then
    poams.map fun p =>
      if p.systemId = systemId ∧ p.status.active = true ∧
          like (controlId ++ " —%".toList) p.title = true then
        { p with status := .completed, closedOn := some today }
      else p
  else poams

/-! ## A system -/

/-- An entry of the snapshot on the profile. -/
structure Derived where
  state : ScoreState
  derivedState : ScoreState
  responsibility : Responsibility
  source : Text
  assessed : Bool
  domain : Text
  pointValue : Text
  deriving DecidableEq

/-- A system with what its derivation reads and writes; statuses by practice, the snapshot by
control id. -/
@[ext] structure Desk where
  profile : Profile
  vendors : List Vendor
  statuses : Nat → Option ScoringStatus
  derivation : Text → Option Derived
  poams : List Poam

/-- Which system: its id and organization. -/
structure SystemRef where
  id : Nat
  organizationId : Option Nat

section Derive

variable (m : Matrix) (sys : SystemRef)

/-- The rule of a practice, with the vendors in the order in which they were read. -/
def Desk.rule (d : Desk) (read : List Vendor) (sc : ScoringControl) : Rule :=
  ruleFor d.profile (vendorInheritance sys.organizationId read) sc

/-- The status of a practice after the derivation: a person's where one stood. -/
def Desk.effective (d : Desk) (read : List Vendor) (sc : ScoringControl) : ScoringStatus :=
  newStatus (d.statuses sc.id) (d.rule sys read sc)

/-- A gap: not met, and not borne by the provider alone. -/
def Desk.isGap (d : Desk) (read : List Vendor) (sc : ScoringControl) : Bool :=
  ((d.effective sys read sc).state = .notImplemented || (d.effective sys read sc).state = .planned)
  && ((d.rule sys read sc).responsibility = .customer
    || (d.rule sys read sc).responsibility = .shared
    || (d.rule sys read sc).responsibility = .unknown)

def Desk.entry (d : Desk) (read : List Vendor) (sc : ScoringControl) : Derived where
  state := (d.effective sys read sc).state
  derivedState := (d.rule sys read sc).state
  responsibility := (d.rule sys read sc).responsibility
  source := (d.rule sys read sc).source
  assessed := (d.effective sys read sc).source ≠ .derived
  domain := sc.domain
  pointValue := sc.pointValue

/-- `derive_system`. -/
def Desk.deriveSystem (d : Desk) (today : Int) (createPoams : Bool) (read : List Vendor) : Desk :=
  { d with
    statuses := m.practices.foldl
      (fun out sc => Function.update out sc.id (some (d.effective sys read sc))) d.statuses
    derivation := m.practices.foldl
      (fun out sc => Function.update out sc.controlId (some (d.entry sys read sc))) fun _ => none
    poams :=
      if createPoams then
        seedGapPoams sys.id today (fun sc => (d.rule sys read sc).responsibility)
          (m.practices.filter (d.isGap sys read)) d.poams
      else d.poams }

/-- What happens to a system. -/
inductive Action
  /-- `POST /systems/{id}/derive`, which reads the vendors in some order -/
  | derive (today : Int) (createPoams : Bool) (read : List Vendor)
  /-- `PUT /systems/{id}/profile` -/
  | saveProfile (profile : Profile)
  /-- any change of the vendor register -/
  | saveVendors (vendors : List Vendor)
  /-- `PUT /scoring/systems/{id}/controls/{control_id}`, with its reaction -/
  | setControlState (today : Int) (controlId : Text) (state : ScoreState)
      (notes evidenceRef : Option Text)
  /-- `POST /scoring/{id}/state`, the matrix, which has none -/
  | scoringSetState (controlId : Text) (state : ScoreState)

def Desk.assess (d : Desk) (sc : ScoringControl) (state : ScoreState)
    (notes evidenceRef : Option Text) : Desk :=
  let st := recordAssessedState ((d.statuses sc.id).getD {}) state notes evidenceRef
  { d with statuses := Function.update d.statuses sc.id (some st) }

def Matrix.find (controlId : Text) : Option ScoringControl :=
  m.practices.find? fun sc => sc.controlId = controlId

def Desk.step (d : Desk) : Action → Option Desk
  | .derive today createPoams read =>
    if read.Perm d.vendors then some (d.deriveSystem m sys today createPoams read) else none
  | .saveProfile profile => some { d with profile := profile }
  | .saveVendors vendors => some { d with vendors := vendors }
  | .setControlState today controlId state notes evidenceRef =>
    (m.find controlId).map fun sc =>
      let d := d.assess sc state notes evidenceRef
      { d with poams := onScoringStatusChanged sys.id today controlId state d.poams }
  | .scoringSetState controlId state =>
    some (match m.find controlId with
      | none => d
      | some sc => d.assess sc state none none)

/-! ## What a derivation writes -/

theorem foldl_update_of_mem {α β κ : Type} [DecidableEq κ] {key : α → κ} (write : α → β)
    {as : List α} (hnodup : (as.map key).Nodup) {a : α} (ha : a ∈ as) (f : κ → β) :
    as.foldl (fun out b => Function.update out (key b) (write b)) f (key a) = write a := by
  refine foldl_keyed (fun f : κ → β => f (key a)) (fun b _ => write b) hnodup ha ?_ ?_ f
  · intro s
    exact Function.update_self _ _ s
  · intro s b hb
    exact Function.update_of_ne (Ne.symm hb) _ s

theorem deriveSystem_status {sc : ScoringControl} (hsc : sc ∈ m.practices) (d : Desk) (today : Int)
    (createPoams : Bool) (read : List Vendor) :
    (d.deriveSystem m sys today createPoams read).statuses sc.id =
      some (d.effective sys read sc) :=
  foldl_update_of_mem (fun sc => some (d.effective sys read sc)) m.ids_nodup hsc _

theorem deriveSystem_entry {sc : ScoringControl} (hsc : sc ∈ m.practices) (d : Desk) (today : Int)
    (createPoams : Bool) (read : List Vendor) :
    (d.deriveSystem m sys today createPoams read).derivation sc.controlId =
      some (d.entry sys read sc) :=
  foldl_update_of_mem (fun sc => some (d.entry sys read sc)) m.controlIds_nodup hsc _

theorem foldl_update_eq {α β κ : Type} [DecidableEq κ] (key : α → κ) (write : α → β) {as : List α}
    {f : κ → β} (h : ∀ a ∈ as, f (key a) = write a) :
    as.foldl (fun out b => Function.update out (key b) (write b)) f = f := by
  induction as with
  | nil => rfl
  | cons a as ih =>
    rw [List.foldl_cons, ← h a List.mem_cons_self, Function.update_eq_self]
    exact ih fun b hb => h b (List.mem_cons_of_mem a hb)

theorem foldl_update_congr {α β κ : Type} [DecidableEq κ] (key : α → κ) (write write' : α → β)
    {as : List α} (f : κ → β) (h : ∀ a ∈ as, write a = write' a) :
    as.foldl (fun out b => Function.update out (key b) (write b)) f =
      as.foldl (fun out b => Function.update out (key b) (write' b)) f :=
  List.foldl_ext _ _ f fun out b hb => by rw [h b hb]

end Derive

end Concord.Scoring
