import Concord.Enforcement.Plans
import Concord.Governance.Register
import Concord.Patching.Sla
import Concord.Python.Dates
import Mathlib.Data.List.Pairwise
import Mathlib.Data.List.Sort

/-!
# Patch campaigns

`plan_waves`, `create_campaign` and `complete_wave` of `ccf/patching/service.py`: a campaign takes
the open flaws of one system in waves, the first a canary of one, and the waves are completed in
their order.

The rest of the platform goes on meanwhile, and may leave any systems, findings and plans behind
(`Op.elsewhere`). What it may not do is give a finding of one system to another, for which there is
no route: `systemOf` is the system of a finding for good.

Two campaigns of one system may both be active, with the same findings, as long as their windows are
apart (`later_campaign_shares_asset`). What holds over every run is `rolls_out_in_order`.
-/

namespace Concord.Patching

open Concord.Base Concord.Python

/-! ## The waves of a plan -/

section Batches

variable {α : Type*}

/-- `[rest[i : i + size] for i in range(0, len(rest), size)]`. -/
def batches (rest : List α) (size : Nat) : List (List α) :=
  (List.range' 0 ((rest.length + (size - 1)) / size) size).map fun i => (rest.drop i).take size

theorem flatten_range' (rest : List α) (size count start : Nat) :
    ((List.range' start count size).map fun i => (rest.drop i).take size).flatten =
      (rest.drop start).take (count * size) := by
  induction count generalizing start with
  | zero => simp
  | succ count ih =>
    rw [List.range'_succ, List.map_cons, List.flatten_cons, ih, Nat.succ_mul,
      Nat.add_comm (count * size), List.take_add, List.drop_drop]

theorem flatten_batches (rest : List α) {size : Nat} (hsize : 0 < size) :
    (batches rest size).flatten = rest := by
  rw [batches, flatten_range', List.drop_zero]
  refine List.take_of_length_le ?_
  have hmod := Nat.mod_lt (rest.length + (size - 1)) hsize
  have hdiv := Nat.div_add_mod (rest.length + (size - 1)) size
  rw [Nat.mul_comm] at hdiv
  omega

theorem length_of_mem_batches {rest batch : List α} {size : Nat} (h : batch ∈ batches rest size) :
    batch.length ≤ size := by
  obtain ⟨i, -, rfl⟩ := List.mem_map.mp h
  exact List.length_take_le size _

theorem ne_nil_of_mem_batches {rest batch : List α} {size : Nat} (hsize : 0 < size)
    (h : batch ∈ batches rest size) : batch ≠ [] := by
  obtain ⟨i, hi, rfl⟩ := List.mem_map.mp h
  obtain ⟨k, hk, rfl⟩ := List.mem_range'.mp hi
  have hlt : size * k < rest.length := by
    have hdiv := Nat.div_mul_le_self (rest.length + (size - 1)) size
    have hle := Nat.mul_le_mul_left size (Nat.succ_le_of_lt hk)
    rw [Nat.mul_comm size (_ / _), Nat.mul_succ] at hle
    omega
  refine List.ne_nil_of_length_pos ?_
  rw [List.length_take, List.length_drop]
  omega

end Batches

/-- `plan_waves`. -/
def planWaves (poamIds : List Nat) (waveSize : Int) : Except Text (List (List Nat)) :=
  if waveSize < 1 then
    .error ("wave_size must be at least 1, got ".toList ++ (toString waveSize).toList)
  else
    match poamIds with
    | [] => .ok []
    | [only] => .ok [[only]]
    | first :: rest => .ok ([first] :: batches rest waveSize.toNat)

/-- What a plan is for: each finding in one wave, in their order, a canary first, and no wave over
the limit. -/
structure Partitions (poamIds : List Nat) (waveSize : Int) (waves : List (List Nat)) : Prop where
  flatten : waves.flatten = poamIds
  canary : ∀ wave ∈ waves.head?, wave.length = 1
  size : ∀ wave ∈ waves, wave ≠ [] ∧ wave.length ≤ waveSize

theorem Partitions.disjoint {poamIds : List Nat} {waveSize : Int} {waves : List (List Nat)}
    (h : Partitions poamIds waveSize waves) (hids : poamIds.Nodup) :
    waves.Pairwise List.Disjoint := by
  rw [← h.flatten] at hids
  exact (List.nodup_flatten.mp hids).2

theorem planWaves_partitions (poamIds : List Nat) {waveSize : Int} (h : 1 ≤ waveSize) :
    ∃ waves, planWaves poamIds waveSize = .ok waves ∧ Partitions poamIds waveSize waves := by
  unfold planWaves
  rw [if_neg (Int.not_lt.mpr h)]
  have hsize : 0 < waveSize.toNat := by omega
  match poamIds with
  | [] =>
    exact ⟨_, rfl, rfl, fun wave hwave => (nomatch hwave), fun wave hwave => nomatch hwave⟩
  | [only] =>
    refine ⟨_, rfl, rfl, fun wave hwave => ?_, fun wave hwave => ?_⟩
    · obtain rfl := Option.some.inj hwave
      rfl
    · obtain rfl := List.mem_singleton.mp hwave
      exact ⟨List.cons_ne_nil _ _, h⟩
  | first :: second :: rest =>
    refine ⟨_, rfl, ?_, fun wave hwave => ?_, fun wave hwave => ?_⟩
    · rw [List.flatten_cons, flatten_batches _ hsize]
      rfl
    · obtain rfl := Option.some.inj hwave
      rfl
    · rcases List.mem_cons.mp hwave with rfl | hwave
      · exact ⟨List.cons_ne_nil _ _, h⟩
      · have hlength := length_of_mem_batches hwave
        exact ⟨ne_nil_of_mem_batches hsize hwave, by omega⟩

/-! ## Campaigns and their waves -/

open Concord.Governance
open Concord.Enforcement (RemediationPlan)

/-- `CAMPAIGN_STATUSES`. -/
inductive CampaignStatus
  | planned | inProgress | completed | cancelled
  deriving DecidableEq

def CampaignStatus.text : CampaignStatus → Text
  | .planned => "planned".toList
  | .inProgress => "in_progress".toList
  | .completed => "completed".toList
  | .cancelled => "cancelled".toList

/-- `WAVE_STATUSES`. -/
inductive WaveStatus
  | pending | completed | skipped
  deriving DecidableEq

def WaveStatus.text : WaveStatus → Text
  | .pending => "pending".toList
  | .completed => "completed".toList
  | .skipped => "skipped".toList

/-- The columns of a system that a campaign reads. -/
structure System where
  id : Nat
  organizationId : Option Nat
  deletedAt : Option Nat := none

/-- The columns of a finding that a campaign reads. -/
structure Poam where
  id : Nat
  systemId : Nat
  source : Option Text
  status : PoamStatus

/-- A row of `patch_campaigns`. Times are seconds. -/
structure PatchCampaign where
  id : Nat
  organizationId : Option Nat
  systemId : Nat
  name : Text
  status : CampaignStatus
  windowStart : Date
  windowEnd : Date
  createdBy : Option Text
  completedAt : Option Int := none
  deriving DecidableEq

/-- A row of `patch_waves`. -/
structure PatchWave where
  id : Nat
  campaignId : Nat
  sequence : Nat
  name : Text
  status : WaveStatus := .pending
  poamIds : List Nat
  windowStart : Date
  windowEnd : Date
  completedAt : Option Int := none
  completedBy : Option Text := none
  evidenceRef : Option Text := none
  remediationPlanId : Option Nat := none
  deriving DecidableEq

/-- The tables, with the numbers that were given last to a campaign and to a wave. -/
structure Db where
  systems : List System := []
  poams : List Poam := []
  plans : List RemediationPlan := []
  campaigns : List PatchCampaign := []
  waves : List PatchWave := []
  campaignSeq : Nat := 0
  waveSeq : Nat := 0

/-- `_flaw_poams`, of the open ones. -/
def flawPoams (db : Db) (systemId : Nat) : List Poam :=
  (db.poams.filter fun p =>
    p.systemId = systemId ∧ p.source.any (· ∈ Sla.flawSources) ∧ p.status.active).insertionSort
      fun a b => a.id ≤ b.id

/-- A campaign in one of the two statuses that `_overlapping` looks for. -/
def PatchCampaign.active (c : PatchCampaign) : Prop := c.status = .planned ∨ c.status = .inProgress

instance (c : PatchCampaign) : Decidable c.active := inferInstanceAs (Decidable (_ ∨ _))

/-- The window of a campaign meets the one from `start` to `finish`, which has both its edges. -/
def PatchCampaign.meets (c : PatchCampaign) (start finish : Date) : Bool :=
  !finish.lt c.windowStart && !c.windowEnd.lt start

/-- `_overlapping`. -/
def overlapping (db : Db) (systemId : Nat) (start finish : Date) : Option PatchCampaign :=
  ((db.campaigns.filter fun c =>
    c.systemId = systemId ∧ c.active ∧ c.meets start finish).insertionSort
      fun a b => a.id ≤ b.id).head?

/-- `waves_for`. -/
def wavesFor (waves : List PatchWave) (campaignId : Nat) : List PatchWave :=
  (waves.filter fun w => w.campaignId = campaignId).insertionSort
    fun a b => a.sequence ≤ b.sequence

/-- The arguments of `create_campaign`. -/
structure CampaignIn where
  systemId : Nat
  name : Text
  windowStart : Date
  windowEnd : Date
  actor : Text
  waveSize : Int := 5

def CampaignIn.campaign (r : CampaignIn) (id : Nat) (system : System) : PatchCampaign where
  id := id
  organizationId := system.organizationId
  systemId := r.systemId
  name := r.name
  status := .planned
  windowStart := r.windowStart
  windowEnd := r.windowEnd
  createdBy := some r.actor

/-- The wave with the number `index`, from 1 on. -/
def CampaignIn.wave (r : CampaignIn) (campaignId waveSeq : Nat) (batch : List Nat) (index : Nat) :
    PatchWave where
  id := waveSeq + index
  campaignId := campaignId
  sequence := index
  name := "Wave ".toList ++ natText index ++ if index = 1 then " (canary)".toList else []
  poamIds := batch
  windowStart := r.windowStart
  windowEnd := r.windowEnd

def planned (r : CampaignIn) (campaignId waveSeq : Nat) (plan : List (List Nat)) :
    List PatchWave :=
  (plan.zipIdx 1).map fun (batch, index) => r.wave campaignId waveSeq batch index

def Db.plan (db : Db) (r : CampaignIn) (system : System) (plan : List (List Nat)) : Db :=
  let id := db.campaignSeq + 1
  { db with
    campaigns := db.campaigns ++ [r.campaign id system]
    waves := db.waves ++ planned r id db.waveSeq plan
    campaignSeq := id
    waveSeq := db.waveSeq + plan.length }

/-- `create_campaign`; an error is the text of a `PatchingError`, with which nothing is written. -/
def createCampaign (repr : Text → Text) (db : Db) (r : CampaignIn) : Except Text Db :=
  match db.systems.find? fun s => s.id = r.systemId ∧ s.deletedAt = none with
  | none => .error ("unknown system: ".toList ++ natText r.systemId)
  | some system =>
    if r.windowEnd.lt r.windowStart then .error "window_end is before window_start".toList
    else
      match overlapping db r.systemId r.windowStart r.windowEnd with
      | some clash =>
        .error ("campaign ".toList ++ natText clash.id ++ " (".toList ++ repr clash.name ++
          ") already covers ".toList ++ clash.windowStart.isoformat ++ "..".toList ++
          clash.windowEnd.isoformat ++ " on this system".toList)
      | none =>
        match flawPoams db r.systemId with
        | [] => .error "no open scan-sourced findings to remediate on this system".toList
        | first :: rest =>
          (planWaves ((first :: rest).map Poam.id) r.waveSize).map fun plan => db.plan r system plan

/-- The arguments of `complete_wave`, with the time of the call. -/
structure WaveCompleteIn where
  actor : Text
  evidenceRef : Option Text := none
  remediationPlanId : Option Nat := none
  now : Int

/-- The plan that is cited is not one that was applied to the campaign's system. -/
def planRefused (db : Db) (campaign : PatchCampaign) (planId : Nat) : Bool :=
  match db.plans.find? fun p => p.id = planId with
  | none => true
  | some plan =>
    plan.organizationId ≠ campaign.organizationId ∨ plan.systemId ≠ campaign.systemId ∨
      plan.status ≠ .applied

/-- `(evidence_ref or "").strip() or None`. -/
def evidence (evidenceRef : Option Text) : Option Text :=
  match strip (evidenceRef.getD []) with
  | [] => none
  | text => some text

def PatchWave.complete (w : PatchWave) (r : WaveCompleteIn) : PatchWave :=
  { w with
    status := .completed
    completedAt := some r.now
    completedBy := some r.actor
    evidenceRef := evidence r.evidenceRef
    remediationPlanId := r.remediationPlanId }

/-- A campaign one of whose waves was completed, by the waves that it has now. -/
def PatchCampaign.advance (c : PatchCampaign) (waves : List PatchWave) (now : Int) :
    PatchCampaign :=
  if waves.filter (fun w => w.status = .pending) = [] then
    { c with status := .completed, completedAt := some now }
  else { c with status := .inProgress }

def Db.record (db : Db) (wave : PatchWave) (r : WaveCompleteIn) : Db :=
  let waves := db.waves.map fun w => if w.id = wave.id then w.complete r else w
  { db with
    waves := waves
    campaigns := db.campaigns.map fun c =>
      if c.id = wave.campaignId then c.advance (wavesFor waves c.id) r.now else c }

/-- `complete_wave`. -/
def completeWave (db : Db) (wave : PatchWave) (r : WaveCompleteIn) : Except Text Db :=
  if wave.status ≠ .pending then
    .error ("wave ".toList ++ natText wave.sequence ++ " is already ".toList ++ wave.status.text)
  else
    match db.campaigns.find? fun c => c.id = wave.campaignId with
    | none => .error ("wave ".toList ++ natText wave.id ++ " has no campaign".toList)
    | some campaign =>
      if campaign.status = .cancelled ∨ campaign.status = .completed then
        .error ("campaign ".toList ++ natText campaign.id ++ " is ".toList ++
          campaign.status.text ++ "; its waves can no longer be completed".toList)
      else
        match (wavesFor db.waves wave.campaignId).filter fun w =>
            w.sequence < wave.sequence ∧ w.status = .pending with
        | first :: _ =>
          .error ("wave ".toList ++ natText first.sequence ++
            " is still pending; complete waves in order".toList)
        | [] =>
          if ∃ planId ∈ r.remediationPlanId, planRefused db campaign planId then
            .error ("remediation plan ".toList ++ natText (r.remediationPlanId.getD 0) ++
              " is not an applied plan for this campaign's system".toList)
          else if evidence r.evidenceRef = none ∧ r.remediationPlanId = none then
            .error
              "completing a wave requires evidence_ref or an applied remediation_plan_id".toList
          else .ok (db.record wave r)

/-! ## Runs -/

/-- What happens to the tables: a campaign is asked for, a wave is to be completed, or other parts
of the platform have been at work. -/
inductive Op
  | create (r : CampaignIn)
  | complete (waveId : Nat) (r : WaveCompleteIn)
  | elsewhere (systems : List System) (poams : List Poam) (plans : List RemediationPlan)

/-- What the other parts may leave behind: findings with a key each, of the systems that they
have always been of. -/
def Lawful (systemOf : Nat → Nat) (poams : List Poam) : Prop :=
  (poams.map Poam.id).Nodup ∧ ∀ p ∈ poams, p.systemId = systemOf p.id

instance (systemOf : Nat → Nat) (poams : List Poam) : Decidable (Lawful systemOf poams) :=
  inferInstanceAs (Decidable (_ ∧ _))

/-- The tables after a request, which a refused one leaves as they were. -/
def answer (db : Db) : Except Text Db → Db
  | .ok db' => db'
  | .error _ => db

/-- One step; a wave that is not there is a 404. -/
def step (systemOf : Nat → Nat) (repr : Text → Text) (db : Db) : Op → Option Db
  | .create r => some (answer db (createCampaign repr db r))
  | .complete waveId r =>
    match db.waves.find? fun w => w.id = waveId with
    | none => some db
    | some wave => some (answer db (completeWave db wave r))
  | .elsewhere systems poams plans =>
    if Lawful systemOf poams then some { db with systems, poams, plans } else none

/-! ## The invariant -/

/-- A campaign among its waves: those completed come first, and it is completed when no other is
left. -/
structure Rollout (systemOf : Nat → Nat) (c : PatchCampaign) (ws : List PatchWave) : Prop where
  ordered : ws.Pairwise fun a b => a.sequence < b.sequence
  inOrder : ∃ done todo, ws = done ++ todo ∧ (∀ w ∈ done, w.status = .completed) ∧
    (∀ w ∈ todo, w.status = .pending) ∧ (c.status = .completed ↔ todo = [])
  own : ∀ w ∈ ws, ∀ id ∈ w.poamIds, systemOf id = c.systemId
  disjoint : (ws.flatMap PatchWave.poamIds).Nodup

/-- Two campaigns that are not in each other's way. -/
def Apart (c d : PatchCampaign) : Prop :=
  c.active → d.active → c.systemId = d.systemId → ¬ c.meets d.windowStart d.windowEnd

/-- The waves of a campaign, as the table has them. -/
def Db.wavesOf (db : Db) (id : Nat) : List PatchWave := db.waves.filter fun w => w.campaignId = id

structure Db.Sound (systemOf : Nat → Nat) (db : Db) : Prop where
  poams : Lawful systemOf db.poams
  campaignIds : (db.campaigns.map PatchCampaign.id).Nodup
  campaignSeq : ∀ c ∈ db.campaigns, c.id ≤ db.campaignSeq
  waveIds : (db.waves.map PatchWave.id).Nodup
  waveSeq : ∀ w ∈ db.waves, w.id ≤ db.waveSeq ∧ w.campaignId ≤ db.campaignSeq
  rollouts : ∀ c ∈ db.campaigns, Rollout systemOf c (db.wavesOf c.id)
  windows : db.campaigns.Pairwise Apart

variable {systemOf : Nat → Nat} {repr : Text → Text} {db db' : Db}

theorem wavesFor_eq {id : Nat}
    (h : (db.wavesOf id).Pairwise fun a b => a.sequence < b.sequence) :
    wavesFor db.waves id = db.wavesOf id :=
  (h.imp Nat.le_of_lt).insertionSort_eq

/-! ### A campaign is planned -/

theorem not_meets_of_overlapping {systemId : Nat} {start finish : Date}
    (h : overlapping db systemId start finish = none) {c : PatchCampaign} (hc : c ∈ db.campaigns)
    (hsystem : c.systemId = systemId) (hactive : c.active) : ¬ c.meets start finish := by
  intro hmeets
  have hnil := List.head?_eq_none_iff.mp h
  have hperm := List.perm_insertionSort (fun a b : PatchCampaign => a.id ≤ b.id)
    (db.campaigns.filter fun c => c.systemId = systemId ∧ c.active ∧ c.meets start finish)
  have hmem := hperm.mem_iff.mpr
    (List.mem_filter.mpr ⟨hc, decide_eq_true ⟨hsystem, hactive, hmeets⟩⟩)
  rw [hnil] at hmem
  exact List.not_mem_nil hmem

theorem createCampaign_eq_ok {r : CampaignIn} (h : createCampaign repr db r = .ok db') :
    ∃ system plan, overlapping db r.systemId r.windowStart r.windowEnd = none ∧
      flawPoams db r.systemId ≠ [] ∧
      Partitions ((flawPoams db r.systemId).map Poam.id) r.waveSize plan ∧
      db' = db.plan r system plan := by
  unfold createCampaign at h
  split at h
  · cases h
  rename_i system hsystem
  split at h
  · cases h
  split at h
  · cases h
  rename_i hoverlap
  split at h
  · cases h
  rename_i first rest hflaws
  by_cases hsize : 1 ≤ r.waveSize
  · obtain ⟨plan, hplan, hpart⟩ := planWaves_partitions ((first :: rest).map Poam.id) hsize
    rw [hplan] at h
    obtain rfl := Except.ok.inj h
    rw [hflaws]
    exact ⟨system, plan, hoverlap, List.cons_ne_nil _ _, hpart, rfl⟩
  · unfold planWaves at h
    rw [if_pos (Int.not_le.mp hsize)] at h
    cases h

section Planned

variable (r : CampaignIn) (campaignId waveSeq : Nat) (plan : List (List Nat))

theorem planned_sequences :
    (planned r campaignId waveSeq plan).map PatchWave.sequence = List.range' 1 plan.length := by
  rw [planned, List.map_map]
  exact List.zipIdx_map_snd 1 plan

theorem planned_ids : (planned r campaignId waveSeq plan).map PatchWave.id =
    (List.range' 1 plan.length).map (waveSeq + ·) := by
  rw [← planned_sequences r campaignId waveSeq, planned, List.map_map, List.map_map, List.map_map]
  rfl

theorem planned_poamIds : (planned r campaignId waveSeq plan).map PatchWave.poamIds = plan := by
  rw [planned, List.map_map]
  exact List.zipIdx_map_fst 1 plan

variable {r campaignId waveSeq plan}

theorem planned_new {w : PatchWave} (hw : w ∈ planned r campaignId waveSeq plan) :
    w.campaignId = campaignId ∧ w.status = .pending := by
  obtain ⟨⟨batch, index⟩, -, rfl⟩ := List.mem_map.mp hw
  exact ⟨rfl, rfl⟩

end Planned

theorem rollout_planned {r : CampaignIn} {system : System} {plan : List (List Nat)}
    (hdb : Lawful systemOf db.poams) (hflaws : flawPoams db r.systemId ≠ [])
    (hpart : Partitions ((flawPoams db r.systemId).map Poam.id) r.waveSize plan) (id : Nat) :
    Rollout systemOf (r.campaign id system) (planned r id db.waveSeq plan) := by
  have hperm : (flawPoams db r.systemId).Perm _ := List.perm_insertionSort _ _
  have hflat : (planned r id db.waveSeq plan).flatMap PatchWave.poamIds =
      (flawPoams db r.systemId).map Poam.id := by
    rw [List.flatMap_def, planned_poamIds, hpart.flatten]
  have hnonempty : planned r id db.waveSeq plan ≠ [] := by
    intro hnil
    rw [hnil] at hflat
    exact hflaws (List.map_eq_nil_iff.mp hflat.symm)
  refine ⟨?_, ⟨[], _, rfl, fun w hw => (nomatch hw), fun w hw => (planned_new hw).2,
    ⟨fun h => (nomatch h), fun h => absurd h hnonempty⟩⟩, fun w hw i hi => ?_, ?_⟩
  · refine List.pairwise_map.mp ?_
    rw [planned_sequences]
    exact List.pairwise_lt_range'
  -- a wave covers open flaws, and they are findings of the system
  · have hmem := List.mem_flatMap_of_mem hw hi
    rw [hflat] at hmem
    obtain ⟨p, hp, rfl⟩ := List.mem_map.mp hmem
    obtain ⟨hp, hof⟩ := List.mem_filter.mp (hperm.mem_iff.mp hp)
    rw [← hdb.2 p hp]
    exact (of_decide_eq_true hof).1
  · rw [hflat]
    refine (hperm.map Poam.id).nodup_iff.mpr ?_
    exact (List.filter_sublist.map Poam.id).nodup hdb.1

theorem wavesOf_plan_old (r : CampaignIn) (system : System) (plan : List (List Nat)) {id : Nat}
    (hid : id ≤ db.campaignSeq) :
    (db.plan r system plan).wavesOf id = db.wavesOf id := by
  unfold Db.wavesOf Db.plan
  rw [List.filter_append, List.append_right_eq_self]
  refine List.filter_eq_nil_iff.mpr fun w hw hid' => ?_
  have hnew := (planned_new hw).1
  have hold := of_decide_eq_true hid'
  omega

theorem wavesOf_plan_new (h : db.Sound systemOf) (r : CampaignIn) (system : System)
    (plan : List (List Nat)) : (db.plan r system plan).wavesOf (db.campaignSeq + 1) =
      planned r (db.campaignSeq + 1) db.waveSeq plan := by
  unfold Db.wavesOf Db.plan
  rw [List.filter_append, List.filter_eq_self.mpr fun w hw => decide_eq_true (planned_new hw).1,
    List.append_left_eq_self]
  refine List.filter_eq_nil_iff.mpr fun w hw hid => ?_
  have hold := (h.waveSeq w hw).2
  have hnew := of_decide_eq_true hid
  omega

theorem sound_create (h : db.Sound systemOf) {r : CampaignIn}
    (hcreate : createCampaign repr db r = .ok db') : db'.Sound systemOf := by
  obtain ⟨system, plan, hoverlap, hflaws, hpart, rfl⟩ := createCampaign_eq_ok hcreate
  refine ⟨h.poams, ?_, ?_, ?_, ?_, ?_, ?_⟩
  · show ((db.campaigns ++ [_]).map PatchCampaign.id).Nodup
    -- the counters are past every key in use, so that the new ones are free
    rw [List.map_append, List.nodup_append]
    refine ⟨h.campaignIds, List.nodup_singleton _, fun a ha b hb hab => ?_⟩
    obtain ⟨c, hc, rfl⟩ := List.mem_map.mp ha
    have hold := h.campaignSeq c hc
    have hnew : b = db.campaignSeq + 1 := List.mem_singleton.mp hb
    omega
  · intro c hc
    show c.id ≤ db.campaignSeq + 1
    rcases List.mem_append.mp hc with hc | hc
    · exact Nat.le_succ_of_le (h.campaignSeq c hc)
    · obtain rfl := List.mem_singleton.mp hc
      exact Nat.le_refl _
  · show ((db.waves ++ planned r (db.campaignSeq + 1) db.waveSeq plan).map PatchWave.id).Nodup
    rw [List.map_append, planned_ids, List.nodup_append]
    refine ⟨h.waveIds, ?_, fun a ha b hb hab => ?_⟩
    · exact List.Nodup.map (fun a b hab => Nat.add_left_cancel hab) List.nodup_range'
    · obtain ⟨w, hw, rfl⟩ := List.mem_map.mp ha
      obtain ⟨i, hi, rfl⟩ := List.mem_map.mp hb
      have hold := (h.waveSeq w hw).1
      have hpos := (List.mem_range'_1.mp hi).1
      omega
  · intro w hw
    show w.id ≤ db.waveSeq + plan.length ∧ w.campaignId ≤ db.campaignSeq + 1
    rcases List.mem_append.mp hw with hw | hw
    · have hold := h.waveSeq w hw
      omega
    · refine ⟨?_, Nat.le_of_eq (planned_new hw).1⟩
      have hid := List.mem_map_of_mem (f := PatchWave.id) hw
      rw [planned_ids] at hid
      obtain ⟨i, hi, hid⟩ := List.mem_map.mp hid
      have hle := (List.mem_range'_1.mp hi).2
      omega
  · intro c hc
    rcases List.mem_append.mp hc with hc | hc
    · rw [wavesOf_plan_old r system plan (h.campaignSeq c hc)]
      exact h.rollouts c hc
    · obtain rfl := List.mem_singleton.mp hc
      show Rollout systemOf _ ((db.plan r system plan).wavesOf (db.campaignSeq + 1))
      -- no wave of the tables has the number of the new campaign
      rw [wavesOf_plan_new h]
      exact rollout_planned h.poams hflaws hpart _
  · show (db.campaigns ++ [_]).Pairwise Apart
    rw [List.pairwise_append]
    refine ⟨h.windows, List.pairwise_singleton _ _, fun c hc d hd hactive _ hsystem => ?_⟩
    obtain rfl := List.mem_singleton.mp hd
    exact not_meets_of_overlapping hoverlap hc hsystem hactive

/-! ### A wave is completed -/

theorem completeWave_eq_ok {wave : PatchWave} {r : WaveCompleteIn}
    (h : completeWave db wave r = .ok db') :
    wave.status = .pending ∧ (∃ campaign ∈ db.campaigns, campaign.id = wave.campaignId ∧
      campaign.status ≠ .cancelled ∧ campaign.status ≠ .completed) ∧
      (∀ w ∈ wavesFor db.waves wave.campaignId, w.sequence < wave.sequence →
        w.status ≠ .pending) ∧
      db' = db.record wave r := by
  unfold completeWave at h
  split at h
  · cases h
  rename_i hpending
  split at h
  · cases h
  rename_i campaign hfind
  split at h
  · cases h
  rename_i hopen
  rw [not_or] at hopen
  split at h
  · cases h
  rename_i hnone
  split at h
  · cases h
  split at h
  · cases h
  -- past the six refusals, the wave and its campaign are written
  replace h := Except.ok.inj h
  subst h
  have hid : campaign.id = wave.campaignId := by simpa using List.find?_some hfind
  refine ⟨Decidable.not_not.mp hpending, ⟨campaign, List.mem_of_find?_eq_some hfind, hid, hopen⟩,
    fun w hw hlt hp => ?_, rfl⟩
  exact List.filter_eq_nil_iff.mp hnone w hw (decide_eq_true ⟨hlt, hp⟩)

/-- A wave as it is after the completion of `wave`. -/
def mark (wave : PatchWave) (r : WaveCompleteIn) (w : PatchWave) : PatchWave :=
  if w.id = wave.id then w.complete r else w

theorem mark_columns (wave : PatchWave) (r : WaveCompleteIn) (w : PatchWave) :
    (mark wave r w).id = w.id ∧ (mark wave r w).campaignId = w.campaignId ∧
      (mark wave r w).sequence = w.sequence ∧ (mark wave r w).poamIds = w.poamIds := by
  unfold mark
  split <;> exact ⟨rfl, rfl, rfl, rfl⟩

theorem wavesOf_record (wave : PatchWave) (r : WaveCompleteIn) (id : Nat) :
    (db.record wave r).wavesOf id = (db.wavesOf id).map (mark wave r) := by
  show (db.waves.map (mark wave r)).filter _ = _
  rw [List.filter_map]
  refine congrArg _ (List.filter_congr fun w _ => ?_)
  rw [Function.comp_apply, (mark_columns wave r w).2.1]

theorem advance_columns (c : PatchCampaign) (waves : List PatchWave) (now : Int) :
    (c.advance waves now).id = c.id ∧ (c.advance waves now).systemId = c.systemId ∧
      (c.advance waves now).windowStart = c.windowStart ∧
      (c.advance waves now).windowEnd = c.windowEnd := by
  unfold PatchCampaign.advance
  split <;> exact ⟨rfl, rfl, rfl, rfl⟩

theorem Rollout.next {c : PatchCampaign} {ws : List PatchWave} (h : Rollout systemOf c ws)
    {wave : PatchWave} (hwave : wave ∈ ws) (hpending : wave.status = .pending)
    (hearlier : ∀ w ∈ ws, w.sequence < wave.sequence → w.status ≠ .pending) :
    ∃ done rest, ws = done ++ wave :: rest ∧ (∀ w ∈ done, w.status = .completed) ∧
      ∀ w ∈ rest, w.status = .pending := by
  obtain ⟨done, todo, rfl, hdone, htodo, -⟩ := h.inOrder
  have hmem : wave ∈ todo := by
    refine (List.mem_append.mp hwave).resolve_left fun hmem => ?_
    rw [hdone wave hmem] at hpending
    cases hpending
  cases todo with
  | nil => cases hmem
  | cons first rest =>
    have hfirst : wave = first := by
      refine (List.mem_cons.mp hmem).resolve_right fun hrest => ?_
      have hordered := (List.pairwise_append.mp h.ordered).2.1
      have hlt := (List.pairwise_cons.mp hordered).1 wave hrest
      refine hearlier first ?_ hlt (htodo first List.mem_cons_self)
      exact List.mem_append_right _ List.mem_cons_self
    exact ⟨done, rest, hfirst ▸ rfl, hdone, fun w hw => htodo w (List.mem_cons_of_mem _ hw)⟩

theorem map_mark_of_ne {wave : PatchWave} {r : WaveCompleteIn} {ws : List PatchWave}
    (h : ∀ w ∈ ws, w.id ≠ wave.id) : ws.map (mark wave r) = ws :=
  (List.map_congr_left fun w hw => if_neg (h w hw)).trans (List.map_id ws)

theorem map_mark {wave : PatchWave} {r : WaveCompleteIn} {done rest : List PatchWave}
    (hids : ((done ++ wave :: rest).map PatchWave.id).Nodup) :
    (done ++ wave :: rest).map (mark wave r) = done ++ wave.complete r :: rest := by
  rw [List.map_append, List.map_cons, List.nodup_append, List.nodup_cons] at hids
  obtain ⟨-, ⟨hrest, -⟩, hdone⟩ := hids
  have hdone' : ∀ w ∈ done, w.id ≠ wave.id := fun w hw =>
    hdone w.id (List.mem_map_of_mem hw) wave.id List.mem_cons_self
  have hrest' : ∀ w ∈ rest, w.id ≠ wave.id := fun w hw heq =>
    hrest (heq ▸ List.mem_map_of_mem hw)
  rw [List.map_append, List.map_cons, map_mark_of_ne hdone', map_mark_of_ne hrest', mark,
    if_pos rfl]

theorem Rollout.advance {c : PatchCampaign} {ws : List PatchWave} (h : Rollout systemOf c ws)
    {wave : PatchWave} (r : WaveCompleteIn) (hwave : wave ∈ ws) (hpending : wave.status = .pending)
    (hearlier : ∀ w ∈ ws, w.sequence < wave.sequence → w.status ≠ .pending)
    (hids : (ws.map PatchWave.id).Nodup) :
    Rollout systemOf (c.advance (ws.map (mark wave r)) r.now) (ws.map (mark wave r)) := by
  obtain ⟨done, rest, hws, hdone, hrest⟩ := h.next hwave hpending hearlier
  have hmark : ws.map (mark wave r) = (done ++ [wave.complete r]) ++ rest := by
    rw [hws] at hids ⊢
    rw [map_mark hids, List.append_assoc]
    rfl
  have hdone' : ∀ w ∈ done ++ [wave.complete r], w.status = .completed := by
    intro w hw
    rcases List.mem_append.mp hw with hw | hw
    · exact hdone w hw
    · obtain rfl := List.mem_singleton.mp hw
      rfl
  -- what is still pending is what stands behind the wave
  have hleft : (ws.map (mark wave r)).filter (fun w => w.status = .pending) = rest := by
    rw [hmark, List.filter_append, List.filter_eq_self.mpr fun w hw => decide_eq_true (hrest w hw),
      List.append_left_eq_self]
    refine List.filter_eq_nil_iff.mpr fun w hw hp => ?_
    have hcompleted := hdone' w hw
    rw [of_decide_eq_true hp] at hcompleted
    cases hcompleted
  refine ⟨?_, ⟨_, rest, hmark, hdone', hrest, ?_⟩, ?_, ?_⟩
  · refine List.pairwise_map.mpr (h.ordered.imp fun {a b} hab => ?_)
    rw [(mark_columns wave r a).2.2.1, (mark_columns wave r b).2.2.1]
    exact hab
  · unfold PatchCampaign.advance
    rw [hleft]
    split
    · rename_i hnil
      exact iff_of_true rfl hnil
    · rename_i hcons
      exact iff_of_false (fun hstatus => nomatch hstatus) hcons
  · intro w hw i hi
    obtain ⟨v, hv, rfl⟩ := List.mem_map.mp hw
    rw [(mark_columns wave r v).2.2.2] at hi
    rw [(advance_columns c _ r.now).2.1]
    exact h.own v hv i hi
  -- completing a wave does not change what it covers
  · rw [List.flatMap_map]
    have hsame : (fun w => (mark wave r w).poamIds) = PatchWave.poamIds :=
      funext fun w => (mark_columns wave r w).2.2.2
    rw [hsame]
    exact h.disjoint

/-- What completing a wave does to a campaign: to its own, it is taken further. -/
def proceed (wave : PatchWave) (waves : List PatchWave) (now : Int) (c : PatchCampaign) :
    PatchCampaign :=
  if c.id = wave.campaignId then c.advance (wavesFor waves c.id) now else c

theorem proceed_columns (wave : PatchWave) (waves : List PatchWave) (now : Int)
    (c : PatchCampaign) :
    (proceed wave waves now c).id = c.id ∧ (proceed wave waves now c).systemId = c.systemId ∧
      (proceed wave waves now c).windowStart = c.windowStart ∧
      (proceed wave waves now c).windowEnd = c.windowEnd := by
  unfold proceed
  split
  · exact advance_columns c _ now
  · exact ⟨rfl, rfl, rfl, rfl⟩

theorem map_proceed_id (wave : PatchWave) (waves : List PatchWave) (now : Int)
    (campaigns : List PatchCampaign) :
    (campaigns.map (proceed wave waves now)).map PatchCampaign.id =
      campaigns.map PatchCampaign.id := by
  rw [List.map_map]
  exact List.map_congr_left fun c _ => (proceed_columns wave waves now c).1

theorem map_mark_id (wave : PatchWave) (r : WaveCompleteIn) (waves : List PatchWave) :
    (waves.map (mark wave r)).map PatchWave.id = waves.map PatchWave.id := by
  rw [List.map_map]
  exact List.map_congr_left fun w _ => (mark_columns wave r w).1

theorem active_of_proceed {wave : PatchWave} {waves : List PatchWave} {now : Int}
    {c : PatchCampaign}
    (hopen : c.id = wave.campaignId → c.status ≠ .cancelled ∧ c.status ≠ .completed)
    (h : (proceed wave waves now c).active) : c.active := by
  unfold proceed at h
  split at h
  · rename_i hcid
    obtain ⟨hcancelled, hcompleted⟩ := hopen hcid
    cases hstatus : c.status with
    | planned => exact .inl hstatus
    | inProgress => exact .inr hstatus
    | completed => exact absurd hstatus hcompleted
    | cancelled => exact absurd hstatus hcancelled
  · exact h

theorem apart_proceed {wave : PatchWave} {waves : List PatchWave} {now : Int}
    {c d : PatchCampaign} (h : Apart c d)
    (hc : (proceed wave waves now c).active → c.active)
    (hd : (proceed wave waves now d).active → d.active) :
    Apart (proceed wave waves now c) (proceed wave waves now d) := by
  obtain ⟨-, hcs, hcstart, hcend⟩ := proceed_columns wave waves now c
  obtain ⟨-, hds, hdstart, hdend⟩ := proceed_columns wave waves now d
  intro hcactive hdactive hsystem
  rw [hcs, hds] at hsystem
  rw [PatchCampaign.meets, hcstart, hcend, hdstart, hdend]
  exact h (hc hcactive) (hd hdactive) hsystem

theorem wavesOf_record_of_ne (h : db.Sound systemOf) {wave : PatchWave} (r : WaveCompleteIn)
    (hwave : wave ∈ db.waves) {id : Nat} (hid : id ≠ wave.campaignId) :
    (db.record wave r).wavesOf id = db.wavesOf id := by
  rw [wavesOf_record]
  refine map_mark_of_ne fun w hw heq => ?_
  obtain ⟨hw, hwid⟩ := List.mem_filter.mp hw
  obtain rfl := List.inj_on_of_nodup_map h.waveIds hw hwave heq
  exact hid (of_decide_eq_true hwid).symm

theorem rollout_proceed (h : db.Sound systemOf) {wave : PatchWave} {r : WaveCompleteIn}
    (hwave : wave ∈ db.waves) (hpending : wave.status = .pending)
    (hearlier : ∀ w ∈ wavesFor db.waves wave.campaignId, w.sequence < wave.sequence →
      w.status ≠ .pending) {c : PatchCampaign} (hc : c ∈ db.campaigns) :
    Rollout systemOf (proceed wave (db.record wave r).waves r.now c)
      ((db.record wave r).wavesOf c.id) := by
  have hroll := h.rollouts c hc
  unfold proceed
  split
  · rename_i hcid
    have hmem : wave ∈ db.wavesOf c.id := List.mem_filter.mpr ⟨hwave, decide_eq_true hcid.symm⟩
    rw [← hcid, wavesFor_eq hroll.ordered] at hearlier
    have hadvance := hroll.advance r hmem hpending hearlier
      ((List.filter_sublist.map PatchWave.id).nodup h.waveIds)
    -- the waves are read again once this one is written
    rw [← wavesOf_record] at hadvance
    rw [wavesFor_eq hadvance.ordered]
    exact hadvance
  · rename_i hcid
    rw [wavesOf_record_of_ne h r hwave hcid]
    exact hroll

theorem sound_complete (h : db.Sound systemOf) {wave : PatchWave} {r : WaveCompleteIn}
    (hwave : wave ∈ db.waves) (hcomplete : completeWave db wave r = .ok db') :
    db'.Sound systemOf := by
  obtain ⟨hpending, ⟨campaign, hcampaign, hid, hopen⟩, hearlier, rfl⟩ :=
    completeWave_eq_ok hcomplete
  have hcampaigns : (db.record wave r).campaigns =
      db.campaigns.map (proceed wave (db.record wave r).waves r.now) := rfl
  have hwaves : (db.record wave r).waves = db.waves.map (mark wave r) := rfl
  have hactive : ∀ c ∈ db.campaigns,
      (proceed wave (db.record wave r).waves r.now c).active → c.active := by
    refine fun c hc => active_of_proceed fun hcid => ?_
    obtain rfl := List.inj_on_of_nodup_map h.campaignIds hc hcampaign (hcid.trans hid.symm)
    exact hopen
  refine ⟨h.poams, ?_, ?_, ?_, ?_, ?_, ?_⟩
  · rw [hcampaigns, map_proceed_id]
    exact h.campaignIds
  · intro c hc
    rw [hcampaigns] at hc
    obtain ⟨d, hd, rfl⟩ := List.mem_map.mp hc
    rw [(proceed_columns wave _ r.now d).1]
    exact h.campaignSeq d hd
  · rw [hwaves, map_mark_id]
    exact h.waveIds
  · intro w hw
    rw [hwaves] at hw
    obtain ⟨v, hv, rfl⟩ := List.mem_map.mp hw
    rw [(mark_columns wave r v).1, (mark_columns wave r v).2.1]
    exact h.waveSeq v hv
  · intro c hc
    rw [hcampaigns] at hc
    obtain ⟨d, hd, rfl⟩ := List.mem_map.mp hc
    rw [(proceed_columns wave _ r.now d).1]
    exact rollout_proceed h hwave hpending hearlier hd
  · rw [hcampaigns, List.pairwise_map]
    exact h.windows.imp_of_mem fun {c d} hc hd hcd =>
      apart_proceed hcd (hactive c hc) (hactive d hd)

/-! ### Every run -/

theorem sound_step {op : Op} (h : db.Sound systemOf) (hstep : step systemOf repr db op = some db') :
    db'.Sound systemOf := by
  cases op with
  | create r =>
    obtain rfl := Option.some.inj hstep
    cases hcreate : createCampaign repr db r with
    | error e => exact h
    | ok db' => exact sound_create h hcreate
  | complete waveId r =>
    unfold step at hstep
    dsimp only at hstep
    split at hstep
    · obtain rfl := Option.some.inj hstep
      exact h
    · rename_i wave hfind
      obtain rfl := Option.some.inj hstep
      cases hcomplete : completeWave db wave r with
      | error e => exact h
      | ok db' => exact sound_complete h (List.mem_of_find?_eq_some hfind) hcomplete
  | elsewhere systems poams plans =>
    unfold step at hstep
    dsimp only at hstep
    split at hstep
    -- the rest of the platform writes neither campaigns nor waves
    · rename_i hlawful
      obtain rfl := Option.some.inj hstep
      exact ⟨hlawful, h.campaignIds, h.campaignSeq, h.waveIds, h.waveSeq, h.rollouts, h.windows⟩
    · cases hstep

theorem sound_empty : ({} : Db).Sound systemOf where
  poams := ⟨List.nodup_nil, List.forall_mem_nil _⟩
  campaignIds := List.nodup_nil
  campaignSeq := List.forall_mem_nil _
  waveIds := List.nodup_nil
  waveSeq := List.forall_mem_nil _
  rollouts := List.forall_mem_nil _
  windows := List.Pairwise.nil

/-- A state that a run from empty tables reaches. -/
def Reachable (systemOf : Nat → Nat) (repr : Text → Text) (db : Db) : Prop :=
  ∃ ops, exec (step systemOf repr) {} ops = some db

theorem Reachable.sound (h : Reachable systemOf repr db) : db.Sound systemOf := by
  obtain ⟨ops, hrun⟩ := h
  exact exec_invariant (fun _ _ _ hs hstep => sound_step hs hstep) sound_empty hrun

def Db.Covers (db : Db) (c : PatchCampaign) (poamId : Nat) : Prop :=
  ∃ w ∈ wavesFor db.waves c.id, poamId ∈ w.poamIds

instance (db : Db) (c : PatchCampaign) (poamId : Nat) : Decidable (db.Covers c poamId) :=
  inferInstanceAs (Decidable (∃ w ∈ wavesFor db.waves c.id, poamId ∈ w.poamIds))

theorem Rollout.completed_prefix {c : PatchCampaign} {ws : List PatchWave}
    (h : Rollout systemOf c ws) : ws.filter (fun w => w.status = .completed) <+: ws := by
  obtain ⟨done, todo, rfl, hdone, htodo, -⟩ := h.inOrder
  refine ⟨todo, ?_⟩
  rw [List.filter_append, List.filter_eq_self.mpr fun w hw => decide_eq_true (hdone w hw),
    List.filter_eq_nil_iff.mpr fun w hw hcompleted => ?_, List.append_nil]
  have hpending := htodo w hw
  rw [of_decide_eq_true hcompleted] at hpending
  cases hpending

theorem Rollout.completed_iff {c : PatchCampaign} {ws : List PatchWave}
    (h : Rollout systemOf c ws) : c.status = .completed ↔ ∀ w ∈ ws, w.status ≠ .pending := by
  obtain ⟨done, todo, rfl, hdone, htodo, hstatus⟩ := h.inOrder
  rw [hstatus]
  constructor
  · rintro rfl w hw hpending
    rw [List.append_nil] at hw
    rw [hdone w hw] at hpending
    cases hpending
  · intro hnone
    refine List.eq_nil_iff_forall_not_mem.mpr fun w hw => ?_
    exact hnone w (List.mem_append_right _ hw) (htodo w hw)

theorem meets_symm {c d : PatchCampaign} (h : c.meets d.windowStart d.windowEnd) :
    d.meets c.windowStart c.windowEnd := by
  unfold PatchCampaign.meets at h ⊢
  rw [Bool.and_comm]
  exact h

theorem apart_symm {c d : PatchCampaign} (h : Apart c d) : Apart d c :=
  fun hd hc hsystem hmeets => h hc hd hsystem.symm (meets_symm hmeets)

instance : Std.Symm Apart := ⟨fun _ _ => apart_symm⟩

theorem Db.Sound.unshared (h : db.Sound systemOf) {c d : PatchCampaign} (hc : c ∈ db.campaigns)
    (hd : d ∈ db.campaigns) (hcactive : c.active) (hdactive : d.active)
    (hmeets : c.meets d.windowStart d.windowEnd) {poamId : Nat} (hccovers : db.Covers c poamId)
    (hdcovers : db.Covers d poamId) : c = d := by
  obtain ⟨v, hv, hvid⟩ := hccovers
  obtain ⟨w, hw, hwid⟩ := hdcovers
  rw [wavesFor_eq (h.rollouts c hc).ordered] at hv
  rw [wavesFor_eq (h.rollouts d hd).ordered] at hw
  have hsystem : c.systemId = d.systemId :=
    ((h.rollouts c hc).own v hv poamId hvid).symm.trans ((h.rollouts d hd).own w hw poamId hwid)
  by_contra hne
  exact h.windows.forall hc hd hne hcactive hdactive hsystem hmeets

/-- **Campaigns roll out in order**, and those that could meet have nothing in common: every plan is
a partition with its canary first, and in every state that is reached the completed waves come
first, a campaign is completed exactly when none is pending, and no finding is in two active
campaigns whose windows meet. -/
theorem rolls_out_in_order (systemOf : Nat → Nat) (repr : Text → Text) :
    (∀ poamIds waveSize, 1 ≤ waveSize → ∃ waves, planWaves poamIds waveSize = .ok waves ∧
      Partitions poamIds waveSize waves ∧ (poamIds.Nodup → waves.Pairwise List.Disjoint)) ∧
    ∀ db, Reachable systemOf repr db →
      (∀ c ∈ db.campaigns,
        (wavesFor db.waves c.id).filter (fun w => w.status = .completed) <+: wavesFor db.waves c.id ∧
        (c.status = .completed ↔ ∀ w ∈ wavesFor db.waves c.id, w.status ≠ .pending) ∧
        ((wavesFor db.waves c.id).flatMap PatchWave.poamIds).Nodup) ∧
      ∀ c ∈ db.campaigns, ∀ d ∈ db.campaigns, c.active → d.active →
        c.meets d.windowStart d.windowEnd → ∀ poamId, db.Covers c poamId → db.Covers d poamId →
          c = d := by
  refine ⟨fun poamIds waveSize hsize => ?_, fun db hdb => ⟨fun c hc => ?_, ?_⟩⟩
  · obtain ⟨waves, hwaves, hpart⟩ := planWaves_partitions poamIds hsize
    exact ⟨waves, hwaves, hpart, hpart.disjoint⟩
  · have hroll := hdb.sound.rollouts c hc
    rw [wavesFor_eq hroll.ordered]
    exact ⟨hroll.completed_prefix, hroll.completed_iff, hroll.disjoint⟩
  · intro c hc d hd hcactive hdactive hmeets poamId hccovers hdcovers
    exact hdb.sound.unshared hc hd hcactive hdactive hmeets hccovers hdcovers

/-! ## Two windows -/

theorem september_year_pos : 1 ≤ 2026 := by decide

theorem september_year_le : 2026 ≤ 9999 := by decide

theorem september_month_pos : 1 ≤ 9 := by decide

theorem september_month_le : 9 ≤ 12 := by decide

def september (d : Fin 30) : Date where
  year := 2026
  month := 9
  day := d + 1
  year_pos := september_year_pos
  year_le := september_year_le
  month_pos := september_month_pos
  month_le := september_month_le
  day_pos := Nat.le_add_left 1 d
  day_le := d.isLt

def oneDay (d : Fin 30) : CampaignIn where
  systemId := 1
  name := "patches".toList
  windowStart := september d
  windowEnd := september d
  actor := "owner".toList

def twoCampaigns : List Op :=
  [.elsewhere [⟨1, some 1, none⟩] [⟨7, 1, some "scan".toList, .opened⟩] [],
    .create (oneDay 0), .create (oneDay 1)]

/-- Both are planned, and both have the one finding. -/
theorem later_campaign_shares_asset :
    ¬ ∀ (systemOf : Nat → Nat) (repr : Text → Text) (db : Db), Reachable systemOf repr db →
      ∀ c ∈ db.campaigns, ∀ d ∈ db.campaigns, c.active → d.active →
        ∀ poamId, db.Covers c poamId → db.Covers d poamId → c = d := by
  intro h
  have hrun : ∃ db ∈ exec (step (fun _ => 1) id) {} twoCampaigns, ∃ c ∈ db.campaigns,
      ∃ d ∈ db.campaigns, c.active ∧ d.active ∧ db.Covers c 7 ∧ db.Covers d 7 ∧ c ≠ d := by
    decide +kernel
  obtain ⟨db, hdb, c, hc, d, hd, hcactive, hdactive, hccovers, hdcovers, hne⟩ := hrun
  exact hne (h _ id db ⟨twoCampaigns, hdb⟩ c hc d hd hcactive hdactive 7 hccovers hdcovers)

end Concord.Patching
