import Concord.Governance.Bus
import Concord.Python.Ints

/-!
# Config drift

`collect_for_org` of `ccf/governance/collection.py`: what the connectors of an organization read
is compared with the snapshots of the last run, and each value that differs raises an alert. The
alert's key names the connector, the parameter and the new value, and no organization. An alert
of that key that another organization holds, or that was read, is not raised again.

What each connector reads is a parameter of a run. Events, the connector's own counters and the
time of a capture are left out.
-/

namespace Concord.Collection

open Concord.Base
open Concord.Bus
open Concord.Python

/-! ## Connectors -/

/-- A connector's key and label. -/
structure ConnectorType where
  key : Text
  label : Text

/-- `_REGISTRY`. -/
def registry : List ConnectorType :=
  [{ key := "msgraph".toList, label := "Microsoft 365 Government (Graph)".toList },
    { key := "aws_govcloud".toList, label := "AWS GovCloud (US)".toList },
    { key := "azure_arm".toList, label := "Microsoft Azure Government (Resource Manager)".toList },
    { key := "gcp".toList, label := "Google Cloud (Assured Workloads)".toList },
    { key := "puppetdb".toList, label := "PuppetDB (configuration management)".toList }]

/-- The name of a parameter: a constant of the connector that reads it. -/
structure ParameterName where
  text : Text
  short : text.length ≤ 64
  plain : ':' ∉ text
  deriving DecidableEq

/-- `CapturedParameter`, but for its name. -/
structure Captured where
  value : Text
  nistId : Option Text

/-- What becomes of a connector in a run: the organization's credential cannot be read, there is
none that is usable, the capture raises, or it returns. -/
inductive Connection
  | unreadable (error : Text)
  | unbound
  | raised
  | returned (caps : Dict ParameterName Captured)

/-! ## What is stored -/

/-- A row of `capture_snapshots`. -/
structure Snapshot where
  id : Nat
  value : Text
  nistId : Option Text

/-- The snapshots, by organization, connector and parameter, and the notifications. -/
structure Books where
  snapshots : Dict (Nat × Text × ParameterName) Snapshot
  nextSnapshot : Nat
  notifications : Notifications

/-- What a run returns. -/
structure Report where
  organizationId : Nat
  connectorsRun : List Text
  notConfigured : List Text
  captured : Nat
  drift : Nat

/-- One value that a connector read. -/
structure Reading where
  conn : ConnectorType
  name : ParameterName
  cap : Captured

def Reading.place (r : Reading) (org : Nat) : Nat × Text × ParameterName :=
  (org, r.conn.key, r.name)

/-- The columns of a snapshot take the reading. -/
def Reading.takes (r : Reading) : Bool :=
  nulFree r.name.text && nulFree r.cap.value &&
    r.cap.nistId.all fun nist => fits 16 nist && nulFree nist

def driftNotice (org : Nat) (r : Reading) (snap : Snapshot) : Notice where
  category := "conmon".toList
  title := "Config drift: ".toList ++ r.name.text
  body := some (r.conn.label ++ ": '".toList ++ snap.value ++ "' → '".toList ++ r.cap.value ++
    "'".toList)
  orgId := some org
  severity := "warning".toList
  entityType := some "capture_snapshot".toList
  entityId := some (natText snap.id)
  dedupeKey := "drift:".toList ++ r.conn.key ++ ':' :: r.name.text ++ ':' :: r.cap.value

/-! ## A run -/

/-- What one reading makes of what is stored. A row that the columns do not take is refused when
the session is flushed, and the run is lost with it. -/
def keep (tenant : Option Nat) (org : Nat) (b : Books) (r : Reading) : Except Text Books :=
  match b.snapshots.get? (r.place org) with
  | none =>
    if r.takes then
      .ok { b with
        snapshots := b.snapshots.set (r.place org)
          { id := b.nextSnapshot, value := r.cap.value, nistId := r.cap.nistId }
        nextSnapshot := b.nextSnapshot + 1 }
    else .error "DataError".toList
  | some snap =>
    if snap.value = r.cap.value then .ok b
    else
      (notify tenant b.notifications (driftNotice org r snap)).map fun rows =>
        { b with
          snapshots := b.snapshots.set (r.place org) { snap with value := r.cap.value }
          notifications := rows }

def drifted (org : Nat) (b : Books) (r : Reading) : Bool :=
  match b.snapshots.get? (r.place org) with
  | none => false
  | some snap => snap.value ≠ r.cap.value

def record (tenant : Option Nat) (org : Nat) (w : Books × Report) (r : Reading) :
    Except Text (Books × Report) :=
  (keep tenant org w.1 r).map fun b =>
    (b, { w.2 with
      captured := w.2.captured + 1
      drift := w.2.drift + if drifted org w.1 r then 1 else 0 })

def Connection.readings (conn : ConnectorType) : Connection → List Reading
  | .returned caps => caps.items.map fun p => { conn := conn, name := p.1, cap := p.2 }
  | _ => []

def sweep (tenant : Option Nat) (org : Nat) (outcome : Text → Connection) (w : Books × Report)
    (conn : ConnectorType) : Except Text (Books × Report) :=
  match outcome conn.key with
  | .unreadable error => .error error
  | .unbound => .ok (w.1, { w.2 with notConfigured := w.2.notConfigured ++ [conn.key] })
  | .raised => .ok (w.1, { w.2 with connectorsRun := w.2.connectorsRun ++ [conn.key] })
  | .returned caps =>
    ((Connection.returned caps).readings conn).foldlM (record tenant org)
      (w.1, { w.2 with connectorsRun := w.2.connectorsRun ++ [conn.key] })

/-- `collect_for_org`. -/
def collectForOrg (tenant : Option Nat) (b : Books) (org : Nat) (outcome : Text → Connection) :
    Except Text (Books × Report) :=
  registry.foldlM (sweep tenant org outcome)
    (b, { organizationId := org
          connectorsRun := []
          notConfigured := []
          captured := 0
          drift := 0 })

def readings (outcome : Text → Connection) : List Reading :=
  registry.flatMap fun conn => (outcome conn.key).readings conn

/-! ## What a run keeps -/

variable {tenant : Option Nat} {org : Nat}

theorem map_foldlM_record (rs : List Reading) (w : Books × Report) :
    (rs.foldlM (record tenant org) w).map Prod.fst = rs.foldlM (keep tenant org) w.1 := by
  induction rs generalizing w with
  | nil => rfl
  | cons r rs ih =>
    rw [List.foldlM_cons, List.foldlM_cons]
    unfold record
    cases keep tenant org w.1 r with
    | error e => rfl
    | ok b => exact ih _

theorem exists_foldlM_record {rs : List Reading} {w : Books × Report} {b' : Books} :
    (∃ report, rs.foldlM (record tenant org) w = .ok (b', report)) ↔
      rs.foldlM (keep tenant org) w.1 = .ok b' := by
  rw [← map_foldlM_record, map_eq_ok]
  exact ⟨fun ⟨report, h⟩ => ⟨_, h, rfl⟩, fun ⟨⟨b, report⟩, h, hb⟩ => ⟨report, hb ▸ h⟩⟩

/-- The credential of every connector can be read. -/
def Readable (conns : List ConnectorType) (outcome : Text → Connection) : Prop :=
  ∀ conn ∈ conns, ∀ error, outcome conn.key ≠ .unreadable error

theorem exists_sweep {outcome : Text → Connection} {conn : ConnectorType} {w : Books × Report}
    {b' : Books} : (∃ report, sweep tenant org outcome w conn = .ok (b', report)) ↔
      (∀ error, outcome conn.key ≠ .unreadable error) ∧
        ((outcome conn.key).readings conn).foldlM (keep tenant org) w.1 = .ok b' := by
  unfold sweep
  cases outcome conn.key with
  | unreadable error =>
    refine iff_of_false ?_ fun h => h.1 error rfl
    rintro ⟨report, h⟩
    cases h
  | unbound =>
    refine ⟨fun ⟨report, h⟩ => ⟨nofun, congrArg (·.map Prod.fst) h⟩, fun h =>
      ⟨{ w.2 with notConfigured := w.2.notConfigured ++ [conn.key] }, ?_⟩⟩
    rw [← Except.ok.inj h.2]
  | raised =>
    refine ⟨fun ⟨report, h⟩ => ⟨nofun, congrArg (·.map Prod.fst) h⟩, fun h =>
      ⟨{ w.2 with connectorsRun := w.2.connectorsRun ++ [conn.key] }, ?_⟩⟩
    rw [← Except.ok.inj h.2]
  | returned caps =>
    exact (exists_foldlM_record (w := (w.1, _))).trans (and_iff_right nofun).symm

theorem exists_foldlM_sweep {outcome : Text → Connection} {conns : List ConnectorType} :
    ∀ {w : Books × Report} {b' : Books},
      (∃ report, conns.foldlM (sweep tenant org outcome) w = .ok (b', report)) ↔
        Readable conns outcome ∧
          (conns.flatMap fun conn => (outcome conn.key).readings conn).foldlM (keep tenant org)
            w.1 = .ok b' := by
  induction conns with
  | nil =>
    intro w b'
    refine ⟨fun ⟨report, h⟩ => ⟨nofun, ?_⟩, fun h => ⟨w.2, ?_⟩⟩
    · exact congrArg (·.map Prod.fst) h
    · exact congrArg (·.map fun b => (b, w.2)) h.2
  | cons conn conns ih =>
    intro w b'
    rw [List.foldlM_cons, List.flatMap_cons, List.foldlM_append]
    constructor
    · rintro ⟨report, h⟩
      obtain ⟨⟨mid, report'⟩, hmid, hrest⟩ := bind_eq_ok.mp h
      obtain ⟨hreadable, hkeep⟩ := exists_sweep.mp ⟨report', hmid⟩
      obtain ⟨hreadables, hkeeps⟩ := ih.mp ⟨report, hrest⟩
      exact ⟨List.forall_mem_cons.mpr ⟨hreadable, hreadables⟩,
        bind_eq_ok.mpr ⟨mid, hkeep, hkeeps⟩⟩
    · rintro ⟨hreadable, h⟩
      obtain ⟨hfirst, hothers⟩ := List.forall_mem_cons.mp hreadable
      obtain ⟨mid, hkeep, hkeeps⟩ := bind_eq_ok.mp h
      obtain ⟨report', hmid⟩ := exists_sweep.mpr ⟨hfirst, hkeep⟩
      obtain ⟨report, hrest⟩ := (ih (w := (mid, report'))).mpr ⟨hothers, hkeeps⟩
      exact ⟨report, bind_eq_ok.mpr ⟨(mid, report'), hmid, hrest⟩⟩

theorem exists_collectForOrg {b b' : Books} {outcome : Text → Connection} :
    (∃ report, collectForOrg tenant b org outcome = .ok (b', report)) ↔
      Readable registry outcome ∧ (readings outcome).foldlM (keep tenant org) b = .ok b' :=
  exists_foldlM_sweep

/-! ## Alerts -/

def alert? (org : Nat) (b : Books) (r : Reading) : Option Notice :=
  match b.snapshots.get? (r.place org) with
  | none => none
  | some snap => if snap.value = r.cap.value then none else some (driftNotice org r snap)

/-- The alerts of a run, by what was stored before it. -/
def alerts (org : Nat) (b : Books) (rs : List Reading) : List Notice :=
  rs.filterMap (alert? org b)

theorem alert?_eq_some {b : Books} {r : Reading} {n : Notice} : alert? org b r = some n ↔
    ∃ snap, b.snapshots.get? (r.place org) = some snap ∧ snap.value ≠ r.cap.value ∧
      driftNotice org r snap = n := by
  unfold alert?
  cases b.snapshots.get? (r.place org) with
  | none => exact iff_of_false nofun fun ⟨_, h, _⟩ => nomatch h
  | some snap =>
    dsimp only
    split
    case isTrue heq =>
      refine iff_of_false nofun ?_
      rintro ⟨_, h, hne, -⟩
      exact hne (Option.some.inj h ▸ heq)
    case isFalse hne =>
      rw [Option.some.injEq]
      refine ⟨fun h => ⟨snap, rfl, hne, h⟩, ?_⟩
      rintro ⟨_, h, -, hn⟩
      exact Option.some.inj h ▸ hn

def NewTaken (org : Nat) (b : Books) (rs : List Reading) : Prop :=
  ∀ r ∈ rs, b.snapshots.get? (r.place org) = none → r.takes = true

theorem keep_eq_ok {b mid : Books} {r : Reading} (h : keep tenant org b r = .ok mid) :
    (b.snapshots.get? (r.place org) = none → r.takes = true) ∧
      notifyAll tenant b.notifications (alert? org b r).toList = .ok mid.notifications ∧
      ∀ place, r.place org ≠ place → mid.snapshots.get? place = b.snapshots.get? place := by
  unfold keep at h
  unfold alert?
  cases hsnap : b.snapshots.get? (r.place org) with
  | none =>
    rw [hsnap] at h
    dsimp only at h
    split at h
    case isTrue htakes =>
      obtain rfl := Except.ok.inj h
      exact ⟨fun _ => htakes, rfl, fun place hne => by rw [Dict.get?_set, if_neg hne]⟩
    case isFalse => cases h
  | some snap =>
    rw [hsnap] at h
    dsimp only at h ⊢
    refine ⟨fun hnone => absurd hnone (Option.some_ne_none snap), ?_⟩
    split at h
    case isTrue heq =>
      obtain rfl := Except.ok.inj h
      rw [if_pos heq]
      exact ⟨rfl, fun _ _ => rfl⟩
    case isFalse hne =>
      obtain ⟨rows, hn, rfl⟩ := map_eq_ok.mp h
      rw [if_neg hne]
      exact ⟨notifyAll_cons_eq_ok.mpr ⟨rows, hn, rfl⟩,
        fun place hne => by rw [Dict.get?_set, if_neg hne]⟩

theorem exists_keep {b : Books} {r : Reading} {rows : Notifications}
    (htakes : b.snapshots.get? (r.place org) = none → r.takes = true)
    (h : notifyAll tenant b.notifications (alert? org b r).toList = .ok rows) :
    ∃ mid, keep tenant org b r = .ok mid ∧ mid.notifications = rows := by
  unfold keep
  unfold alert? at h
  cases hsnap : b.snapshots.get? (r.place org) with
  | none =>
    rw [hsnap] at h
    dsimp only
    rw [if_pos (htakes hsnap)]
    exact ⟨_, rfl, Except.ok.inj h⟩
  | some snap =>
    rw [hsnap] at h
    dsimp only at h ⊢
    split at h
    case isTrue heq =>
      rw [if_pos heq]
      exact ⟨b, rfl, Except.ok.inj h⟩
    case isFalse hne =>
      obtain ⟨rows', hn, hrest⟩ := notifyAll_cons_eq_ok.mp h
      rw [if_neg hne, hn]
      exact ⟨_, rfl, Except.ok.inj hrest⟩

theorem alerts_congr {b mid : Books} {rs : List Reading}
    (h : ∀ r ∈ rs, mid.snapshots.get? (r.place org) = b.snapshots.get? (r.place org)) :
    alerts org mid rs = alerts org b rs ∧ (NewTaken org mid rs ↔ NewTaken org b rs) := by
  refine ⟨List.filterMap_congr fun r hr => ?_, forall₂_congr fun r hr => ?_⟩
  · unfold alert?
    rw [h r hr]
  · rw [h r hr]

/-- **The readings of a run**, of distinct parameters, are kept where the new ones can be stored
and the alerts of the others are taken one after the other. -/
theorem exists_foldlM_keep {rs : List Reading} :
    ∀ {b : Books} {rows : Notifications}, (rs.map (·.place org)).Nodup →
      ((∃ b', rs.foldlM (keep tenant org) b = .ok b' ∧ b'.notifications = rows) ↔
        NewTaken org b rs ∧ notifyAll tenant b.notifications (alerts org b rs) = .ok rows) := by
  induction rs with
  | nil =>
    intro b rows _
    constructor
    · rintro ⟨b', h, rfl⟩
      exact ⟨fun r hr => absurd hr List.not_mem_nil, Except.ok.inj h ▸ rfl⟩
    · exact fun h => ⟨b, rfl, Except.ok.inj h.2⟩
  | cons r rs ih =>
    intro b rows hnodup
    rw [List.map_cons, List.nodup_cons] at hnodup
    -- a reading leaves the snapshots that the others are compared with
    have hrest : ∀ {mid}, keep tenant org b r = .ok mid →
        alerts org mid rs = alerts org b rs ∧ (NewTaken org mid rs ↔ NewTaken org b rs) := by
      intro mid hmid
      refine alerts_congr fun q hq => (keep_eq_ok hmid).2.2 _ fun heq => hnodup.1 ?_
      exact List.mem_map.mpr ⟨q, hq, heq.symm⟩
    have hnew : NewTaken org b (r :: rs) ↔
        (b.snapshots.get? (r.place org) = none → r.takes = true) ∧ NewTaken org b rs :=
      List.forall_mem_cons
    have halerts : alerts org b (r :: rs) = (alert? org b r).toList ++ alerts org b rs := by
      unfold alerts
      rw [List.filterMap_cons]
      cases alert? org b r <;> rfl
    rw [List.foldlM_cons, hnew, halerts, notifyAll_append_eq_ok]
    constructor
    · rintro ⟨b', h, hrows⟩
      obtain ⟨mid, hmid, hrs⟩ := bind_eq_ok.mp h
      obtain ⟨htakes, hfirst, -⟩ := keep_eq_ok hmid
      obtain ⟨hsame, hiff⟩ := hrest hmid
      obtain ⟨htaken, hns⟩ := (ih hnodup.2).mp ⟨b', hrs, hrows⟩
      exact ⟨⟨htakes, hiff.mp htaken⟩, mid.notifications, hfirst, hsame ▸ hns⟩
    · rintro ⟨⟨htakes, htaken⟩, notifications, hfirst, hns⟩
      obtain ⟨mid, hmid, rfl⟩ := exists_keep htakes hfirst
      obtain ⟨hsame, hiff⟩ := hrest hmid
      obtain ⟨b', hrs, hrows⟩ := (ih hnodup.2).mpr ⟨hiff.mpr htaken, hsame.symm ▸ hns⟩
      exact ⟨b', bind_eq_ok.mpr ⟨mid, hmid, hrs⟩, hrows⟩

/-! ## Keys -/

theorem connectorType_key {conn : ConnectorType} (h : conn ∈ registry) :
    conn.key.length ≤ 12 ∧ ':' ∉ conn.key := by
  have hall : registry.all fun c => c.key.length ≤ 12 && decide (':' ∉ c.key) := by decide
  simpa using List.all_eq_true.mp hall conn h

theorem mem_readings {outcome : Text → Connection} {r : Reading} (h : r ∈ readings outcome) :
    r.conn ∈ registry := by
  obtain ⟨conn, hconn, hr⟩ := List.mem_flatMap.mp h
  unfold Connection.readings at hr
  split at hr
  · obtain ⟨p, -, rfl⟩ := List.mem_map.mp hr
    exact hconn
  · exact absurd hr List.not_mem_nil

theorem place_of_mem_readings {conn : ConnectorType} {c : Connection} {r : Reading}
    (h : r ∈ c.readings conn) : r.conn = conn := by
  unfold Connection.readings at h
  split at h
  · obtain ⟨p, -, rfl⟩ := List.mem_map.mp h
    rfl
  · exact absurd h List.not_mem_nil

theorem nodup_places (org : Nat) (outcome : Text → Connection) :
    ((readings outcome).map (·.place org)).Nodup := by
  have hkeys : (registry.map ConnectorType.key).Nodup := by decide
  rw [readings, List.map_flatMap, List.nodup_flatMap]
  refine ⟨fun conn _ => ?_, (List.pairwise_map.mp hkeys).imp fun {c d} hne => ?_⟩
  · cases outcome conn.key with
    | returned caps =>
      show (List.map _ (List.map _ caps.items)).Nodup
      rw [List.map_map]
      refine List.Nodup.map_on (fun p hp q hq heq => ?_) (List.Nodup.of_map _ caps.nodup)
      exact List.inj_on_of_nodup_map caps.nodup hp hq (congrArg (fun place => place.2.2) heq)
    | _ => exact List.nodup_nil
  · show List.Disjoint _ _
    rw [List.disjoint_left]
    intro place hc hd
    obtain ⟨r, hr, rfl⟩ := List.mem_map.mp hc
    obtain ⟨q, hq, hplace⟩ := List.mem_map.mp hd
    refine hne ?_
    rw [← place_of_mem_readings hr, ← place_of_mem_readings hq]
    exact (congrArg (fun place => place.2.1) hplace).symm

theorem eq_of_text {a b : ParameterName} (h : a.text = b.text) : a = b := by
  cases a
  cases b
  cases h
  rfl

theorem place_of_heldKey {r q : Reading} {snap snap' : Snapshot} (hr : r.conn ∈ registry)
    (hq : q.conn ∈ registry)
    (h : (driftNotice org r snap).heldKey = (driftNotice org q snap').heldKey) :
    r.place org = q.place org := by
  obtain ⟨hrlen, hrplain⟩ := connectorType_key hr
  obtain ⟨hqlen, hqplain⟩ := connectorType_key hq
  obtain ⟨-, hrest⟩ := take_append_separator_inj (x := ':') (a := "drift".toList)
    (b := "drift".toList) (n := 200) (by decide) (by decide) (by decide) (by decide)
    (p := r.conn.key ++ ':' :: r.name.text ++ ':' :: r.cap.value)
    (q := q.conn.key ++ ':' :: q.name.text ++ ':' :: q.cap.value) (by
      simpa [Notice.heldKey, driftNotice] using h)
  rw [List.append_assoc, List.append_assoc, List.cons_append, List.cons_append] at hrest
  obtain ⟨hkey, hname⟩ :=
    take_append_separator_inj hrplain hqplain (by simp; omega) (by simp; omega) hrest
  obtain ⟨hname, -⟩ := take_append_separator_inj r.name.plain q.name.plain
    (by have := r.name.short; simp; omega) (by have := q.name.short; simp; omega) hname
  unfold Reading.place
  rw [hkey, eq_of_text hname]

theorem nodup_heldKey_alerts (b : Books) (outcome : Text → Connection) :
    ((alerts org b (readings outcome)).map Notice.heldKey).Nodup := by
  refine List.pairwise_map.mpr (List.pairwise_filterMap.mpr ?_)
  refine (List.pairwise_map.mp (nodup_places org outcome)).imp_of_mem ?_
  intro r q hr hq hne n hn m hm heq
  obtain ⟨snap, -, -, rfl⟩ := alert?_eq_some.mp hn
  obtain ⟨snap', -, -, rfl⟩ := alert?_eq_some.mp hm
  exact hne (place_of_heldKey (mem_readings hr) (mem_readings hq) heq)

/-! ## Histories -/

/-- A run for an organization, with the tenant of the session set to it or not; or whatever else
changes the notifications: reading them, and the alerts of other code. -/
inductive Action
  | collect (org : Nat) (clamped : Bool) (outcome : Text → Connection)
  | elsewhere (rows : Notifications)

/-- The tenant of a session for an organization. -/
def sessionTenant (clamped : Bool) (org : Nat) : Option Nat := if clamped then some org else none

theorem serves_sessionTenant (clamped : Bool) (org : Nat) :
    Serves (sessionTenant clamped org) org := by
  cases clamped with
  | true => exact .inr rfl
  | false => exact .inl rfl

/-- A run that raises leaves everything as it was. -/
def step (b : Books) : Action → Option Books
  | .collect org clamped outcome =>
    match collectForOrg (sessionTenant clamped org) b org outcome with
    | .ok (b', _) => some b'
    | .error _ => some b
  | .elsewhere rows => some { b with notifications := rows }

/-- A value has drifted: it is read, and differs from the snapshot of it. -/
def Drift (org : Nat) (b : Books) (outcome : Text → Connection) (r : Reading)
    (snap : Snapshot) : Prop :=
  r ∈ readings outcome ∧ b.snapshots.get? (r.place org) = some snap ∧ snap.value ≠ r.cap.value

def Unread (readAt : Option Int) : Prop := readAt = none

/-- **What is asked of a run in which a value has drifted**: it returns, an unread alert of the
organization names the old and the new value of each, and the notifications of others are as
they were. -/
def Reported (b : Books) : Action → Prop
  | .collect org clamped outcome =>
    (∃ r snap, Drift org b outcome r snap) →
      ∃ b' report, collectForOrg (sessionTenant clamped org) b org outcome = .ok (b', report) ∧
        (∀ r snap, Drift org b outcome r snap →
          Shown Unread org b'.notifications (driftNotice org r snap)) ∧
        ForeignKept org b.notifications b'.notifications
  | .elsewhere _ => True

/-- **When it is met**: every credential can be read, what is new and every alert can be stored,
and an alert that holds the key of a drift is the organization's own, and unread. -/
def Meets (b : Books) : Action → Prop
  | .collect org _ outcome =>
    (∃ r snap, Drift org b outcome r snap) →
      Readable registry outcome ∧ NewTaken org b (readings outcome) ∧
        ∀ r snap, Drift org b outcome r snap →
          Free Unread org b.notifications (driftNotice org r snap)
  | .elsewhere _ => True

theorem forall_alerts {b : Books} {outcome : Text → Connection} {P : Notice → Prop} :
    (∀ n ∈ alerts org b (readings outcome), P n) ↔
      ∀ r snap, Drift org b outcome r snap → P (driftNotice org r snap) := by
  constructor
  · intro h r snap hdrift
    exact h _ (List.mem_filterMap.mpr ⟨r, hdrift.1, alert?_eq_some.mpr
      ⟨snap, hdrift.2.1, hdrift.2.2, rfl⟩⟩)
  · intro h n hn
    obtain ⟨r, hr, halert⟩ := List.mem_filterMap.mp hn
    obtain ⟨snap, hsnap, hne, rfl⟩ := alert?_eq_some.mp halert
    exact h r snap ⟨hr, hsnap, hne⟩

theorem orgId_of_mem_alerts {b : Books} {rs : List Reading} :
    ∀ n ∈ alerts org b rs, n.orgId = some org := by
  intro n hn
  obtain ⟨r, -, halert⟩ := List.mem_filterMap.mp hn
  obtain ⟨snap, -, -, rfl⟩ := alert?_eq_some.mp halert
  rfl

theorem reported_iff (b : Books) (a : Action) : Reported b a ↔ Meets b a := by
  cases a with
  | elsewhere rows => exact Iff.rfl
  | collect org clamped outcome =>
    refine imp_congr_right fun _ => ?_
    have hserves := serves_sessionTenant clamped org
    have horg : ∀ n ∈ alerts org b (readings outcome), n.orgId = some org := orgId_of_mem_alerts
    have hkeys : ((alerts org b (readings outcome)).map Notice.heldKey).Nodup :=
      nodup_heldKey_alerts b outcome
    have hnotices : (∃ rows, notifyAll (sessionTenant clamped org) b.notifications
        (alerts org b (readings outcome)) = .ok rows ∧
          ∀ n ∈ alerts org b (readings outcome), Shown Unread org rows n) ↔
        ∀ n ∈ alerts org b (readings outcome), Free Unread org b.notifications n :=
      notifyAll_iff (show Unread none from rfl) hserves horg hkeys
    rw [← forall_alerts (P := Free Unread org b.notifications), ← hnotices]
    constructor
    · rintro ⟨b', report, hrun, hshown, -⟩
      obtain ⟨hreadable, hkeep⟩ := exists_collectForOrg.mp ⟨report, hrun⟩
      obtain ⟨hnew, hall⟩ := (exists_foldlM_keep (nodup_places org outcome)).mp ⟨b', hkeep, rfl⟩
      exact ⟨hreadable, hnew, b'.notifications, hall, forall_alerts.mpr hshown⟩
    · rintro ⟨hreadable, hnew, rows, hall, hshown⟩
      obtain ⟨b', hkeep, rfl⟩ := (exists_foldlM_keep (nodup_places org outcome)).mpr ⟨hnew, hall⟩
      obtain ⟨report, hrun⟩ := exists_collectForOrg.mpr ⟨hreadable, hkeep⟩
      have hfree := hnotices.mp ⟨b'.notifications, hall, hshown⟩
      exact ⟨b', report, hrun, forall_alerts.mp hshown,
        foreignKept_notifyAll horg hkeys hfree hall⟩

/-- **When drift is reported throughout a history.** -/
theorem drift_reported_iff (b : Books) (history : List Action) :
    Guarded step Reported b history ↔ Guarded step Meets b history :=
  guarded_congr reported_iff

/-! ## Two tenants of one provider -/

theorem inactivityPeriod_short : "inactivity_period".toList.length ≤ 64 := by decide

theorem inactivityPeriod_plain : ':' ∉ "inactivity_period".toList := by decide

def inactivityPeriod : ParameterName where
  text := "inactivity_period".toList
  short := inactivityPeriod_short
  plain := inactivityPeriod_plain

/-- Graph returns a value, and no other connector has a credential. -/
def graphReturns (value : String) (key : Text) : Connection :=
  if key = "msgraph".toList then
    .returned (.ofPairs
      [(inactivityPeriod, { value := value.toList, nistId := some "3.1.10".toList })])
  else .unbound

def noBooks : Books where
  snapshots := .empty
  nextSnapshot := 1
  notifications := .empty

/-- Both tenants go from one value to the other: the run of the second raises. -/
theorem sameValue_not_reported :
    ¬Guarded step Reported noBooks
      [.collect 1 true (graphReturns "15 minutes"),
        .collect 2 true (graphReturns "15 minutes"),
        .collect 1 true (graphReturns "5 minutes"),
        .collect 2 true (graphReturns "5 minutes")] := by
  intro h
  have hlast := ((((h.2 _ rfl).2 _ rfl).2 _ rfl)).1
  obtain ⟨b', report, hrun, -⟩ := hlast ⟨_, _, List.mem_cons_self, rfl, by decide⟩
  have hok : (collectForOrg _ _ _ _).isOk = true := (congrArg Except.isOk hrun).trans rfl
  exact absurd hok (by decide +kernel)

end Concord.Collection
