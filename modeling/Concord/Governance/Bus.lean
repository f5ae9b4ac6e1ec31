import Concord.Base.Run
import Concord.Python.Columns
import Concord.Python.Dict

/-!
# Notifications of all tenants

`notify` of `ccf/governance/bus.py` with a dedupe key, as a session of one tenant, or of none,
sees it. `notifications.dedupe_key` is unique over all tenants, and the rows are kept by it here;
rows without a key play no part. Row level security hides the rows of other tenants, and not
their keys: a key that another tenant holds is refreshed by a session without a tenant, and
refuses the row of a session with one.

`notifyAll_iff` says when a series of notices is shown to the tenant it is for.
-/

namespace Concord.Bus

open Concord.Python

/-- A row of `notifications`, under its dedupe key. -/
structure Notification where
  organizationId : Option Nat
  severity : Text
  category : Text
  title : Text
  body : Option Text
  entityType : Option Text
  entityId : Option Text
  readAt : Option Int
  deriving DecidableEq

abbrev Notifications := Dict Text Notification

/-- The arguments of `notify`. -/
structure Notice where
  category : Text
  title : Text
  orgId : Option Nat
  severity : Text
  body : Option Text := none
  entityType : Option Text
  entityId : Option Text := none
  dedupeKey : Text
  deriving DecidableEq

/-- The rows a session sees: `ccf.current_tenant()` is unset, or the row's organization. -/
def sees (tenant : Option Nat) (n : Notification) : Bool :=
  match tenant with
  | none => true
  | some org => n.organizationId = some org

def Notice.takes (n : Notice) : Bool :=
  fits 200 n.dedupeKey && nulFree n.dedupeKey && nulFree n.title && n.body.all nulFree

/-- What the column holds of a key: blanks over its length are cut off. -/
def Notice.heldKey (n : Notice) : Text := n.dedupeKey.take 200

def Notice.row (n : Notice) : Notification where
  organizationId := n.orgId
  severity := n.severity
  category := n.category
  title := n.title.take 512
  body := n.body
  entityType := n.entityType
  entityId := n.entityId
  readAt := none

def Notification.refresh (r : Notification) (n : Notice) : Notification :=
  { r with title := n.title.take 512, severity := n.severity, body := n.body }

/-- `select(Notification).where(Notification.dedupe_key == dedupe_key)`: no row holds a key that
is longer than the column. -/
def existing (tenant : Option Nat) (rows : Notifications) (n : Notice) : Option Notification :=
  if n.dedupeKey.length ≤ 200 then (rows.get? n.dedupeKey).filter (sees tenant) else none

def insert (tenant : Option Nat) (rows : Notifications) (n : Notice) :
    Except Text Notifications :=
  if !n.takes then .error "DataError".toList
  else if !sees tenant n.row then .error "InsufficientPrivilegeError".toList
  else if (rows.get? n.heldKey).isSome then
    .error "IntegrityError: notifications.dedupe_key".toList
  else .ok (rows.set n.heldKey n.row)

/-- `notify`. -/
def notify (tenant : Option Nat) (rows : Notifications) (n : Notice) :
    Except Text Notifications :=
  match existing tenant rows n with
  -- neither whose the row is nor when it was read is looked at
  | some r =>
    if n.takes then .ok (rows.set n.heldKey (r.refresh n)) else .error "DataError".toList
  | none => insert tenant rows n

def notifyAll (tenant : Option Nat) : Notifications → List Notice → Except Text Notifications
  | rows, [] => .ok rows
  | rows, n :: ns => (notify tenant rows n).bind fun rows => notifyAll tenant rows ns

/-! ## One notice -/

def Notification.says (r : Notification) (n : Notice) : Prop :=
  r.title = n.title.take 512 ∧ r.severity = n.severity ∧ r.body = n.body

/-- A session for a tenant: of the tenant itself, or of none. -/
def Serves (tenant : Option Nat) (org : Nat) : Prop := tenant = none ∨ tenant = some org

theorem sees_of_serves {tenant : Option Nat} {org : Nat} (h : Serves tenant org)
    {r : Notification} (hr : r.organizationId = some org) : sees tenant r = true := by
  rcases h with rfl | rfl
  · rfl
  · exact decide_eq_true hr

theorem Notice.heldKey_of_short {n : Notice} (h : n.dedupeKey.length ≤ 200) :
    n.heldKey = n.dedupeKey := List.take_of_length_le h

/-- What a notice leaves: the row of its key, refreshed or new, and the other rows. -/
inductive Notified (rows : Notifications) (n : Notice) (rows' : Notifications) : Prop
  | refreshed (r : Notification) (hrow : rows.get? n.heldKey = some r)
      (hshort : n.dedupeKey.length ≤ 200) (hrows : rows' = rows.set n.heldKey (r.refresh n))
  | created (hnone : rows.get? n.heldKey = none) (hrows : rows' = rows.set n.heldKey n.row)

theorem existing_eq_some {tenant : Option Nat} {rows : Notifications} {n : Notice}
    {r : Notification} : existing tenant rows n = some r ↔
      rows.get? n.heldKey = some r ∧ n.dedupeKey.length ≤ 200 ∧ sees tenant r = true := by
  unfold existing
  split
  case isTrue h =>
    rw [Option.filter_eq_some_iff, n.heldKey_of_short h]
    exact ⟨fun hr => ⟨hr.1, h, hr.2⟩, fun hr => ⟨hr.1, hr.2.2⟩⟩
  case isFalse h =>
    refine iff_of_false (fun hr => ?_) fun hr => h hr.2.1
    cases hr

theorem insert_eq_ok {tenant : Option Nat} {rows rows' : Notifications} {n : Notice} :
    insert tenant rows n = .ok rows' ↔ n.takes = true ∧ sees tenant n.row = true ∧
      rows.get? n.heldKey = none ∧ rows' = rows.set n.heldKey n.row := by
  unfold insert
  cases n.takes with
  | false => exact iff_of_false nofun fun h => nomatch h.1
  | true =>
    cases sees tenant n.row with
    | false => exact iff_of_false nofun fun h => nomatch h.2.1
    | true =>
      cases rows.get? n.heldKey with
      | some r => exact iff_of_false nofun fun h => nomatch h.2.2.1
      | none => exact ⟨fun h => ⟨rfl, rfl, rfl, (Except.ok.inj h).symm⟩, fun h => h.2.2.2 ▸ rfl⟩

theorem notified_of_notify {tenant : Option Nat} {rows rows' : Notifications} {n : Notice}
    (h : notify tenant rows n = .ok rows') : n.takes = true ∧ Notified rows n rows' := by
  unfold notify at h
  cases hrow : existing tenant rows n with
  | some r =>
    obtain ⟨hget, hshort, -⟩ := existing_eq_some.mp hrow
    rw [hrow] at h
    dsimp only at h
    split at h
    case isTrue htakes => exact ⟨htakes, .refreshed r hget hshort (Except.ok.inj h).symm⟩
    case isFalse => cases h
  | none =>
    rw [hrow] at h
    obtain ⟨htakes, -, hnone, hrows⟩ := insert_eq_ok.mp h
    exact ⟨htakes, .created hnone hrows⟩

section Notified

variable {rows rows' : Notifications} {n : Notice} {key : Text} {r : Notification}

theorem Notified.get?_ne (h : Notified rows n rows') (hkey : n.heldKey ≠ key) :
    rows'.get? key = rows.get? key := by
  cases h with
  | refreshed r hrow hshort hrows => rw [hrows, Dict.get?_set, if_neg hkey]
  | created hnone hrows => rw [hrows, Dict.get?_set, if_neg hkey]

theorem Notified.kept (h : Notified rows n rows') (hr : rows.get? key = some r) :
    ∃ r', rows'.get? key = some r' ∧ r'.organizationId = r.organizationId ∧
      r'.readAt = r.readAt := by
  by_cases hkey : n.heldKey = key
  · cases h with
    | refreshed q hrow hshort hrows =>
      rw [hkey, hr, Option.some.injEq] at hrow
      refine ⟨r.refresh n, ?_, rfl, rfl⟩
      rw [hrows, Dict.get?_set, if_pos hkey, hrow]
    | created hnone hrows =>
      rw [hkey, hr] at hnone
      cases hnone
  · exact ⟨r, (h.get?_ne hkey).trans hr, rfl, rfl⟩

end Notified

/-! ## A series of notices -/

theorem notifyAll_cons_eq_ok {tenant : Option Nat} {rows rows' : Notifications} {n : Notice}
    {ns : List Notice} : notifyAll tenant rows (n :: ns) = .ok rows' ↔
      ∃ mid, notify tenant rows n = .ok mid ∧ notifyAll tenant mid ns = .ok rows' :=
  Base.bind_eq_ok

theorem notifyAll_append_eq_ok {tenant : Option Nat} {ns ms : List Notice} :
    ∀ {rows rows' : Notifications}, notifyAll tenant rows (ns ++ ms) = .ok rows' ↔
      ∃ mid, notifyAll tenant rows ns = .ok mid ∧ notifyAll tenant mid ms = .ok rows' := by
  induction ns with
  | nil =>
    intro rows rows'
    constructor
    · exact fun h => ⟨rows, rfl, h⟩
    · rintro ⟨mid, hmid, h⟩
      rw [List.nil_append, Except.ok.inj hmid]
      exact h
  | cons n ns ih =>
    intro rows rows'
    rw [List.cons_append, notifyAll_cons_eq_ok]
    constructor
    · rintro ⟨first, hn, h⟩
      obtain ⟨mid, hns, hms⟩ := ih.mp h
      exact ⟨mid, notifyAll_cons_eq_ok.mpr ⟨first, hn, hns⟩, hms⟩
    · rintro ⟨mid, h, hms⟩
      obtain ⟨first, hn, hns⟩ := notifyAll_cons_eq_ok.mp h
      exact ⟨first, hn, ih.mpr ⟨mid, hns, hms⟩⟩

theorem get?_notifyAll_of_notMem {tenant : Option Nat} {ns : List Notice} :
    ∀ {rows rows' : Notifications}, notifyAll tenant rows ns = .ok rows' →
      ∀ {key : Text}, key ∉ ns.map Notice.heldKey → rows'.get? key = rows.get? key := by
  induction ns with
  | nil =>
    intro rows rows' h key _
    rw [Except.ok.inj h]
  | cons n ns ih =>
    intro rows rows' h key hkey
    rw [List.map_cons, List.mem_cons, not_or] at hkey
    obtain ⟨mid, hn, hns⟩ := notifyAll_cons_eq_ok.mp h
    rw [ih hns hkey.2]
    exact (notified_of_notify hn).2.get?_ne (Ne.symm hkey.1)

/-- The tenant has a row under the notice's key that says what the notice says, and whose reading
is as `live` asks. -/
def Shown (live : Option Int → Prop) (org : Nat) (rows : Notifications) (n : Notice) : Prop :=
  ∃ r, rows.get? n.heldKey = some r ∧ r.organizationId = some org ∧ live r.readAt ∧ r.says n

/-- The notice's texts can be stored, and whatever row holds its key is the tenant's, and `live`;
a key that is cut off is held by none. -/
def Free (live : Option Int → Prop) (org : Nat) (rows : Notifications) (n : Notice) : Prop :=
  n.takes = true ∧ ∀ r, rows.get? n.heldKey = some r →
    n.dedupeKey.length ≤ 200 ∧ r.organizationId = some org ∧ live r.readAt

variable {live : Option Int → Prop} {org : Nat} {tenant : Option Nat}

theorem notify_of_free (hlive : live none) (hserves : Serves tenant org) {rows : Notifications}
    {n : Notice} (horg : n.orgId = some org) (h : Free live org rows n) :
    ∃ rows', notify tenant rows n = .ok rows' ∧ Shown live org rows' n := by
  obtain ⟨htakes, hheld⟩ := h
  cases hrow : rows.get? n.heldKey with
  | some r =>
    obtain ⟨hshort, hr, hread⟩ := hheld r hrow
    have hfound : existing tenant rows n = some r :=
      existing_eq_some.mpr ⟨hrow, hshort, sees_of_serves hserves hr⟩
    refine ⟨rows.set n.heldKey (r.refresh n), ?_, r.refresh n, ?_, hr, hread, rfl, rfl, rfl⟩
    · unfold notify
      rw [hfound]
      exact if_pos htakes
    · rw [Dict.get?_set, if_pos rfl]
  | none =>
    have hfound : existing tenant rows n = none := by
      refine Option.eq_none_iff_forall_ne_some.mpr fun r hr => ?_
      rw [existing_eq_some, hrow] at hr
      exact nomatch hr.1
    refine ⟨rows.set n.heldKey n.row, ?_, n.row, ?_, horg, hlive, rfl, rfl, rfl⟩
    · unfold notify
      rw [hfound]
      exact insert_eq_ok.mpr ⟨htakes, sees_of_serves hserves horg, hrow, rfl⟩
    · rw [Dict.get?_set, if_pos rfl]

theorem free_of_shown {rows rows' : Notifications} {n : Notice}
    (h : notify tenant rows n = .ok rows') (hshown : Shown live org rows' n) :
    Free live org rows n := by
  obtain ⟨htakes, hnotified⟩ := notified_of_notify h
  refine ⟨htakes, fun r hr => ?_⟩
  obtain ⟨r', hr', horg', hread'⟩ := hnotified.kept hr
  obtain ⟨q, hq, hqorg, hqread, -⟩ := hshown
  obtain rfl := Option.some.inj (hr'.symm.trans hq)
  refine ⟨?_, horg' ▸ hqorg, hread' ▸ hqread⟩
  cases hnotified with
  | refreshed q hrow hshort hrows => exact hshort
  | created hnone hrows => exact nomatch hnone.symm.trans hr

/-- **When a series of notices is shown**: each has its row with the tenant, saying what it says,
if and only if each can be stored and no row of another tenant, or that is not `live`, holds its
key. -/
theorem notifyAll_iff (hlive : live none) (hserves : Serves tenant org) {ns : List Notice} :
    ∀ {rows : Notifications}, (∀ n ∈ ns, n.orgId = some org) → (ns.map Notice.heldKey).Nodup →
      ((∃ rows', notifyAll tenant rows ns = .ok rows' ∧ ∀ n ∈ ns, Shown live org rows' n) ↔
        ∀ n ∈ ns, Free live org rows n) := by
  induction ns with
  | nil =>
    intro rows _ _
    exact iff_of_true ⟨rows, rfl, nofun⟩ nofun
  | cons n ns ih =>
    intro rows horg hnodup
    rw [List.forall_mem_cons] at horg
    rw [List.map_cons, List.nodup_cons] at hnodup
    -- the other notices neither see nor touch the row of the first
    have hother : ∀ {mid}, notify tenant rows n = .ok mid →
        ((∀ m ∈ ns, Free live org mid m) ↔ ∀ m ∈ ns, Free live org rows m) := fun hn =>
      forall₂_congr fun m hm => by
        unfold Free
        rw [(notified_of_notify hn).2.get?_ne
          fun h => hnodup.1 (h ▸ List.mem_map_of_mem hm)]
    have hfirst : ∀ {mid rows'}, notifyAll tenant mid ns = .ok rows' →
        (Shown live org rows' n ↔ Shown live org mid n) := fun hns => by
      unfold Shown
      rw [get?_notifyAll_of_notMem hns hnodup.1]
    simp only [List.forall_mem_cons]
    constructor
    · rintro ⟨rows', h, hshown, hrest⟩
      obtain ⟨mid, hn, hns⟩ := notifyAll_cons_eq_ok.mp h
      exact ⟨free_of_shown hn ((hfirst hns).mp hshown),
        (hother hn).mp ((ih horg.2 hnodup.2).mp ⟨rows', hns, hrest⟩)⟩
    · rintro ⟨hfree, hfrees⟩
      obtain ⟨mid, hn, hshown⟩ := notify_of_free hlive hserves horg.1 hfree
      obtain ⟨rows', hns, hrest⟩ := (ih horg.2 hnodup.2).mpr ((hother hn).mpr hfrees)
      exact ⟨rows', notifyAll_cons_eq_ok.mpr ⟨mid, hn, hns⟩, (hfirst hns).mpr hshown, hrest⟩

/-- The rows of other tenants, and of none, are as they were. -/
def ForeignKept (org : Nat) (rows rows' : Notifications) : Prop :=
  ∀ key r, r.organizationId ≠ some org → (rows'.get? key = some r ↔ rows.get? key = some r)

theorem foreignKept_notify {rows rows' : Notifications} {n : Notice} (horg : n.orgId = some org)
    (hfree : Free live org rows n) (h : Notified rows n rows') : ForeignKept org rows rows' := by
  intro key r hr
  by_cases hkey : n.heldKey = key
  · -- the row of the key is the tenant's, before and after
    have hbefore : ∀ q, rows.get? key = some q → q.organizationId = some org := fun q hq =>
      (hfree.2 q (hkey ▸ hq)).2.1
    refine iff_of_false (fun hin => hr ?_) fun hin => hr (hbefore r hin)
    cases h with
    | refreshed q hrow hshort hrows =>
      rw [hrows, Dict.get?_set, if_pos hkey, Option.some.injEq] at hin
      rw [← hin]
      exact hbefore q (hkey ▸ hrow)
    | created hnone hrows =>
      rw [hrows, Dict.get?_set, if_pos hkey, Option.some.injEq] at hin
      rw [← hin]
      exact horg
  · rw [h.get?_ne hkey]

theorem foreignKept_notifyAll {ns : List Notice} :
    ∀ {rows rows' : Notifications}, (∀ n ∈ ns, n.orgId = some org) →
      (ns.map Notice.heldKey).Nodup → (∀ n ∈ ns, Free live org rows n) →
      notifyAll tenant rows ns = .ok rows' → ForeignKept org rows rows' := by
  induction ns with
  | nil =>
    intro rows rows' _ _ _ h key r _
    rw [Except.ok.inj h]
  | cons n ns ih =>
    intro rows rows' horg hnodup hfree h key r hr
    rw [List.forall_mem_cons] at horg hfree
    rw [List.map_cons, List.nodup_cons] at hnodup
    obtain ⟨mid, hn, hns⟩ := notifyAll_cons_eq_ok.mp h
    have hnotified := (notified_of_notify hn).2
    have hrest : ForeignKept org mid rows' := ih horg.2 hnodup.2 (fun m hm => by
      unfold Free
      rw [hnotified.get?_ne fun heq => hnodup.1 (heq ▸ List.mem_map_of_mem hm)]
      exact hfree.2 m hm) hns
    exact (hrest key r hr).trans (foreignKept_notify horg.1 hfree.1 hnotified key r hr)

end Concord.Bus
