import Concord.Poams.Closure

/-!
# Sign-offs

Where approvals are required, a POA&M is closed or its risk accepted after an approving
decision on it. There is one review per POA&M, an approved one is final, and nothing
takes it back: what was signed once may be reopened and closed again
(`sign_offs_stand`). A scan closes the POA&Ms of findings that are gone, and asks nobody.
-/

namespace Concord.Poams

open Concord.Python Concord.Base Concord.Governance Concord.Governance.Importer Concord.Ingest

/-- An approving decision on a POA&M, by someone who may take it. -/
def Approves (id : Nat) (u : Db) : Operation → Prop
  | .decide _ c entityType entityId who d =>
    entityType = "poam".toList ∧ entityId = natText id ∧ d.approve = true ∧
      MayDecide c (approvalOf u entityType entityId c.orgId) who
  | _ => False

def signedFor (status : PoamStatus) : Bool :=
  decide (status = .closed ∨ status = .riskAccepted)

def Enters (p q : Poam) : Prop := q.id = p.id ∧ q.status ≠ p.status ∧ signedFor q.status = true

def Operation.authEnabled : Operation → Bool
  | .create c _ | .patch c _ _ | .close c _ _ | .submit c _ _ _ | .decide _ c _ _ _ _ =>
    c.authEnabled
  | .importFile _ call => call.caller.authEnabled
  | .reconcile _ => true

def Operation.changesStatus : Operation → Bool
  | .patch _ _ _ | .close _ _ _ => true
  | _ => false

/-- **Sign-offs stand.** -/
structure SignOffsStand (db : Db) (ops : List Operation) : Prop where
  /-- a decision was taken before every transition -/
  signed : ∀ bs op cs u v, ops = bs ++ op :: cs → exec step db bs = some u →
    step u op = some v → op.changesStatus = true → ∀ p ∈ u.poams, ∀ q ∈ v.poams, Enters p q →
      ∃ as d ds w, bs = as ++ d :: ds ∧ exec step db as = some w ∧ Approves p.id w d
  /-- and is not spent by it -/
  stands : ∀ bs cs u v id, ops = bs ++ cs → exec step db bs = some u →
    poamApproved u id = true → exec step u cs = some v → poamApproved v id = true
  /-- a scan closes what is open, and accepts no risk -/
  scans : ∀ bs call cs u v, ops = bs ++ .reconcile call :: cs → exec step db bs = some u →
    step u (.reconcile call) = some v → ∀ p ∈ u.poams, ∀ q ∈ v.poams, Enters p q →
      p.active = true ∧ q.status = .closed

variable {u v : Db}

/-! ## Reviews over a run -/

theorem entityState_of_step {op : Operation} (h : step u op = some v) :
    (∀ t i, entityState v t i = entityState u t i) ∨
      (∃ c entityType entityId actor, op = .submit c entityType entityId actor) ∨
      ∃ parseInt c entityType entityId who d,
        op = .decide parseInt c entityType entityId who d := by
  cases op with
  | create c body =>
    obtain ⟨_, -, h⟩ := bind_eq_ok.mp (toOption_eq_some h)
    obtain rfl := Except.ok.inj h
    exact .inl fun t i => rfl
  | patch c pid body =>
    obtain rfl := updatePoam_eq_ok (toOption_eq_some h)
    exact .inl fun t i => rfl
  | close c pid today =>
    obtain rfl := closePoam_eq_ok (toOption_eq_some h)
    exact .inl fun t i => rfl
  | importFile committed call =>
    obtain ⟨⟨v', s⟩, hrows, rfl⟩ := Option.map_eq_some_iff.mp h
    obtain ⟨stored, added, -, -, rfl⟩ := importRows_eq_some hrows
    cases committed <;> exact .inl fun t i => rfl
  | reconcile call =>
    obtain rfl := Option.some.inj h
    exact .inl fun t i => rfl
  | submit c entityType entityId actor => exact .inr (.inl ⟨c, entityType, entityId, actor, rfl⟩)
  | decide parseInt c entityType entityId who d =>
    exact .inr (.inr ⟨parseInt, c, entityType, entityId, who, d, rfl⟩)

theorem approved_of_step {op : Operation} {t i : Text} (h : step u op = some v)
    (hu : entityState u t i = .approved) : entityState v t i = .approved := by
  rcases entityState_of_step h with hsame | ⟨c, entityType, entityId, actor, rfl⟩ |
    ⟨parseInt, c, entityType, entityId, who, d, rfl⟩
  · exact (hsame t i).trans hu
  · obtain ⟨hnot, -, hstate⟩ := submitReview_eq_ok (toOption_eq_some h)
    rw [hstate, if_neg]
    · exact hu
    · intro hkey
      obtain ⟨rfl, rfl⟩ := Prod.mk.inj hkey
      exact hnot hu
  · obtain ⟨hmay, -, hstate⟩ := decideReview_eq_ok (toOption_eq_some h)
    rw [hstate, if_neg]
    · exact hu
    · intro hkey
      obtain ⟨rfl, rfl⟩ := Prod.mk.inj hkey
      have hsubmitted := hmay.submitted
      rw [approvalOf_state, hu] at hsubmitted
      cases hsubmitted

theorem approves_of_step {op : Operation} {id : Nat} (h : step u op = some v)
    (hu : ¬poamApproved u id = true) (hv : poamApproved v id = true) : Approves id u op := by
  unfold poamApproved at hu hv
  rw [decide_eq_true_eq] at hu hv
  rcases entityState_of_step h with hsame | ⟨c, entityType, entityId, actor, rfl⟩ |
    ⟨parseInt, c, entityType, entityId, who, d, rfl⟩
  · exact absurd ((hsame _ _).symm.trans hv) hu
  · obtain ⟨-, -, hstate⟩ := submitReview_eq_ok (toOption_eq_some h)
    rw [hstate] at hv
    split at hv
    · cases hv
    · exact absurd hv hu
  · obtain ⟨hmay, -, hstate⟩ := decideReview_eq_ok (toOption_eq_some h)
    rw [hstate] at hv
    split at hv
    · rename_i hkey
      obtain ⟨rfl, rfl⟩ := Prod.mk.inj hkey
      refine ⟨rfl, rfl, ?_, hmay⟩
      unfold Decision.state at hv
      split at hv
      · assumption
      · cases hv
    · exact absurd hv hu

/-! ## What a transition needs -/

theorem poamApproved_of_closure {c : Caller} {p : Poam} (h : requireClosureGate c u p = .ok ())
    (hauth : c.authEnabled = true) : poamApproved u p.id = true := by
  rcases ite_eq_iff.mp h with ⟨-, h⟩ | ⟨-, h⟩
  · cases h
  rcases ite_eq_iff.mp h with ⟨-, h⟩ | ⟨happroved, -⟩
  · cases h
  simpa [hauth] using happroved

theorem poamApproved_of_acceptance {c : Caller} {ownerUserId : Option Nat}
    {dueOn : Option Int} {pid : Nat} {rationale : Option Text}
    (h : requireRiskAcceptedGate c u ownerUserId dueOn pid rationale = .ok ())
    (hauth : c.authEnabled = true) : poamApproved u pid = true := by
  rcases ite_eq_iff.mp h with ⟨-, h⟩ | ⟨-, h⟩
  · cases h
  rcases ite_eq_iff.mp h with ⟨-, h⟩ | ⟨-, h⟩
  · cases h
  rcases ite_eq_iff.mp h with ⟨-, h⟩ | ⟨happroved, -⟩
  · cases h
  simpa [hauth] using happroved

theorem poamApproved_of_patch {c : Caller} {p : Poam} {body : PoamUpdate}
    (h : admitUpdate c u p body = .ok ()) (hauth : c.authEnabled = true)
    (henters : Enters p (body.apply p)) : poamApproved u p.id = true := by
  obtain ⟨-, hne, hsigned⟩ := henters
  rw [PoamUpdate.apply_status] at hne hsigned
  cases hstatus : body.status with
  | none =>
    rw [hstatus] at hne
    exact absurd rfl hne
  | some s =>
    rw [hstatus, Option.getD_some] at hne hsigned
    rcases of_decide_eq_true hsigned with rfl | rfl
    · exact poamApproved_of_closure (admitUpdate_closed h hstatus) hauth
    · rcases ite_eq_iff.mp h with ⟨-, h⟩ | ⟨-, h⟩
      · cases h
      rw [if_neg (by rw [hstatus]; decide), if_pos ⟨hstatus, Ne.symm hne⟩] at h
      exact poamApproved_of_acceptance h hauth

theorem poamApproved_of_enters {op : Operation} (hids : (u.poams.map Poam.id).Nodup)
    (h : step u op = some v) (hchange : op.changesStatus = true)
    (hauth : op.authEnabled = true) {p q : Poam} (hp : p ∈ u.poams) (hq : q ∈ v.poams)
    (henters : Enters p q) : poamApproved u p.id = true := by
  have hsame : ∀ {r : Poam}, r ∈ u.poams → q.id = r.id → p = r := fun hr hid =>
    List.inj_on_of_nodup_map hids hp hr (henters.1.symm.trans hid)
  have hrow := rowFrom_of_step hids h q hq
  cases hrow with
  | kept op r hr => exact absurd (congrArg Poam.status (hsame hr rfl).symm) henters.2.1
  | created c body admitted => cases hchange
  | patched c body r found admitted =>
    obtain rfl := hsame (requirePoam_eq_ok found).1 rfl
    exact poamApproved_of_patch admitted hauth henters
  | closed c today r found admitted =>
    obtain rfl := hsame (requirePoam_eq_ok found).1 rfl
    exact poamApproved_of_closure admitted hauth
  | imported call r q hr accepted flushed => cases hchange
  | added call d q id hd accepted inserted fresh => cases hchange
  | scanned call r q hr became => cases hchange
  | found call f id fresh => cases hchange

theorem signedFor_of_active {s : PoamStatus} (h : s.active = true) : signedFor s = false := by
  cases s with
  | opened => rfl
  | inProgress => rfl
  | completed => cases h
  | riskAccepted => cases h
  | closed => cases h

theorem closed_of_scan {call : ScanCall} (hids : (u.poams.map Poam.id).Nodup)
    (h : step u (.reconcile call) = some v) {p q : Poam} (hp : p ∈ u.poams) (hq : q ∈ v.poams)
    (henters : Enters p q) : p.active = true ∧ q.status = .closed := by
  obtain ⟨hid, hne, hsigned⟩ := henters
  have hsame : ∀ {r : Poam}, r ∈ u.poams → q.id = r.id → p = r := fun hr hqr =>
    List.inj_on_of_nodup_map hids hp hr (hid.symm.trans hqr)
  have hrow := rowFrom_of_step hids h q hq
  cases hrow with
  | kept op r hr => exact absurd (congrArg Poam.status (hsame hr rfl).symm) hne
  | scanned call r q hr became =>
    obtain rfl := hsame hr became.sameOrigin.id
    cases became with
    | touched f mem named =>
      have hactive : (call.touch f p).status.active = true := touch_active f p
      exact absurd hsigned (by rw [signedFor_of_active hactive]; exact Bool.false_ne_true)
    | closed uid about named unseen active => exact ⟨active, rfl⟩
    | left same kept => exact absurd rfl hne
  | found call f id fresh => cases hsigned

/-- **A sign-off comes first, and stands.** -/
theorem sign_offs_stand {db : Db} (hids : (db.poams.map Poam.id).Nodup)
    (hnone : db.approvals = []) {ops : List Operation}
    (hauth : ∀ op ∈ ops, op.authEnabled = true) : SignOffsStand db ops := by
  have hrun : ∀ {bs : List Operation} {u : Db}, exec step db bs = some u →
      (u.poams.map Poam.id).Nodup := fun h => exec_invariant ids_of_step hids h
  constructor
  · rintro bs op cs u v rfl hbs hstep hchange p hp q hq henters
    have hop : op.authEnabled = true := hauth op (by simp)
    have happroved := poamApproved_of_enters (hrun hbs) hstep hchange hop hp hq henters
    have hfirst : ¬poamApproved db p.id = true := by
      unfold poamApproved entityState
      rw [hnone]
      simp
    obtain ⟨as, d, ds, w, x, heq, has, hd, hw, hx⟩ :=
      exec_turns (P := fun u => poamApproved u p.id = true) hbs hfirst happroved
    exact ⟨as, d, ds, w, heq, has, approves_of_step hd hw hx⟩
  · intro bs cs u v id _ _ happroved hcs
    unfold poamApproved at happroved ⊢
    rw [decide_eq_true_eq] at happroved ⊢
    exact exec_invariant (I := fun u => entityState u _ _ = .approved)
      (fun u op v hu h => approved_of_step h hu) happroved hcs
  · rintro bs call cs u v - hbs hstep p hp q hq henters
    exact closed_of_scan (hrun hbs) hstep hp hq henters

/-! ## Closed twice -/

/-- The POA&M leaves the statuses that are signed for, in the run of `ds` after `as`. -/
def LeavesSince (id : Nat) (db : Db) (as ds : List Operation) : Prop :=
  ∃ es o fs x y, ds = es ++ o :: fs ∧ exec step db (as ++ es) = some x ∧ step x o = some y ∧
    ∃ r ∈ x.poams, ∃ t ∈ y.poams, r.id = id ∧ t.id = id ∧ signedFor r.status = true ∧
      signedFor t.status = false

/-- Every transition has a decision since the POA&M last left. -/
def SignOffsSpent (db : Db) (ops : List Operation) : Prop :=
  ∀ bs op cs u v, ops = bs ++ op :: cs → exec step db bs = some u → step u op = some v →
    ∀ p ∈ u.poams, ∀ q ∈ v.poams, Enters p q →
      ∃ as d ds w, bs = as ++ d :: ds ∧ exec step db as = some w ∧ Approves p.id w d ∧
        ¬LeavesSince p.id db (as ++ [d]) ds

def workedPoam : Poam :=
  { openPoam with milestones := [⟨"Replace the cipher".toList, none, none, .completed, 0⟩] }

def signedClosure : List Operation :=
  [.submit ⟨none, true⟩ "poam".toList "1".toList (some "issm".toList),
    .decide (fun _ => .ok 0) ⟨none, true⟩ "poam".toList "1".toList
      ⟨some "ao".toList, some "authorizing_official".toList⟩ { approve := true },
    .close ⟨none, true⟩ 1 0]

theorem sign_offs_stand_closure : SignOffsStand (register [workedPoam]) signedClosure :=
  @sign_offs_stand (register [workedPoam]) (List.nodup_singleton _) rfl _ (by decide)

theorem exists_run {ops : List Operation} {p : Poam}
    (h : (exec step (register [workedPoam]) ops).map Db.poams = some [p]) :
    ∃ u, exec step (register [workedPoam]) ops = some u ∧ u.poams = [p] :=
  Option.map_eq_some_iff.mp h

/-- Reopened, it is closed again by the same sign-off. -/
theorem closed_twice_on_one_decision :
    ¬∀ (db : Db) (ops : List Operation), (db.poams.map Poam.id).Nodup → db.approvals = [] →
      (∀ op ∈ ops, op.authEnabled = true) → SignOffsSpent db ops := by
  intro h
  obtain ⟨x, hx, hxp⟩ := @exists_run signedClosure { workedPoam with
    status := .closed, closedOn := some 0 } (by decide +kernel)
  obtain ⟨u, hu, hup⟩ := @exists_run (signedClosure ++ [patchStatus .opened]) workedPoam
    (by decide +kernel)
  obtain ⟨v, hv, hvp⟩ := @exists_run (signedClosure ++ [patchStatus .opened] ++
    [.close ⟨none, true⟩ 1 1]) { workedPoam with status := .closed, closedOn := some 1 }
    (by decide +kernel)
  obtain ⟨u', hu', hclose⟩ := exec_append_eq_some.mp hv
  obtain rfl := Option.some.inj (hu.symm.trans hu')
  obtain ⟨v', hstep, hv'⟩ := exec_cons_eq_some.mp hclose
  obtain rfl := Option.some.inj hv'
  obtain ⟨x', hx', hpatch⟩ := exec_append_eq_some.mp hu
  obtain rfl := Option.some.inj (hx.symm.trans hx')
  obtain ⟨u', hreopen, hu'⟩ := exec_cons_eq_some.mp hpatch
  obtain rfl := Option.some.inj hu'
  obtain ⟨as, d, ds, w, heq, -, happroves, hkept⟩ :=
    h (register [workedPoam]) _ (List.nodup_singleton _) rfl (by decide) _ _ [] u' v' rfl hu hstep
      workedPoam (by rw [hup]; exact List.mem_cons_self)
      { workedPoam with status := .closed, closedOn := some 1 }
      (by rw [hvp]; exact List.mem_cons_self) ⟨rfl, by decide, rfl⟩
  -- the one decision comes before the first closure, which was left since
  match as, heq with
  | [], heq =>
    obtain ⟨rfl, -⟩ := List.cons.inj heq
    exact happroves
  | [first], heq =>
    obtain ⟨hfirst, heq⟩ := List.cons.inj heq
    obtain ⟨rfl, rfl⟩ := List.cons.inj heq
    rw [← hfirst] at hkept
    exact hkept ⟨[.close ⟨none, true⟩ 1 0], patchStatus .opened, [], x, u', rfl, hx, hreopen,
      { workedPoam with status := .closed, closedOn := some 0 },
      by rw [hxp]; exact List.mem_cons_self, workedPoam, by rw [hup]; exact List.mem_cons_self,
      rfl, rfl, rfl, rfl⟩
  | _ :: _ :: as, heq =>
    obtain ⟨-, heq⟩ := List.cons.inj heq
    obtain ⟨-, heq⟩ := List.cons.inj heq
    have hrest : [Operation.close ⟨none, true⟩ 1 0, patchStatus .opened] = as ++ d :: ds := heq
    have hd : d ∈ [Operation.close ⟨none, true⟩ 1 0, patchStatus .opened] := by
      rw [hrest]
      exact List.mem_append_right _ List.mem_cons_self
    rcases List.mem_cons.mp hd with rfl | hd
    · exact happroves
    · rw [List.mem_singleton] at hd
      rw [hd] at happroves
      exact happroves

end Concord.Poams
