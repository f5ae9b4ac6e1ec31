import Concord.Governance.Approvals

/-!
# Who approves what they submitted

The runs of `submit` and `decide` on one entity. A review cycle starts with the first
submission after a decision, and every later submission before the next decision belongs
to it. The row keeps one name, that of the last submission (`submitted_last`), and a
decision is compared with that one: someone whose submission was replaced by another's is
not compared with anybody (`separate_duties_iff`).
-/

namespace Concord.Governance

open Concord.Python Concord.Base

/-- A call on the entity, as its routes make it. -/
inductive ReviewCall where
  | submit (c : Caller) (actor : Option Text)
  | decide (parseInt : Text → Except Text Int) (c : Caller) (who : Principal) (d : Decision)

def ReviewCall.authEnabled : ReviewCall → Bool
  | .submit c _ | .decide _ c _ _ => c.authEnabled

section Cycle

variable (entityType entityId : Text)

/-- A call that is accepted, in its transaction. -/
def reviewStep (db : Db) : ReviewCall → Option Db
  | .submit c actor => (submitReview c db entityType entityId actor).toOption
  | .decide parseInt c who d =>
    (decideReview parseInt c db entityType entityId who d).toOption

def reviewOf (db : Db) : Approval := approvalOf db entityType entityId none

end Cycle

/-- Who submitted the entity in the cycle that is under way, oldest first. -/
def openSubmitters (a : Approval) : List (Option Text) :=
  if a.state = .submitted then [a.submittedBy] else []

def addSubmitter (names : List (Option Text)) : ReviewCall → List (Option Text)
  | .submit _ actor => names ++ [actor]
  | .decide _ _ _ _ => []

def cycleSubmitters (a : Approval) (calls : List ReviewCall) : List (Option Text) :=
  calls.foldl addSubmitter (openSubmitters a)

/-- **Separation of duties**: whoever is recorded as approving submitted nothing in the
cycle. -/
def SeparateDuties (entityType entityId : Text) (db : Db) (calls : List ReviewCall) : Prop :=
  ∀ bs call cs u v e, calls = bs ++ call :: cs →
    exec (reviewStep entityType entityId) db bs = some u →
    reviewStep entityType entityId u call = some v →
    (reviewOf entityType entityId v).state = .approved →
    (reviewOf entityType entityId v).reviewedBy = some e →
    some e ∉ cycleSubmitters (reviewOf entityType entityId db) bs

/-- Who approves and submitted, submitted last, and is someone the comparison sees. -/
def SubmittedLast (entityType entityId : Text) (db : Db) (calls : List ReviewCall) : Prop :=
  ∀ bs parseInt c who d cs e, calls = bs ++ .decide parseInt c who d :: cs →
    d.approve = true → who.email = some e →
    some e ∈ cycleSubmitters (reviewOf entityType entityId db) bs →
    c.authEnabled = true ∧ e ≠ [] ∧
      (cycleSubmitters (reviewOf entityType entityId db) bs).getLast? = some (some e)

section Step

variable {entityType entityId : Text} {db db' : Db} {c : Caller}

theorem approvalOf_submittedBy (orgId : Option Nat) :
    (approvalOf db entityType entityId orgId).submittedBy =
      (reviewOf entityType entityId db).submittedBy := by
  unfold reviewOf approvalOf
  cases db.approvals.find? fun a => a.entityType = entityType ∧ a.entityId = entityId <;> rfl

theorem reviewOf_upsert (a : Approval) (h : db'.approvals = upsert Approval.key a db.approvals)
    (hkey : a.key = (entityType, entityId)) : reviewOf entityType entityId db' = a := by
  have hk : (fun a : Approval => decide (a.entityType = entityType ∧ a.entityId = entityId)) =
      fun a => decide (a.key = (entityType, entityId)) :=
    funext fun a => by simp only [Approval.key, Prod.mk.injEq]
  unfold reviewOf approvalOf
  rw [h, hk, find_upsert, if_pos hkey, Option.getD_some]

theorem reviewOf_submit {actor : Option Text}
    (h : submitReview c db entityType entityId actor = .ok db') :
    reviewOf entityType entityId db' =
      (approvalOf db entityType entityId c.orgId).submit actor := by
  unfold submitReview at h
  dsimp only at h
  split at h
  · cases h
  · split at h
    · cases h
    · obtain rfl := Except.ok.inj h
      exact reviewOf_upsert _ rfl (@approvalOf_key db entityType entityId c.orgId)

theorem reviewOf_decide {parseInt : Text → Except Text Int} {who : Principal} {d : Decision}
    (h : decideReview parseInt c db entityType entityId who d = .ok db') :
    reviewOf entityType entityId db' =
      (approvalOf db entityType entityId c.orgId).decide who d := by
  obtain ⟨_, -, h⟩ := bind_eq_ok.mp h
  obtain rfl := Except.ok.inj h
  exact reviewOf_upsert _ rfl (@approvalOf_key db entityType entityId c.orgId)

theorem submitted_last {calls : List ReviewCall} {u : Db}
    (hrun : exec (reviewStep entityType entityId) db calls = some u)
    (hstate : (reviewOf entityType entityId u).state = .submitted) :
    (cycleSubmitters (reviewOf entityType entityId db) calls).getLast? =
      some (reviewOf entityType entityId u).submittedBy := by
  cases calls using List.reverseRecOn with
  | nil =>
    rw [exec_nil, Option.some.injEq] at hrun
    subst hrun
    show (openSubmitters _).getLast? = _
    rw [openSubmitters, if_pos hstate]
    rfl
  | append_singleton calls call =>
    obtain ⟨w, -, hrun⟩ := exec_append_eq_some.mp hrun
    obtain ⟨u', hcall, hrun⟩ := exec_cons_eq_some.mp hrun
    rw [exec_nil, Option.some.injEq] at hrun
    subst hrun
    unfold cycleSubmitters
    rw [List.foldl_append, List.foldl_cons, List.foldl_nil]
    cases call with
    | submit c actor =>
      rw [reviewOf_submit (toOption_eq_some hcall)]
      exact List.getLast?_concat
    | decide parseInt c who d =>
      -- a decision ends the cycle
      rw [reviewOf_decide (toOption_eq_some hcall)] at hstate
      have hd : d.state = .submitted := hstate
      unfold Decision.state at hd
      split at hd <;> cases hd

theorem approved_by {call : ReviewCall} {u v : Db} {e : Text}
    (hstep : reviewStep entityType entityId u call = some v)
    (hstate : (reviewOf entityType entityId v).state = .approved)
    (hby : (reviewOf entityType entityId v).reviewedBy = some e) :
    ∃ parseInt c who d, call = .decide parseInt c who d ∧ d.approve = true ∧
      who.email = some e ∧ MayDecide c (approvalOf u entityType entityId c.orgId) who := by
  cases call with
  | submit c actor =>
    rw [reviewOf_submit (toOption_eq_some hstep)] at hstate
    cases hstate
  | decide parseInt c who d =>
    have hok := toOption_eq_some hstep
    rw [reviewOf_decide hok] at hstate hby
    refine ⟨parseInt, c, who, d, rfl, ?_, hby, (decideReview_eq_ok hok).1⟩
    have hd : d.state = .approved := hstate
    unfold Decision.state at hd
    split at hd
    · assumption
    · cases hd

/-- **When duties are separate**: in the runs in which nobody approves whose submission
another one replaced in the cycle (and nobody who submitted approves unseen: without
authentication, or without a name). -/
theorem separate_duties_iff {calls : List ReviewCall} {w : Db}
    (hrun : exec (reviewStep entityType entityId) db calls = some w) :
    SeparateDuties entityType entityId db calls ↔
      SubmittedLast entityType entityId db calls := by
  constructor
  · intro h bs parseInt c who d cs e hcalls happrove hemail hmem
    subst hcalls
    obtain ⟨u, hu, hrest⟩ := exec_append_eq_some.mp hrun
    obtain ⟨v, hv, -⟩ := exec_cons_eq_some.mp hrest
    have hreview := reviewOf_decide (toOption_eq_some hv)
    have hstate : (reviewOf entityType entityId v).state = .approved := by
      rw [hreview]
      show d.state = .approved
      rw [Decision.state, if_pos happrove]
    have hby : (reviewOf entityType entityId v).reviewedBy = some e := by
      rw [hreview]
      exact hemail
    exact absurd hmem (h bs _ cs u v e rfl hu hv hstate hby)
  · intro h bs call cs u v e hcalls hu hv hstate hby hmem
    obtain ⟨parseInt, c, who, d, rfl, happrove, hemail, hmay⟩ := approved_by hv hstate hby
    obtain ⟨hauth, hne, hlast⟩ := h bs parseInt c who d cs e hcalls happrove hemail hmem
    have hsubmitted : (reviewOf entityType entityId u).state = .submitted := by
      have hs := hmay.submitted
      rw [approvalOf_state] at hs
      rw [reviewOf, approvalOf_state]
      exact hs
    -- the last submission is the one on the row, which the decision was compared with
    have hrow : (reviewOf entityType entityId u).submittedBy = some e :=
      (Option.some.inj ((submitted_last hu hsubmitted).symm.trans hlast))
    have hsame := hmay.separate hauth
    rw [approvalOf_submittedBy, hrow, hemail] at hsame
    obtain ⟨ch, rest, rfl⟩ := List.exists_cons_of_ne_nil hne
    simp [samePerson, orElse] at hsame

end Step

/-! ## One resubmission -/

def newDb : Db where
  inventory := noInventory
  tests := []
  waivers := []
  approvals := []
  poams := []
  tasks := []
  notifications := []
  results := []

def signedIn : Caller := ⟨some 1, true⟩

def ana : Text := "ana@example.org".toList

def ben : Text := "ben@example.org".toList

def anaApproves : ReviewCall :=
  .decide (fun _ => .error []) signedIn ⟨some ana, some "admin".toList⟩ ⟨true, none⟩

def replaced : List ReviewCall :=
  [.submit signedIn (some ana), .submit signedIn (some ben), anaApproves]

theorem replaced_approves :
    ¬∀ (entityType entityId : Text) (db w : Db) (calls : List ReviewCall),
      (∀ call ∈ calls, call.authEnabled = true) →
      exec (reviewStep entityType entityId) db calls = some w →
      SeparateDuties entityType entityId db calls := by
  intro h
  have hauth : ∀ call ∈ replaced, call.authEnabled = true := by decide
  have hrun : (exec (reviewStep "poam".toList "4".toList) newDb replaced).isSome = true := by
    decide +kernel
  obtain ⟨w, hw⟩ := Option.isSome_iff_exists.mp hrun
  obtain ⟨u, hu, hlast⟩ := exec_append_eq_some.mp
    (show exec (reviewStep "poam".toList "4".toList) newDb
      ([.submit signedIn (some ana), .submit signedIn (some ben)] ++ [anaApproves]) = some w
      from hw)
  obtain ⟨v, hv, hnil⟩ := exec_cons_eq_some.mp hlast
  obtain rfl := Option.some.inj hnil
  have hrow : ((exec (reviewStep "poam".toList "4".toList) newDb replaced).map fun w =>
      ((reviewOf "poam".toList "4".toList w).state,
        (reviewOf "poam".toList "4".toList w).reviewedBy)) = some (.approved, some ana) := by
    decide +kernel
  rw [hw, Option.map_some, Option.some.injEq, Prod.mk.injEq] at hrow
  exact h _ _ _ _ _ hauth hw _ _ [] u v ana rfl hu hv hrow.1 hrow.2 (by decide)

/-- Ana submits, and Ben approves. -/
theorem separate_duties_iff_ben :
    SeparateDuties "poam".toList "4".toList newDb
      [.submit signedIn (some ana),
        .decide (fun _ => .error []) signedIn ⟨some ben, some "admin".toList⟩ ⟨true, none⟩] := by
  have hrun : (exec (reviewStep "poam".toList "4".toList) newDb
      [.submit signedIn (some ana),
        .decide (fun _ => .error []) signedIn ⟨some ben, some "admin".toList⟩
          ⟨true, none⟩]).isSome = true := by
    decide +kernel
  obtain ⟨w, hw⟩ := Option.isSome_iff_exists.mp hrun
  refine (separate_duties_iff hw).mpr ?_
  intro bs parseInt c who d cs e hcalls happrove hemail hmem
  match bs, hcalls with
  | [], hcalls => cases hcalls
  | [_], hcalls =>
    simp only [List.cons_append, List.nil_append, List.cons.injEq, ReviewCall.decide.injEq]
      at hcalls
    obtain ⟨rfl, ⟨-, -, rfl, -⟩, -⟩ := hcalls
    obtain rfl := Option.some.inj hemail
    exact absurd hmem (by decide)
  | _ :: _ :: bs, hcalls =>
    have hlen := congrArg List.length hcalls
    simp at hlen

end Concord.Governance
