import Concord.Integrations.Targets

/-!
# One POA&M, one ticket

`push_poam` of `src/ccf/integrations/service.py` under the route `push_poam_to_tracker` of
`src/ccf/api/routes/poams.py`, for one POA&M and one provider: the pushes of it, interleaved.
A push flushes the link in its session. The route returns without a commit, and `get_session`
(`src/ccf/api/deps.py`) closes the session, so the link is rolled back.

`oneTicket_iff`: the ticket is one, and the link as it should be, exactly in the runs in which
there was nothing to store.
-/

namespace Concord.Integrations

open Concord.Base Concord.Python

/-- The link of the POA&M to the provider. -/
structure ExternalIssueLink where
  externalId : Text
  externalUrl : Text
  lastPushedAt : Option Int
  lastStatus : Text
  lastError : Option Text
  deriving DecidableEq

def statusOk : Text := "ok".toList

def statusFailed : Text := "failed".toList

def ExternalIssueLink.identity (l : ExternalIssueLink) : Text × Text :=
  (l.externalId, l.externalUrl)

inductive Response where
  | ok (r : PushResult)
  /-- An `HTTPException`. -/
  | error (code : ℕ) (detail : Text)
  /-- Any other exception. -/
  | serverError
  deriving DecidableEq

/-- How the route answers what `push_poam` has raised. -/
def Response.ofError : IntegrationError → Response
  | .refused message => .error 502 message
  | .unavailable message => .error 504 message

/-- A push, with the link it has found. -/
inductive Stage where
  | begun
  | linked (link : Option ExternalIssueLink)
  | answered (link : Option ExternalIssueLink) (o : Outcome)
  /-- The route has returned; the row is flushed, if there is one. -/
  | returned (r : Response) (row : Option ExternalIssueLink)
  | closed
  deriving DecidableEq

def Stage.holdsRow : Stage → Bool
  | .returned _ row => row.isSome
  | _ => false

/-- The end of `push_poam`: the response, and the row as it is flushed. -/
def finish (link : Option ExternalIssueLink) (now : Int) :
    Outcome → Response × Option ExternalIssueLink
  | .ok r => (.ok r, some ⟨r.externalId, r.url, some now, statusOk, none⟩)
  | .failed e =>
    (Response.ofError e, link.map fun l =>
      { l with lastStatus := statusFailed, lastError := some e.message, lastPushedAt := some now })
  | .raised => (.serverError, none)

/-- What happened, in its order. -/
inductive Event where
  | begun (i : ℕ)
  /-- The tracker was called: to update that ticket, or to create one. -/
  | called (i : ℕ) (ticket : Option Text) (o : Outcome)
  /-- The link that is stored, before and after the end of the push. -/
  | ended (i : ℕ) (before : Option ExternalIssueLink) (r : Response)
    (after : Option ExternalIssueLink)
  deriving DecidableEq

/-- The link that is committed, the pushes by their numbers, and what happened. -/
structure State where
  link : Option ExternalIssueLink
  pushes : List Stage
  history : List Event

def State.init (link : Option ExternalIssueLink) : State := ⟨link, [], []⟩

inductive Action where
  | begin
  /-- No organisation, POA&M, credential or project: a 409 before the link is looked for. -/
  | notConfigured (i : ℕ) (message : Text)
  | findLink (i : ℕ)
  | call (i : ℕ) (a : Answer)
  | flush (i : ℕ) (now : Int)
  /-- The session is closed. -/
  | close (i : ℕ)
  /-- The process dies. -/
  | die (i : ℕ)

/-- `tracker.create`, or `tracker.update` of the ticket of the link. -/
def ask (w : Wording) (target : Target) (a : Answer) : Option ExternalIssueLink → Outcome
  | none => target.create w a
  | some l => target.update w l.externalId a

def setStage (m : State) (i : ℕ) (t : Stage) : State := { m with pushes := m.pushes.set i t }

def step (w : Wording) (target : Target) (m : State) : Action → Option State
  | .begin =>
    some { m with
      pushes := m.pushes ++ [.begun]
      history := m.history ++ [.begun m.pushes.length] }
  | .notConfigured i message =>
    match m.pushes[i]? with
    | some .begun => some (setStage m i (.returned (.error 409 message) none))
    | _ => none
  | .findLink i =>
    match m.pushes[i]? with
    | some .begun => some (setStage m i (.linked m.link))
    | _ => none
  | .call i a =>
    match m.pushes[i]? with
    | some (.linked link) =>
      let o := ask w target a link
      some { setStage m i (.answered link o) with
        history := m.history ++ [.called i (link.map (·.externalId)) o] }
    | _ => none
  | .flush i now =>
    match m.pushes[i]? with
    | some (.answered link o) =>
      let (r, row) := finish link now o
      -- it waits for the row
      if row.isSome && m.pushes.any Stage.holdsRow then none
      else some (setStage m i (.returned r row))
    | _ => none
  | .close i =>
    match m.pushes[i]? with
    | some (.returned r _) =>
      -- neither the route nor `get_session` commits
      some { setStage m i .closed with history := m.history ++ [.ended i m.link r m.link] }
    | _ => none
  | .die i => if i < m.pushes.length then some (setStage m i .closed) else none

/-! ## What a push is for -/

def Event.isCreated : Event → Bool
  | .called _ none (.ok _) => true
  | _ => false

def ExternalIssueLink.Records (l : ExternalIssueLink) (detail : Text) : Prop :=
  l.lastStatus = statusFailed ∧ l.lastError = some detail

/-- One ticket, and a link that says what the pushes have come to. -/
structure OneTicket (h : List Event) : Prop where
  created : h.countP Event.isCreated ≤ 1
  /-- After a success the link names the ticket. -/
  named : ∀ i before r after, .ended i before (.ok r) after ∈ h →
    ∃ link, after = some link ∧ link.externalId = r.externalId
  /-- Each later push updates it. -/
  updated : ∀ past i before r after future,
    h = past ++ .ended i before (.ok r) after :: future →
    ∀ j ticket o, .begun j ∈ future → .called j ticket o ∈ future → ticket = some r.externalId
  /-- A failure leaves the ticket of the link as it is, and is recorded. -/
  failed : ∀ i before e after, .ended i before (Response.ofError e) after ∈ h →
    after.map ExternalIssueLink.identity = before.map ExternalIssueLink.identity ∧
      ∀ link, after = some link → link.Records e.message

/-! ## When it holds -/

/-- A step after which there is nothing to store: no push ends that has created a ticket, and
none that was refused what the link does not record already; and no second ticket. -/
def Spared (w : Wording) (target : Target) (m : State) : Action → Prop
  | .call i a => m.pushes[i]? = some (.linked none) → (∃ r, target.create w a = .ok r) →
    ∀ e ∈ m.history, e.isCreated = false
  | .close i => ∀ r row, m.pushes[i]? = some (.returned r row) →
    ((∃ result, r = .ok result) → m.link ≠ none) ∧
      ∀ e, r = Response.ofError e → ∀ link, m.link = some link → link.Records e.message
  | _ => True

/-- The outcome is of a ticket that the link names, where there is one. -/
def OfTicket (link₀ : Option ExternalIssueLink) (r : Response) : Prop :=
  ∀ result, r = .ok result → ∀ l, link₀ = some l → result.externalId = l.externalId

def Stage.Sound (link₀ : Option ExternalIssueLink) : Stage → Prop
  | .begun | .closed => True
  | .linked link => link = link₀
  | .answered link o => link = link₀ ∧ ∀ result, o = .ok result → OfTicket link₀ (.ok result)
  | .returned r _ => OfTicket link₀ r

def Event.Sound (link₀ : Option ExternalIssueLink) : Event → Prop
  | .begun _ => True
  | .called _ ticket _ => ticket = link₀.map (·.externalId)
  | .ended _ before r after => before = link₀ ∧ after = link₀ ∧ OfTicket link₀ r

def Event.Settled (link₀ : Option ExternalIssueLink) : Event → Prop
  | .ended _ _ r _ =>
    ((∃ result, r = .ok result) → link₀ ≠ none) ∧
      ∀ e, r = Response.ofError e → ∀ link, link₀ = some link → link.Records e.message
  | _ => True

/-- The link stays what it was, whatever the pushes come to. -/
structure Unstored (link₀ : Option ExternalIssueLink) (m : State) : Prop where
  link : m.link = link₀
  pushes : ∀ t ∈ m.pushes, t.Sound link₀
  history : ∀ e ∈ m.history, e.Sound link₀

section Steps

variable {w : Wording} {target : Target} {link₀ : Option ExternalIssueLink} {m m' : State}

theorem Unstored.setStage (h : Unstored link₀ m) {i : ℕ} {t : Stage} (ht : t.Sound link₀) :
    Unstored link₀ (setStage m i t) where
  link := h.link
  pushes := by
    intro u hu
    obtain hu | rfl := List.mem_or_eq_of_mem_set hu
    · exact h.pushes u hu
    · exact ht
  history := h.history

theorem Unstored.append (h : Unstored link₀ m) {e : Event} (he : e.Sound link₀) :
    Unstored link₀ { m with history := m.history ++ [e] } where
  link := h.link
  pushes := h.pushes
  history := by
    intro f hf
    obtain hf | hf := List.mem_append.mp hf
    · exact h.history f hf
    · exact List.mem_singleton.mp hf ▸ he

theorem stageSound (h : Unstored link₀ m) {i : ℕ} {t : Stage} (ht : m.pushes[i]? = some t) :
    t.Sound link₀ :=
  h.pushes t (List.mem_of_getElem? ht)

theorem sound_of_ask (a : Answer) : (Stage.answered link₀ (ask w target a link₀)).Sound link₀ := by
  refine ⟨rfl, ?_⟩
  rintro result hresult r hr l rfl
  obtain rfl := Response.ok.inj hr
  exact Target.externalId_of_update hresult

theorem sound_of_finish {link : Option ExternalIssueLink} {o : Outcome} {now : Int}
    (h : (Stage.answered link o).Sound link₀) :
    OfTicket link₀ (finish link now o).1 := by
  cases o with
  | ok r => exact h.2 r rfl
  | failed e =>
    intro result hresult
    cases e <;> cases hresult
  | raised =>
    intro result hresult
    cases hresult

/-- What a step does to the pushes and to what has happened. -/
inductive Moved (w : Wording) (target : Target) (m : State) : Action → State → Prop
  | begun : Moved w target m .begin
      { m with
        pushes := m.pushes ++ [.begun]
        history := m.history ++ [.begun m.pushes.length] }
  | called (i : ℕ) (a : Answer) (link : Option ExternalIssueLink)
      (stage : m.pushes[i]? = some (.linked link)) : Moved w target m (.call i a)
      { setStage m i (.answered link (ask w target a link)) with
        history := m.history ++ [.called i (link.map (·.externalId)) (ask w target a link)] }
  | closed (i : ℕ) (r : Response) (row : Option ExternalIssueLink)
      (stage : m.pushes[i]? = some (.returned r row)) : Moved w target m (.close i)
      { setStage m i .closed with
        history := m.history ++ [.ended i m.link r m.link] }
  /-- One push goes on, and nothing is noted. -/
  | quiet (a : Action) (i : ℕ) (t : Stage) (spared : Spared w target m a)
      (sound : ∀ link₀, Unstored link₀ m → t.Sound link₀) :
      Moved w target m a (setStage m i t)

theorem moved_of_step {a : Action} (hstep : step w target m a = some m') :
    Moved w target m a m' := by
  cases a with
  | begin =>
    obtain rfl := Option.some.inj hstep
    exact .begun
  | notConfigured i message =>
    simp only [Integrations.step] at hstep
    split at hstep
    · obtain rfl := Option.some.inj hstep
      exact .quiet _ i _ trivial fun _ _ _ hresult => by cases hresult
    · cases hstep
  | findLink i =>
    simp only [Integrations.step] at hstep
    split at hstep
    · obtain rfl := Option.some.inj hstep
      exact .quiet _ i _ trivial fun _ h => h.link
    · cases hstep
  | call i a =>
    simp only [Integrations.step] at hstep
    split at hstep
    · rename_i link hstage
      obtain rfl := Option.some.inj hstep
      exact .called i a link hstage
    · cases hstep
  | flush i now =>
    simp only [Integrations.step] at hstep
    split at hstep
    · rename_i link o hstage
      split at hstep
      · cases hstep
      · obtain rfl := Option.some.inj hstep
        exact .quiet _ i _ trivial fun _ h => sound_of_finish (stageSound h hstage)
    · cases hstep
  | close i =>
    simp only [Integrations.step] at hstep
    split at hstep
    · rename_i r row hstage
      obtain rfl := Option.some.inj hstep
      exact .closed i r row hstage
    · cases hstep
  | die i =>
    simp only [Integrations.step] at hstep
    split at hstep
    · obtain rfl := Option.some.inj hstep
      exact .quiet _ i _ trivial fun _ _ => trivial
    · cases hstep

theorem Unstored.step (h : Unstored link₀ m) {a : Action} (hstep : step w target m a = some m') :
    Unstored link₀ m' := by
  cases moved_of_step hstep with
  | begun =>
    refine ⟨h.link, ?_, (h.append (e := .begun m.pushes.length) trivial).history⟩
    intro t ht
    obtain ht | ht := List.mem_append.mp ht
    · exact h.pushes t ht
    · obtain rfl := List.mem_singleton.mp ht
      trivial
  | called i a link hstage =>
    obtain rfl : link = link₀ := stageSound h hstage
    exact (h.setStage (sound_of_ask a)).append (e := .called i _ _) rfl
  | closed i r row hstage =>
    have hticket : OfTicket link₀ r := stageSound h hstage
    exact (h.setStage (t := .closed) trivial).append (e := .ended i m.link r m.link)
      ⟨h.link, h.link, hticket⟩
  | quiet _ i t _ hsound => exact h.setStage (hsound _ h)

theorem oneTicket_of_unstored (h : Unstored link₀ m) :
    OneTicket m.history ↔
      m.history.countP Event.isCreated ≤ 1 ∧ ∀ e ∈ m.history, e.Settled link₀ := by
  constructor
  · intro hone
    refine ⟨hone.created, fun e he => ?_⟩
    cases e with
    | begun i => trivial
    | called i ticket o => trivial
    | ended i before r after =>
      obtain ⟨rfl, rfl, -⟩ := h.history _ he
      constructor
      · rintro ⟨result, rfl⟩ hnone
        obtain ⟨link, hlink, -⟩ := hone.named i _ result _ he
        cases hnone.symm.trans hlink
      · rintro e rfl link hlink
        exact (hone.failed i _ e _ he).2 link hlink
  · rintro ⟨hcreated, hsettled⟩
    have hticket : ∀ i before r after, .ended i before (.ok r) after ∈ m.history →
        after = link₀ ∧ ∃ link, link₀ = some link ∧ link.externalId = r.externalId := by
      intro i before r after he
      obtain ⟨-, hafter, hof⟩ := h.history _ he
      obtain ⟨link, hlink⟩ := Option.ne_none_iff_exists'.mp ((hsettled _ he).1 ⟨r, rfl⟩)
      exact ⟨hafter, link, hlink, (hof r rfl link hlink).symm⟩
    refine ⟨hcreated, ?_, ?_, ?_⟩
    · intro i before r after he
      obtain ⟨rfl, hnames⟩ := hticket i before r after he
      exact hnames
    · intro past i before r after future hsplit j ticket o _ hcalled
      have hended : .ended i before (.ok r) after ∈ m.history := by
        rw [hsplit]
        exact List.mem_append_right _ List.mem_cons_self
      have hcall : .called j ticket o ∈ m.history := by
        rw [hsplit]
        exact List.mem_append_right _ (List.mem_cons_of_mem _ hcalled)
      obtain ⟨-, link, hlink, hid⟩ := hticket i before r after hended
      have hasked : ticket = link₀.map (·.externalId) := h.history _ hcall
      rw [hasked, hlink, Option.map_some, hid]
    · intro i before e after he
      obtain ⟨rfl, rfl, -⟩ := h.history _ he
      exact ⟨rfl, (hsettled _ he).2 e rfl⟩

theorem oneTicket_append (h : Unstored link₀ m) (h' : Unstored link₀ m') {e : Event}
    (hhistory : m'.history = m.history ++ [e]) (hone : OneTicket m.history) :
    OneTicket m'.history ↔
      (e.isCreated = true → ∀ f ∈ m.history, f.isCreated = false) ∧ e.Settled link₀ := by
  obtain ⟨hcreated, hsettled⟩ := (oneTicket_of_unstored h).mp hone
  have hnone : (∀ f ∈ m.history, f.isCreated = false) ↔ m.history.countP Event.isCreated = 0 := by
    rw [List.countP_eq_zero]
    simp
  rw [oneTicket_of_unstored h', hhistory, List.countP_append, List.countP_singleton, hnone]
  constructor
  · rintro ⟨hcount, hall⟩
    refine ⟨fun he => ?_, hall e (by simp)⟩
    rw [if_pos he] at hcount
    omega
  · rintro ⟨hcount, he⟩
    refine ⟨?_, fun f hf => ?_⟩
    · split
      · rename_i hcreate
        rw [hcount hcreate]
      · exact hcreated
    · obtain hf | hf := List.mem_append.mp hf
      · exact hsettled f hf
      · exact List.mem_singleton.mp hf ▸ he

/-- **One step**: it keeps what the pushes are for exactly if it left nothing to store. -/
theorem spared_iff (h : Unstored link₀ m) (hone : OneTicket m.history) {a : Action}
    (hstep : step w target m a = some m') : Spared w target m a ↔ OneTicket m'.history := by
  have h' := h.step hstep
  cases moved_of_step hstep with
  | begun =>
    rw [oneTicket_append h h' rfl hone]
    exact ⟨fun _ => ⟨fun hcreated => absurd hcreated Bool.false_ne_true, trivial⟩, fun _ => trivial⟩
  | called i a link hstage =>
    rw [oneTicket_append h h' rfl hone]
    constructor
    · intro hspared
      refine ⟨fun hcreated => ?_, trivial⟩
      cases link with
      | none =>
        refine hspared hstage ?_
        cases ho : target.create w a with
        | ok r => exact ⟨r, rfl⟩
        | _ => simp [Event.isCreated, ask, ho] at hcreated
      | some l => exact absurd hcreated Bool.false_ne_true
    · rintro ⟨hcreated, -⟩ hlinked ⟨r, hr⟩
      obtain rfl : link = none := Stage.linked.inj (Option.some.inj (hstage.symm.trans hlinked))
      refine hcreated ?_
      simp [Event.isCreated, ask, hr]
  | closed i r row hstage =>
    rw [oneTicket_append h h' rfl hone]
    constructor
    · intro hspared
      have hr := hspared r row hstage
      rw [h.link] at hr
      exact ⟨fun hcreated => absurd hcreated Bool.false_ne_true, hr⟩
    · rintro ⟨-, hsettled⟩ r' row' hstage'
      obtain ⟨rfl, -⟩ := Stage.returned.inj (Option.some.inj (hstage.symm.trans hstage'))
      rw [h.link]
      exact hsettled
  | quiet _ i t hspared _ => exact iff_of_true hspared hone

end Steps

/-- **One POA&M, one ticket**: exactly in the runs in which no push leaves anything to store. -/
theorem oneTicket_iff (w : Wording) (target : Target) (link : Option ExternalIssueLink)
    (as : List Action) :
    Guarded (step w target) (Spared w target) (State.init link) as ↔
      ∀ bs m, bs <+: as → exec (step w target) (State.init link) bs = some m →
        OneTicket m.history := by
  refine guarded_iff_invariant (I := Unstored link) (J := fun m => OneTicket m.history)
    (fun _ _ _ h => h.step) ?_ (fun _ _ _ h hone => spared_iff h hone) ?_ ?_
  · intro m a h hnone
    cases a with
    | call i a =>
      intro hstage _
      simp only [step, hstage] at hnone
      cases hnone
    | close i =>
      intro r row hstage
      simp only [step, hstage] at hnone
      cases hnone
    | _ => trivial
  · exact ⟨rfl, fun _ h => (nomatch h), fun _ h => (nomatch h)⟩
  · refine ⟨Nat.zero_le _, fun _ _ _ _ h => (nomatch h), ?_, fun _ _ _ _ h => (nomatch h)⟩
    intro past i before r after future h
    cases past <;> cases h

/-! ## Two pushes, two tickets -/

def wording : Wording where
  str := fun _ => []
  truthy := fun _ => true
  explain := fun _ _ => []

def site : Target := .jira ⟨"https://acme.atlassian.net".toList⟩

/-- A push that the tracker answers with a new ticket. -/
def filed (i : ℕ) (key : Text) : List Action :=
  [.begin, .findLink i, .call i (.response 201 (some (.obj [("key".toList, .str key)]))),
    .flush i 0, .close i]

/-- The second push of a POA&M finds no link, and files it again. -/
theorem filed_twice :
    ¬∀ (w : Wording) (target : Target) (link : Option ExternalIssueLink) (as : List Action)
      (m : State), exec (step w target) (State.init link) as = some m → OneTicket m.history := by
  intro h
  have hend : (exec (step wording site) (State.init none)
        (filed 0 "SEC-1".toList ++ filed 1 "SEC-2".toList)).map
        (fun m => m.history.countP Event.isCreated) = some 2 := by
    decide +kernel
  obtain ⟨m, hrun, hm⟩ := Option.map_eq_some_iff.mp hend
  have hcreated := (h wording site none _ m hrun).created
  omega

end Concord.Integrations
