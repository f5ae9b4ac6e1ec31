import Concord.Packs.Sync

/-!
# Runs of polls

A registered source, polled and adopted from in any order, beside the contents whose
manifest was stored or installed and those whose last installation raised. Two things are
assumed of the contents a run serves (`Telling`): an ETag stands for one of them, and so
does a digest.
-/

namespace Concord.Packs

open Concord.Python Concord.Base

/-- A source, with the contents that were stored as pending or installed, and those
whose last attempt raised. -/
structure History where
  source : PackSource
  stored : List Bytes
  failed : List Bytes

inductive Action
  | poll (p : Poll)
  | adopt (install : Except Text Text)

variable (build : Build)

def step (w : History) : Action → Option History
  | .poll p =>
    match look build w.source p with
    | .reported s _ => some { w with source := s }
    | .changed s manifest digest canonical commit =>
      match applyManifest build s p manifest digest canonical commit with
      | .ok r => some
          { source := r.1
            stored := p.server.body :: w.stored
            failed := w.failed.filter fun b => b ≠ p.server.body }
      | .error e => some
          { source := (recordError s p.now .error e).1
            stored := w.stored
            failed := p.server.body :: w.failed }
  | .adopt install =>
    (adoptPending w.source install).toOption.map fun s => { w with source := s }

/-- A source as `register_source` leaves it. -/
def registered (id : Nat) (organizationId : Option Nat) (packKey url : Text)
    (autoInstall : Bool) : History where
  source :=
    { id := id, organizationId := organizationId, packKey := packKey, url := url,
      enabled := true, autoInstall := autoInstall, etag := none, lastSha256 := none,
      lastManifestSha := none, lastCommitSha := none, lastStatus := none, lastError := none,
      lastCheckedAt := none, consecutiveFailures := 0, pendingManifest := [],
      pendingSha256 := none, pendingManifestSha := none, pendingCommitSha := none }
  stored := []
  failed := []

/-- **A poll strands nothing**: if it reports `unchanged`, what the server serves has been
stored or installed, and its last attempt did not fail. -/
def NeverStranded (w : History) : Action → Prop
  | .poll p => (checkPackSource build w.source p).2.status = .unchanged →
      p.server.body ∈ w.stored ∧ p.server.body ∉ w.failed
  | .adopt _ => True

/-- The poll fetches: the source is due, its URL is accepted and the server answers. -/
structure Fetches (s : PackSource) (p : Poll) : Prop where
  due : ∀ dueAt, s.dueAt = some dueAt → dueAt ≤ p.now
  accepted : (build.validateUrl s.url).isOk = true
  answered : p.server.outage = none

/-- What the server serves is what the source recorded last, by its ETag or its
digest. -/
def Recognized (s : PackSource) (server : Server) : Prop :=
  (server.conditional = true ∧ (orElse s.etag none).isSome = true ∧ s.etag = server.etag) ∨
    s.lastSha256 = some (sha256Bytes server.body)

/-- A poll does not come upon a content whose last attempt failed, under the ETag or the
digest that was recorded then. -/
def Retries (w : History) : Action → Prop
  | .poll p => Fetches build w.source p → Recognized w.source p.server →
      p.server.body ∉ w.failed
  | .adopt _ => True

/-- Of the contents of a run, no two share an ETag or a digest. -/
structure Telling (polls : List Poll) : Prop where
  etags : ∀ p ∈ polls, ∀ q ∈ polls, ∀ t, t ≠ [] → p.server.etag = some t →
    q.server.etag = some t → p.server.body = q.server.body
  digests : ∀ p ∈ polls, ∀ q ∈ polls, sha256Bytes p.server.body = sha256Bytes q.server.body →
    p.server.body = q.server.body

/-! ## What a poll does -/

section Look

variable {build} {s : PackSource} {p : Poll}

/-- What an enabled source's poll may find: nothing to compare, or nothing of use; a
content recognized by its ETag, or by its digest; or a new manifest. -/
inductive Looked (build : Build) (s : PackSource) (p : Poll) : Look → Prop
  | quiet (s' : PackSource) (r : Report) (enabled : s'.enabled = s.enabled)
      (etag : s'.etag = s.etag) (sha : s'.lastSha256 = s.lastSha256)
      (status : r.status ≠ .unchanged)
      (unseen : Fetches build s p → ¬Recognized s p.server) : Looked build s p (.reported s' r)
  | notModified (s' : PackSource) (r : Report) (enabled : s'.enabled = s.enabled)
      (etag : s'.etag = s.etag) (sha : s'.lastSha256 = s.lastSha256)
      (status : r.status = .unchanged) (fetches : Fetches build s p)
      (known : Recognized s p.server) :
      Looked build s p (.reported s' r)
  | identical (s' : PackSource) (r : Report) (enabled : s'.enabled = s.enabled)
      (etag : s'.etag = orElse p.server.etag s.etag) (sha : s'.lastSha256 = s.lastSha256)
      (status : r.status = .unchanged) (fetches : Fetches build s p)
      (known : s.lastSha256 = some (sha256Bytes p.server.body)) :
      Looked build s p (.reported s' r)
  | changed (s' : PackSource) (m : Manifest) (d k : Text) (c : Option Text)
      (enabled : s'.enabled = s.enabled) (etag : s'.etag = orElse p.server.etag s.etag)
      (sha : s'.lastSha256 = some (sha256Bytes p.server.body))
      (unseen : ¬Recognized s p.server) : Looked build s p (.changed s' m d k c)

theorem looked_failure {status : SyncOutcome} {reason : Text} {s₀ : PackSource}
    (henabled : s₀.enabled = s.enabled) (hetag : s₀.etag = s.etag)
    (hsha : s₀.lastSha256 = s.lastSha256) (hstatus : status ≠ .unchanged)
    (hunseen : Fetches build s p → ¬Recognized s p.server) :
    Looked build s p (failure s₀ p.now status reason) :=
  .quiet _ _ henabled hetag hsha hstatus hunseen

theorem fetch_eq_notModified {server : Server} {etag : Option Text}
    (h : server.fetch etag = .ok .notModified) :
    server.conditional = true ∧ (orElse etag none).isSome = true ∧ etag = server.etag := by
  unfold Server.fetch at h
  split at h
  · cases h
  · split at h
    · rename_i hcond
      simpa [and_assoc] using hcond
    · cases h

theorem fetch_eq_body {server : Server} {etag etag' : Option Text} {body : Bytes}
    (h : server.fetch etag = .ok (.body body etag')) :
    body = server.body ∧ etag' = server.etag ∧
      ¬(server.conditional = true ∧ (orElse etag none).isSome = true ∧
        etag = server.etag) := by
  unfold Server.fetch at h
  split at h
  · cases h
  · split at h
    · cases h
    · rename_i hcond
      obtain ⟨rfl, rfl⟩ := Fetched.body.inj (Except.ok.inj h)
      exact ⟨rfl, rfl, by simpa [and_assoc] using hcond⟩

theorem outage_of_fetch {server : Server} {etag : Option Text} {f : Fetched}
    (h : server.fetch etag = .ok f) : server.outage = none := by
  unfold Server.fetch at h
  split at h
  · cases h
  · assumption

theorem looked_lookAt {body : Bytes} {etag : Option Text} (hbody : body = p.server.body)
    (hetag : etag = p.server.etag) (hunseen : ¬Recognized s p.server) :
    Looked build s p (lookAt build { s with lastCheckedAt := some p.now } p body etag) := by
  subst hbody hetag
  have hfail : ∀ reason, Looked build s p
      (failure { s with lastCheckedAt := some p.now } p.now .invalid reason) := fun _ =>
    looked_failure rfl rfl rfl (by decide) fun _ => hunseen
  unfold lookAt
  split
  · exact hfail _
  · split
    · exact .changed _ _ _ _ _ rfl rfl rfl hunseen
    · exact hfail _
    · exact hfail _

theorem looked_fetchAndCompare (hdue : ∀ dueAt, s.dueAt = some dueAt → dueAt ≤ p.now) :
    Looked build s p (fetchAndCompare build s p) := by
  unfold fetchAndCompare
  split
  · rename_i e hurl
    refine looked_failure rfl rfl rfl (by decide) fun hf => ?_
    have := hf.accepted
    rw [hurl] at this
    cases this
  · rename_i hurl
    have haccepted : (build.validateUrl s.url).isOk = true := by rw [hurl]; rfl
    have hanswered : ∀ {e}, p.server.fetch s.etag = .error e →
        Fetches build s p → ¬Recognized s p.server := by
      intro e he hf
      rw [Server.fetch, hf.answered] at he
      dsimp only at he
      split at he <;> cases he
    split
    · rename_i e he
      exact looked_failure rfl rfl rfl (by decide) (hanswered he)
    · rename_i e he
      exact looked_failure rfl rfl rfl (by decide) (hanswered he)
    · rename_i hf
      exact .notModified _ _ rfl rfl rfl rfl ⟨hdue, haccepted, outage_of_fetch hf⟩
        (.inl (fetch_eq_notModified hf))
    · rename_i body etag hf
      obtain ⟨hbody, hetag, hother⟩ := fetch_eq_body hf
      split
      · rename_i hsame
        rw [hbody] at hsame
        exact .identical _ _ rfl (by rw [hetag]; rfl) rfl rfl
          ⟨hdue, haccepted, outage_of_fetch hf⟩ hsame
      · rename_i hsame
        rw [hbody] at hsame
        exact looked_lookAt hbody hetag fun hrec => hrec.elim hother hsame

theorem looked (henabled : s.enabled = true) : Looked build s p (look build s p) := by
  unfold look
  rw [henabled]
  simp only [Bool.not_true, Bool.false_eq_true, if_false]
  cases hdue : s.dueAt with
  | none => exact looked_fetchAndCompare fun _ h => by rw [hdue] at h; cases h
  | some dueAt =>
    dsimp only
    split
    · rename_i hearly
      exact .quiet _ _ rfl rfl rfl (fun h => by cases h) fun hf =>
        absurd (hf.due dueAt hdue) (Int.not_le.mpr hearly)
    · rename_i hlate
      refine looked_fetchAndCompare fun d hd => ?_
      rw [hdue, Option.some.injEq] at hd
      exact hd ▸ Int.not_lt.mp hlate

theorem applyManifest_eq_ok {m : Manifest} {d k : Text} {c : Option Text}
    {r : PackSource × Report} (h : applyManifest build s p m d k c = .ok r) :
    r.1.enabled = s.enabled ∧ r.1.etag = s.etag ∧ r.1.lastSha256 = s.lastSha256 ∧
      r.2.status ≠ .unchanged := by
  unfold applyManifest at h
  split at h
  · cases h
    exact ⟨rfl, rfl, rfl, fun h => by cases h⟩
  · obtain ⟨version, -, h⟩ := bind_eq_ok.mp h
    cases h
    exact ⟨rfl, rfl, rfl, fun h => by cases h⟩

/-- **When a poll reports `unchanged`.** -/
theorem unchanged_iff (henabled : s.enabled = true) :
    (checkPackSource build s p).2.status = .unchanged ↔
      Fetches build s p ∧ Recognized s p.server := by
  unfold checkPackSource
  have h : Looked build s p (look build s p) := looked henabled
  generalize look build s p = l at h
  cases h with
  | quiet s' r _ _ _ status unseen =>
    exact ⟨fun h => absurd h status, fun h => absurd h.2 (unseen h.1)⟩
  | notModified s' r _ _ _ status fetches known =>
    exact ⟨fun _ => ⟨fetches, known⟩, fun _ => status⟩
  | identical s' r _ _ _ status fetches known =>
    exact ⟨fun _ => ⟨fetches, .inr known⟩, fun _ => status⟩
  | changed s' m d k c _ _ _ unseen =>
    refine ⟨fun h => ?_, fun h => absurd h.2 unseen⟩
    dsimp only at h
    split at h
    · rename_i hok
      exact absurd h (applyManifest_eq_ok hok).2.2.2
    · cases h

end Look

/-! ## What a run records -/

/-- The content was applied, or its application was attempted. -/
def Known (w : History) (b : Bytes) : Prop := b ∈ w.stored ∨ b ∈ w.failed

/-- The ETag and the digest of a source are those of contents that are known. -/
structure Recorded (polls : List Poll) (w : History) : Prop where
  enabled : w.source.enabled = true
  etag : ∀ t, w.source.etag = some t → t ≠ [] →
    ∃ q ∈ polls, q.server.etag = some t ∧ Known w q.server.body
  digest : ∀ d, w.source.lastSha256 = some d →
    ∃ q ∈ polls, sha256Bytes q.server.body = d ∧ Known w q.server.body

section Recorded

variable {build} {polls : List Poll} {w w' : History}

theorem orElse_eq_some {a b : Option Text} {t : Text} (h : orElse a b = some t) :
    a = some t ∨ b = some t := by
  unfold orElse at h
  split at h
  · exact .inl h
  · exact .inr h

theorem Recorded.known_of_digest (hw : Recorded polls w) (ht : Telling polls) {p : Poll}
    (hp : p ∈ polls) (h : w.source.lastSha256 = some (sha256Bytes p.server.body)) :
    Known w p.server.body := by
  obtain ⟨q, hq, hdigest, hknown⟩ := hw.digest _ h
  exact ht.digests q hq p hp hdigest ▸ hknown

/-- **What a poll recognizes is known.** -/
theorem Recorded.known (hw : Recorded polls w) (ht : Telling polls) {p : Poll}
    (hp : p ∈ polls) (h : Recognized w.source p.server) : Known w p.server.body := by
  rcases h with ⟨-, hsome, hetag⟩ | hdigest
  · cases h : w.source.etag with
    | none =>
      rw [h] at hsome
      cases hsome
    | some t =>
      have hne : t ≠ [] := by
        rintro rfl
        rw [h] at hsome
        cases hsome
      obtain ⟨q, hq, hqetag, hknown⟩ := hw.etag t h hne
      exact ht.etags q hq p hp t hne hqetag (hetag ▸ h) ▸ hknown
  · exact hw.known_of_digest ht hp hdigest

/-- Knowledge grows, and the source's ETag and digest are the old ones or those of a
content that is known now. -/
theorem Recorded.grow (hw : Recorded polls w) (hmono : ∀ b, Known w b → Known w' b)
    (henabled : w'.source.enabled = w.source.enabled)
    (hetag : w'.source.etag = w.source.etag ∨
      ∃ p ∈ polls, Known w' p.server.body ∧
        w'.source.etag = orElse p.server.etag w.source.etag)
    (hdigest : w'.source.lastSha256 = w.source.lastSha256 ∨
      ∃ p ∈ polls, Known w' p.server.body ∧
        w'.source.lastSha256 = some (sha256Bytes p.server.body)) : Recorded polls w' := by
  have hold : ∀ t, w.source.etag = some t → t ≠ [] →
      ∃ q ∈ polls, q.server.etag = some t ∧ Known w' q.server.body := by
    intro t h hne
    obtain ⟨q, hq, hqetag, hknown⟩ := hw.etag t h hne
    exact ⟨q, hq, hqetag, hmono _ hknown⟩
  refine ⟨henabled.trans hw.enabled, ?_, ?_⟩
  · intro t h hne
    rcases hetag with hetag | ⟨p, hp, hknown, hetag⟩
    · exact hold t (hetag ▸ h) hne
    · rcases orElse_eq_some (hetag ▸ h) with hnew | hsame
      · exact ⟨p, hp, hnew, hknown⟩
      · exact hold t hsame hne
  · intro d h
    rcases hdigest with hdigest | ⟨p, hp, hknown, hdigest⟩
    · obtain ⟨q, hq, hqdigest, hknown⟩ := hw.digest d (hdigest ▸ h)
      exact ⟨q, hq, hqdigest, hmono _ hknown⟩
    · exact ⟨p, hp, Option.some.inj (hdigest.symm.trans h), hknown⟩

/-- A step keeps the record: what it compares with next is known. -/
theorem recorded_step (ht : Telling polls) {a : Action} (ha : ∀ p, a = .poll p → p ∈ polls)
    (hw : Recorded polls w) (h : step build w a = some w') : Recorded polls w' := by
  cases a with
  | adopt install =>
    obtain ⟨s, hs, rfl⟩ := Option.map_eq_some_iff.mp h
    replace hs := toOption_eq_some hs
    unfold adoptPending at hs
    split at hs
    · cases hs
    · obtain ⟨version, -, hs⟩ := bind_eq_ok.mp hs
      cases hs
      exact hw.grow (fun _ => id) rfl (.inl rfl) (.inl rfl)
  | poll p =>
    have hp := ha p rfl
    have hlook : Looked build w.source p (look build w.source p) := looked hw.enabled
    rw [step] at h
    generalize look build w.source p = l at h hlook
    cases hlook with
    | quiet s' r enabled etag sha _ _ =>
      cases h
      exact hw.grow (fun _ => id) enabled (.inl etag) (.inl sha)
    | notModified s' r enabled etag sha _ _ _ =>
      cases h
      exact hw.grow (fun _ => id) enabled (.inl etag) (.inl sha)
    | identical s' r enabled etag sha _ _ known =>
      -- the tag may be new, but it belongs to a body that is stored
      cases h
      exact hw.grow (fun _ => id) enabled
        (.inr ⟨p, hp, hw.known_of_digest ht hp known, etag⟩) (.inl sha)
    | changed s' m d k c enabled etag sha _ =>
      dsimp only at h
      split at h
      · rename_i r hok
        obtain ⟨hr₁, hr₂, hr₃, -⟩ := applyManifest_eq_ok hok
        cases h
        have hnow : p.server.body ∈ p.server.body :: w.stored := List.mem_cons_self
        refine hw.grow (fun b hb => ?_) (hr₁.trans enabled)
          (.inr ⟨p, hp, .inl hnow, hr₂.trans etag⟩)
          (.inr ⟨p, hp, .inl hnow, hr₃.trans sha⟩)
        -- what failed before may be stored now
        by_cases hbp : b = p.server.body
        · exact .inl (hbp ▸ hnow)
        · exact hb.imp (List.mem_cons_of_mem _) fun hb =>
            List.mem_filter.mpr ⟨hb, decide_eq_true hbp⟩
      · cases h
        exact hw.grow (fun b hb => hb.imp_right (List.mem_cons_of_mem _)) enabled
          (.inr ⟨p, hp, .inr List.mem_cons_self, etag⟩)
          (.inr ⟨p, hp, .inr List.mem_cons_self, sha⟩)

def pollsOf (as : List Action) : List Poll :=
  as.filterMap fun
    | .poll p => some p
    | .adopt _ => none

theorem mem_pollsOf {as : List Action} {p : Poll} : p ∈ pollsOf as ↔ .poll p ∈ as := by
  rw [pollsOf, List.mem_filterMap]
  constructor
  · rintro ⟨a, ha, h⟩
    cases a with
    | poll q => exact Option.some.inj h ▸ ha
    | adopt install => cases h
  · exact fun h => ⟨_, h, rfl⟩

theorem recorded_registered (id : Nat) (organizationId : Option Nat) (packKey url : Text)
    (autoInstall : Bool) :
    Recorded polls (registered id organizationId packKey url autoInstall) :=
  ⟨rfl, fun _ h => (by cases h), fun _ h => (by cases h)⟩

/-- **No poll of a run strands a manifest, exactly where none comes upon one whose
installation failed and that the source still recognizes.** -/
theorem never_stranded_iff (build : Build) (id : Nat) (organizationId : Option Nat)
    (packKey url : Text) (autoInstall : Bool) {as : List Action} (ht : Telling (pollsOf as)) :
    Guarded (step build) (NeverStranded build)
        (registered id organizationId packKey url autoInstall) as ↔
      Guarded (step build) (Retries build)
        (registered id organizationId packKey url autoInstall) as := by
  -- along the run, the two conditions agree at each poll
  have hagree : ∀ bs a cs u, as = bs ++ a :: cs →
      exec (step build) (registered id organizationId packKey url autoInstall) bs = some u →
      (NeverStranded build u a ↔ Retries build u a) := by
    intro bs a cs u heq hrun
    have hmem : ∀ b ∈ bs ++ [a], ∀ p, b = .poll p → p ∈ pollsOf as := by
      rintro b hb p rfl
      refine mem_pollsOf.mpr (heq ▸ ?_)
      rw [← List.singleton_append, ← List.append_assoc]
      exact List.mem_append_left cs hb
    have hstep : ∀ v b v', Recorded (pollsOf as) v → (∀ p, b = .poll p → p ∈ pollsOf as) →
        step build v b = some v' → Recorded (pollsOf as) v' :=
      fun _ _ _ hv hb => recorded_step ht hb hv
    have hu : Recorded (pollsOf as) u :=
      exec_invariant_of_mem hstep
        (recorded_registered id organizationId packKey url autoInstall)
        (fun b hb => hmem b (List.mem_append_left _ hb)) hrun
    cases a with
    | adopt install => exact Iff.rfl
    | poll p =>
      have hp := hmem (.poll p) (List.mem_append_right _ (List.mem_singleton_self _)) p rfl
      show (_ → _) ↔ (_ → _ → _)
      rw [unchanged_iff hu.enabled]
      constructor
      · exact fun h hf hr => (h ⟨hf, hr⟩).2
      · rintro h ⟨hf, hr⟩
        have hnot := h hf hr
        exact ⟨(hu.known ht hp hr).resolve_right hnot, hnot⟩
  rw [guarded_iff, guarded_iff]
  constructor
  · exact fun h bs a cs u heq hrun => (hagree bs a cs u heq hrun).mp (h bs a cs u heq hrun)
  · exact fun h bs a cs u heq hrun => (hagree bs a cs u heq hrun).mpr (h bs a cs u heq hrun)

end Recorded

/-! ## A server that goes on serving what could not be installed -/

def acceptingBuild : Build where
  validateUrl := fun _ => .ok ()
  parse := fun _ => .ok [("id".toList, .str "acme".toList)]
  manifestSha := fun _ => .ok "sha".toList
  version := fun _ => "1".toList
  isoformat := fun _ => []

/-- A poll of a server that serves one byte under an ETag; the installation fails, or
not. -/
def pollAt (now : Int) (install : Except Text Text) : Poll where
  now := now
  server := ⟨[0], some "v1".toList, true, none⟩
  commit := .ok none
  install := install

def installing : History :=
  registered 1 (some 1) "acme".toList "https://example.com/pack.json".toList true

def twoPolls (install : Except Text Text) : List Action :=
  [.poll (pollAt 0 install), .poll (pollAt 60 (.ok "1".toList))]

theorem telling_twoPolls (install : Except Text Text) : Telling (pollsOf (twoPolls install)) := by
  have hbody : ∀ p ∈ pollsOf (twoPolls install), p.server.body = [0] := by
    intro p hp
    rcases List.mem_cons.mp hp with rfl | hp
    · rfl
    · exact List.mem_singleton.mp hp ▸ rfl
  exact ⟨fun p hp q hq _ _ _ _ => (hbody p hp).trans (hbody q hq).symm,
    fun p hp q hq _ => (hbody p hp).trans (hbody q hq).symm⟩

theorem never_stranded_iff_twoPolls :
    Guarded (step acceptingBuild) (NeverStranded acceptingBuild) installing
        (twoPolls (.ok "1".toList)) ↔
      Guarded (step acceptingBuild) (Retries acceptingBuild) installing
        (twoPolls (.ok "1".toList)) :=
  never_stranded_iff acceptingBuild 1 (some 1) "acme".toList
    "https://example.com/pack.json".toList true (telling_twoPolls _)

/-- The rule keys of the pack collide with those of another: the installation fails, and
a minute later the poll reports that nothing has changed. -/
theorem collision_stranded :
    ¬∀ build as, Telling (pollsOf as) →
      Guarded (step build) (NeverStranded build) installing as := by
  intro h
  have hg := h acceptingBuild _ (telling_twoPolls (.error "collision".toList))
  obtain ⟨w, hw⟩ : ∃ w, exec (step acceptingBuild) installing
      [.poll (pollAt 0 (.error "collision".toList))] = some w := ⟨_, rfl⟩
  have hrun : (exec (step acceptingBuild) installing
      [.poll (pollAt 0 (.error "collision".toList))]).map (fun w =>
        ((checkPackSource acceptingBuild w.source (pollAt 60 (.ok "1".toList))).2.status,
          w.stored)) = some (.unchanged, []) := by decide +kernel
  rw [hw, Option.map_some, Option.some.injEq, Prod.mk.injEq] at hrun
  have hstored := (guarded_iff.mp hg [_] _ [] w rfl hw hrun.1).1
  rw [hrun.2] at hstored
  cases hstored

end Concord.Packs
