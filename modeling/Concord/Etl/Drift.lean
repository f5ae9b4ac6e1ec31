import Concord.Etl.Sources

/-!
# Drift over runs of polls

A source and its polls, beside the content that was processed last and the content that came with
the stored ETag. A poll that fails after it has stored an ETag makes a server that honours it
answer 304 from then on, to a source that has not processed what it serves; one whose capture
fails or is rejected has already moved the index that the next changelog starts from.

`drift_reported`: where no poll of a run does that, every poll that meets a content other than
the one processed last reports it, with the controls that differ.
-/

namespace Concord.Etl

open Concord.Base
open Concord.Python
open Concord.Catalog (Interpreter PyError parseOscalCatalog sha256Hex)

/-! ## What a poll makes of a new content -/

/-- Where processing a content gets to. -/
inductive Outcome
  | processed | notRead | notCaptured | broken
  deriving DecidableEq

variable (env : Reader)

def outcome (s : CatalogSource) (p : Poll) (body : Bytes) : Outcome :=
  match s.kind with
  | .oscalCatalog =>
    if (parseOscalCatalog env.toInterpreter body).isOk then
      if p.revisionDataRoot && decide (s.key = catalogKey80053) then
        match p.capture with
        | .stored => .processed
        | .noBaselines _ | .rejected _ => .notCaptured
        | .raised _ => .broken
      else .processed
    else .notRead
  | .xlsx => if s.autoIngest && p.dataDir && !p.ingest.isOk then .notRead else .processed
  | .generic => .processed

def indexOf : Option Bytes → Dict Text Text
  | none => .empty
  | some body =>
    match parseOscalCatalog env.toInterpreter body with
    | .error _ => .empty
    | .ok (_, index) => index

/-- A content has been processed: it was ingested, or reported with no capture rejected. -/
def CatalogCheck.settled (c : CatalogCheck) : Bool :=
  c.status = .ingested || (c.status = .changed && !c.detail.captureRejected)

/-- What `processBody` does with a content. -/
structure Handled (s : CatalogSource) (previousEtag : Option Text) (p : Poll) (body : Bytes)
    (r : CatalogSource × CatalogCheck) : Prop where
  kind : r.1.kind = s.kind
  sha : r.1.lastSha256 =
    if outcome env s p body = .processed then some (sha256Hex body) else s.lastSha256
  etag : r.1.etag = if outcome env s p body = .notCaptured then previousEtag else s.etag
  index : r.1.contentIndex =
    if s.kind = .oscalCatalog ∧ outcome env s p body ≠ .notRead then indexOf env (some body)
    else s.contentIndex
  settled : r.2.settled = true ↔ outcome env s p body = .processed
  rejected : r.2.detail.captureRejected = true ↔ outcome env s p body = .notCaptured
  reported : r.2.status ≠ .unchanged
  changelog : s.kind = .oscalCatalog → outcome env s p body ≠ .notRead →
    r.2.detail.changelog = some (diffContentIndex s.contentIndex (indexOf env (some body)))

section Handling

variable {env} {s : CatalogSource}

theorem handled_xlsx (hkind : s.kind = .xlsx) (previousEtag : Option Text) (p : Poll)
    (body : Bytes) :
    Handled env s previousEtag p body (processBody env s previousEtag p body) := by
  unfold processBody
  dsimp only
  rw [hkind]
  dsimp only
  split
  case isFalse hoff =>
    have hout : outcome env s p body = .processed := by
      simp only [outcome, hkind]
      rw [Bool.eq_false_iff.mpr hoff, Bool.false_and, if_neg Bool.false_ne_true]
    constructor <;> simp [hout, hkind, drifted, CatalogCheck.settled]
  case isTrue hon =>
    cases hingest : p.ingest with
    | error reason =>
      have hout : outcome env s p body = .notRead := by
        simp only [outcome, hkind, hingest, hon]
        rfl
      constructor <;> simp [hout, hkind, failed, CatalogCheck.settled]
    | ok u =>
      have hout : outcome env s p body = .processed := by
        simp only [outcome, hkind, hingest, hon]
        rfl
      constructor <;> simp [hout, hkind, CatalogCheck.settled]

theorem handled_oscalCatalog (hkind : s.kind = .oscalCatalog) (previousEtag : Option Text)
    (p : Poll) (body : Bytes) :
    Handled env s previousEtag p body (processBody env s previousEtag p body) := by
  unfold processBody
  dsimp only
  rw [hkind]
  dsimp only
  cases hparse : parseOscalCatalog env.toInterpreter body with
  | error exc =>
    have hout : outcome env s p body = .notRead := by
      simp only [outcome, hkind, hparse]
      rfl
    constructor <;> simp [hout, hkind, failed, CatalogCheck.settled]
  | ok parsed =>
    have hindex : indexOf env (some body) = parsed.2 := by simp only [indexOf, hparse]
    have hread : (parseOscalCatalog env.toInterpreter body).isOk = true := by
      rw [hparse]
      rfl
    dsimp only [captureRevision]
    split
    case isFalse hoff =>
      have hout : outcome env s p body = .processed := by
        simp only [outcome, hkind]
        rw [if_pos hread, if_neg hoff]
      constructor <;> simp [hout, hkind, hindex, drifted, CatalogCheck.settled]
    case isTrue hon =>
      have hcase : outcome env s p body =
          match p.capture with
          | .stored => .processed
          | .noBaselines _ | .rejected _ => .notCaptured
          | .raised _ => .broken := by
        simp only [outcome, hkind]
        rw [if_pos hread, if_pos hon]
      cases hcapture : p.capture with
      | stored =>
        rw [hcapture] at hcase
        constructor <;> simp [hcase, hkind, hindex, drifted, CatalogCheck.settled]
      | noBaselines reason =>
        rw [hcapture] at hcase
        constructor <;> simp [hcase, hkind, hindex, notCaptured, CatalogCheck.settled]
      | rejected notes =>
        rw [hcapture] at hcase
        constructor <;> simp [hcase, hkind, hindex, notCaptured, CatalogCheck.settled]
      | raised reason =>
        rw [hcapture] at hcase
        constructor <;> simp [hcase, hkind, hindex, failed, CatalogCheck.settled]

end Handling

theorem handled_processBody (s : CatalogSource) (previousEtag : Option Text) (p : Poll)
    (body : Bytes) :
    Handled env s previousEtag p body (processBody env s previousEtag p body) := by
  cases hkind : s.kind with
  | generic =>
    have hout : outcome env s p body = .processed := by simp only [outcome, hkind]
    unfold processBody
    dsimp only
    rw [hkind]
    constructor <;> simp [hout, hkind, drifted, CatalogCheck.settled]
  | xlsx => exact handled_xlsx hkind previousEtag p body
  | oscalCatalog => exact handled_oscalCatalog hkind previousEtag p body

/-! ## Runs -/

/-- A source, the content that was processed last, and the one that came with the stored ETag. -/
structure Watch where
  source : CatalogSource
  processed : Option Bytes
  cameWith : Option Bytes

def received (s : CatalogSource) (p : Poll) : Option Text :=
  match p.server.fetch s.etag with
  | .ok (.body _ etag) => orElse etag none
  | _ => none

def Watch.poll (w : Watch) (p : Poll) : Watch :=
  let r := checkSource env w.source p
  { source := r.1
    processed := if r.2.settled then some p.server.body else w.processed
    cameWith :=
      if (received w.source p).isSome && !r.2.detail.captureRejected then some p.server.body
      else w.cameWith }

def step (w : Watch) (p : Poll) : Option Watch := some (w.poll env p)

/-- **Drift is reported**: a poll that reaches a server whose content is not the one processed
last does not say `unchanged`, and of a catalog that can be read it reports the controls that
differ between the two. -/
def Reported (w : Watch) (p : Poll) : Prop :=
  p.server.outage = none → w.processed ≠ some p.server.body →
    (checkSource env w.source p).2.status ≠ .unchanged ∧
      (w.source.kind = .oscalCatalog →
        (parseOscalCatalog env.toInterpreter p.server.body).isOk = true →
        (checkSource env w.source p).2.detail.changelog =
          some (diffContentIndex (indexOf env w.processed) (indexOf env (some p.server.body))))

/-- What is asked of a poll that fetches a content not yet processed. It comes with an ETag, if
one is stored, where it is processed; with none where it cannot be read or ingested; and where
its capture is rejected or raises, its index is the stored one. -/
def Progress (w : Watch) (p : Poll) : Prop :=
  match outcome env w.source p p.server.body with
  | .processed => (orElse w.source.etag none).isSome → (orElse p.server.etag none).isSome
  | .notRead => orElse p.server.etag none = none
  | .notCaptured => indexOf env (some p.server.body) = w.source.contentIndex
  | .broken => orElse p.server.etag none = none ∧
      indexOf env (some p.server.body) = w.source.contentIndex

/-- The condition on a poll: a 304 is true, two contents have two digests, and `Progress`. -/
structure Meets (w : Watch) (p : Poll) : Prop where
  honest : p.server.fetch w.source.etag = .ok .notModified → w.cameWith = some p.server.body
  digests : ∀ b, w.processed = some b → sha256Hex b = sha256Hex p.server.body → b = p.server.body
  progress : ∀ etag, p.server.fetch w.source.etag = .ok (.body p.server.body etag) →
    w.processed ≠ some p.server.body → Progress env w p

/-- What is recorded is recorded of the content processed last. -/
structure Trusted (w : Watch) : Prop where
  sha : w.source.lastSha256 = w.processed.map sha256Hex
  index : w.source.kind = .oscalCatalog → w.source.contentIndex = indexOf env w.processed
  tag : ∀ b, w.cameWith = some b → w.processed = some b ∧ (orElse w.source.etag none).isSome

variable {env}

theorem orElse_of_none {a b : Option Text} (h : orElse a none = none) : orElse a b = b := by
  unfold orElse at h ⊢
  split at h
  · cases h
  · rfl

theorem orElse_of_isSome {a b : Option Text} (h : (orElse a none).isSome) :
    orElse a b = orElse a none := by
  unfold orElse at h ⊢
  split at h
  · rfl
  · cases h

theorem orElse_orElse (a b : Option Text) :
    orElse (orElse a b) none = orElse a (orElse b none) := by
  cases a with
  | none => rfl
  | some t => cases t <;> rfl

theorem fetch_cases (server : Server) (etag : Option Text) :
    (∃ reason, server.outage = some reason ∧ server.fetch etag = .error reason) ∨
    (server.outage = none ∧ server.fetch etag = .ok .notModified) ∨
    (server.outage = none ∧ server.fetch etag = .ok (.body server.body server.etag)) := by
  unfold Server.fetch
  cases hout : server.outage with
  | some reason => exact .inl ⟨reason, rfl, rfl⟩
  | none =>
    dsimp only
    split
    · exact .inr (.inl ⟨rfl, rfl⟩)
    · exact .inr (.inr ⟨rfl, rfl⟩)

/-- What a new content is processed as, with what the source recorded at the fetch. -/
def CatalogSource.fetched (s : CatalogSource) (p : Poll) : CatalogSource :=
  { s with
    lastCheckedAt := some p.now
    lastError := none
    etag := orElse p.server.etag s.etag }

section Poll

variable {w : Watch} {p : Poll}

theorem checkSource_error {reason : Text} (h : p.server.fetch w.source.etag = .error reason) :
    checkSource env w.source p = failed w.source p.now none none {} reason := by
  rw [checkSource, h]

theorem checkSource_notModified (h : p.server.fetch w.source.etag = .ok .notModified) :
    checkSource env w.source p =
      unchanged { w.source with lastCheckedAt := some p.now, lastError := none } 304
        w.source.lastSha256 "304 Not Modified".toList := by
  rw [checkSource, h]

theorem checkSource_identical
    (h : p.server.fetch w.source.etag = .ok (.body p.server.body p.server.etag))
    (hsha : w.source.lastSha256 = some (sha256Hex p.server.body)) :
    checkSource env w.source p =
      unchanged (w.source.fetched p) 200 (some (sha256Hex p.server.body))
        "content identical (sha match)".toList := by
  rw [checkSource, h]
  exact if_pos hsha

theorem checkSource_new
    (h : p.server.fetch w.source.etag = .ok (.body p.server.body p.server.etag))
    (hsha : w.source.lastSha256 ≠ some (sha256Hex p.server.body)) :
    checkSource env w.source p =
      processBody env (w.source.fetched p) w.source.etag p p.server.body := by
  rw [checkSource, h]
  exact if_neg hsha

theorem received_of_body {etag : Option Text}
    (h : p.server.fetch w.source.etag = .ok (.body p.server.body etag)) :
    received w.source p = orElse etag none := by
  rw [received, h]

theorem Trusted.digest_iff (hw : Trusted env w) (hmeets : Meets env w p) :
    w.source.lastSha256 = some (sha256Hex p.server.body) ↔
      w.processed = some p.server.body := by
  rw [hw.sha, Option.map_eq_some_iff]
  constructor
  · rintro ⟨b, hb, hsha⟩
    rw [hb, hmeets.digests b hb hsha]
  · exact fun h => ⟨_, h, rfl⟩

theorem Trusted.of_same (hw : Trusted env w) {w' : Watch}
    (hkind : w'.source.kind = w.source.kind) (hsha : w'.source.lastSha256 = w.source.lastSha256)
    (hindex : w'.source.contentIndex = w.source.contentIndex)
    (hetag : w'.source.etag = w.source.etag) (hprocessed : w'.processed = w.processed)
    (hcame : w'.cameWith = w.cameWith) : Trusted env w' where
  sha := by rw [hsha, hprocessed, hw.sha]
  index h := by rw [hindex, hprocessed, hw.index (hkind ▸ h)]
  tag b h := by
    rw [hprocessed, hetag]
    exact hw.tag b (hcame ▸ h)

theorem tag_of_received (etag : Option Text) (hw : Trusted env w)
    (hbody : w.processed = some p.server.body) :
    ∀ b, (if (orElse etag none).isSome then some p.server.body else w.cameWith) = some b →
      w.processed = some b ∧ (orElse (orElse etag w.source.etag) none).isSome := by
  intro b hb
  rw [orElse_orElse]
  split at hb
  case isTrue hsome =>
    rw [orElse_of_isSome hsome]
    exact ⟨hbody.trans hb, hsome⟩
  case isFalse hnone =>
    obtain ⟨hproc, htag⟩ := hw.tag b hb
    rw [orElse_of_none (Option.not_isSome_iff_eq_none.mp hnone)]
    exact ⟨hproc, htag⟩

theorem handled_new (hw : Trusted env w) (hmeets : Meets env w p)
    (hfetch : p.server.fetch w.source.etag = .ok (.body p.server.body p.server.etag))
    (hbody : w.processed ≠ some p.server.body) :
    Handled env (w.source.fetched p) w.source.etag p p.server.body
      (checkSource env w.source p) := by
  rw [checkSource_new hfetch fun h => hbody ((hw.digest_iff hmeets).mp h)]
  exact handled_processBody env _ _ p _

theorem processed_of_handled
    (h : Handled env (w.source.fetched p) w.source.etag p p.server.body
      (checkSource env w.source p)) :
    (w.poll env p).processed =
      if outcome env w.source p p.server.body = .processed then some p.server.body
      else w.processed := by
  show (if (checkSource env w.source p).2.settled = true then _ else _) = _
  exact if_congr h.settled rfl rfl

theorem cameWith_of_handled (hreceived : received w.source p = orElse p.server.etag none)
    (h : Handled env (w.source.fetched p) w.source.etag p p.server.body
      (checkSource env w.source p)) :
    (w.poll env p).cameWith =
      if (orElse p.server.etag none).isSome ∧ outcome env w.source p p.server.body ≠ .notCaptured
      then some p.server.body else w.cameWith := by
  show (if (_ && !(checkSource env w.source p).2.detail.captureRejected) = true then _ else _) = _
  refine if_congr ?_ rfl rfl
  rw [Bool.and_eq_true, hreceived, Bool.not_eq_true', ← Bool.not_eq_true]
  exact and_congr_right fun _ => not_congr h.rejected

/-- The records after a poll that met a content not yet processed. -/
theorem trusted_of_handled (hw : Trusted env w) (hprogress : Progress env w p)
    (hreceived : received w.source p = orElse p.server.etag none)
    (h : Handled env (w.source.fetched p) w.source.etag p p.server.body
      (checkSource env w.source p)) : Trusted env (w.poll env p) := by
  have hsame : outcome env (w.source.fetched p) p p.server.body =
      outcome env w.source p p.server.body := rfl
  have hprocessed := processed_of_handled h
  have hcame := cameWith_of_handled hreceived h
  have hsha := h.sha
  have hetag := h.etag
  have hindex := h.index
  rw [hsame] at hsha hetag hindex
  unfold Progress at hprogress
  cases hout : outcome env w.source p p.server.body with
  | processed =>
    rw [hout] at hprogress hprocessed hcame hsha hetag hindex
    refine ⟨?_, fun hkind => ?_, fun b hb => ?_⟩
    · rw [hprocessed]
      exact hsha
    · rw [hprocessed]
      exact hindex.trans (if_pos ⟨h.kind ▸ hkind, by decide⟩)
    · have hkept : (w.poll env p).source.etag = orElse p.server.etag w.source.etag := hetag
      rw [hcame] at hb
      rw [hprocessed, hkept, orElse_orElse]
      split at hb
      case isTrue htag =>
        rw [orElse_of_isSome htag.1]
        exact ⟨hb, htag.1⟩
      case isFalse hnone =>
        -- nothing came with an ETag, and so none was stored
        exact absurd ⟨hprogress (hw.tag b hb).2, by decide⟩ hnone
  | notRead =>
    rw [hout] at hprogress hprocessed hcame hsha hetag hindex
    refine hw.of_same h.kind hsha ?_ ?_ hprocessed ?_
    · exact hindex.trans (if_neg fun hand => hand.2 rfl)
    · exact hetag.trans (orElse_of_none hprogress)
    · rw [hcame, hprogress]
      rfl
  | notCaptured =>
    rw [hout] at hprogress hprocessed hcame hsha hetag hindex
    refine hw.of_same h.kind hsha ?_ hetag hprocessed ?_
    · refine hindex.trans ?_
      split
      · exact hprogress
      · rfl
    · exact hcame.trans (if_neg fun hand => hand.2 rfl)
  | broken =>
    rw [hout] at hprogress hprocessed hcame hsha hetag hindex
    refine hw.of_same h.kind hsha ?_ ?_ hprocessed ?_
    · refine hindex.trans ?_
      split
      · exact hprogress.2
      · rfl
    · exact hetag.trans (orElse_of_none hprogress.1)
    · rw [hcame, hprogress.1]
      rfl

theorem trusted_poll (hw : Trusted env w) (hmeets : Meets env w p) :
    Trusted env (w.poll env p) := by
  rcases fetch_cases p.server w.source.etag with ⟨reason, -, hfetch⟩ | ⟨-, hfetch⟩ | ⟨-, hfetch⟩
  · refine hw.of_same ?_ ?_ ?_ ?_ ?_ ?_ <;>
      simp [Watch.poll, checkSource_error hfetch, failed, CatalogCheck.settled, received, hfetch]
  · refine hw.of_same ?_ ?_ ?_ ?_ ?_ ?_ <;>
      simp [Watch.poll, checkSource_notModified hfetch, unchanged, CatalogCheck.settled, received,
        hfetch]
  · by_cases hbody : w.processed = some p.server.body
    · -- the content is the one processed last; an ETag it comes with is its own
      have hcheck : checkSource env w.source p = _ :=
        checkSource_identical hfetch ((hw.digest_iff hmeets).mpr hbody)
      have hproc : (w.poll env p).processed = w.processed := by
        simp [Watch.poll, hcheck, unchanged, CatalogCheck.settled]
      refine ⟨?_, ?_, ?_⟩
      · rw [hproc, ← hw.sha]
        simp [Watch.poll, hcheck, unchanged, CatalogSource.fetched]
      · intro hkind
        have hkind : w.source.kind = .oscalCatalog := by
          simpa [Watch.poll, hcheck, unchanged, CatalogSource.fetched] using hkind
        rw [hproc, ← hw.index hkind]
        simp [Watch.poll, hcheck, unchanged, CatalogSource.fetched]
      · rw [hproc]
        have htag := tag_of_received p.server.etag hw hbody
        simpa [Watch.poll, hcheck, unchanged, CatalogSource.fetched, received_of_body hfetch]
          using htag
    · exact trusted_of_handled hw (hmeets.progress _ hfetch hbody) (received_of_body hfetch)
        (handled_new hw hmeets hfetch hbody)

theorem reported_poll (hw : Trusted env w) (hmeets : Meets env w p) : Reported env w p := by
  intro hanswer hbody
  rcases fetch_cases p.server w.source.etag with ⟨reason, hout, -⟩ | ⟨-, hfetch⟩ | ⟨-, hfetch⟩
  · rw [hanswer] at hout
    cases hout
  · exact absurd (hw.tag _ (hmeets.honest hfetch)).1 hbody
  · have h := handled_new hw hmeets hfetch hbody
    refine ⟨h.reported, fun hkind hread => ?_⟩
    have hnot : outcome env (w.source.fetched p) p p.server.body ≠ .notRead := by
      show outcome env w.source p p.server.body ≠ .notRead
      simp only [outcome, hkind]
      rw [if_pos hread]
      split
      · split <;> decide
      · decide
    rw [h.changelog hkind hnot, ← hw.index hkind]
    rfl

end Poll

/-- **No drift is swallowed.** In a run of polls each of which meets the condition, every poll
reports the content it meets until it has been processed, with the controls that differ from the
content processed last. -/
theorem drift_reported {w : Watch} {polls : List Poll} (hw : Trusted env w)
    (hmeets : Guarded (step env) (Meets env) w polls) :
    Guarded (step env) (Reported env) w polls := by
  refine hmeets.consequence (fun u p u' (hu : Trusted env u) hG hstep => ?_) ?_ hw
  · rw [← Option.some.inj hstep]
    exact trusted_poll hu hG
  · exact fun u p hu hG => reported_poll hu hG

/-! ## A workbook that could not be ingested -/

def noJson : Reader where
  loads _ := none
  loadsText _ := none
  repr _ := []
  describe _ := []
  limit := 100
  message _ := "not JSON".toList

def workbook : Watch where
  source :=
    { key := "curated_workbook".toList
      kind := .xlsx
      autoIngest := true
      etag := none
      lastSha256 := none
      contentIndex := .empty
      revisionLabel := .null
      itemCount := none
      lastStatus := none
      lastError := none
      lastCheckedAt := none
      lastChangedAt := none }
  processed := none
  cameWith := none

/-- A server that honours the ETag it gives out. -/
def workbookPoll (now : Int) (ingest : Except Text Unit) : Poll where
  now := now
  server :=
    { body := [80, 75]
      etag := some "v1".toList
      notModified := fun etag => etag = some "v1".toList }
  ingest := ingest

theorem trusted_workbook (env : Reader) : Trusted env workbook where
  sha := rfl
  index := by
    intro h
    cases h
  tag := by
    intro b h
    cases h

/-- The ingestion fails, and the next poll says `unchanged`. -/
theorem workbook_swallowed :
    Trusted noJson workbook ∧
      ¬Guarded (step noJson) (Reported noJson) workbook
        [workbookPoll 0 (.error "no such sheet".toList), workbookPoll 60 (.ok ())] := by
  refine ⟨trusted_workbook noJson, fun h => ?_⟩
  have hsecond := (h.2 _ rfl).1
  exact (hsecond rfl (by decide +kernel)).1 (by decide +kernel)

/-- Where it succeeds, the 304 that follows is the truth. -/
theorem workbook_reported :
    Guarded (step noJson) (Reported noJson) workbook
      [workbookPoll 0 (.ok ()), workbookPoll 60 (.ok ())] := by
  refine drift_reported (trusted_workbook noJson)
    (Guarded.cons rfl ?_ (Guarded.cons rfl ?_ trivial))
  · refine ⟨?_, ?_, ?_⟩
    · intro h
      cases h
    · intro b h
      cases h
    · intro etag _ _ hstored
      cases hstored
  · refine ⟨fun _ => by decide +kernel, ?_, ?_⟩
    · intro b hb _
      exact (Option.some.inj hb).symm
    · intro etag h
      cases h

end Concord.Etl
