import Concord.Base.Run
import Concord.Python.Sha256
import Concord.Python.Text

/-!
# Polling a pack source

`ccf/packs/sync.py`: `check_pack_source` fetches a manifest where the ETag and the
digest recorded last do not say that nothing changed, and stores it as pending, or
installs it. What the build makes of a manifest, and the server, are given.

A poll records the new ETag and digest before it applies the manifest. An installation
that raises is reported, but the next poll finds nothing new (`never_stranded_iff`).
-/

namespace Concord.Packs

open Concord.Python

abbrev Bytes := List Nat

/-- `sha256_bytes`. -/
def sha256Bytes (body : Bytes) : Text := (Sha256.digest body).hex

abbrev Manifest := List (Text × Json)

/-- `SYNC_OUTCOMES`. -/
inductive SyncOutcome
  | unchanged | pending | installed | invalid | error | backoff
  deriving DecidableEq

/-- A row of `pack_sources`. Times are seconds; the empty manifest is none. -/
structure PackSource where
  id : Nat
  organizationId : Option Nat
  packKey : Text
  url : Text
  enabled : Bool
  autoInstall : Bool
  etag : Option Text
  lastSha256 : Option Text
  lastManifestSha : Option Text
  lastCommitSha : Option Text
  lastStatus : Option SyncOutcome
  lastError : Option Text
  lastCheckedAt : Option Int
  consecutiveFailures : Nat
  pendingManifest : Manifest
  pendingSha256 : Option Text
  pendingManifestSha : Option Text
  pendingCommitSha : Option Text

/-- The result of a poll. -/
structure Report where
  sourceId : Nat
  packKey : Text
  status : SyncOutcome
  reason : Option Text := none
  version : Option Text := none
  commit : Option Text := none

/-- Why a fetch fails. -/
inductive Outage
  | tooLarge (reason : Text)
  | raised (reason : Text)

/-- The server at the time of a poll: what it serves, under which ETag, whether it
honours `If-None-Match`, and whether it answers at all. -/
structure Server where
  body : Bytes
  etag : Option Text
  conditional : Bool
  outage : Option Outage

/-- One poll: the time, the server, and what `resolve_commit_sha` and `install_pack`
do, with the text of what they raise. A database error is not among these: it loses the
transaction, and with it the poll. -/
structure Poll where
  now : Int
  server : Server
  commit : Except Text (Option Text)
  install : Except Text Text

/-- What this build makes of a URL and of a manifest: `validate_pack_source_url`,
`_parse`, `manifest_sha` and `str(manifest.get("version", ""))`. -/
structure Build where
  validateUrl : Text → Except Text Unit
  parse : Bytes → Except Text Manifest
  manifestSha : Manifest → Except Text Text
  version : Manifest → Text
  isoformat : Int → Text

/-! ## The poll -/

/-- `_backoff_seconds`. -/
def backoffSeconds (consecutiveFailures : Nat) : Nat :=
  if consecutiveFailures = 0 then 0
  else min (60 * 2 ^ (min consecutiveFailures 12 - 1)) (24 * 60 * 60)

def result (s : PackSource) (status : SyncOutcome) (reason : Option Text := none)
    (version : Option Text := none) (commit : Option Text := none) : Report :=
  ⟨s.id, s.packKey, status, reason, version, commit⟩

/-- `_record_error`. -/
def recordError (s : PackSource) (now : Int) (status : SyncOutcome) (reason : Text) :
    PackSource × Report :=
  let s := { s with
    lastStatus := some status
    lastError := some (reason.take 500)
    lastCheckedAt := some now
    consecutiveFailures := s.consecutiveFailures + 1 }
  (s, result s status (some (reason.take 200)))

/-- `_unchanged`. -/
def unchanged (s : PackSource) (reason : Text) (etag : Option Text) :
    PackSource × Report :=
  let s := { s with
    lastStatus := some .unchanged
    lastError := none
    consecutiveFailures := 0
    etag := orElse etag s.etag }
  (s, result s .unchanged (some reason))

/-- What `fetch_conditional` returns: not modified, or a body and its ETag. -/
inductive Fetched
  | notModified
  | body (body : Bytes) (etag : Option Text)

/-- `fetch_conditional`: a server that honours it answers 304 to its own ETag. -/
def Server.fetch (server : Server) (etag : Option Text) : Except Outage Fetched :=
  match server.outage with
  | some outage => .error outage
  | none =>
    if server.conditional && (orElse etag none).isSome && decide (etag = server.etag) then
      .ok .notModified
    else .ok (.body server.body server.etag)

/-- What a poll finds: all it has to report, or a manifest to apply, with the source
that records it. -/
inductive Look
  | reported (source : PackSource) (report : Report)
  | changed (source : PackSource) (manifest : Manifest) (digest canonical : Text)
      (commit : Option Text)

def failure (s : PackSource) (now : Int) (status : SyncOutcome) (reason : Text) : Look :=
  .reported (recordError s now status reason).1 (recordError s now status reason).2

def nothingNew (s : PackSource) (reason : Text) (etag : Option Text) : Look :=
  .reported (unchanged s reason etag).1 (unchanged s reason etag).2

variable (build : Build)

/-- `check_pack_source`, from a body that is new. -/
def lookAt (s : PackSource) (p : Poll) (body : Bytes) (etag : Option Text) : Look :=
  match build.parse body with
  | .error problem => failure s p.now .invalid problem
  | .ok manifest =>
    match p.commit, build.manifestSha manifest with
    | .ok commit, .ok canonical =>
      .changed
        { s with
          etag := orElse etag s.etag
          lastSha256 := some (sha256Bytes body)
          lastManifestSha := some canonical
          lastCommitSha := commit
          lastError := none
          consecutiveFailures := 0 }
        manifest (sha256Bytes body) canonical commit
    | .error e, _ => failure s p.now .invalid ("could not hash manifest: ".toList ++ e)
    | _, .error e => failure s p.now .invalid ("could not hash manifest: ".toList ++ e)

def PackSource.dueAt (s : PackSource) : Option Int :=
  if backoffSeconds s.consecutiveFailures = 0 then none
  else s.lastCheckedAt.map fun checked => checked + backoffSeconds s.consecutiveFailures

/-- `check_pack_source`, for a source that is due. -/
def fetchAndCompare (s : PackSource) (p : Poll) : Look :=
  match build.validateUrl s.url with
  | .error e => failure s p.now .invalid e
  | .ok _ =>
    match p.server.fetch s.etag with
    | .error (.tooLarge e) => failure s p.now .invalid e
    | .error (.raised e) => failure s p.now .error e
    | .ok .notModified =>
      nothingNew { s with lastCheckedAt := some p.now } "not modified".toList none
    | .ok (.body body etag) =>
      if s.lastSha256 = some (sha256Bytes body) then
        nothingNew { s with lastCheckedAt := some p.now } "content identical".toList etag
      else lookAt build { s with lastCheckedAt := some p.now } p body etag

/-- `check_pack_source`, up to `_apply`. -/
def look (s : PackSource) (p : Poll) : Look :=
  if !s.enabled then .reported s (result s .unchanged (some "source disabled".toList))
  else match s.dueAt with
    | some dueAt =>
      if p.now < dueAt then
        .reported s (result s .backoff (some (natText s.consecutiveFailures ++
          " consecutive failures; next attempt due ".toList ++ build.isoformat dueAt)))
      else fetchAndCompare build s p
    | none => fetchAndCompare build s p

/-- `_clear_pending`. -/
def clearPending (s : PackSource) (status : SyncOutcome) : PackSource :=
  { s with
    lastStatus := some status
    pendingManifest := []
    pendingSha256 := none
    pendingManifestSha := none
    pendingCommitSha := none }

/-- `_apply`: pending, unless the source installs by itself. -/
def applyManifest (s : PackSource) (p : Poll) (manifest : Manifest) (digest canonical : Text)
    (commit : Option Text) : Except Text (PackSource × Report) :=
  if !s.autoInstall then
    let s := { s with
      lastStatus := some .pending
      pendingManifest := manifest
      pendingSha256 := some digest
      pendingManifestSha := some canonical
      pendingCommitSha := commit }
    .ok (s, result s .pending none (some (build.version manifest)) commit)
  else do
    let version ← p.install
    let s := clearPending s .installed
    return (s, result s .installed none (some version) commit)

/-- `check_pack_source`: the source after the poll, and the report. -/
def checkPackSource (s : PackSource) (p : Poll) : PackSource × Report :=
  match look build s p with
  | .reported s report => (s, report)
  | .changed s manifest digest canonical commit =>
    match applyManifest build s p manifest digest canonical commit with
    | .ok r => r
    | .error e => recordError s p.now .error e

/-- `adopt_pending`: it installs what is pending, or raises. -/
def adoptPending (s : PackSource) (install : Except Text Text) : Except Text PackSource :=
  if s.pendingManifest.isEmpty then .error "nothing pending for this source".toList
  else do
    let _ ← install
    return clearPending s .installed

end Concord.Packs
