import Concord.Base.Run
import Concord.Catalog.Oscal

/-!
# Polling a catalog source

`check_source` of `ccf/etl/sources.py`: what a source serves is fetched, compared with the digest
of the content seen last, and read, ingested or captured where it differs. What the server
answers, and whether ingesting and capturing succeed, is given for each poll.

Three things are recorded of a content, at three places: the ETag before it is read, the index of
its controls once it is read, and the digest at the end. A poll that fails in between keeps what
it has recorded by then.
-/

namespace Concord.Etl

open Concord.Python
open Concord.Catalog (Interpreter PyError parseOscalCatalog sha256Hex)

/-! ## Sources and checks -/

inductive SourceKind
  | oscalCatalog | xlsx | generic
  deriving DecidableEq

inductive CheckStatus
  | unchanged | changed | ingested | error
  deriving DecidableEq

/-- A row of `catalog_sources`. Times are seconds. -/
structure CatalogSource where
  key : Text
  kind : SourceKind
  autoIngest : Bool
  etag : Option Text
  lastSha256 : Option Text
  contentIndex : Dict Text Text
  revisionLabel : Json
  itemCount : Option Nat
  lastStatus : Option CheckStatus
  lastError : Option Text
  lastCheckedAt : Option Int
  lastChangedAt : Option Int

/-- The controls that differ between two contents: the first 200 of each kind, and how many. -/
structure Changelog where
  added : List Text
  modified : List Text
  removed : List Text
  counts : Nat × Nat × Nat
  deriving DecidableEq

/-- `detail`. -/
structure Detail where
  message : Option Text := none
  previousSha256 : Option Text := none
  changelog : Option Changelog := none
  captureError : Option Text := none
  captureRejected : Bool := false
  error : Option Text := none
  deriving DecidableEq

/-- A row of `catalog_checks`. -/
structure CatalogCheck where
  status : CheckStatus
  httpStatus : Option Nat
  sha256 : Option Text
  detail : Detail
  deriving DecidableEq

/-! ## The changelog -/

def sortedTexts (texts : List Text) : List Text := texts.insertionSort Json.keyLe

/-- `diff_content_index`, with the limits of the detail. -/
def diffContentIndex (old new : Dict Text Text) : Changelog :=
  let oldKeys := old.items.map Prod.fst
  let newKeys := new.items.map Prod.fst
  let added := sortedTexts (newKeys.filter (· ∉ oldKeys))
  let removed := sortedTexts (oldKeys.filter (· ∉ newKeys))
  let modified := sortedTexts
    (oldKeys.filter fun k => k ∈ newKeys && decide (old.get? k ≠ new.get? k))
  { added := added.take 200
    modified := modified.take 200
    removed := removed.take 200
    counts := (added.length, modified.length, removed.length) }

/-! ## The poll -/

/-- What reads the documents, and the text of what it raises. -/
structure Reader extends Interpreter where
  /-- `str(exc)` -/
  message : PyError → Text

/-- The server at a poll: what it serves, under which ETag, to which `If-None-Match` it answers
304, and why it does not answer at all. -/
structure Server where
  body : Bytes
  etag : Option Text
  notModified : Option Text → Bool
  outage : Option Text := none

/-- What becomes of a revision that is captured. -/
inductive Capture
  | noBaselines (reason : Text)
  | stored
  | rejected (notes : Text)
  | raised (reason : Text)

/-- A poll: the arguments of `check_source`, the clock, and what it calls. A database error is
not among these: it loses the transaction, and with it the poll. -/
structure Poll where
  now : Int
  server : Server
  dataDir : Bool := true
  revisionDataRoot : Bool := true
  ingest : Except Text Unit := .ok ()
  capture : Capture := .stored

/-- What `fetch_conditional` returns. -/
inductive Fetched
  | notModified
  | body (body : Bytes) (etag : Option Text)

/-- `fetch_conditional`. -/
def Server.fetch (server : Server) (etag : Option Text) : Except Text Fetched :=
  match server.outage with
  | some reason => .error reason
  | none =>
    if server.notModified (orElse etag none) then .ok .notModified
    else .ok (.body server.body server.etag)

/-- `_800_53_CATALOG_KEY`. -/
def catalogKey80053 : Text := "nist_800_53_r5_catalog".toList

/-- The `except`: what the source holds by then, it keeps. -/
def failed (s : CatalogSource) (now : Int) (httpStatus : Option Nat) (sha : Option Text)
    (detail : Detail) (reason : Text) : CatalogSource × CatalogCheck :=
  ({ s with
     lastStatus := some .error
     lastCheckedAt := some now
     lastError := some (reason.take 500) },
   { status := .error
     httpStatus := httpStatus
     sha256 := sha
     detail := { detail with error := some (reason.take 500) } })

def unchanged (s : CatalogSource) (httpStatus : Nat) (sha : Option Text) (message : Text) :
    CatalogSource × CatalogCheck :=
  ({ s with lastStatus := some .unchanged },
   { status := .unchanged
     httpStatus := some httpStatus
     sha256 := sha
     detail := { message := some message } })

/-- The end of a poll that found a drift, of which no capture was rejected. -/
def drifted (s : CatalogSource) (sha : Text) (detail : Detail) : CatalogSource × CatalogCheck :=
  ({ s with lastStatus := some .changed, lastSha256 := some sha },
   { status := .changed, httpStatus := some 200, sha256 := some sha, detail := detail })

/-- The same, where a capture was: the ETag goes back to what it was. -/
def notCaptured (s : CatalogSource) (previousEtag : Option Text) (sha : Text) (detail : Detail)
    (reason : Text) : CatalogSource × CatalogCheck :=
  ({ s with lastStatus := some .changed, etag := previousEtag },
   { status := .changed
     httpStatus := some 200
     sha256 := some sha
     detail := { detail with captureError := some reason, captureRejected := true } })

/-- The content of an OSCAL catalog that has been read. -/
def captureRevision (s : CatalogSource) (previousEtag : Option Text) (p : Poll) (sha : Text)
    (detail : Detail) : CatalogSource × CatalogCheck :=
  if p.revisionDataRoot && decide (s.key = catalogKey80053) then
    match p.capture with
    | .noBaselines reason => notCaptured s previousEtag sha detail (reason.take 500)
    | .stored => drifted s sha detail
    | .rejected notes => notCaptured s previousEtag sha detail notes
    | .raised reason => failed s p.now (some 200) (some sha) detail reason
  else drifted s sha detail

variable (env : Reader)

/-- `check_source`, of a content that is new. -/
def processBody (s : CatalogSource) (previousEtag : Option Text) (p : Poll) (body : Bytes) :
    CatalogSource × CatalogCheck :=
  let sha := sha256Hex body
  let s := { s with lastChangedAt := some p.now }
  let detail : Detail := { previousSha256 := s.lastSha256 }
  match s.kind with
  | .oscalCatalog =>
    match parseOscalCatalog env.toInterpreter body with
    | .error exc => failed s p.now (some 200) (some sha) detail (env.message exc)
    | .ok (revision, index) =>
      -- the index moves on here, whatever becomes of the capture
      captureRevision
        { s with
          revisionLabel := revision
          itemCount := some index.items.length
          contentIndex := index }
        previousEtag p sha { detail with changelog := some (diffContentIndex s.contentIndex index) }
  | .xlsx =>
    if s.autoIngest && p.dataDir then
      match p.ingest with
      | .error reason => failed s p.now (some 200) (some sha) detail reason
      | .ok _ =>
        ({ s with lastStatus := some .ingested, lastSha256 := some sha },
         { status := .ingested, httpStatus := some 200, sha256 := some sha, detail := detail })
    else drifted s sha detail
  | .generic => drifted s sha detail

/-- `check_source`. -/
def checkSource (s : CatalogSource) (p : Poll) : CatalogSource × CatalogCheck :=
  match p.server.fetch s.etag with
  | .error reason => failed s p.now none none {} reason
  | .ok .notModified =>
    unchanged { s with lastCheckedAt := some p.now, lastError := none } 304 s.lastSha256
      "304 Not Modified".toList
  | .ok (.body body etag) =>
    -- the ETag is stored before anything is known of the content
    let fetched :=
      { s with lastCheckedAt := some p.now, lastError := none, etag := orElse etag s.etag }
    if s.lastSha256 = some (sha256Hex body) then
      unchanged fetched 200 (some (sha256Hex body)) "content identical (sha match)".toList
    else processBody env fetched s.etag p body

end Concord.Etl
