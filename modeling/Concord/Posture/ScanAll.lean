import Mathlib.Algebra.GroupWithZero.Nat
import Mathlib.Algebra.Ring.Int.Defs
import Concord.Base.Savepoints
import Concord.Python.Text
import Concord.Python.KeyOrder

/-!
# Scanning one system with every provider

`ccf/posture/scan_all.py`: `scan_all_providers`. What a provider does is given (`Calls`): the
scope of a system, the readiness of a provider, a manual review, a scan, and the two reads
that follow the providers. Each may write, raise, or leave the transaction aborted.

A provider that is ready is scanned in a savepoint, as are the two reads; the scope, the
readiness and the manual reviews of a provider that is not ready are not. What these raise
leaves the function.
-/

namespace Concord.Posture

open Concord.Base
open Concord.Python

/-- An exception: the name of its type and its text. -/
structure Raised where
  type : Text
  text : Text
  deriving DecidableEq

def inFailedTransaction : Raised :=
  ⟨"DBAPIError".toList, "current transaction is aborted".toList⟩

/-- A row of `systems`. -/
structure System where
  id : Nat
  organizationId : Nat
  deleted : Bool
  deriving DecidableEq

/-- A check of a provider, as its readiness describes it. -/
structure Check where
  checkKey : Text
  scanApplicability : Text
  controlIds : List Text
  deriving DecidableEq

structure Readiness where
  ready : Bool
  status : Text
  reason : Option Text
  checks : List Check
  checksExpected : Int
  deriving DecidableEq

/-- A provider in `provider_scope`. -/
structure ProviderScope where
  inScope : Bool
  reason : Text
  deriving DecidableEq

/-- What `apply_provider_scope` returns. -/
structure AppliedScope where
  scope : List (Text × ProviderScope)
  outOfScope : List (Text × Text)
  retired : List Text
  withdrawn : List Text
  deriving DecidableEq

/-- A result recorded for a check that nobody scanned. -/
structure ManualResult where
  checkKey : Text
  verdict : Text
  deriving DecidableEq

/-- What `scan_for_system` returns. -/
structure ProviderScan where
  checksExpected : Int
  checksRun : Int
  results : List Text
  skippedChecks : List Text
  reason : Option Text
  deriving DecidableEq

/-- One entry of `connectors`. -/
structure ProviderResult where
  systemId : Nat
  connector : Text
  readiness : Readiness
  checksExpected : Int
  checksRun : Int
  results : List Text
  skippedChecks : List Text
  manualReviewResults : List ManualResult
  reason : Option Text
  deriving DecidableEq

/-- The report of a read that follows the providers. -/
structure ReadReport where
  systemId : Nat
  available : Bool
  reason : Option Text
  deriving DecidableEq

/-- What `scan_all_providers` returns. -/
structure ScanReport where
  systemId : Nat
  connectors : List ProviderResult
  checksExpected : Int
  checksRun : Int
  skippedChecksTotal : Nat
  manualReviewTotal : Nat
  providersScanned : Nat
  providersWithoutChecks : Nat
  providersUnavailable : List (Text × Text)
  attestations : ReadReport
  securescore : ReadReport
  outOfScope : List (Text × Text)
  retired : List Text
  withdrawn : List Text
  deriving DecidableEq

/-- What the scan calls, on a session of content `σ`. -/
structure Calls (σ : Type) where
  systems : σ → List System
  knownProviders : List Text
  applyProviderScope : System → Text → Txn σ Raised AppliedScope
  providerReadiness : Nat → Text → Txn σ Raised Readiness
  recordManualReviewCheck : Nat → Text → Check → Text → Text → Txn σ Raised ManualResult
  scanForSystem : Nat → Text → Text → List Text → Txn σ Raised ProviderScan
  ingestAttestations : Nat → Text → Txn σ Raised ReadReport
  ingestSecurescore : Nat → Text → Txn σ Raised ReadReport
  commit : Txn σ Raised Unit

/-- `dict.get`. -/
def scopeOf (scope : List (Text × ProviderScope)) (key : Text) : Option ProviderScope :=
  (scope.find? fun kv => kv.1 = key).map Prod.snd

/-- `x or y` of a text that may be missing. -/
def orText (x : Option Text) (y : Text) : Text :=
  match x with
  | some t => if t = [] then y else t
  | none => y

def truthy : Option Text → Bool
  | some t => !t.isEmpty
  | none => false

/-- `f"provider scan failed ({type(exc).__name__}); …"`. -/
def providerFailed (e : Raised) : Text :=
  "provider scan failed (".toList ++ e.type
    ++ "); nothing was recorded for this provider".toList

def readFailed (what : Text) (e : Raised) : Text :=
  "the ".toList ++ what ++ " read failed (".toList ++ e.type
    ++ "); nothing was recorded for it, and the posture scan above is unaffected".toList

/-- `_attestations_not_read`, and `securescore_report(available=False)`. -/
def notRead (systemId : Nat) (reason : Text) : ReadReport := ⟨systemId, false, some reason⟩

namespace Calls

variable {σ : Type} (c : Calls σ)

/-- `session.get(System, system_id)`. -/
def getSystem (systemId : Nat) : Txn σ Raised (Option System) :=
  .statement inFailedTransaction fun rows =>
    some ((c.systems rows).find? fun s => s.id = systemId, rows)

/-- The entry of a provider that is not ready: each of its checks goes to a person. -/
def notReady (systemId : Nat) (actor key : Text) (r : Readiness) :
    Txn σ Raised ProviderResult := do
  let reason := orText r.reason r.status
  let manual ← r.checks.mapM fun check =>
    c.recordManualReviewCheck systemId key check reason actor
  return {
    systemId := systemId, connector := key, readiness := r, checksExpected := r.checksExpected
    checksRun := 0, results := [], skippedChecks := r.checks.map Check.checkKey
    manualReviewResults := manual, reason := some reason }

def scannable (check : Check) : Bool := check.scanApplicability = "scan".toList

/-- The body of a provider's savepoint: manual reviews of what is out of API scope, then the
scan of the rest. -/
def scanProvider (systemId : Nat) (actor key : Text) (r : Readiness) :
    Txn σ Raised ProviderResult := do
  let manual ← (r.checks.filter fun check => !scannable check).mapM fun check =>
    c.recordManualReviewCheck systemId key check check.scanApplicability actor
  let out ← c.scanForSystem systemId key actor ((r.checks.filter scannable).map Check.checkKey)
  return {
    systemId := systemId, connector := key, readiness := r
    checksExpected := out.checksExpected, checksRun := out.checksRun, results := out.results
    skippedChecks := out.skippedChecks, manualReviewResults := manual, reason := out.reason }

def failedProvider (systemId : Nat) (key : Text) (r : Readiness) (e : Raised) :
    ProviderResult where
  systemId := systemId
  connector := key
  readiness := r
  checksExpected := 0
  checksRun := 0
  results := []
  skippedChecks := []
  manualReviewResults := []
  reason := some (providerFailed e)

/-- One provider: nothing where it is out of scope. The entry of a scan is appended in the
savepoint, and stays in the list where the release raises. -/
def provider (systemId organizationId : Nat) (actor : Text)
    (scope : List (Text × ProviderScope)) (key : Text) :
    Txn σ Raised (List ProviderResult) :=
  match scopeOf scope key with
  | some ⟨false, _⟩ => pure []
  | _ => do
    let r ← c.providerReadiness organizationId key
    if r.ready then
      let (body, exit) ← (c.scanProvider systemId actor key r).savepoint inFailedTransaction
      return (match body with | .ok out => [out] | .error _ => [])
        ++ (match exit with | .ok _ => [] | .error e => [failedProvider systemId key r e])
    else
      return [← c.notReady systemId actor key r]

/-- One of the two reads after the providers, for the provider whose scope decides. -/
def readAfter (what : Text) (scope : Option ProviderScope) (systemId : Nat)
    (ingest : Txn σ Raised ReadReport) : Txn σ Raised ReadReport :=
  match scope with
  | some ⟨false, reason⟩ => pure (notRead systemId ("not read: ".toList ++ reason))
  | _ => do
    match ← ingest.savepoint inFailedTransaction with
    | (.ok report, .ok _) => return report
    | (_, .error e) | (.error e, _) => return notRead systemId (readFailed what e)

/-- The report, from what the parts of the scan returned. -/
def report (systemId : Nat) (applied : AppliedScope) (results : List ProviderResult)
    (attestations securescore : ReadReport) : ScanReport where
  systemId := systemId
  connectors := results
  checksExpected := (results.map ProviderResult.checksExpected).sum
  checksRun := (results.map ProviderResult.checksRun).sum
  skippedChecksTotal := (results.map fun r => r.skippedChecks.length).sum
  manualReviewTotal := (results.map fun r => r.manualReviewResults.length).sum
  providersScanned := (results.filter fun r => r.checksRun ≠ 0).length
  providersWithoutChecks :=
    (results.filter fun r => r.checksExpected = 0 && !truthy r.reason).length
  providersUnavailable :=
    (results.filter fun r => truthy r.reason).map fun r => (r.connector, r.reason.getD [])
  attestations := attestations
  securescore := securescore
  outOfScope := applied.outOfScope
  retired := applied.retired
  withdrawn := applied.withdrawn

/-- `scan_all_providers`. -/
def scanAllProviders (systemId organizationId : Nat) (actor : Text) (commit : Bool) :
    Txn σ Raised ScanReport := do
  match ← c.getSystem systemId with
  | none =>
    .raise ⟨"ValueError".toList,
      "unknown system: ".toList ++ natText systemId⟩
  | some system =>
    let applied ← c.applyProviderScope system actor
    let keys := c.knownProviders.insertionSort Json.keyLe
    let results ← keys.mapM fun key => c.provider systemId organizationId actor applied.scope key
    let attestations ← readAfter "provider attestation".toList
      (scopeOf applied.scope "aws_govcloud".toList) systemId
      (c.ingestAttestations systemId actor)
    let securescore ← readAfter "Secure Score".toList
      (scopeOf applied.scope "msgraph".toList) systemId (c.ingestSecurescore systemId actor)
    if commit then c.commit
    return report systemId applied results.flatten attestations securescore

/-! ## What is contained, and what is not -/

/-- **The two reads never fail a scan.** -/
theorem readAfter_contains (what : Text) (scope : Option ProviderScope) (systemId : Nat)
    (ingest : Txn σ Raised ReadReport) (s : Session σ) :
    ∃ r t, (readAfter what scope systemId ingest).run s = (.ok r, t) := by
  unfold readAfter
  split
  · exact ⟨_, s, rfl⟩
  · rw [Txn.run_bind_ok (Txn.run_savepoint ingest s)]
    split
    · exact ⟨_, _, rfl⟩
    · exact ⟨_, _, rfl⟩
    · exact ⟨_, _, rfl⟩

/-- **The scan of a ready provider never fails a scan**, and leaves a usable session usable: what
a provider does not contain is its readiness and, where it is not ready, its manual reviews. -/
theorem provider_contains {systemId organizationId : Nat} {actor key : Text}
    {scope : List (Text × ProviderScope)} {s t : Session σ} {r : Readiness}
    (hr : (c.providerReadiness organizationId key).run s = (.ok r, t)) (hready : r.ready = true)
    (ht : t.aborted = false) :
    ∃ out u, (c.provider systemId organizationId actor scope key).run s = (.ok out, u) ∧
      (u.aborted = false ∨ u = s) := by
  unfold provider
  split
  · exact ⟨_, s, rfl, Or.inr rfl⟩
  · rw [Txn.run_bind_ok hr, if_pos hready,
      Txn.run_bind_ok (Txn.run_savepoint (c.scanProvider systemId actor key r) t)]
    exact ⟨_, _, rfl, Or.inl (Txn.nested_usable ht)⟩

end Calls

end Concord.Posture
