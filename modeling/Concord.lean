import Concord.Base.Run
import Concord.Base.Raises
import Concord.Base.HashChain
import Concord.Base.WorkItem
import Concord.Base.Slots
import Concord.Base.ReadCommitted
import Concord.Base.Savepoints
import Concord.Python.Json
import Concord.Python.Sha256
import Concord.Python.Text
import Concord.Python.Bytes
import Concord.Python.Hmac
import Concord.Python.Dict
import Concord.Python.Dates
import Concord.Python.KeyOrder
import Concord.Python.Ints
import Concord.Python.JsonDict
import Concord.Python.JsonEdit
import Concord.Python.Columns
import Concord.Python.Csv
import Concord.Python.Loads
import Concord.Python.ReadBack
import Concord.Audit.Log
import Concord.Audit.Appenders
import Concord.Audit.Tamper
import Concord.Queue.Jobs
import Concord.Queue.Workers
import Concord.Assessment.Acceptance
import Concord.Assessment.Lifecycle
import Concord.Assessment.Reevaluation
import Concord.Governance.Inventory
import Concord.Governance.Waivers
import Concord.Governance.Tasks
import Concord.Governance.Register
import Concord.Governance.Poams
import Concord.Governance.Remediation
import Concord.Governance.ControlTests
import Concord.Governance.Conmon
import Concord.Governance.Monitoring
import Concord.Governance.OpenWork
import Concord.Governance.Suppression
import Concord.Governance.Severity
import Concord.Governance.Importer
import Concord.Governance.Approvals
import Concord.Governance.ReviewCycle
import Concord.Governance.Datasets
import Concord.Governance.RowImport
import Concord.Governance.Exports
import Concord.Governance.RoundTrip
import Concord.Governance.Bus
import Concord.Governance.Collection
import Concord.Governance.Digest
import Concord.Governance.DigestAlerts
import Concord.Posture.ScanAll
import Concord.Governance.Scheduler
import Concord.Ingest.Scanners
import Concord.Ingest.Reconcile
import Concord.Ingest.Idempotence
import Concord.Poams.Operations
import Concord.Poams.Closure
import Concord.Poams.RiskAcceptance
import Concord.Poams.SignOff
import Concord.Poams.AnalystPlan
import Concord.Enforcement.Plans
import Concord.Enforcement.Reversal
import Concord.Packs.Sync
import Concord.Packs.Polls
import Concord.Packs.Catalog
import Concord.Packs.Service
import Concord.Packs.Installable
import Concord.Ai.Cipher
import Concord.Ai.Tokens
import Concord.Ai.Rotation
import Concord.Ai.KeyHistory
import Concord.Packages.Facts
import Concord.Packages.Replay
import Concord.Fedramp20x.Rules
import Concord.Fedramp20x.Support
import Concord.Fedramp20x.Context
import Concord.Prep.Stages
import Concord.Prep.Advance
import Concord.Prep.Resume
import Concord.Queue.Attempts
import Concord.Identity.Mfa
import Concord.Identity.OneTimeCodes
import Concord.Identity.Sessions
import Concord.Identity.PendingTokens
import Concord.Identity.Lockout
import Concord.Evidence.Storage
import Concord.Evidence.Service
import Concord.Evidence.Approval
import Concord.Cr26.Sla
import Concord.Cr26.Render
import Concord.Cr26.Accepted
import Concord.Cr26.Seed
import Concord.Cr26.Filed
import Concord.Cr26.Rationales
import Concord.Cr26.Accounting
import Concord.Cr26.Ocr
import Concord.Cr26.Sdr
import Concord.Cr26.Indicators
import Concord.Cr26.Requirements
import Concord.Cr26.Narratives
import Concord.Catalog.Oscal
import Concord.Catalog.Revisions
import Concord.Catalog.Faithful
import Concord.Etl.Sources
import Concord.Etl.Drift
import Concord.Etl.Pipeline
import Concord.Etl.Reingest
import Concord.Scoring.Derivation
import Concord.Scoring.Refresh
import Concord.Ssp.Statements
import Concord.Ssp.Generate
import Concord.Ssp.Disclosure
import Concord.Portal.Grants
import Concord.Portal.Promises
import Concord.Governance.Personnel
import Concord.Ssp.Gate
import Concord.Ssp.Agreement
import Concord.Ai.Registry
import Concord.Ai.Actions
import Concord.Ai.HumanApproval
import Concord.Integrations.Targets
import Concord.Integrations.Push
import Concord.Queue.Subjects
import Concord.Queue.Stranded
import Concord.Prep.Tenancy
import Concord.Cci.Reader
import Concord.Cci.Resolve
import Concord.Cci.Service
import Concord.Cci.Convergence
import Concord.Oscal.Tokens
import Concord.Oscal.Results
import Concord.Oscal.Reported
import Concord.Oscal.Spelling
import Concord.Oscal.Package
import Concord.Assessment.Bridge
import Concord.Base.Counts
import Concord.Base.Kleene
import Concord.Base.Patches
import Concord.Base.Precedence
import Concord.Python.Floats
import Concord.Python.Equality
import Concord.Identity.Users
import Concord.Identity.Scim
import Concord.Identity.Sso
import Concord.Identity.SecondFactors
import Concord.Analytics.Posture
import Concord.Analytics.Reconcile
import Concord.Catalog.CanonicalForm
import Concord.Cr26.Store
import Concord.Cr26.Scn
import Concord.Cr26.Incident
import Concord.Posture.Declared
import Concord.Posture.Drift
import Concord.Posture.Trust
import Concord.Posture.Scan
import Concord.Posture.Attested
import Concord.Posture.Scope
import Concord.Posture.Retention
import Concord.Fedramp20x.Monotone
import Concord.Ingest.ScanFile
import Concord.Ingest.RowIdentity
import Concord.Ingest.Severity
import Concord.Python.IpAddress
import Concord.Python.UrlSplit
import Concord.Packs.SourceUrl
import Concord.Assessment.Labels
import Concord.Assessment.Grounding
import Concord.Base.OrderBy
import Concord.Scoring.Engine
import Concord.Ai.Isolation
import Concord.Prep.Expand
import Concord.Prep.Retriever
import Concord.Prep.Docx
import Concord.Patching.Sla
import Concord.Patching.Campaigns
import Concord.Analytics.FrameworkPosture
import Concord.Capabilities.Derive
import Concord.Governance.TrustCorroboration
import Concord.Base.Breadth
import Concord.Assurance.Impact
import Concord.Etl.History
import Concord.Governance.Escalation
import Concord.Ssp.Completeness
import Concord.Python.Matches
import Concord.Ssp.Odp
import Concord.Cci.RowIdentifiers
import Concord.Cci.Reconcile
import Concord.Ai.Payloads
import Concord.Catalog.Normalisers
