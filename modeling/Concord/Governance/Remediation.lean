import Concord.Governance.Inventory

/-!
# Remediation guidance

The plan a failed control test writes into its POA&M: `remediation_guidance` of
`ccf/governance/control_tests.py`, over the playbooks of `ccf/posture/remediation.py`.
-/

namespace Concord.Governance

open Concord.Python

structure RemediationPlaybook where
  actions : List String
  evidence : List String
  milestones : List String

def mfaRegistered : RemediationPlaybook where
  actions :=
    ["Identify users without registered MFA methods from the failing-resource list.",
     "Require registration through Conditional Access or authentication-methods " ++
       "registration campaign.",
     "Confirm break-glass and service accounts have documented compensating " ++
       "controls or approved exclusions."]
  evidence :=
    ["Graph authentication method registration report or equivalent export.",
     "Conditional Access/authentication methods policy export.",
     "Re-scan result showing all applicable users pass or approved waivers for " ++
       "exclusions."]
  milestones :=
    ["Notify affected account owners and set registration deadline.",
     "Enable or update MFA registration enforcement.",
     "Re-run the automated M365 identity check and attach passing evidence."]

def legacyAuthBlocked : RemediationPlaybook where
  actions :=
    ["Review Conditional Access policies for legacy client app coverage.",
     "Create or enable a policy blocking Exchange ActiveSync and other legacy " ++
       "authentication clients.",
     "Monitor sign-in logs for blocked legacy-auth attempts and legitimate " ++
       "application impact."]
  evidence :=
    ["Conditional Access policy export showing legacy clients blocked.",
     "Sign-in log sample showing policy enforcement.",
     "Passing re-scan result for the legacy-auth check."]
  milestones := []

def rootMfaEnabled : RemediationPlaybook where
  actions :=
    ["Sign in with the account root user through the approved emergency process.",
     "Register a hardware or virtual MFA device for the root user.",
     "Store root credentials and MFA recovery material according to " ++
       "privileged-access procedure."]
  evidence :=
    ["IAM account summary or credential report showing root MFA enabled.",
     "Privileged-access procedure or access vault record.",
     "Passing re-scan result for root MFA."]
  milestones := []

def multiRegionLogging : RemediationPlaybook where
  actions :=
    ["Create or update an organization/account CloudTrail trail to apply to all " ++
       "regions.",
     "Enable logging and confirm the trail writes to the approved protected " ++
       "destination.",
     "Review CloudTrail status for delivery errors."]
  evidence :=
    ["CloudTrail trail configuration export showing multi-region logging enabled.",
     "Trail status showing IsLogging=true.",
     "Passing re-scan result for CloudTrail multi-region logging."]
  milestones := []

/-- `_PLAYBOOKS`. -/
def playbooks : List (String × RemediationPlaybook) :=
  [("m365.identity.mfa_registered", mfaRegistered),
   ("m365.policy.legacy_auth_blocked", legacyAuthBlocked),
   ("aws.iam.root_mfa_enabled", rootMfaEnabled),
   ("aws.cloudtrail.multi_region_logging", multiRegionLogging)]

/-- `playbook_for`. -/
def playbookFor (checkKey : Option Text) : Option RemediationPlaybook :=
  match checkKey with
  | some (c :: cs) => (playbooks.find? fun p => p.1.toList = c :: cs).map Prod.snd
  | _ => none

/-- `f"- {item}"`. -/
def bullets (items : List String) : List Text :=
  items.map fun item => "- ".toList ++ item.toList

/-- `"\n".join(lines)`. -/
def joinLines (lines : List Text) : Text := List.intercalate ['\n'] lines

/-- `remediation_guidance`. -/
def remediationGuidance (t : ControlTest) (detail : Text) : Text :=
  let expected := (orElse t.expected none).getD "the expected control state".toList
  let provider := (orElse t.connectorType none).getD "the applicable provider".toList
  let checked := match orElse t.checkKey none with
    | some key => ["Automated check: ".toList ++ key ++ ['.']]
    | none => []
  let steps := match playbookFor t.checkKey with
    | none =>
      ["Recommended actions: review the failing resources from the latest ".toList ++
        provider ++ (" scan, correct the provider configuration or resource assignment, " ++
        "and re-run the automated control check.").toList,
       ("Validation evidence: attach the passing scan result, affected resource " ++
        "identifiers, and any provider policy/configuration export used to prove the " ++
        "corrected state.").toList]
    | some playbook =>
      "Recommended actions:".toList :: bullets playbook.actions ++
        (if playbook.milestones.isEmpty then []
          else "Suggested milestones:".toList :: bullets playbook.milestones) ++
        "Validation evidence:".toList :: bullets playbook.evidence
  joinLines
    (["Remediation objective: bring ".toList ++ t.controlId ++
        " into alignment so ".toList ++ expected ++ ['.']] ++
      checked ++
      ["Observed condition: ".toList ++ detail] ++
      steps ++
      [("SSP impact: update the implementation statement and evidence references for " ++
        "this control if the remediation changes responsibility, implementation " ++
        "status, or inherited/provider-managed coverage.").toList])

end Concord.Governance
