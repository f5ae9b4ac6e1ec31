import Concord.Base.Run
import Concord.Python.JsonDict
import Concord.Python.Ints

/-!
# The outbound targets

`create` and `update` of `src/ccf/integrations/jira.py` and `src/ccf/integrations/emass.py`:
what each makes of the answer of the remote system. What is sent is left out, and so is how
`_explain` words a refusal.
-/

namespace Concord.Integrations

open Concord.Python

/-- `IntegrationRefused` and `IntegrationUnavailable`. -/
inductive IntegrationError where
  | refused (message : Text)
  | unavailable (message : Text)
  deriving DecidableEq

def IntegrationError.message : IntegrationError → Text
  | .refused message | .unavailable message => message

structure PushResult where
  externalId : Text
  url : Text
  created : Bool
  deriving DecidableEq

/-- What a request comes back with; a body that is no JSON is none. -/
inductive Answer where
  | unreachable (why : Text)
  | response (status : ℕ) (body : Option Json)

/-- What a call of a target ends with. -/
inductive Outcome where
  | ok (r : PushResult)
  | failed (e : IntegrationError)
  /-- Another exception. -/
  | raised
  deriving DecidableEq

def Outcome.ofExcept : Except IntegrationError PushResult → Outcome
  | .ok r => .ok r
  | .error e => .failed e

theorem Outcome.ofExcept_eq_ok {x : Except IntegrationError PushResult} {r : PushResult} :
    Outcome.ofExcept x = .ok r ↔ x = .ok r := by
  cases x <;> simp [Outcome.ofExcept]

/-- What the targets do with a JSON value, and with a refusal. -/
structure Wording where
  /-- `str(value)`. -/
  str : Json → Text
  /-- `bool(value)`. -/
  truthy : Json → Bool
  /-- `_explain`. -/
  explain : ℕ → Option Json → Text

/-- `_request`, of a target that calls itself so. -/
def request (w : Wording) (label base : Text) : Answer → Except IntegrationError (Option Json)
  | .unreachable why =>
    .error (.unavailable ("could not reach ".toList ++ label ++ " at ".toList ++ base ++
      ": ".toList ++ why))
  | .response status body =>
    if 400 ≤ status then .error (.refused (w.explain status body)) else .ok body

structure JiraTracker where
  base : Text

namespace JiraTracker

variable (w : Wording) (t : JiraTracker)

def label : Text := "Jira".toList

def browseUrl (issueKey : Text) : Text := t.base ++ "/browse/".toList ++ issueKey

/-- `_issue_key`. -/
def issueKey : Option Json → Except IntegrationError Text
  | none => .error (.refused "Jira returned a non-JSON body for a created issue".toList)
  | some data =>
    match (data.get? "key".toList).bind Json.str? with
    | some (c :: key) => .ok (c :: key)
    | _ => .error (.refused "Jira accepted the request but returned no issue key".toList)

def create (a : Answer) : Except IntegrationError PushResult := do
  let key ← issueKey (← request w label t.base a)
  return ⟨key, t.browseUrl key, true⟩

def update (externalId : Text) (a : Answer) : Except IntegrationError PushResult := do
  let _ ← request w label t.base a
  return ⟨externalId, t.browseUrl externalId, false⟩

end JiraTracker

structure EmassTarget where
  base : Text
  systemId : Int

namespace EmassTarget

variable (w : Wording) (t : EmassTarget)

def label : Text := "eMASS".toList

def packageUrl (poamId : Text) : Text :=
  t.base ++ "/#/id/".toList ++ (toString t.systemId).toList ++ "/poams/".toList ++ poamId

/-- `value or default`, of what a key has. -/
def written (d : Json) (key : Text) : Option Text :=
  ((d.get? key).filter w.truthy).map w.str

/-- `_first_success`. -/
def firstSuccess (body : Option Json) : Except IntegrationError Json :=
  match body with
  | none => .error (.refused "eMASS returned a non-JSON body".toList)
  | some (.obj fields) =>
    match fields.lookup "data".toList with
    | some (.arr (.obj item :: _)) =>
      match item.lookup "success".toList with
      | some (.bool true) => .ok (.obj item)
      | _ =>
        .error (.refused ("eMASS rejected the POA&M: ".toList ++
          ((written w (.obj item) "message".toList).or
            (written w (.obj item) "error".toList)).getD "no reason given".toList))
    | some (.arr (_ :: _)) =>
      .error (.refused "eMASS returned an unexpected POA&M result".toList)
    | _ => .error (.refused "eMASS returned no POA&M result".toList)
  | some _ => .error (.refused "eMASS returned an unexpected body".toList)

def create (a : Answer) : Except IntegrationError PushResult := do
  let data ← firstSuccess w (← request w label t.base a)
  match (written w data "poamId".toList).getD [] with
  | [] => .error (.refused "eMASS accepted the POA&M but returned no poamId".toList)
  | c :: poamId => return ⟨c :: poamId, t.packageUrl (c :: poamId), true⟩

/-- The identifier is read as a number before anything is sent. -/
def update (externalId : Text) (a : Answer) : Outcome :=
  match pyInt externalId with
  | none => .raised
  | some _ => .ofExcept do
    let _ ← firstSuccess w (← request w label t.base a)
    return ⟨externalId, t.packageUrl externalId, false⟩

end EmassTarget

/-- An `OutboundTarget`. -/
inductive Target where
  | jira (t : JiraTracker)
  | emass (t : EmassTarget)

namespace Target

variable (w : Wording)

def create : Target → Answer → Outcome
  | .jira t, a => .ofExcept (t.create w a)
  | .emass t, a => .ofExcept (t.create w a)

def update : Target → Text → Answer → Outcome
  | .jira t, externalId, a => .ofExcept (t.update w externalId a)
  | .emass t, externalId, a => t.update w externalId a

variable {w}

theorem externalId_of_update {t : Target} {externalId : Text} {a : Answer} {r : PushResult}
    (h : t.update w externalId a = .ok r) : r.externalId = externalId := by
  cases t with
  | jira t =>
    obtain ⟨body, -, hok⟩ := Base.bind_eq_ok.mp (Outcome.ofExcept_eq_ok.mp h)
    cases hok
    rfl
  | emass t =>
    simp only [update, EmassTarget.update] at h
    split at h
    · cases h
    · obtain ⟨body, -, hok⟩ := Base.bind_eq_ok.mp (Outcome.ofExcept_eq_ok.mp h)
      obtain ⟨data, -, hok⟩ := Base.bind_eq_ok.mp hok
      cases hok
      rfl

end Target

end Concord.Integrations
