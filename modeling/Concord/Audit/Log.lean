import Mathlib.Data.List.Sort
import Concord.Base.HashChain
import Concord.Python.Sha256

/-!
# The audit log and its verification

`ccf/api/audit.py` (`_redact`, `row_hash`) and `verify_chain` of
`ccf/api/routes/audit.py`. A row of `ccf.audit_log` carries the hash of its
predecessor (`prev_hash`) and its own (`row_hash`), which covers the canonical
JSON of five of its columns. `organization_id` and `at` are outside the hash and
outside this model.

`verifyChain` is the loop of the route. `verifyChain_ok_iff` says what its
verdict means: the rows that carry a hash are linked in id order from the
genesis value (`HashChain.Linked`), and each one's hash is the recomputed one.
-/

namespace Concord.Audit

open Concord.Base Concord.Python

/-! ## Redaction -/

/-- `_REDACT`. -/
def redactPatterns : List Text :=
  ["password", "token", "secret", "api_token", "key", "credential",
    "private"].map String.toList

/-- `str.lower` of one character, as far as the patterns can tell: besides the
ASCII capitals only the Kelvin sign becomes a single ASCII letter. -/
def lower (c : Char) : Char := if c = '\u212a' then 'k' else c.toLower

/-- `any(s in k.lower() for s in _REDACT)`. -/
def isSecretKey (k : Text) : Bool :=
  redactPatterns.any fun s => (k.map lower).tails.any s.isPrefixOf

mutual

/-- `_redact`: the value under a secret-looking key is masked, at any depth. -/
def redact : Json → Json
  | .obj fields => .obj (redactFields fields)
  | .arr items => .arr (redactItems items)
  | v => v

def redactFields : List (Text × Json) → List (Text × Json)
  | [] => []
  | f :: fs => redactField f :: redactFields fs

def redactField : Text × Json → Text × Json
  | (k, v) => (k, if isSecretKey k then .str ['*', '*', '*'] else redact v)

def redactItems : List Json → List Json
  | [] => []
  | v :: vs => redact v :: redactItems vs

end

/-! ## Rows and their hash -/

/-- The hashed columns of a row. -/
structure Content where
  actor : Option Text
  action : Text
  entityType : Text
  entityId : Option Text
  diff : Json

/-- A nullable text column, as `json.dumps` sees it. -/
def optStr : Option Text → Json
  | none => .null
  | some s => .str s

def Content.payload (c : Content) : Json :=
  .ofItems
    [("actor".toList, optStr c.actor), ("action".toList, .str c.action),
     ("entity_type".toList, .str c.entityType),
     ("entity_id".toList, optStr c.entityId), ("diff".toList, c.diff)]

/-- A row of `ccf.audit_log`. -/
structure AuditLog where
  id : Nat
  content : Content
  prevHash : Option Text
  rowHash : Option Text

/-- `_GENESIS`. -/
def genesis : Text := List.replicate 64 '0'

/-- `x or _GENESIS`: `None` and the empty string both give the default. -/
def orGenesis : Option Text → Text
  | none => genesis
  | some [] => genesis
  | some (c :: cs) => c :: cs

/-- The text that is hashed: the previous hash, a line break, the canonical
payload. -/
def body (prevHash : Text) (content : Content) : Text :=
  prevHash ++ '\n' :: content.payload.dumps

/-- `row_hash`. -/
def rowHash (prevHash : Text) (content : Content) : Text :=
  Sha256.hexdigest (body prevHash content)

/-- The hash `verify_chain` recomputes for a row. -/
def AuditLog.expected (r : AuditLog) : Text :=
  Audit.rowHash (orGenesis r.prevHash) r.content

/-! ## Verification -/

/-- What the route answers. -/
structure Report where
  ok : Bool
  brokenAtId : Option Nat
  checked : Nat
  total : Nat

/-- The loop of `verify_chain`, over the rows still to come. -/
def verifyFrom (total : Nat) : Text → Nat → List AuditLog → Report
  | _, checked, [] => { ok := true, brokenAtId := none, checked, total }
  | prev, checked, r :: rs =>
    match r.rowHash with
    | none => verifyFrom total prev checked rs
    | some h =>
      if r.prevHash ≠ some prev ∨ h ≠ r.expected then
        { ok := false, brokenAtId := some r.id, checked, total }
      else verifyFrom total h (checked + 1) rs

/-- `order_by(AuditLog.id)`. -/
def orderById (rows : List AuditLog) : List AuditLog :=
  rows.insertionSort fun r s => r.id ≤ s.id

/-- `verify_chain`. -/
def verifyChain (rows : List AuditLog) : Report :=
  verifyFrom rows.length genesis 0 (orderById rows)

/-! ## What the verdict means -/

/-- A row that carries a hash, as the loop uses it. -/
structure Entry where
  prev : Option Text
  content : Content
  hash : Text

def AuditLog.entry? (r : AuditLog) : Option Entry :=
  r.rowHash.map fun h => ⟨r.prevHash, r.content, h⟩

def entries (rows : List AuditLog) : List Entry := rows.filterMap AuditLog.entry?

/-- The stored hash is the one recomputed from the row. -/
def Entry.Genuine (e : Entry) : Prop := e.hash = rowHash (orGenesis e.prev) e.content

/-- The entries are linked from `g`, and their hashes are recomputable. -/
structure Sound (g : Text) (es : List Entry) : Prop where
  linked : HashChain.Linked Entry.prev (fun e => some e.hash) (some g) es
  genuine : ∀ e ∈ es, e.Genuine

theorem sound_nil (g : Text) : Sound g [] where
  linked := trivial
  genuine := fun _ he => nomatch he

theorem sound_cons (g : Text) (e : Entry) (es : List Entry) :
    Sound g (e :: es) ↔ e.prev = some g ∧ e.Genuine ∧ Sound e.hash es := by
  constructor
  · rintro ⟨⟨hprev, hlinked⟩, hgen⟩
    exact ⟨hprev, hgen e List.mem_cons_self, hlinked,
      fun d hd => hgen d (List.mem_cons_of_mem e hd)⟩
  · rintro ⟨hprev, hgen, hlinked, hrest⟩
    refine ⟨⟨hprev, hlinked⟩, fun d hd => ?_⟩
    rcases List.mem_cons.mp hd with rfl | hd
    · exact hgen
    · exact hrest d hd

theorem entries_cons_none {r : AuditLog} (h : r.rowHash = none) (rs : List AuditLog) :
    entries (r :: rs) = entries rs := by
  simp [entries, AuditLog.entry?, h]

theorem entries_cons_some {r : AuditLog} {h : Text} (hr : r.rowHash = some h)
    (rs : List AuditLog) :
    entries (r :: rs) = ⟨r.prevHash, r.content, h⟩ :: entries rs := by
  simp [entries, AuditLog.entry?, hr]

theorem verifyFrom_ok_iff (total : Nat) (prev : Text) (checked : Nat)
    (rows : List AuditLog) :
    (verifyFrom total prev checked rows).ok = true ↔ Sound prev (entries rows) := by
  induction rows generalizing prev checked with
  | nil => exact ⟨fun _ => sound_nil prev, fun _ => rfl⟩
  | cons r rs ih =>
    cases hr : r.rowHash with
    | none =>
      -- a row without a hash is passed over, and the head stays where it was
      rw [entries_cons_none hr, ← ih prev checked]
      simp only [verifyFrom, hr]
    | some h =>
      rw [entries_cons_some hr, sound_cons]
      by_cases hbad : r.prevHash ≠ some prev ∨ h ≠ r.expected
      · have hrep : (verifyFrom total prev checked (r :: rs)).ok = false := by
          simp only [verifyFrom, hr]
          rw [if_pos hbad]
        rw [hrep]
        refine ⟨fun hf => absurd hf Bool.false_ne_true, ?_⟩
        rintro ⟨hprev, hgen, -⟩
        rcases hbad with hp | hh
        · exact absurd hprev hp
        · exact absurd hgen hh
      · have hrep : verifyFrom total prev checked (r :: rs) =
            verifyFrom total h (checked + 1) rs := by
          simp only [verifyFrom, hr]
          rw [if_neg hbad]
        rw [hrep, ih h (checked + 1)]
        rw [not_or, not_not, not_not] at hbad
        exact ⟨fun hs => ⟨hbad.1, hbad.2, hs⟩, fun hs => hs.2.2⟩

/-- **The verdict.** `verify_chain` reports `ok` exactly when the rows carrying a
hash, in id order, are linked and genuine. -/
theorem verifyChain_ok_iff (rows : List AuditLog) :
    (verifyChain rows).ok = true ↔ Sound genesis (entries (orderById rows)) :=
  verifyFrom_ok_iff rows.length genesis 0 (orderById rows)

/-! ## Rows in id order -/

def Ordered (rows : List AuditLog) : Prop := rows.Pairwise (fun r s => r.id < s.id)

theorem orderById_of_ordered {rows : List AuditLog} (h : Ordered rows) :
    orderById rows = rows :=
  (h.imp fun hlt => Nat.le_of_lt hlt).insertionSort_eq

theorem mem_orderById {q : AuditLog} {rows : List AuditLog} :
    q ∈ orderById rows ↔ q ∈ rows :=
  List.mem_insertionSort _

end Concord.Audit
