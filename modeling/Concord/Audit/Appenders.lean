import Concord.Base.Run
import Concord.Audit.Log

/-!
# Concurrent appenders of the audit log

`record_event` (inside a caller's transaction, any number of times) and
`audit_middleware` (once, in a transaction of its own) append to the chain in
three database steps: take the advisory lock, read the hash of the row with the
highest id, insert. `step` lets any number of transactions take these steps, and
commit or abort, in any order:

- the lock is re-entrant and held until its transaction ends;
- a read sees the committed rows and the transaction's own;
- an insert takes the next id, and an aborted transaction gives none back.

What a row's hashed columns read back as once they are stored is the database's
business, and a parameter: `stored c` is `none` when the insert is refused (then
the transaction is lost). `diff` is a `JSONB` column, which keeps a number's
value but not its spelling, so the columns of a row can come back with another
canonical JSON than the one that was hashed.

`chained_of_run` is the run lemma: the committed rows are linked in every
reachable state, and every entry meets whatever predicate the inserts establish.
-/

namespace Concord.Audit

open Concord.Base Concord.Python

/-! ## What is appended -/

/-- The methods the middleware audits (`_MUTATING`). -/
inductive Method
  | post | put | patch | delete
  deriving DecidableEq

/-- `_ACTION`. -/
def Method.action : Method → Text
  | .post => "create".toList
  | .put => "update".toList
  | .patch => "update".toList
  | .delete => "delete".toList

def Method.name : Method → Text
  | .post => "POST".toList
  | .put => "PUT".toList
  | .patch => "PATCH".toList
  | .delete => "DELETE".toList

/-- `a or b`, for an optional string and a string. -/
def orText : Option Text → Text → Text
  | some (c :: cs), _ => c :: cs
  | _, b => b

/-- A finished mutating request outside the skipped paths, as the middleware
records it: `entityType` and `entityId` are `_entity(path)`, `body` the request
body where it was JSON. -/
structure Request where
  method : Method
  path : Text
  status : Nat
  body : Option Json
  principalEmail : Option Text
  xActor : Option Text
  defaultActor : Text
  entityType : Text
  entityId : Option Text

def Request.audited (r : Request) : Bool := decide (200 ≤ r.status ∧ r.status < 400)

/-- The `diff` of a request. -/
def Request.diff (r : Request) : Json :=
  .ofItems
    ([("method".toList, .str r.method.name), ("path".toList, .str r.path),
      ("status".toList, .nat r.status)] ++
      match r.body with
      | none => []
      | some b => [("body".toList, redact b)])

/-- One append: a call of `record_event`, or the middleware's record of a
request. -/
inductive Event
  | recordEvent (actor action entityType : Text) (entityId : Option Text)
      (diff : Json)
  | request (r : Request)

/-- The dict `content` of the two appenders. -/
def Event.content : Event → Content
  | .recordEvent actor action entityType entityId diff =>
    { actor := some actor, action, entityType, entityId, diff := redact diff }
  | .request r =>
    { actor := some (orText r.principalEmail (orText r.xActor r.defaultActor))
      action := r.method.action
      entityType := r.entityType
      entityId := r.entityId
      diff := r.diff }

/-! ## Transactions -/

/-- Where a transaction is between two appends, or inside one. `recorded`: the
middleware's transaction after its only append. -/
inductive Phase
  | idle
  | locked
  | headRead (prev : Text)
  | recorded

/-- An open transaction and the rows it has inserted. -/
structure Tx where
  phase : Phase
  pending : List AuditLog

abbrev TxId := Nat

structure Sys where
  committed : List AuditLog
  nextId : Nat
  lockHolder : Option TxId
  txs : TxId → Option Tx

def Sys.setTx (s : Sys) (t : TxId) (tx : Option Tx) : Sys :=
  { s with txs := fun u => if u = t then tx else s.txs u }

/-- The end of a transaction: it is gone, and so is its lock. -/
def Sys.close (s : Sys) (t : TxId) : Sys :=
  { s.setTx t none with
    lockHolder := if s.lockHolder = some t then none else s.lockHolder }

inductive Action
  | begin (t : TxId)
  | lock (t : TxId)
  | readHead (t : TxId)
  | insert (t : TxId) (e : Event)
  | commit (t : TxId)
  | abort (t : TxId)

/-- `select(AuditLog.row_hash).order_by(AuditLog.id.desc()).limit(1)`, and
`or _GENESIS`. -/
def headHash (rows : List AuditLog) : Text :=
  orGenesis ((orderById rows).getLast?.bind AuditLog.rowHash)

/-- Whether an appender may append the event now. -/
def Event.admitted : Event → Bool
  | .recordEvent .. => true
  | .request r => r.audited

def Event.after : Event → Phase
  | .recordEvent .. => .idle
  | .request _ => .recorded

/-- The row of an append: hashed from the content in memory, holding the content
as stored. -/
def newRow (id : Nat) (prev : Text) (content stored : Content) : AuditLog where
  id := id
  content := stored
  prevHash := some prev
  rowHash := some (rowHash prev content)

variable (stored : Content → Option Content)

def step (s : Sys) : Action → Option Sys
  | .begin t =>
    match s.txs t with
    | some _ => none
    | none => some (s.setTx t (some ⟨.idle, []⟩))
  | .lock t =>
    match s.txs t with
    | some ⟨.idle, pending⟩ =>
      if s.lockHolder = none ∨ s.lockHolder = some t then
        some { s.setTx t (some ⟨.locked, pending⟩) with lockHolder := some t }
      else none
    | _ => none
  | .readHead t =>
    match s.txs t with
    | some ⟨.locked, pending⟩ =>
      some (s.setTx t (some ⟨.headRead (headHash (s.committed ++ pending)), pending⟩))
    | _ => none
  | .insert t e =>
    match s.txs t with
    | some ⟨.headRead prev, pending⟩ =>
      if e.admitted then
        match stored e.content with
        | none => some { s.close t with nextId := s.nextId + 1 }
        | some c =>
          some { s.setTx t (some ⟨e.after,
              pending ++ [newRow s.nextId prev e.content c]⟩) with
            nextId := s.nextId + 1 }
      else none
    | _ => none
  | .commit t =>
    match s.txs t with
    | some tx => some { s.close t with committed := s.committed ++ tx.pending }
    | none => none
  | .abort t =>
    match s.txs t with
    | some _ => some (s.close t)
    | none => none

/-- The log as an upgrade leaves it: rows from before the chain, which carry no
hash, in id order below the next id. -/
structure Legacy (rows : List AuditLog) (nextId : Nat) : Prop where
  ordered : Ordered rows
  below : ∀ r ∈ rows, r.id < nextId
  unhashed : ∀ r ∈ rows, r.rowHash = none

def start (rows : List AuditLog) (nextId : Nat) : Sys where
  committed := rows
  nextId := nextId
  lockHolder := none
  txs := fun _ => none

/-! ## The chain of a list of rows -/

/-- Rows that form a chain: in id order below the next id, linked, every entry
meeting `P`, and the last row carrying the hash the next one has to name. -/
structure Chained (P : Entry → Prop) (rows : List AuditLog) (nextId : Nat) : Prop where
  ordered : Ordered rows
  below : ∀ r ∈ rows, r.id < nextId
  linked : HashChain.Linked Entry.prev (fun e => some e.hash) (some genesis)
    (entries rows)
  each : ∀ e ∈ entries rows, P e
  head : HashChain.tip (fun e : Entry => some e.hash) (some genesis) (entries rows) =
    some (headHash rows)

theorem entries_append (l m : List AuditLog) :
    entries (l ++ m) = entries l ++ entries m :=
  List.filterMap_append ..

theorem entries_eq_nil {rows : List AuditLog} (h : ∀ r ∈ rows, r.rowHash = none) :
    entries rows = [] := by
  refine List.filterMap_eq_nil_iff.mpr fun r hr => ?_
  rw [AuditLog.entry?, h r hr]
  rfl

theorem rowHash_ne_nil (prev : Text) (c : Content) : rowHash prev c ≠ [] := by
  intro h
  have hlen := congrArg List.length h
  simp [rowHash, Sha256.hexdigest, Sha256.State.hex, Sha256.hexWord] at hlen

theorem orGenesis_some {h : Text} (hne : h ≠ []) : orGenesis (some h) = h := by
  cases h with
  | nil => exact absurd rfl hne
  | cons c cs => rfl

theorem orGenesis_ne_nil (h : Option Text) : orGenesis h ≠ [] := by
  match h with
  | none => exact List.cons_ne_nil _ _
  | some [] => exact List.cons_ne_nil _ _
  | some (c :: cs) => exact List.cons_ne_nil c cs

theorem headHash_concat {rows : List AuditLog} {r : AuditLog}
    (h : Ordered (rows ++ [r])) : headHash (rows ++ [r]) = orGenesis r.rowHash := by
  rw [headHash, orderById_of_ordered h, List.getLast?_concat]
  rfl

theorem chained_of_legacy (P : Entry → Prop) {rows : List AuditLog} {n : Nat}
    (h : Legacy rows n) : Chained P rows n where
  ordered := h.ordered
  below := h.below
  linked := by
    rw [entries_eq_nil h.unhashed]
    trivial
  each := by
    rw [entries_eq_nil h.unhashed]
    exact fun e he => nomatch he
  head := by
    rw [entries_eq_nil h.unhashed, headHash, orderById_of_ordered h.ordered]
    cases hlast : rows.getLast? with
    | none => rfl
    | some r =>
      rw [Option.bind_some, h.unhashed r (List.mem_of_getLast? hlast)]
      rfl

theorem Chained.weaken {P : Entry → Prop} {rows : List AuditLog} {n m : Nat}
    (h : Chained P rows n) (hnm : n ≤ m) : Chained P rows m :=
  { h with below := fun r hr => Nat.lt_of_lt_of_le (h.below r hr) hnm }

theorem Chained.append {P : Entry → Prop} {rows : List AuditLog} {n : Nat}
    (h : Chained P rows n) {c c' : Content}
    (hP : P ⟨some (headHash rows), c', rowHash (headHash rows) c⟩) :
    Chained P (rows ++ [newRow n (headHash rows) c c']) (n + 1) := by
  have hentries : entries (rows ++ [newRow n (headHash rows) c c']) =
      entries rows ++ [⟨some (headHash rows), c', rowHash (headHash rows) c⟩] := by
    rw [entries_append]
    rfl
  have hord : Ordered (rows ++ [newRow n (headHash rows) c c']) := by
    refine List.pairwise_append.mpr ⟨h.ordered, List.pairwise_singleton _ _, ?_⟩
    intro r hr q hq
    rw [List.mem_singleton.mp hq]
    exact h.below r hr
  refine ⟨hord, ?_, ?_, ?_, ?_⟩
  · intro r hr
    rcases List.mem_append.mp hr with hr | hr
    · exact Nat.lt_succ_of_lt (h.below r hr)
    · rw [List.mem_singleton.mp hr]
      exact Nat.lt_succ_self n
  · rw [hentries, HashChain.linked_append]
    exact ⟨h.linked, h.head.symm, trivial⟩
  · rw [hentries]
    intro e he
    rcases List.mem_append.mp he with he | he
    · exact h.each e he
    · rw [List.mem_singleton.mp he]
      exact hP
  · rw [hentries, HashChain.tip_concat, headHash_concat hord]
    show some (rowHash _ _) = some (orGenesis (some (rowHash _ _)))
    rw [orGenesis_some (rowHash_ne_nil _ _)]

/-! ## The invariant -/

/-- What every reachable state satisfies: the committed rows are chained; only
the holder of the lock has inserted rows, is inside an append or has recorded;
and the holder's rows chain onto the committed ones, with the head it has read
the head they have. -/
structure Inv (P : Entry → Prop) (s : Sys) : Prop where
  committed : Chained P s.committed s.nextId
  others : ∀ t tx, s.txs t = some tx → s.lockHolder ≠ some t →
    tx.phase = .idle ∧ tx.pending = []
  holder : ∀ t tx, s.txs t = some tx → s.lockHolder = some t →
    Chained P (s.committed ++ tx.pending) s.nextId ∧
      ∀ prev, tx.phase = .headRead prev → prev = headHash (s.committed ++ tx.pending)

theorem inv_start (P : Entry → Prop) {rows : List AuditLog} {n : Nat}
    (h : Legacy rows n) : Inv P (start rows n) where
  committed := chained_of_legacy P h
  others := fun _ _ htx => nomatch htx
  holder := fun _ _ htx => nomatch htx

theorem setTx_txs {s : Sys} {t u : TxId} {x tx : Tx} :
    (s.setTx t (some x)).txs u = some tx ↔
      (u = t ∧ tx = x) ∨ (u ≠ t ∧ s.txs u = some tx) := by
  by_cases h : u = t <;> simp [Sys.setTx, h, @eq_comm _ tx]

theorem close_txs {s : Sys} {t u : TxId} {tx : Tx} :
    (s.close t).txs u = some tx ↔ u ≠ t ∧ s.txs u = some tx := by
  by_cases h : u = t <;> simp [Sys.close, Sys.setTx, h]

theorem close_lockHolder {s : Sys} {t u : TxId} :
    (s.close t).lockHolder = some u ↔ u ≠ t ∧ s.lockHolder = some u := by
  by_cases h : s.lockHolder = some t
  · simp only [Sys.close, h]
    constructor
    · intro hu
      cases hu
    · rintro ⟨hne, hu⟩
      exact absurd (Option.some.inj hu).symm hne
  · simp only [Sys.close, if_neg h]
    refine ⟨fun hu => ⟨?_, hu⟩, fun hu => hu.2⟩
    rintro rfl
    exact h hu

theorem Inv.close {P : Entry → Prop} {s : Sys} (h : Inv P s) (t : TxId) {n : Nat}
    (hn : s.nextId ≤ n) : Inv P { s.close t with nextId := n } where
  committed := h.committed.weaken hn
  others := by
    intro u tx htx hlock
    obtain ⟨hne, htx⟩ := close_txs.mp htx
    exact h.others u tx htx fun hu => hlock (close_lockHolder.mpr ⟨hne, hu⟩)
  holder := by
    intro u tx htx hlock
    obtain ⟨-, htx⟩ := close_txs.mp htx
    obtain ⟨hc, hprev⟩ := h.holder u tx htx (close_lockHolder.mp hlock).2
    exact ⟨hc.weaken hn, hprev⟩

theorem Inv.commit {P : Entry → Prop} {s : Sys} (h : Inv P s) {t : TxId} {tx : Tx}
    (htx : s.txs t = some tx) :
    Inv P { s.close t with committed := s.committed ++ tx.pending } := by
  by_cases hlock : s.lockHolder = some t
  · refine ⟨(h.holder t tx htx hlock).1, ?_, ?_⟩
    · intro u ux hux hu
      obtain ⟨hne, hux⟩ := close_txs.mp hux
      exact h.others u ux hux fun hu' => hu (close_lockHolder.mpr ⟨hne, hu'⟩)
    · intro u ux _ hu
      obtain ⟨hne, hu⟩ := close_lockHolder.mp hu
      exact absurd (Option.some.inj (hu.symm.trans hlock)) hne
  · -- without the lock there is nothing to commit
    rw [(h.others t tx htx hlock).2, List.append_nil]
    exact h.close t (Nat.le_refl s.nextId)

theorem Inv.advance {P : Entry → Prop} {s : Sys} (h : Inv P s) {t : TxId} {x : Tx}
    {n : Nat} (hn : s.nextId ≤ n) (hfree : s.lockHolder = none ∨ s.lockHolder = some t)
    (hchain : Chained P (s.committed ++ x.pending) n)
    (hhead : ∀ prev, x.phase = .headRead prev →
      prev = headHash (s.committed ++ x.pending)) :
    Inv P { s.setTx t (some x) with lockHolder := some t, nextId := n } where
  committed := h.committed.weaken hn
  others := by
    intro u ux hux hlock
    rcases setTx_txs.mp hux with ⟨rfl, -⟩ | ⟨hne, hux⟩
    · exact absurd rfl hlock
    · refine h.others u ux hux fun hu => ?_
      rcases hfree with hf | hf
      · rw [hf] at hu
        cases hu
      · exact hne (Option.some.inj (hu.symm.trans hf))
  holder := by
    intro u ux hux hlock
    have htu : t = u := Option.some.inj hlock
    rcases setTx_txs.mp hux with ⟨-, rfl⟩ | ⟨hne, -⟩
    · exact ⟨hchain, hhead⟩
    · exact absurd htu.symm hne

/-- What an insert has to establish of the entry it makes, whatever the head. -/
def Establishes (P : Entry → Prop) : Action → Prop
  | .insert _ e => ∀ prev c, prev ≠ [] → stored e.content = some c →
      P ⟨some prev, c, rowHash prev e.content⟩
  | _ => True

theorem Inv.lock_of_phase {P : Entry → Prop} {s : Sys} (h : Inv P s) {t : TxId}
    {tx : Tx} (htx : s.txs t = some tx) (hphase : tx.phase ≠ .idle) :
    s.lockHolder = some t := by
  by_contra hlock
  exact hphase (h.others t tx htx hlock).1

theorem Inv.begin {P : Entry → Prop} {s : Sys} (h : Inv P s) (t : TxId) :
    Inv P (s.setTx t (some ⟨.idle, []⟩)) where
  committed := h.committed
  others := by
    intro u ux hux hlock
    rcases setTx_txs.mp hux with ⟨-, rfl⟩ | ⟨-, hux⟩
    · exact ⟨rfl, rfl⟩
    · exact h.others u ux hux hlock
  holder := by
    intro u ux hux hlock
    rcases setTx_txs.mp hux with ⟨-, rfl⟩ | ⟨-, hux⟩
    · show Chained P (s.committed ++ []) s.nextId ∧ _
      rw [List.append_nil]
      exact ⟨h.committed, fun prev hp => nomatch hp⟩
    · exact h.holder u ux hux hlock

theorem Inv.lock {P : Entry → Prop} {s : Sys} (h : Inv P s) {t : TxId}
    {pending : List AuditLog} (htx : s.txs t = some ⟨.idle, pending⟩)
    (hfree : s.lockHolder = none ∨ s.lockHolder = some t) :
    Inv P { s.setTx t (some ⟨.locked, pending⟩) with lockHolder := some t } := by
  refine h.advance (Nat.le_refl _) hfree ?_ (fun prev hp => nomatch hp)
  by_cases hlock : s.lockHolder = some t
  · exact (h.holder t _ htx hlock).1
  · have hnil : pending = [] := (h.others t _ htx hlock).2
    show Chained P (s.committed ++ pending) s.nextId
    rw [hnil, List.append_nil]
    exact h.committed

theorem Inv.readHead {P : Entry → Prop} {s : Sys} (h : Inv P s) {t : TxId}
    {pending : List AuditLog} (htx : s.txs t = some ⟨.locked, pending⟩) :
    Inv P (s.setTx t (some ⟨.headRead (headHash (s.committed ++ pending)), pending⟩)) := by
  have hlock := h.lock_of_phase htx (fun hp => nomatch hp)
  have hinv := h.advance (x := ⟨.headRead (headHash (s.committed ++ pending)), pending⟩)
    (Nat.le_refl _) (.inr hlock) (h.holder t _ htx hlock).1
    (fun prev hp => (Phase.headRead.inj hp).symm)
  rw [← hlock] at hinv
  exact hinv

theorem Inv.insert {P : Entry → Prop} {s : Sys} (h : Inv P s) {t : TxId} {prev : Text}
    {pending : List AuditLog} (htx : s.txs t = some ⟨.headRead prev, pending⟩) (e : Event)
    {c : Content} (hP : prev ≠ [] → P ⟨some prev, c, rowHash prev e.content⟩) :
    Inv P { s.setTx t (some ⟨e.after, pending ++ [newRow s.nextId prev e.content c]⟩) with
      nextId := s.nextId + 1 } := by
  have hlock := h.lock_of_phase htx (fun hp => nomatch hp)
  obtain ⟨hchain, hhead⟩ := h.holder t _ htx hlock
  have hprev : prev = headHash (s.committed ++ pending) := hhead prev rfl
  subst hprev
  have hinv := h.advance (t := t)
    (x := ⟨e.after, pending ++
      [newRow s.nextId (headHash (s.committed ++ pending)) e.content c]⟩)
    (Nat.le_succ s.nextId) (.inr hlock) ?_ ?_
  · rw [← hlock] at hinv
    exact hinv
  · rw [← List.append_assoc]
    exact hchain.append (hP (orGenesis_ne_nil _))
  · intro prev hp
    cases e <;> cases hp

/-- **Step lemma.** -/
theorem inv_step {P : Entry → Prop} (s : Sys) (a : Action) (s' : Sys) (h : Inv P s)
    (ha : Establishes stored P a) (hstep : step stored s a = some s') : Inv P s' := by
  cases a with
  | begin t =>
    simp only [step] at hstep
    split at hstep
    · cases hstep
    · cases hstep
      exact h.begin t
  | lock t =>
    simp only [step] at hstep
    split at hstep
    · rename_i pending htx
      split at hstep
      · rename_i hfree
        cases hstep
        exact h.lock htx hfree
      · cases hstep
    · cases hstep
  | readHead t =>
    simp only [step] at hstep
    split at hstep
    · rename_i pending htx
      cases hstep
      exact h.readHead htx
    · cases hstep
  | insert t e =>
    simp only [step] at hstep
    split at hstep
    · rename_i prev pending htx
      split at hstep
      · split at hstep
        · -- refused by the database: the transaction is lost, the id spent
          cases hstep
          exact h.close t (Nat.le_succ s.nextId)
        · rename_i c hc
          cases hstep
          exact h.insert htx e fun hne => ha prev c hne hc
      · cases hstep
    · cases hstep
  | commit t =>
    simp only [step] at hstep
    split at hstep
    · rename_i tx htx
      cases hstep
      exact h.commit htx
    · cases hstep
  | abort t =>
    simp only [step] at hstep
    split at hstep
    · cases hstep
      exact h.close t (Nat.le_refl s.nextId)
    · cases hstep

/-- **Run lemma.** In every state a run reaches the committed rows are chained. -/
theorem chained_of_run {P : Entry → Prop} {rows : List AuditLog} {n : Nat}
    (hlegacy : Legacy rows n) {as : List Action} {s : Sys}
    (has : ∀ a ∈ as, Establishes stored P a)
    (hrun : exec (step stored) (start rows n) as = some s) :
    Chained P s.committed s.nextId :=
  (exec_invariant_of_mem (I := Inv P) (fun s a s' h ha => inv_step stored s a s' h ha)
    (inv_start P hlegacy) has hrun).committed

/-! ## Verification of a reachable log -/

/-- An append whose columns read back with the canonical JSON they were hashed
with. -/
def KeepsPayload : Action → Prop
  | .insert _ e => ∀ c, stored e.content = some c →
      c.payload.dumps = e.content.payload.dumps
  | _ => True

theorem body_congr {prev : Text} {c c' : Content}
    (h : c'.payload.dumps = c.payload.dumps) : body prev c' = body prev c := by
  rw [body, body, h]

theorem establishes_genuine {a : Action} (h : KeepsPayload stored a) :
    Establishes stored Entry.Genuine a := by
  cases a with
  | insert t e =>
    intro prev c hne hc
    show rowHash prev e.content = rowHash (orGenesis (some prev)) c
    rw [orGenesis_some hne, rowHash, rowHash, body_congr (h c hc)]
  | _ => trivial

theorem establishes_true (a : Action) : Establishes stored (fun _ => True) a := by
  cases a with
  | insert t e => exact fun _ _ _ _ => trivial
  | _ => trivial

/-- **Soundness of the chain under interleaving.** Whatever the appenders do, in
every reachable state each row names the hash of its committed predecessor; and
`verify_chain` reports `ok` if every appended row reads back with the canonical
JSON it was hashed with. -/
theorem verifyChain_of_run {rows : List AuditLog} {n : Nat} (hlegacy : Legacy rows n)
    {as : List Action} {s : Sys}
    (hrun : exec (step stored) (start rows n) as = some s) :
    HashChain.Linked Entry.prev (fun e => some e.hash) (some genesis)
        (entries (orderById s.committed)) ∧
      ((∀ a ∈ as, KeepsPayload stored a) → (verifyChain s.committed).ok = true) := by
  constructor
  · have hchain := chained_of_run stored hlegacy
      (fun a _ => establishes_true stored a) hrun
    rw [orderById_of_ordered hchain.ordered]
    exact hchain.linked
  · intro has
    have hchain := chained_of_run stored hlegacy
      (fun a ha => establishes_genuine stored (has a ha)) hrun
    rw [verifyChain_ok_iff, orderById_of_ordered hchain.ordered]
    exact ⟨hchain.linked, hchain.each⟩

/-! ## The column as PostgreSQL has it -/

/-- `jsonb` on a number whose text is one digit and a positive exponent: the
integer, in full. -/
def jsonbNumber (n : Number) : Number :=
  match n.text with
  | [d, 'e', '+', x, y] =>
    if d.isDigit ∧ x.isDigit ∧ y.isDigit then
      Number.ofNat ((d.toNat - 48) * 10 ^ (10 * (x.toNat - 48) + (y.toNat - 48)))
    else n
  | _ => n

mutual

def jsonb : Json → Json
  | .num n => .num (jsonbNumber n)
  | .arr items => .arr (jsonbItems items)
  | .obj fields => .obj (jsonbFields fields)
  | v => v

def jsonbItems : List Json → List Json
  | [] => []
  | v :: vs => jsonb v :: jsonbItems vs

def jsonbFields : List (Text × Json) → List (Text × Json)
  | [] => []
  | (k, v) :: fs => (k, jsonb v) :: jsonbFields fs

end

def jsonbStored (c : Content) : Option Content := some { c with diff := jsonb c.diff }

/-- `PATCH /api/poams/1` with the body `b`. -/
def patchPoam (b : Json) : Event :=
  .request
    { method := .patch, path := "/api/poams/1".toList, status := 200, body := some b
      principalEmail := none, xActor := none, defaultActor := "system".toList
      entityType := "poams".toList, entityId := some "1".toList }

/-- Two transactions with three appends between them and an aborted one, behind
a row from before the chain. -/
def interleaved : List Action :=
  let provision := Event.recordEvent "scim".toList "provision".toList
    "user".toList none (.obj [("password".toList, .str "x".toList)])
  [.begin 1, .begin 2, .begin 3, .lock 2, .readHead 2, .insert 2 provision,
   .lock 2, .readHead 2, .insert 2 provision, .commit 2, .lock 3, .readHead 3,
   .insert 3 provision, .abort 3, .lock 1, .readHead 1, .insert 1 (patchPoam (.nat 7)),
   .commit 1]

def legacyRow : AuditLog where
  id := 1
  content := ⟨none, "create".toList, "risks".toList, none, .obj []⟩
  prevHash := none
  rowHash := none

theorem verifyChain_of_run_interleaved :
    ∃ s, exec (step jsonbStored) (start [legacyRow] 2) interleaved = some s ∧
      s.committed.map AuditLog.id = [1, 2, 3, 5] ∧
      (verifyChain s.committed).ok = true := by
  have hids : ((exec (step jsonbStored) (start [legacyRow] 2) interleaved).map
      fun s => s.committed.map AuditLog.id) = some [1, 2, 3, 5] := by decide +kernel
  obtain ⟨s, hrun, hs⟩ := Option.map_eq_some_iff.mp hids
  have hlegacy : Legacy [legacyRow] 2 := by
    refine ⟨List.pairwise_singleton _ _, ?_, ?_⟩ <;> simp [legacyRow]
  refine ⟨s, hrun, hs, (verifyChain_of_run jsonbStored hlegacy hrun).2 ?_⟩
  simp only [interleaved, List.forall_mem_cons, List.not_mem_nil, false_implies,
    implies_true, and_true, KeepsPayload, true_and]
  refine ⟨?_, ?_, ?_, ?_⟩ <;> rintro c ⟨⟩ <;> decide +kernel

/-- `1e16`, which `json.dumps` writes `1e+16`. -/
def tenToThe16 : Number := ⟨'1', ['e', '+', '1', '6'], by decide, by simp [isNumberChar]⟩

/-- One request with the body `{"x": 1e16}`, alone in the log: the column gives
back an integer, and the untouched row no longer hashes to its `row_hash`. -/
theorem verifyChain_ok_false_of_float :
    ((exec (step jsonbStored) (start [] 1)
      [.begin 1, .lock 1, .readHead 1,
        .insert 1 (patchPoam (.obj [("x".toList, .num tenToThe16)])),
        .commit 1]).map fun s => (verifyChain s.committed).ok) = some false := by
  decide +kernel

end Concord.Audit
