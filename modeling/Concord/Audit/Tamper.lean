import Concord.Audit.Appenders
import Concord.Python.Text

/-!
# Tampering with the audit log

What `verify_chain` catches of changes made to the stored rows by someone who
recomputes no hash: edits of the hashed columns, deletions, insertions, new ids
(which reorder the rows) and nulled `row_hash` columns, in any combination.

The assumptions are the usual ones on the hash: on the texts the two logs name,
SHA-256 does not collide and does not hit the genesis value (`CollisionFree`);
and a row of the tampered log carries the hash of its own text only if that hash
is one the log already had (`NoRecompute`).

`verifyChain_tampered` is exact. The tampered log passes if and only if its
hashed rows, in id order, are an initial segment of the original's
(`HashChain.prefix_of_linked`): everything is caught except cutting off the end,
and except rows that carry no hash.
-/

namespace Concord.Audit

open Concord.Base Concord.Python

/-! ## The tamperer -/

/-- One change to the stored rows. -/
inductive Tamper
  | edit (id : Nat) (prevHash : Option Text) (content : Content)
  | delete (id : Nat)
  | insert (row : AuditLog)
  | renumber (id new : Nat)
  | nullHash (id : Nat)

def Tamper.apply (rows : List AuditLog) : Tamper → List AuditLog
  | .edit id prevHash content =>
    rows.map fun r => if r.id = id then { r with prevHash, content } else r
  | .delete id => rows.filter fun r => r.id ≠ id
  | .insert row => rows ++ [row]
  | .renumber id new => rows.map fun r => if r.id = id then { r with id := new } else r
  | .nullHash id => rows.map fun r => if r.id = id then { r with rowHash := none } else r

def tampered (rows : List AuditLog) (ts : List Tamper) : List AuditLog :=
  ts.foldl Tamper.apply rows

/-! ## Assumptions on the hash -/

/-- The text an entry's hash is checked against. -/
def Entry.body (e : Entry) : Text := Audit.body (orGenesis e.prev) e.content

/-- SHA-256 is free of collisions on these texts, the genesis value included. -/
structure CollisionFree (texts : List Text) : Prop where
  injective : ∀ x ∈ texts, ∀ y ∈ texts, Sha256.hexdigest x = Sha256.hexdigest y → x = y
  fresh : ∀ x ∈ texts, Sha256.hexdigest x ≠ genesis

instance (texts : List Text) : Decidable (CollisionFree texts) :=
  decidable_of_iff
    ((∀ x ∈ texts, ∀ y ∈ texts, Sha256.hexdigest x = Sha256.hexdigest y → x = y) ∧
      ∀ x ∈ texts, Sha256.hexdigest x ≠ genesis)
    ⟨fun h => ⟨h.1, h.2⟩, fun h => ⟨h.injective, h.fresh⟩⟩

instance (e : Entry) : Decidable e.Genuine :=
  inferInstanceAs (Decidable (e.hash = rowHash (orGenesis e.prev) e.content))

/-- No hash was recomputed: an entry of the new rows that carries its own digest
carries one of the old rows' hashes. -/
def NoRecompute (old new : List AuditLog) : Prop :=
  ∀ e ∈ entries new, e.Genuine → ∃ d ∈ entries old, d.hash = e.hash

instance (old new : List AuditLog) : Decidable (NoRecompute old new) :=
  inferInstanceAs (Decidable
    (∀ e ∈ entries new, e.Genuine → ∃ d ∈ entries old, d.hash = e.hash))

/-! ## The hashed text determines the entry -/

theorem body_injective {p q : Text} {c d : Content} (h : body p c = body q d) :
    p = q ∧ c.payload = d.payload := by
  have hc := Json.newline_notMem_dumps c.payload
  have hd := Json.newline_notMem_dumps d.payload
  -- the last line break of the text is the one between the two parts
  have hrev : c.payload.dumps.reverse ++ '\n' :: p.reverse =
      d.payload.dumps.reverse ++ '\n' :: q.reverse := by
    simpa [body] using congrArg List.reverse h
  obtain ⟨hpay, hprev⟩ :=
    append_separator_inj (by simpa using hc) (by simpa using hd) hrev
  exact ⟨List.reverse_injective hprev,
    Json.dumps_injective (List.reverse_injective hpay)⟩

theorem optStr_injective {a b : Option Text} (h : optStr a = optStr b) : a = b := by
  cases a <;> cases b <;> simp_all [optStr]

theorem payload_eq (c : Content) : c.payload = .obj
    [("action".toList, .str c.action), ("actor".toList, optStr c.actor),
     ("diff".toList, c.diff), ("entity_id".toList, optStr c.entityId),
     ("entity_type".toList, .str c.entityType)] := rfl

theorem payload_injective {c d : Content} (h : c.payload = d.payload) : c = d := by
  rw [payload_eq, payload_eq] at h
  simp only [Json.obj.injEq, List.cons.injEq, Prod.mk.injEq, Json.str.injEq, true_and,
    and_true] at h
  obtain ⟨haction, hactor, hdiff, hid, htype⟩ := h
  have := optStr_injective hactor
  have := optStr_injective hid
  cases c
  cases d
  simp_all

/-! ## What passes verification -/

theorem mem_entries_orderById {e : Entry} {rows : List AuditLog} :
    e ∈ entries (orderById rows) ↔ e ∈ entries rows := by
  simp only [entries, List.mem_filterMap, mem_orderById]

theorem Sound.prev_eq {es : List Entry} (h : Sound genesis es) {e : Entry}
    (he : e ∈ es) : e.prev = some (orGenesis e.prev) := by
  rcases HashChain.prev_eq_of_mem _ _ h.linked he with hp | ⟨d, hd, hp⟩
  · rw [hp]
    rfl
  · have hne : d.hash ≠ [] := by
      rw [h.genuine d hd]
      exact rowHash_ne_nil _ _
    rw [hp, orGenesis_some hne]

theorem entry_eq_of_hash_eq {es ds : List Entry} (hes : Sound genesis es)
    (hds : Sound genesis ds) {texts : List Text} (hfree : CollisionFree texts)
    {e d : Entry} (he : e ∈ es) (hd : d ∈ ds) (hetext : e.body ∈ texts)
    (hdtext : d.body ∈ texts) (h : e.hash = d.hash) : e = d := by
  have hbody : e.body = d.body := by
    refine hfree.injective _ hetext _ hdtext ?_
    show rowHash (orGenesis e.prev) e.content = rowHash (orGenesis d.prev) d.content
    rw [← hes.genuine e he, ← hds.genuine d hd, h]
  obtain ⟨hprev, hpay⟩ := body_injective hbody
  have hp : e.prev = d.prev := by
    rw [hes.prev_eq he, hds.prev_eq hd, hprev]
  have hc : e.content = d.content := payload_injective hpay
  cases e
  cases d
  simp_all

theorem Sound.of_prefix {g : Text} {es ds : List Entry} (h : Sound g es)
    (hpre : ds <+: es) : Sound g ds := by
  obtain ⟨tail, rfl⟩ := hpre
  refine ⟨((HashChain.linked_append _ _ _ _ _).mp h.linked).1, fun e he => ?_⟩
  exact h.genuine e (List.mem_append_left tail he)

/-- A sound log made without recomputing a hash is an initial segment of the old
one. -/
theorem prefix_of_sound {es ds : List Entry} (hes : Sound genesis es)
    (hds : Sound genesis ds)
    (hfree : CollisionFree ((es ++ ds).map Entry.body))
    (hno : ∀ e ∈ ds, e.Genuine → ∃ d ∈ es, d.hash = e.hash) : ds <+: es := by
  have htext : ∀ e ∈ es ++ ds, e.body ∈ (es ++ ds).map Entry.body :=
    fun e he => List.mem_map_of_mem he
  refine HashChain.prefix_of_linked _ _ hes.linked hds.linked ?_ ?_ ?_
  · intro e he
    obtain ⟨d, hd, hh⟩ := hno e he (hds.genuine e he)
    have hde : d = e := entry_eq_of_hash_eq hes hds hfree hd he
      (htext d (List.mem_append_left ds hd)) (htext e (List.mem_append_right es he)) hh
    exact hde ▸ hd
  · intro a ha b hb hh
    exact entry_eq_of_hash_eq hes hes hfree ha hb
      (htext a (List.mem_append_left ds ha)) (htext b (List.mem_append_left ds hb))
      (Option.some.inj hh)
  · intro a ha hg
    refine hfree.fresh _ (htext a (List.mem_append_left ds ha)) ?_
    rw [← Option.some.inj hg]
    exact (hes.genuine a ha).symm

/-- **Tamper evidence, exactly.** -/
theorem verifyChain_tampered (rows : List AuditLog) (ts : List Tamper)
    (hok : (verifyChain rows).ok = true)
    (hfree : CollisionFree
      ((entries (orderById rows) ++ entries (orderById (tampered rows ts))).map Entry.body))
    (hno : NoRecompute rows (tampered rows ts)) :
    (verifyChain (tampered rows ts)).ok = false ↔
      ¬ entries (orderById (tampered rows ts)) <+: entries (orderById rows) := by
  rw [verifyChain_ok_iff] at hok
  rw [← Bool.not_eq_true, not_iff_not, verifyChain_ok_iff]
  constructor
  · intro hsound
    refine prefix_of_sound hok hsound hfree fun e he hgen => ?_
    obtain ⟨d, hd, hh⟩ := hno e (mem_entries_orderById.mp he) hgen
    exact ⟨d, mem_entries_orderById.mpr hd, hh⟩
  · exact hok.of_prefix

/-- A sign-in of the user `id`. -/
def signIn (id : Char) : Event :=
  .recordEvent ['o', 'i', 'd', 'c'] ['l', 'o', 'g', 'i', 'n'] ['u', 's', 'e', 'r']
    (some [id]) (.obj [])

def twoSignIns : List AuditLog :=
  ((exec (step jsonbStored) (start [] 1)
    [.begin 1, .lock 1, .readHead 1, .insert 1 (signIn '7'), .commit 1,
     .begin 2, .lock 2, .readHead 2, .insert 2 (signIn '8'), .commit 2]).map
    Sys.committed).getD []

def editAndDelete : List Tamper :=
  [.edit 1 (some genesis) (signIn '9').content, .delete 2]

theorem verifyChain_tampered_edit :
    (verifyChain (tampered twoSignIns editAndDelete)).ok = false ↔
      ¬ entries (orderById (tampered twoSignIns editAndDelete)) <+:
        entries (orderById twoSignIns) :=
  verifyChain_tampered twoSignIns editAndDelete (by decide +kernel)
    (by decide +kernel) (by decide +kernel)

/-- Deleting the youngest row leaves a log that verifies. -/
theorem verifyChain_ok_of_last_deleted :
    (verifyChain twoSignIns).ok = true ∧ twoSignIns.length = 2 ∧
      CollisionFree ((entries (orderById twoSignIns) ++
        entries (orderById (tampered twoSignIns [.delete 2]))).map Entry.body) ∧
      NoRecompute twoSignIns (tampered twoSignIns [.delete 2]) ∧
      (tampered twoSignIns [.delete 2]).length = 1 ∧
      (verifyChain (tampered twoSignIns [.delete 2])).ok = true := by
  decide +kernel

end Concord.Audit
