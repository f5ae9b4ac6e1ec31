import Concord.Base.Run

/-!
# Transactions with savepoints

A session works inside one database transaction. A failed statement leaves the transaction
aborted, and every later statement raises until something is rolled back.

- `Txn σ ε α`: code that works on a session of content `σ`, returns an `α` or raises an `ε`.
  No code clears the abort of the transaction it was started in; this is a field of the
  structure, not a hypothesis of the results.
- `Txn.nested`: `async with session.begin_nested()`. The savepoint is released where the body
  returns, and rolled back to, which undoes the writes and clears the abort, where it raises or
  the release does.
- `eachNested`: a list of calls, each in a savepoint of its own.
- `run_mapM_of_kept`, `run_mapM_of_not_kept`: **calls one after the other do what they do in
  savepoints of their own exactly where each of these is kept**; where one is not, they raise or
  leave the transaction aborted, and a savepoint around all of them is rolled back to.
-/

namespace Concord.Base

universe u

variable {σ ε α β : Type}

/-- A session: what its connection holds, and whether its transaction is aborted. -/
structure Session (σ : Type) where
  rows : σ
  aborted : Bool := false
  deriving DecidableEq

/-- Code that works on a session. What it did before it raised stays done. -/
structure Txn (σ ε α : Type) where
  run : Session σ → Except ε α × Session σ
  stays_aborted : ∀ s, s.aborted = true → (run s).2.aborted = true

namespace Txn

theorem ext_run {x y : Txn σ ε α} (h : ∀ s, x.run s = y.run s) : x = y := by
  cases x
  cases y
  congr
  exact funext h

def pure (a : α) : Txn σ ε α := ⟨fun s => (.ok a, s), fun _ h => h⟩

def raise (e : ε) : Txn σ ε α := ⟨fun s => (.error e, s), fun _ h => h⟩

def bind (x : Txn σ ε α) (f : α → Txn σ ε β) : Txn σ ε β where
  run s :=
    match x.run s with
    | (.ok a, t) => (f a).run t
    | (.error e, t) => (.error e, t)
  stays_aborted s h := by
    have hx := x.stays_aborted s h
    cases hrun : x.run s with
    | mk r t =>
      rw [hrun] at hx
      cases r with
      | error e => exact hx
      | ok a => exact (f a).stays_aborted t hx

instance : Monad (Txn σ ε) where
  pure := pure
  bind := bind

instance : LawfulMonad (Txn σ ε) :=
  LawfulMonad.mk' (Txn σ ε)
    (fun x => ext_run fun s => by
      show (bind x fun a => pure a).run s = x.run s
      simp only [bind, pure]
      cases x.run s with
      | mk r t => cases r <;> rfl)
    (fun a f => ext_run fun s => rfl)
    (fun x f g => ext_run fun s => by
      show (bind (bind x f) g).run s = (bind x fun a => bind (f a) g).run s
      simp only [bind]
      cases x.run s with
      | mk r t => cases r <;> rfl)

/-- A statement: it raises in an aborted transaction, and where it fails it aborts it. -/
def statement (failed : ε) (f : σ → Option (α × σ)) : Txn σ ε α where
  run s :=
    if s.aborted then (.error failed, s)
    else
      match f s.rows with
      | some (a, rows) => (.ok a, ⟨rows, false⟩)
      | none => (.error failed, { s with aborted := true })
  stays_aborted s h := by rw [if_pos h]; exact h

theorem run_bind_ok {x : Txn σ ε α} {f : α → Txn σ ε β} {s t : Session σ} {a : α}
    (h : x.run s = (.ok a, t)) : (x >>= f).run s = (f a).run t := by
  show (bind x f).run s = _
  simp only [bind, h]

theorem run_bind_error {x : Txn σ ε α} {f : α → Txn σ ε β} {s t : Session σ} {e : ε}
    (h : x.run s = (.error e, t)) : (x >>= f).run s = (.error e, t) := by
  show (bind x f).run s = _
  simp only [bind, h]

/-! ## Savepoints -/

/-- What became of a savepoint: what its body returned or raised, whether the savepoint was
released, and the session. A body may return and its release still raise. -/
structure Nested (σ ε α : Type) where
  body : Except ε α
  exit : Except ε Unit
  session : Session σ

/-- `async with session.begin_nested()`, on a session in which a savepoint can be set. `failed`
is what a statement of an aborted transaction raises. -/
def nested (failed : ε) (x : Txn σ ε α) (s : Session σ) : Nested σ ε α :=
  if s.aborted then ⟨.error failed, .error failed, s⟩
  else
    match x.run s with
    | (.ok a, t) => if t.aborted then ⟨.ok a, .error failed, s⟩ else ⟨.ok a, .ok (), t⟩
    | (.error e, _) => ⟨.error e, .error e, s⟩

/-- The body returned and its savepoint was released. -/
def Nested.Kept (n : Nested σ ε α) : Prop := n.exit = .ok ()

instance (n : Nested σ ε α) : Decidable n.Kept :=
  match h : n.exit with
  | .ok () => .isTrue h
  | .error _ => .isFalse fun hk => by cases h.symm.trans hk

variable {failed : ε} {x : Txn σ ε α} {s t : Session σ}

theorem nested_kept {a : α} (hs : s.aborted = false) (hx : x.run s = (.ok a, t))
    (ht : t.aborted = false) : x.nested failed s = ⟨.ok a, .ok (), t⟩ := by
  rw [nested, if_neg (by simp [hs]), hx]
  exact if_neg (by simp [ht])

/-- **What is rolled back is gone.** -/
theorem nested_session_of_not_kept (h : ¬ (x.nested failed s).Kept) :
    (x.nested failed s).session = s := by
  rw [Nested.Kept, nested] at h
  rw [nested]
  split at h
  next hs => rw [if_pos hs]
  next hs =>
    rw [if_neg hs]
    split at h
    · split at h
      next ht => rw [if_pos ht]
      next ht => exact absurd rfl h
    · rfl

theorem nested_kept_iff :
    (x.nested failed s).Kept ↔
      s.aborted = false ∧ ∃ a t, x.run s = (.ok a, t) ∧ t.aborted = false := by
  constructor
  · intro h
    rw [Nested.Kept, nested] at h
    split at h
    · cases h
    next hs =>
      refine ⟨by simpa using hs, ?_⟩
      split at h
      next a t hx =>
        split at h
        · cases h
        next ht => exact ⟨a, t, hx, by simpa using ht⟩
      · cases h
  · rintro ⟨hs, a, t, hx, ht⟩
    rw [nested_kept hs hx ht]
    rfl

/-- **A savepoint leaves a usable session usable**, whatever its body does. -/
theorem nested_usable (hs : s.aborted = false) :
    (x.nested failed s).session.aborted = false := by
  by_cases h : (x.nested failed s).Kept
  · obtain ⟨-, a, t, hx, ht⟩ := nested_kept_iff.mp h
    rw [nested_kept hs hx ht]
    exact ht
  · rw [nested_session_of_not_kept h]
    exact hs

/-- A savepoint as a part of a call, with what its body and its release gave. -/
def savepoint (failed : ε) (x : Txn σ ε α) : Txn σ ε (Except ε α × Except ε Unit) where
  run s :=
    let n := x.nested failed s
    (.ok (n.body, n.exit), n.session)
  stays_aborted s h := by
    show (x.nested failed s).session.aborted = true
    rw [nested, if_pos h]
    exact h

theorem run_savepoint (x : Txn σ ε α) (s : Session σ) :
    (x.savepoint failed).run s =
      (.ok ((x.nested failed s).body, (x.nested failed s).exit),
        (x.nested failed s).session) := rfl

end Txn

open Txn

/-! ## One savepoint for all, or one for each -/

/-- Each call in a savepoint of its own: what became of each, and the session at the end. -/
def eachNested (failed : ε) (f : β → Txn σ ε α) :
    List β → Session σ → List (β × Nested σ ε α) × Session σ
  | [], s => ([], s)
  | b :: bs, s =>
    let n := (f b).nested failed s
    let rest := eachNested failed f bs n.session
    ((b, n) :: rest.1, rest.2)

/-- What the calls returned whose savepoints were kept. -/
def keptValues : List (β × Nested σ ε α) → List α
  | [] => []
  | (_, n) :: ns =>
    match n.body, n.exit with
    | .ok a, .ok () => a :: keptValues ns
    | _, _ => keptValues ns

/-- Each call, made from the state the calls before it left, returns and leaves the session
usable. -/
def AllReturn (f : β → Txn σ ε α) : List β → Session σ → Prop
  | [], _ => True
  | b :: bs, s => ∃ a t, (f b).run s = (.ok a, t) ∧ t.aborted = false ∧ AllReturn f bs t

section EachNested

variable {failed : ε} {f : β → Txn σ ε α}

theorem allReturn_iff {bs : List β} {s : Session σ} (hs : s.aborted = false) :
    AllReturn f bs s ↔ ∀ bn ∈ (eachNested failed f bs s).1, bn.2.Kept := by
  induction bs generalizing s with
  | nil =>
    refine iff_of_true trivial fun bn h => ?_
    cases h
  | cons b bs ih =>
    constructor
    · rintro ⟨a, t, hx, ht, hrest⟩ bn hbn
      rw [eachNested, nested_kept hs hx ht] at hbn
      rcases List.mem_cons.mp hbn with rfl | hbn
      · rfl
      · exact (ih ht).mp hrest bn hbn
    · intro h
      obtain ⟨-, a, t, hx, ht⟩ := nested_kept_iff.mp (h _ List.mem_cons_self)
      refine ⟨a, t, hx, ht, (ih ht).mpr fun bn hbn => h bn ?_⟩
      rw [eachNested, nested_kept hs hx ht]
      exact List.mem_cons_of_mem _ hbn

theorem eachNested_usable (bs : List β) {s : Session σ} (hs : s.aborted = false) :
    (eachNested failed f bs s).2.aborted = false := by
  induction bs generalizing s with
  | nil => exact hs
  | cons b bs ih => exact ih (nested_usable hs)

/-- The calls one after the other do what they do in savepoints of their own, where each of these
is kept. -/
theorem run_mapM_of_kept {bs : List β} {s : Session σ} (hs : s.aborted = false)
    (h : ∀ bn ∈ (eachNested failed f bs s).1, bn.2.Kept) :
    (bs.mapM f).run s =
      (.ok (keptValues (eachNested failed f bs s).1), (eachNested failed f bs s).2) := by
  induction bs generalizing s with
  | nil => rfl
  | cons b bs ih =>
    have hb : ((f b).nested failed s).Kept := h _ List.mem_cons_self
    obtain ⟨-, a, t, hx, ht⟩ := nested_kept_iff.mp hb
    have heach : eachNested failed f (b :: bs) s =
        ((b, ⟨.ok a, .ok (), t⟩) :: (eachNested failed f bs t).1,
          (eachNested failed f bs t).2) := by
      rw [eachNested, nested_kept hs hx ht]
    rw [heach] at h ⊢
    rw [List.mapM_cons, run_bind_ok hx,
      run_bind_ok (ih ht fun bn hbn => h bn (List.mem_cons_of_mem _ hbn))]
    rfl

/-- Where some call is not kept in its own savepoint, the calls one after the other raise or
leave the transaction aborted. -/
theorem run_mapM_of_not_kept {bs : List β} {s : Session σ} (hs : s.aborted = false)
    (h : ∃ bn ∈ (eachNested failed f bs s).1, ¬ bn.2.Kept) :
    (∃ e t, (bs.mapM f).run s = (.error e, t)) ∨ ((bs.mapM f).run s).2.aborted = true := by
  induction bs generalizing s with
  | nil =>
    obtain ⟨bn, hbn, -⟩ := h
    cases hbn
  | cons b bs ih =>
    rw [List.mapM_cons]
    cases hx : (f b).run s with
    | mk r t =>
      cases r with
      | error e => exact Or.inl ⟨e, t, run_bind_error hx⟩
      | ok a =>
        rw [run_bind_ok hx]
        by_cases ht : t.aborted = true
        · -- the failure was swallowed, and no later call clears the abort
          exact Or.inr ((bs.mapM f >>= fun as => Pure.pure (a :: as)).stays_aborted t ht)
        · have ht : t.aborted = false := by simpa using ht
          have hkept : (f b).nested failed s = ⟨.ok a, .ok (), t⟩ := nested_kept hs hx ht
          obtain ⟨bn, hbn, hnot⟩ := h
          rw [eachNested, hkept] at hbn
          have hrest : bn ∈ (eachNested failed f bs t).1 := by
            rcases List.mem_cons.mp hbn with rfl | hbn
            · exact absurd rfl hnot
            · exact hbn
          rcases ih ht ⟨bn, hrest, hnot⟩ with ⟨e, u, he⟩ | hu
          · exact Or.inl ⟨e, u, run_bind_error he⟩
          · cases hr : (bs.mapM f).run t with
            | mk r u =>
              rw [hr] at hu
              cases r with
              | error e => exact Or.inl ⟨e, u, run_bind_error hr⟩
              | ok as =>
                rw [run_bind_ok hr]
                exact Or.inr hu

end EachNested

end Concord.Base
