import Mathlib.Data.List.Chain
import Mathlib.Logic.Function.Basic
import Concord.Base.Run

/-!
# Transactions under READ COMMITTED

Any number of transactions over one store. A statement sees what is committed when it runs,
and what its own transaction remembers; what a transaction writes is seen by the others from
its commit on. A row that a transaction has written stays locked until the transaction ends,
and a statement that would write a row someone else has locked waits: it is not enabled.

`Program` says what one transaction does, and `Program.step` interleaves them. The effects
that were committed are kept in a log, in the order of the commits. Three rules:

- `Program.Stable.run`: what the transactions rely on (`Q`, of the store and the log) and
  what each of them guarantees (`P`, of the transaction alone) hold in every state reached;
- `Program.Stable.guarded_iff`: a property of the store and the log holds in every state
  reached if and only if every commit finds the store as the property needs it. The property
  may also be one of the states committed one after the other (`guarded_iff_history`).

`Program.Lasting` is `Stable` for a `P` of the transaction and the store: what the others
commit has to keep it too.
-/

namespace Concord.Base

universe u

variable {κ σ τ ρ ω : Type u}

/-- What a transaction of a component does. -/
structure Program (κ σ τ ρ ω : Type u) where
  /-- The transaction of that number, as a call begins it. -/
  enter : ℕ → κ → τ
  /-- Its next statement, on what is committed; `none` if there is none left. -/
  statement : τ → σ → Option τ
  /-- The rows it has written. -/
  locks : τ → List ρ
  /-- What it commits, once it may. -/
  effect : τ → Option ω
  apply : ω → σ → σ

structure Machine (σ τ ρ ω : Type u) where
  store : σ
  txns : ℕ → Option τ
  next : ℕ
  holder : ρ → Option ℕ
  log : List ω

def Machine.init (s : σ) : Machine σ τ ρ ω where
  store := s
  txns := fun _ => none
  next := 0
  holder := fun _ => none
  log := []

/-- The transaction ends, and its rows are free. -/
def Machine.close (m : Machine σ τ ρ ω) (i : ℕ) : Machine σ τ ρ ω :=
  { m with
    txns := Function.update m.txns i none
    holder := fun r => (m.holder r).filter fun j => j ≠ i }

inductive TxnAction (κ : Type u)
  | enter (call : κ)
  | statement (i : ℕ)
  | commit (i : ℕ)
  /-- An exception, or the process dies. -/
  | rollback (i : ℕ)

namespace Program

section Holds

/-- What a state keeps: `Q` of the store and the log, `P` of each transaction. -/
structure Holds (Q : σ → List ω → Prop) (P : τ → Prop) (m : Machine σ τ ρ ω) : Prop where
  store : Q m.store m.log
  txns : ∀ i t, m.txns i = some t → P t

variable {m : Machine σ τ ρ ω} {Q : σ → List ω → Prop} {P : τ → Prop}

theorem Holds.init {s : σ} (h : Q s []) :
    Holds Q P (Machine.init s : Machine σ τ ρ ω) where
  store := h
  txns := fun _ _ ht => nomatch ht

theorem forall_update {i : ℕ} {x : Option τ} (h : ∀ j t, m.txns j = some t → P t)
    (hx : ∀ t, x = some t → P t) :
    ∀ j t, Function.update m.txns i x j = some t → P t := by
  intro j t hj
  by_cases hji : j = i
  · subst hji
    rw [Function.update_self] at hj
    exact hx t hj
  · rw [Function.update_of_ne hji] at hj
    exact h j t hj

end Holds

variable (p : Program κ σ τ ρ ω) [DecidableEq ρ]

def step (m : Machine σ τ ρ ω) : TxnAction κ → Option (Machine σ τ ρ ω)
  | .enter call =>
    some { m with
      txns := Function.update m.txns m.next (some (p.enter m.next call))
      next := m.next + 1 }
  | .statement i =>
    (m.txns i).bind fun t => (p.statement t m.store).bind fun t' =>
      if (p.locks t').all fun r => m.holder r = none ∨ m.holder r = some i then
        some { m with
          txns := Function.update m.txns i (some t')
          holder := fun r => if r ∈ p.locks t' then some i else m.holder r }
      else none
  | .commit i =>
    (m.txns i).bind fun t => (p.effect t).map fun w =>
      { m.close i with store := p.apply w m.store, log := m.log ++ [w] }
  | .rollback i => (m.txns i).map fun _ => m.close i

variable {p} {m m' : Machine σ τ ρ ω}

theorem step_statement {i : ℕ} (h : p.step m (.statement i) = some m') :
    ∃ t t', m.txns i = some t ∧ p.statement t m.store = some t' ∧
      m'.txns = Function.update m.txns i (some t') ∧ m'.store = m.store ∧ m'.log = m.log := by
  obtain ⟨t, ht, h⟩ := Option.bind_eq_some_iff.mp h
  obtain ⟨t', ht', h⟩ := Option.bind_eq_some_iff.mp h
  split at h
  · cases h
    exact ⟨t, t', ht, ht', rfl, rfl, rfl⟩
  · cases h

theorem step_commit {i : ℕ} (h : p.step m (.commit i) = some m') :
    ∃ t w, m.txns i = some t ∧ p.effect t = some w ∧
      m'.txns = Function.update m.txns i none ∧ m'.store = p.apply w m.store ∧
      m'.log = m.log ++ [w] := by
  obtain ⟨t, ht, h⟩ := Option.bind_eq_some_iff.mp h
  obtain ⟨w, hw, rfl⟩ := Option.map_eq_some_iff.mp h
  exact ⟨t, w, ht, hw, rfl, rfl, rfl⟩

theorem step_rollback {i : ℕ} (h : p.step m (.rollback i) = some m') :
    m'.txns = Function.update m.txns i none ∧ m'.store = m.store ∧ m'.log = m.log := by
  obtain ⟨t, -, rfl⟩ := Option.map_eq_some_iff.mp h
  exact ⟨rfl, rfl, rfl⟩

theorem step_store {a : TxnAction κ} (h : p.step m a = some m') (ha : ∀ i, a ≠ .commit i) :
    m'.store = m.store ∧ m'.log = m.log := by
  cases a with
  | enter call =>
    cases h
    exact ⟨rfl, rfl⟩
  | statement i =>
    obtain ⟨t, t', -, -, -, hs, hl⟩ := step_statement h
    exact ⟨hs, hl⟩
  | commit i => exact absurd rfl (ha i)
  | rollback i => exact (step_rollback h).2

/-! ## Invariants -/

/-- What a state keeps: `Q` of the store and the log, `P` of each transaction on the store. -/
structure HoldsAt (Q : σ → List ω → Prop) (P : σ → τ → Prop) (m : Machine σ τ ρ ω) : Prop where
  store : Q m.store m.log
  txns : ∀ i t, m.txns i = some t → P m.store t

variable (p) in
/-- Each statement keeps `P` where `Q` holds, and each effect of a transaction with `P`
keeps `Q`, and `P` of the others. -/
structure Lasting (Q : σ → List ω → Prop) (P : σ → τ → Prop) : Prop where
  enter : ∀ s l i call, Q s l → P s (p.enter i call)
  statement : ∀ s l t t', Q s l → P s t → p.statement t s = some t' → P s t'
  commit : ∀ s l t w, Q s l → P s t → p.effect t = some w → Q (p.apply w s) (l ++ [w])
  others : ∀ s l t w u, Q s l → P s t → p.effect t = some w → P s u → P (p.apply w s) u

theorem Lasting.step {Q : σ → List ω → Prop} {P : σ → τ → Prop} (hp : p.Lasting Q P)
    (h : HoldsAt Q P m) {a : TxnAction κ} (hstep : p.step m a = some m') : HoldsAt Q P m' := by
  cases a with
  | enter call =>
    cases hstep
    refine ⟨h.store, forall_update h.txns fun t ht => ?_⟩
    rw [← Option.some.inj ht]
    exact hp.enter _ _ _ call h.store
  | statement i =>
    obtain ⟨t, t', ht, ht', htxns, hs, hl⟩ := step_statement hstep
    refine ⟨hs ▸ hl ▸ h.store, hs ▸ htxns ▸ forall_update h.txns fun u hu => ?_⟩
    rw [← Option.some.inj hu]
    exact hp.statement _ _ t t' h.store (h.txns i t ht) ht'
  | commit i =>
    obtain ⟨t, w, ht, hw, htxns, hs, hl⟩ := step_commit hstep
    have hothers : ∀ j u, m.txns j = some u → P m'.store u := by
      intro j u hu
      rw [hs]
      exact hp.others _ _ t w u h.store (h.txns i t ht) hw (h.txns j u hu)
    refine ⟨?_, htxns ▸ forall_update hothers fun u hu => nomatch hu⟩
    rw [hs, hl]
    exact hp.commit _ _ t w h.store (h.txns i t ht) hw
  | rollback i =>
    obtain ⟨htxns, hs, hl⟩ := step_rollback hstep
    exact ⟨hs ▸ hl ▸ h.store, hs ▸ htxns ▸ forall_update h.txns fun u hu => nomatch hu⟩

omit [DecidableEq ρ] in
theorem HoldsAt.init {Q : σ → List ω → Prop} {P : σ → τ → Prop} {s : σ} (h : Q s []) :
    HoldsAt Q P (Machine.init s : Machine σ τ ρ ω) where
  store := h
  txns := fun _ _ ht => nomatch ht

variable (p) in
/-- A commit finds the store as `G` asks. -/
def AtCommit (G : σ → τ → Prop) (m : Machine σ τ ρ ω) : TxnAction κ → Prop
  | .commit i => ∀ t, m.txns i = some t → (p.effect t).isSome → G m.store t
  | _ => True

/-- **When the commits keep a property**: exactly when each finds the store as it needs
it. -/
theorem Lasting.guarded_iff {Q : σ → List ω → Prop} {P : σ → τ → Prop} (hp : p.Lasting Q P)
    {G : σ → τ → Prop} {J : σ → List ω → Prop}
    (hcommit : ∀ s l t w, Q s l → P s t → J s l → p.effect t = some w →
      (G s t ↔ J (p.apply w s) (l ++ [w])))
    {s : σ} (hs : Q s []) (hJ : J s []) {as : List (TxnAction κ)} :
    Guarded p.step (p.AtCommit G) (Machine.init s) as ↔
      ∀ bs m, bs <+: as → exec p.step (Machine.init s) bs = some m → J m.store m.log := by
  refine guarded_iff_invariant (J := fun m => J m.store m.log)
    (fun _ _ _ h hstep => hp.step h hstep) ?_ ?_ (HoldsAt.init hs) hJ
  · intro m a h hnone
    cases a with
    | commit i =>
      intro t ht hw
      obtain ⟨w, hw⟩ := Option.isSome_iff_exists.mp hw
      have hsome : p.step m (.commit i) =
          some { m.close i with store := p.apply w m.store, log := m.log ++ [w] } := by
        show (m.txns i).bind _ = _
        rw [ht, Option.bind_some, hw, Option.map_some]
      exact absurd (hsome.symm.trans hnone) (by simp)
    | enter call => trivial
    | statement i => trivial
    | rollback i => trivial
  · intro m a m' h hJ hstep
    by_cases ha : ∃ i, a = .commit i
    · obtain ⟨i, rfl⟩ := ha
      obtain ⟨t, w, ht, hw, -, hs', hl'⟩ := step_commit hstep
      rw [hs', hl', ← hcommit _ _ t w h.store (h.txns i t ht) hJ hw]
      constructor
      · exact fun hG => hG t ht (hw ▸ rfl)
      · intro hG u hu _
        rw [ht, Option.some.injEq] at hu
        exact hu ▸ hG
    · obtain ⟨hs', hl'⟩ := step_store hstep fun i hi => ha ⟨i, hi⟩
      rw [hs', hl']
      refine ⟨fun _ => hJ, fun _ => ?_⟩
      cases a with
      | commit i => exact absurd ⟨i, rfl⟩ ha
      | enter call => trivial
      | statement i => trivial
      | rollback i => trivial

variable (p) in
/-- Each statement keeps `P` where `Q` holds, and each effect of a transaction with `P`
keeps `Q`. -/
structure Stable (Q : σ → List ω → Prop) (P : τ → Prop) : Prop where
  enter : ∀ i call, P (p.enter i call)
  statement : ∀ s l t t', Q s l → P t → p.statement t s = some t' → P t'
  commit : ∀ s l t w, Q s l → P t → p.effect t = some w → Q (p.apply w s) (l ++ [w])

variable {Q : σ → List ω → Prop} {P : τ → Prop}

omit [DecidableEq ρ] in
theorem Stable.lasting (hp : p.Stable Q P) : p.Lasting Q fun _ => P where
  enter := fun _ _ i call _ => hp.enter i call
  statement := hp.statement
  commit := hp.commit
  others := fun _ _ _ _ _ _ _ _ hu => hu

theorem Stable.step (hp : p.Stable Q P) (h : Holds Q P m) {a : TxnAction κ}
    (hstep : p.step m a = some m') : Holds Q P m' := by
  obtain ⟨hstore, htxns⟩ := hp.lasting.step ⟨h.store, h.txns⟩ hstep
  exact ⟨hstore, htxns⟩

theorem Stable.run (hp : p.Stable Q P) {s : σ} (hs : Q s []) {as : List (TxnAction κ)}
    (hrun : exec p.step (Machine.init s) as = some m) : Holds Q P m :=
  exec_invariant (fun _ _ _ h => hp.step h) (Holds.init hs) hrun

theorem Stable.guarded_iff (hp : p.Stable Q P) {G : σ → τ → Prop} {J : σ → List ω → Prop}
    (hcommit : ∀ s l t w, Q s l → P t → J s l → p.effect t = some w →
      (G s t ↔ J (p.apply w s) (l ++ [w])))
    {s : σ} (hs : Q s []) (hJ : J s []) {as : List (TxnAction κ)} :
    Guarded p.step (p.AtCommit G) (Machine.init s) as ↔
      ∀ bs m, bs <+: as → exec p.step (Machine.init s) bs = some m → J m.store m.log :=
  hp.lasting.guarded_iff hcommit hs hJ

/-! ## One committed state after the other -/

/-- The store after commits that each find it as `R` asks. -/
inductive Ledger (p : Program κ σ τ ρ ω) (R : σ → ω → Prop) (s₀ : σ) : σ → List ω → Prop
  | nil : Ledger p R s₀ s₀ []
  | snoc {s : σ} {l : List ω} {w : ω} (h : Ledger p R s₀ s l) (hw : R s w) :
    Ledger p R s₀ (p.apply w s) (l ++ [w])

omit [DecidableEq ρ] in
theorem Ledger.eq_foldl {R : σ → ω → Prop} {s₀ s : σ} {l : List ω} (h : Ledger p R s₀ s l) :
    s = l.foldl (fun s w => p.apply w s) s₀ := by
  induction h with
  | nil => rfl
  | snoc h hw ih => rw [List.foldl_concat, ← ih]

omit [DecidableEq ρ] in
theorem Ledger.last {R : σ → ω → Prop} {s₀ s s' : σ} {l : List ω} {w : ω}
    (h : Ledger p R s₀ s l) (h' : Ledger p R s₀ s' (l ++ [w])) : R s w := by
  generalize hl : l ++ [w] = l' at h'
  cases h' with
  | nil => cases l <;> cases hl
  | snoc hprev hw =>
    obtain ⟨rfl, hlast⟩ := List.append_inj' hl rfl
    obtain rfl := (List.cons.inj hlast).1
    rwa [h.eq_foldl, ← hprev.eq_foldl]

variable (p) in
/-- The states that were committed, from `s` on. -/
def history : σ → List ω → List σ
  | s, [] => [s]
  | s, w :: ws => s :: history (p.apply w s) ws

omit [DecidableEq ρ] in
theorem history_concat {s s' : σ} {l : List ω} (h : (p.history s l).getLast? = some s')
    (w : ω) : p.history s (l ++ [w]) = p.history s l ++ [p.apply w s'] := by
  induction l generalizing s with
  | nil =>
    obtain rfl : s = s' := Option.some.inj h
    rfl
  | cons v l ih =>
    have hlast : (p.history (p.apply v s) l).getLast? = some s' := by
      have hne : p.history (p.apply v s) l ≠ [] := by cases l <;> exact List.cons_ne_nil _ _
      rw [history, List.getLast?_cons_of_ne_nil hne] at h
      exact h
    rw [List.cons_append, history, history, ih hlast, List.cons_append]

omit [DecidableEq ρ] in
theorem Stable.replay (hp : p.Stable Q P) (s₀ : σ) :
    p.Stable (fun s l => Q s l ∧ (p.history s₀ l).getLast? = some s) P where
  enter := hp.enter
  statement := fun s l t t' h => hp.statement s l t t' h.1
  commit := by
    rintro s l t w ⟨hs, hlast⟩ ht hw
    refine ⟨hp.commit s l t w hs ht hw, ?_⟩
    rw [history_concat hlast, List.getLast?_concat]

theorem Stable.guarded_iff_history (hp : p.Stable Q P) {G : σ → τ → Prop} {J : σ → Prop}
    {R : σ → σ → Prop}
    (hcommit : ∀ s t w, P t → J s → p.effect t = some w →
      (G s t ↔ J (p.apply w s) ∧ R s (p.apply w s)))
    {s : σ} (hs : Q s []) (hJ : J s) {as : List (TxnAction κ)} :
    Guarded p.step (p.AtCommit G) (Machine.init s) as ↔
      ∀ bs m, bs <+: as → exec p.step (Machine.init s) bs = some m →
        J m.store ∧ (p.history s m.log).IsChain R := by
  refine (hp.replay s).guarded_iff (J := fun u l => J u ∧ (p.history s l).IsChain R) ?_
    ⟨hs, rfl⟩ ⟨hJ, List.isChain_singleton s⟩
  rintro u l t w ⟨-, hlast⟩ ht ⟨hJu, hchain⟩ hw
  have happend : (p.history s (l ++ [w])).IsChain R ↔ R u (p.apply w u) := by
    rw [history_concat hlast, List.isChain_append, hlast]
    simp [hchain]
  rw [hcommit u t w ht hJu hw, happend]

end Program

end Concord.Base
