import Concord.Base.Run

/-!
# Work items that are opened once

A pattern for automatic work: an alarm opens an item, unless there is one; when
the alarm clears, an open item is closed. The item is looked up by a key, so
there is one item for ever, and a closed item is found and left as it is. `Item`
is its life, `Item.next` what one signal does.

`open_after_raised_iff` is what the pattern gives: the item is open after every
alarm if and only if no alarm follows a clearing that followed an alarm. A system
that keeps such an item (`ticket`) and gives such signals inherits it for its
runs, `guarded_open_iff`.
-/

namespace Concord.Base

universe u v

/-- What a step means for the item. -/
inductive Signal
  | raised | cleared | quiet
  deriving DecidableEq

/-- The item of one key. -/
inductive Item
  | absent | opened | closed
  deriving DecidableEq

def Item.next : Item → Signal → Item
  | .absent, .raised => .opened
  | .opened, .cleared => .closed
  | i, _ => i

@[simp] theorem Item.next_quiet (i : Item) : i.next .quiet = i := by
  cases i <;> rfl

@[simp] theorem Item.next_closed (e : Signal) : Item.closed.next e = .closed := by
  cases e <;> rfl

def OpenAfterRaised : Item → List Signal → Prop
  | _, [] => True
  | i, e :: es => (e = .raised → i.next e = .opened) ∧ OpenAfterRaised (i.next e) es

theorem openAfterRaised_closed {es : List Signal} :
    OpenAfterRaised .closed es ↔ .raised ∉ es := by
  induction es with
  | nil => exact ⟨fun _ h => (nomatch h), fun _ => trivial⟩
  | cons e es ih =>
    rw [OpenAfterRaised, Item.next_closed, ih, List.mem_cons, not_or]
    refine and_congr_left fun _ => ?_
    constructor
    · exact fun h he => nomatch h he.symm
    · exact fun h he => absurd he.symm h

theorem openAfterRaised_opened {es : List Signal} :
    OpenAfterRaised .opened es ↔ ¬ [Signal.cleared, .raised].Sublist es := by
  induction es with
  | nil => exact ⟨fun _ h => (nomatch h), fun _ => trivial⟩
  | cons e es ih =>
    rw [OpenAfterRaised]
    cases e with
    | cleared =>
      show (_ → _) ∧ OpenAfterRaised .closed es ↔ _
      rw [openAfterRaised_closed, List.cons_sublist_cons, List.singleton_sublist]
      exact ⟨And.right, fun h => ⟨(nomatch ·), h⟩⟩
    | raised =>
      show (_ → _) ∧ OpenAfterRaised .opened es ↔ _
      rw [ih, List.sublist_cons_iff]
      simp [Item.next]
    | quiet =>
      show (_ → _) ∧ OpenAfterRaised .opened es ↔ _
      rw [ih, List.sublist_cons_iff]
      simp

/-- **The pattern's guarantee.** -/
theorem open_after_raised_iff {es : List Signal} :
    OpenAfterRaised .absent es ↔ ¬ [Signal.raised, .cleared, .raised].Sublist es := by
  induction es with
  | nil => exact ⟨fun _ h => (nomatch h), fun _ => trivial⟩
  | cons e es ih =>
    rw [OpenAfterRaised]
    cases e with
    | raised =>
      show (_ → _) ∧ OpenAfterRaised .opened es ↔ _
      rw [openAfterRaised_opened, List.cons_sublist_cons]
      exact ⟨And.right, fun h => ⟨fun _ => rfl, h⟩⟩
    | cleared =>
      show (_ → _) ∧ OpenAfterRaised .absent es ↔ _
      rw [ih, List.sublist_cons_iff]
      simp
    | quiet =>
      show (_ → _) ∧ OpenAfterRaised .absent es ↔ _
      rw [ih, List.sublist_cons_iff]
      simp

/-! ## Systems that keep an item -/

section System

variable {σ : Type u} {α : Type v}

/-- The signals of a run, each read in the state its step is taken in. -/
def signals (step : σ → α → Option σ) (signal : σ → α → Signal) : σ → List α → List Signal
  | _, [] => []
  | s, a :: as =>
    match step s a with
    | none => []
    | some s' => signal s a :: signals step signal s' as

variable {step : σ → α → Option σ} {G : σ → α → Prop} {I : σ → Prop}
  {ticket : σ → Item} {signal : σ → α → Signal}

theorem guarded_open_iff
    (hinv : ∀ s a s', I s → G s a → step s a = some s' → I s')
    (hsim : ∀ s a s', I s → G s a → step s a = some s' →
      ticket s' = (ticket s).next (signal s a))
    {s : σ} {as : List α} (hs : I s) (hg : Guarded step G s as) :
    Guarded step (fun u a => signal u a = .raised →
        ∀ u', step u a = some u' → ticket u' = .opened) s as ↔
      OpenAfterRaised (ticket s) (signals step signal s as) := by
  induction as generalizing s with
  | nil => exact Iff.rfl
  | cons a as ih =>
    rw [Guarded, signals]
    cases hstep : step s a with
    | none =>
      refine ⟨fun _ => trivial, fun _ => ⟨fun _ u' hu' => ?_, fun s' hs' => ?_⟩⟩
      · exact nomatch hu'
      · exact nomatch hs'
    | some s' =>
      rw [OpenAfterRaised, ← hsim s a s' hs hg.1 hstep,
        ← ih (hinv s a s' hs hg.1 hstep) (hg.2 s' hstep)]
      refine and_congr ⟨fun h hr => h hr s' rfl, fun h hr u' hu' => ?_⟩
        ⟨fun h => h s' rfl, fun h u' hu' => ?_⟩
      · exact Option.some.inj hu' ▸ h hr
      · exact Option.some.inj hu' ▸ h

end System

end Concord.Base
