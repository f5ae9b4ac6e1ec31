import Concord.Base.Run

/-!
# Computations that may raise

`Succeeds x` says that an `Except` computation raises nothing, whatever it returns. One rule for
each way such a computation is built tells when it succeeds in terms of its parts, so that "this
never raises" is proved, and its exact condition found, without following what is returned.
-/

namespace Concord.Base

variable {ε α β σ : Type}

def Succeeds (x : Except ε α) : Prop := ∃ a, x = .ok a

theorem succeeds_ok (a : α) : Succeeds (.ok a : Except ε α) := ⟨a, rfl⟩

theorem succeeds_pure (a : α) : Succeeds (pure a : Except ε α) := ⟨a, rfl⟩

theorem not_succeeds_error (e : ε) : ¬ Succeeds (.error e : Except ε α) :=
  fun ⟨_, h⟩ => nomatch h

theorem succeeds_bind {x : Except ε α} {f : α → Except ε β} :
    Succeeds (x >>= f) ↔ ∃ a, x = .ok a ∧ Succeeds (f a) := by
  constructor
  · rintro ⟨b, hb⟩
    obtain ⟨a, ha, hf⟩ := bind_eq_ok.mp hb
    exact ⟨a, ha, b, hf⟩
  · rintro ⟨a, ha, b, hb⟩
    exact ⟨b, bind_eq_ok.mpr ⟨a, ha, hb⟩⟩

theorem succeeds_bind_of {x : Except ε α} {f : α → Except ε β}
    (h : ∀ a, x = .ok a → Succeeds (f a)) : Succeeds (x >>= f) ↔ Succeeds x := by
  rw [succeeds_bind]
  constructor
  · rintro ⟨a, ha, -⟩
    exact ⟨a, ha⟩
  · rintro ⟨a, ha⟩
    exact ⟨a, ha, h a ha⟩

theorem succeeds_bind_and {x : Except ε α} {f : α → Except ε β} {P : Prop}
    (h : ∀ a, Succeeds (f a) ↔ P) : Succeeds (x >>= f) ↔ Succeeds x ∧ P := by
  rw [succeeds_bind]
  constructor
  · rintro ⟨a, ha, hf⟩
    exact ⟨⟨a, ha⟩, (h a).mp hf⟩
  · rintro ⟨⟨a, ha⟩, hP⟩
    exact ⟨a, ha, (h a).mpr hP⟩

theorem succeeds_map {x : Except ε α} {f : α → β} : Succeeds (x.map f) ↔ Succeeds x := by
  cases x with
  | error e => exact iff_of_false (not_succeeds_error e) (not_succeeds_error e)
  | ok a => exact iff_of_true (succeeds_ok _) (succeeds_ok a)

theorem succeeds_guard {p : Prop} [Decidable p] {e : ε} {x : Except ε α} :
    Succeeds (if p then .error e else x) ↔ ¬ p ∧ Succeeds x := by
  by_cases h : p
  · rw [if_pos h]
    exact iff_of_false (not_succeeds_error e) fun hx => hx.1 h
  · rw [if_neg h]
    exact ⟨fun hx => ⟨h, hx⟩, And.right⟩

theorem succeeds_mapM {f : α → Except ε β} {as : List α} :
    Succeeds (as.mapM f) ↔ ∀ a ∈ as, Succeeds (f a) := by
  induction as with
  | nil => exact iff_of_true ⟨[], rfl⟩ fun a ha => nomatch ha
  | cons a as ih =>
    rw [List.mapM_cons, succeeds_bind]
    simp only [List.mem_cons, forall_eq_or_imp, ← ih]
    constructor
    · rintro ⟨b, hb, hrest⟩
      obtain ⟨bs, hbs, -⟩ := succeeds_bind.mp hrest
      exact ⟨⟨b, hb⟩, bs, hbs⟩
    · rintro ⟨⟨b, hb⟩, bs, hbs⟩
      exact ⟨b, hb, succeeds_bind.mpr ⟨bs, hbs, succeeds_pure _⟩⟩

theorem mapM_ok {f : α → Except ε β} {g : α → β} {as : List α}
    (h : ∀ a ∈ as, f a = .ok (g a)) : as.mapM f = .ok (as.map g) := by
  induction as with
  | nil => rfl
  | cons a as ih =>
    rw [List.mapM_cons, h a List.mem_cons_self, ih fun b hb => h b (List.mem_cons_of_mem a hb)]
    rfl

theorem map_of_mapM {γ : Type} {f : α → Except ε β} {k : β → γ} {g : α → γ}
    (hg : ∀ a b, f a = .ok b → k b = g a) {as : List α} {bs : List β}
    (h : as.mapM f = .ok bs) : bs.map k = as.map g := by
  induction as generalizing bs with
  | nil =>
    obtain rfl := Except.ok.inj h
    rfl
  | cons a as ih =>
    rw [List.mapM_cons] at h
    obtain ⟨b, hb, h⟩ := bind_eq_ok.mp h
    obtain ⟨rest, hrest, h⟩ := bind_eq_ok.mp h
    obtain rfl := Except.ok.inj h
    rw [List.map_cons, List.map_cons, hg a b hb, ih hrest]

theorem eq_map_of_mapM {f : α → Except ε β} {g : α → β} (hg : ∀ a b, f a = .ok b → b = g a)
    {as : List α} {bs : List β} (h : as.mapM f = .ok bs) : bs = as.map g := by
  rw [← map_of_mapM (k := id) hg h, List.map_id]

theorem forall₂_of_mapM {f g : α → Except ε β} {R : β → β → Prop} {as : List α}
    (h : ∀ a ∈ as, ∀ b c, f a = .ok b → g a = .ok c → R b c) {bs cs : List β}
    (hf : as.mapM f = .ok bs) (hg : as.mapM g = .ok cs) : List.Forall₂ R bs cs := by
  induction as generalizing bs cs with
  | nil =>
    obtain rfl := Except.ok.inj hf
    obtain rfl := Except.ok.inj hg
    exact .nil
  | cons a as ih =>
    rw [List.mapM_cons] at hf hg
    obtain ⟨b, hb, hf⟩ := bind_eq_ok.mp hf
    obtain ⟨bs', hbs, hf⟩ := bind_eq_ok.mp hf
    obtain rfl := Except.ok.inj hf
    obtain ⟨c, hc, hg⟩ := bind_eq_ok.mp hg
    obtain ⟨cs', hcs, hg⟩ := bind_eq_ok.mp hg
    obtain rfl := Except.ok.inj hg
    exact .cons (h a List.mem_cons_self b c hb hc)
      (ih (fun a' ha' => h a' (List.mem_cons_of_mem a ha')) hbs hcs)

theorem exists_of_forall₂ {R : α → β → Prop} {as : List α} {bs : List β}
    (h : List.Forall₂ R as bs) {a : α} (ha : a ∈ as) : ∃ b ∈ bs, R a b := by
  induction h with
  | nil => cases ha
  | cons hab _ ih =>
    rcases List.mem_cons.mp ha with rfl | ha
    · exact ⟨_, List.mem_cons_self, hab⟩
    · obtain ⟨b, hb, hr⟩ := ih ha
      exact ⟨b, List.mem_cons_of_mem _ hb, hr⟩

theorem succeeds_foldlM {f : σ → α → Except ε σ} {P : α → Prop} {as : List α}
    (h : ∀ a ∈ as, ∀ s, Succeeds (f s a) ↔ P a) (s : σ) :
    Succeeds (as.foldlM f s) ↔ ∀ a ∈ as, P a := by
  induction as generalizing s with
  | nil => exact iff_of_true ⟨s, rfl⟩ fun a ha => nomatch ha
  | cons a as ih =>
    have hrest := ih fun b hb => h b (List.mem_cons_of_mem a hb)
    have hfirst := h a List.mem_cons_self s
    rw [List.foldlM_cons, succeeds_bind]
    simp only [List.mem_cons, forall_eq_or_imp, ← hfirst]
    constructor
    · rintro ⟨s', hs', hfold⟩
      exact ⟨⟨s', hs'⟩, (hrest s').mp hfold⟩
    · rintro ⟨⟨s', hs'⟩, hall⟩
      exact ⟨s', hs', (hrest s').mpr hall⟩

/-- **Loop rule**: what holds of the elements taken so far and of the state is kept by each turn,
so it holds of all of them at the end. -/
theorem foldlM_invariant {f : σ → α → Except ε σ} {I : List α → σ → Prop}
    (hstep : ∀ seen a s s', I seen s → f s a = .ok s' → I (seen ++ [a]) s') {s s' : σ}
    (hs : I [] s) {as : List α} (h : as.foldlM f s = .ok s') : I as s' := by
  have hrun : ∀ (as seen : List α) (s : σ), I seen s → as.foldlM f s = .ok s' →
      I (seen ++ as) s' := by
    intro as
    induction as with
    | nil =>
      intro seen s hI h
      rw [List.append_nil]
      exact Except.ok.inj h ▸ hI
    | cons a as ih =>
      intro seen s hI h
      rw [List.foldlM_cons] at h
      obtain ⟨t, ht, h⟩ := bind_eq_ok.mp h
      have hrest := ih (seen ++ [a]) t (hstep seen a s t hI ht) h
      rwa [List.append_assoc, List.singleton_append] at hrest
  exact hrun as [] s hs h

end Concord.Base
