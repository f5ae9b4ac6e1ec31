import Mathlib.Data.List.Basic

/-!
# Runs of partial step functions

A system is a partial step function `step : σ → α → Option σ`: `none` when the
action is not enabled in the state. `exec` runs a list of actions, and every
safety result of this development is an instance of one of two rules:

- `exec_invariant`: a predicate that every enabled step preserves holds at the
  end of every run;
- `guarded_invariant`: the same for the runs whose every action meets a guard
  in the state it is taken in (`Guarded`). The guard is a condition on the
  state *before* the step, which is how a result that holds only of well-behaved
  runs is stated without naming the states those runs reach.

Since a prefix of a run is a run, "in every state reached" is "at the end of
every run".
-/

namespace Concord.Base

universe u v

variable {σ : Type u} {α : Type v}

/-- Run the actions in order; `none` as soon as one is not enabled. -/
def exec (step : σ → α → Option σ) : σ → List α → Option σ
  | s, [] => some s
  | s, a :: as => (step s a).bind fun s' => exec step s' as

/-- Every action of the run meets the guard `G` in the state it is taken in. -/
def Guarded (step : σ → α → Option σ) (G : σ → α → Prop) : σ → List α → Prop
  | _, [] => True
  | s, a :: as => G s a ∧ ∀ s', step s a = some s' → Guarded step G s' as

@[simp] theorem exec_nil (step : σ → α → Option σ) (s : σ) :
    exec step s [] = some s := rfl

theorem exec_cons (step : σ → α → Option σ) (s : σ) (a : α) (as : List α) :
    exec step s (a :: as) = (step s a).bind fun s' => exec step s' as := rfl

theorem exec_cons_eq_some {step : σ → α → Option σ} {s t : σ} {a : α}
    {as : List α} :
    exec step s (a :: as) = some t ↔
      ∃ s', step s a = some s' ∧ exec step s' as = some t := by
  rw [exec_cons, Option.bind_eq_some_iff]

theorem exec_append (step : σ → α → Option σ) (s : σ) (as bs : List α) :
    exec step s (as ++ bs) = (exec step s as).bind fun s' => exec step s' bs := by
  induction as generalizing s with
  | nil => rfl
  | cons a as ih =>
    rw [List.cons_append, exec_cons, exec_cons, Option.bind_assoc]
    exact congrArg _ (funext fun s' => ih s')

theorem exec_append_eq_some {step : σ → α → Option σ} {s t : σ} {as bs : List α} :
    exec step s (as ++ bs) = some t ↔
      ∃ u, exec step s as = some u ∧ exec step u bs = some t := by
  rw [exec_append, Option.bind_eq_some_iff]

theorem Guarded.cons {step : σ → α → Option σ} {G : σ → α → Prop} {s s' : σ} {a : α}
    {as : List α} (hstep : step s a = some s') (ha : G s a)
    (has : Guarded step G s' as) : Guarded step G s (a :: as) := by
  refine ⟨ha, fun t ht => ?_⟩
  rw [hstep, Option.some.injEq] at ht
  exact ht ▸ has

theorem guarded_iff {step : σ → α → Option σ} {G : σ → α → Prop} {s : σ}
    {as : List α} :
    Guarded step G s as ↔
      ∀ bs a cs u, as = bs ++ a :: cs → exec step s bs = some u → G u a := by
  induction as generalizing s with
  | nil =>
    refine ⟨fun _ bs a cs u h => ?_, fun _ => trivial⟩
    exact absurd h.symm (List.append_ne_nil_of_right_ne_nil bs (List.cons_ne_nil a cs))
  | cons b as ih =>
    constructor
    · rintro ⟨hb, has⟩ bs a cs u h hrun
      cases bs with
      | nil =>
        rw [List.nil_append, List.cons.injEq] at h
        rw [exec_nil, Option.some.injEq] at hrun
        rw [← h.1, ← hrun]
        exact hb
      | cons c bs =>
        rw [List.cons_append, List.cons.injEq] at h
        obtain ⟨s', hs', hrun⟩ := exec_cons_eq_some.mp hrun
        exact ih.mp (has s' (h.1 ▸ hs')) bs a cs u h.2 hrun
    · intro h
      refine ⟨h [] b as s rfl rfl, fun s' hs' => ih.mpr fun bs a cs u heq hrun => ?_⟩
      exact h (b :: bs) a cs u (by rw [heq, List.cons_append])
        (exec_cons_eq_some.mpr ⟨s', hs', hrun⟩)

theorem guarded_congr {step : σ → α → Option σ} {G H : σ → α → Prop}
    (h : ∀ s a, G s a ↔ H s a) {s : σ} {as : List α} :
    Guarded step G s as ↔ Guarded step H s as := by
  rw [guarded_iff, guarded_iff]
  simp only [h]

theorem guarded_congr_of_invariant {step : σ → α → Option σ} {I : σ → Prop}
    {G H : σ → α → Prop} (hstep : ∀ s a s', I s → step s a = some s' → I s')
    (h : ∀ s a, I s → (G s a ↔ H s a)) {s : σ} (hs : I s) {as : List α} :
    Guarded step G s as ↔ Guarded step H s as := by
  induction as generalizing s with
  | nil => exact Iff.rfl
  | cons a as ih =>
    exact and_congr (h s a hs) (forall_congr' fun s' =>
      imp_congr_right fun hs' => ih (hstep s a s' hs hs'))

theorem guarded_forall {ι : Type*} {step : σ → α → Option σ} {G : ι → σ → α → Prop}
    {s : σ} {as : List α} :
    Guarded step (fun u a => ∀ i, G i u a) s as ↔ ∀ i, Guarded step (G i) s as := by
  simp only [guarded_iff]
  constructor
  · exact fun h i bs a cs u heq hrun => h bs a cs u heq hrun i
  · exact fun h bs a cs u heq hrun i => h i bs a cs u heq hrun

theorem Guarded.take {step : σ → α → Option σ} {G : σ → α → Prop} {s : σ}
    {as bs : List α} (h : Guarded step G s (as ++ bs)) : Guarded step G s as := by
  refine guarded_iff.mpr fun cs a ds u heq hrun => ?_
  exact guarded_iff.mp h cs a (ds ++ bs) u (by rw [heq, List.append_assoc, List.cons_append])
    hrun

theorem Guarded.drop {step : σ → α → Option σ} {G : σ → α → Prop} {s t : σ}
    {as bs : List α} (h : Guarded step G s (as ++ bs))
    (hrun : exec step s as = some t) : Guarded step G t bs := by
  refine guarded_iff.mpr fun cs a ds u heq hrest => ?_
  exact guarded_iff.mp h (as ++ cs) a ds u (by rw [heq, List.append_assoc])
    (exec_append_eq_some.mpr ⟨t, hrun, hrest⟩)

/-- **Guarded invariant rule.** -/
theorem guarded_invariant {step : σ → α → Option σ} {G : σ → α → Prop}
    {I : σ → Prop}
    (hstep : ∀ s a s', I s → G s a → step s a = some s' → I s')
    {s t : σ} {as : List α} (hs : I s) (hg : Guarded step G s as)
    (hrun : exec step s as = some t) : I t := by
  induction as generalizing s with
  | nil =>
    rw [exec_nil, Option.some.injEq] at hrun
    exact hrun ▸ hs
  | cons a as ih =>
    obtain ⟨s', hs', hrest⟩ := exec_cons_eq_some.mp hrun
    exact ih (hstep s a s' hs hg.1 hs') (hg.2 s' hs') hrest

/-- **Guarded consequence rule**: what a step's guard gives where an invariant holds, which the
guarded steps keep, is had at every step of a guarded run. -/
theorem Guarded.consequence {step : σ → α → Option σ} {G H : σ → α → Prop} {I : σ → Prop}
    (hstep : ∀ s a s', I s → G s a → step s a = some s' → I s')
    (h : ∀ s a, I s → G s a → H s a) {s : σ} (hs : I s) {as : List α}
    (hg : Guarded step G s as) : Guarded step H s as := by
  induction as generalizing s with
  | nil => trivial
  | cons a as ih =>
    exact ⟨h s a hs hg.1, fun s' hs' => ih (hstep s a s' hs hg.1 hs') (hg.2 s' hs')⟩

theorem guarded_of_forall_mem {step : σ → α → Option σ} {G : α → Prop}
    {as : List α} (hG : ∀ a ∈ as, G a) (s : σ) :
    Guarded step (fun _ a => G a) s as := by
  induction as generalizing s with
  | nil => trivial
  | cons a as ih =>
    exact ⟨hG a List.mem_cons_self,
      fun s' _ => ih (fun b hb => hG b (List.mem_cons_of_mem a hb)) s'⟩

/-- **Invariant rule.** -/
theorem exec_invariant {step : σ → α → Option σ} {I : σ → Prop}
    (hstep : ∀ s a s', I s → step s a = some s' → I s')
    {s t : σ} {as : List α} (hs : I s) (hrun : exec step s as = some t) : I t :=
  guarded_invariant (fun s a s' h _ => hstep s a s' h) hs
    (guarded_of_forall_mem (fun _ _ => trivial) s) hrun

theorem exec_invariant_of_mem {step : σ → α → Option σ} {G : α → Prop}
    {I : σ → Prop}
    (hstep : ∀ s a s', I s → G a → step s a = some s' → I s')
    {s t : σ} {as : List α} (hs : I s) (hG : ∀ a ∈ as, G a)
    (hrun : exec step s as = some t) : I t :=
  guarded_invariant hstep hs (guarded_of_forall_mem hG s) hrun

/-- **When an invariant is kept**: a predicate that holds at first holds in every state a
run reaches, if and only if each step meets the condition under which it is kept. -/
theorem guarded_iff_invariant {step : σ → α → Option σ} {I J : σ → Prop} {G : σ → α → Prop}
    (hkeep : ∀ s a s', I s → step s a = some s' → I s')
    (hnone : ∀ s a, I s → step s a = none → G s a)
    (hstep : ∀ s a s', I s → J s → step s a = some s' → (G s a ↔ J s'))
    {s : σ} (hs : I s) (hJ : J s) {as : List α} :
    Guarded step G s as ↔ ∀ bs t, bs <+: as → exec step s bs = some t → J t := by
  induction as generalizing s with
  | nil =>
    refine ⟨fun _ bs t hbs hrun => ?_, fun _ => trivial⟩
    rw [List.prefix_nil.mp hbs, exec_nil, Option.some.injEq] at hrun
    exact hrun ▸ hJ
  | cons a as ih =>
    constructor
    · rintro ⟨ha, has⟩ bs t hbs hrun
      cases bs with
      | nil =>
        rw [exec_nil, Option.some.injEq] at hrun
        exact hrun ▸ hJ
      | cons b bs =>
        obtain ⟨rfl, hrest'⟩ := List.cons_prefix_cons.mp hbs
        obtain ⟨s', hs', hrest⟩ := exec_cons_eq_some.mp hrun
        exact (ih (hkeep s b s' hs hs') ((hstep s b s' hs hJ hs').mp ha)).mp (has s' hs')
          bs t hrest' hrest
    · intro h
      -- the state after `a` alone is one of those reached, which is where `hstep` starts
      have hbegin : ∀ bs, bs <+: as → a :: bs <+: a :: as :=
        fun bs hbs => List.cons_prefix_cons.mpr ⟨rfl, hbs⟩
      have hJ' : ∀ s', step s a = some s' → J s' := fun s' hs' =>
        h [a] s' (hbegin [] List.nil_prefix) (exec_cons_eq_some.mpr ⟨s', hs', rfl⟩)
      constructor
      · cases hs' : step s a with
        | none => exact hnone s a hs hs'
        | some s' => exact (hstep s a s' hs hJ hs').mpr (hJ' s' hs')
      · intro s' hs'
        refine (ih (hkeep s a s' hs hs') (hJ' s' hs')).mpr fun bs t hbs hrun => ?_
        exact h (a :: bs) t (hbegin bs hbs) (exec_cons_eq_some.mpr ⟨s', hs', hrun⟩)

/-- What holds at the end of a run and did not at its beginning was brought about by a
step of it. -/
theorem exec_turns {step : σ → α → Option σ} {P : σ → Prop} {s t : σ} {as : List α}
    (hrun : exec step s as = some t) (hs : ¬P s) (ht : P t) :
    ∃ bs a cs u v, as = bs ++ a :: cs ∧ exec step s bs = some u ∧ step u a = some v ∧
      ¬P u ∧ P v := by
  induction as generalizing s with
  | nil =>
    rw [exec_nil, Option.some.injEq] at hrun
    exact absurd (hrun ▸ ht) hs
  | cons a as ih =>
    obtain ⟨s', hs', hrest⟩ := exec_cons_eq_some.mp hrun
    by_cases h : P s'
    · exact ⟨[], a, as, s, s', rfl, rfl, hs', hs, h⟩
    · obtain ⟨bs, b, cs, u, v, rfl, hbs, hstep, hu, hv⟩ := ih hrest h
      exact ⟨a :: bs, b, cs, u, v, rfl, exec_cons_eq_some.mpr ⟨s', hs', hbs⟩, hstep, hu, hv⟩

/-! ## Counting steps -/

/-- The steps of a run that meet `P` in the state they are taken in. -/
def tally (step : σ → α → Option σ) (P : σ → α → Bool) : σ → List α → Nat
  | _, [] => 0
  | s, a :: as => (P s a).toNat + ((step s a).map fun s' => tally step P s' as).getD 0

theorem tally_cons {step : σ → α → Option σ} {P : σ → α → Bool} {s s' : σ} {a : α}
    (h : step s a = some s') (as : List α) :
    tally step P s (a :: as) = (P s a).toNat + tally step P s' as := by
  rw [tally, h, Option.map_some, Option.getD_some]

theorem tally_append {step : σ → α → Option σ} {P : σ → α → Bool} {s t : σ} {as : List α}
    (h : exec step s as = some t) (bs : List α) :
    tally step P s (as ++ bs) = tally step P s as + tally step P t bs := by
  induction as generalizing s with
  | nil =>
    rw [exec_nil, Option.some.injEq] at h
    rw [List.nil_append, tally, Nat.zero_add, h]
  | cons a as ih =>
    obtain ⟨s', hs', hrest⟩ := exec_cons_eq_some.mp h
    rw [List.cons_append, tally_cons hs', tally_cons hs', ih hrest, Nat.add_assoc]

/-- **Invariant rule with counters**: what is preserved while each count grows with the
steps it counts holds of the counts of the whole run. -/
theorem tally_invariant {step : σ → α → Option σ} {G : σ → α → Prop} {P Q : σ → α → Bool}
    {I : Nat → Nat → σ → Prop}
    (hstep : ∀ m n s a s', I m n s → G s a → step s a = some s' →
      I (m + (P s a).toNat) (n + (Q s a).toNat) s')
    {m n : Nat} {s t : σ} {as : List α} (hs : I m n s) (hg : Guarded step G s as)
    (hrun : exec step s as = some t) :
    I (m + tally step P s as) (n + tally step Q s as) t := by
  induction as generalizing s m n with
  | nil =>
    rw [exec_nil, Option.some.injEq] at hrun
    rw [tally, tally, Nat.add_zero, Nat.add_zero]
    exact hrun ▸ hs
  | cons a as ih =>
    obtain ⟨s', hs', hrest⟩ := exec_cons_eq_some.mp hrun
    rw [tally_cons hs', tally_cons hs', ← Nat.add_assoc, ← Nat.add_assoc]
    exact ih (hstep m n s a s' hs hg.1 hs') (hg.2 s' hs') hrest

/-! ## Cells -/

/-- **The last write stands**: a cell that each step leaves or overwrites holds the last
value written to it, or the one it had. -/
theorem foldl_lastWrite {β : Type*} (get : σ → β) {apply : σ → α → σ} {write : α → Option β}
    (h : ∀ s a, get (apply s a) = (write a).getD (get s)) (s : σ) (as : List α) :
    get (as.foldl apply s) = (as.filterMap write).getLast?.getD (get s) := by
  induction as generalizing s with
  | nil => rfl
  | cons a as ih =>
    rw [List.foldl_cons, ih, h]
    cases hw : write a with
    | none => rw [List.filterMap_cons_none hw, Option.getD_none]
    | some b =>
      rw [List.filterMap_cons_some hw, List.getLast?_cons, Option.getD_some, Option.getD_some]

/-- **The first write stands**: a cell that a step fills where it is empty and leaves
otherwise holds what it had, or the first value written to it. -/
theorem foldl_firstWrite {β : Type*} (get : σ → Option β) {apply : σ → α → σ}
    {write : α → Option β} (h : ∀ s a, get (apply s a) = (get s).or (write a)) (s : σ)
    (as : List α) : get (as.foldl apply s) = (get s).or (as.findSome? write) := by
  induction as generalizing s with
  | nil => rw [List.foldl_nil, List.findSome?_nil, Option.or_none]
  | cons a as ih =>
    rw [List.foldl_cons, ih, h, Option.or_assoc]
    congr 1
    cases hw : write a with
    | none => rw [List.findSome?_cons, hw, Option.none_or]
    | some b => rw [List.findSome?_cons, hw, Option.some_or]

theorem foldl_other {β κ : Type*} (get : σ → β) {apply : σ → α → σ} {key : α → κ} {k : κ}
    (h : ∀ s a, key a ≠ k → get (apply s a) = get s) (s : σ) {as : List α}
    (hk : ∀ a ∈ as, key a ≠ k) : get (as.foldl apply s) = get s := by
  induction as generalizing s with
  | nil => rfl
  | cons a as ih =>
    rw [List.foldl_cons, ih _ fun b hb => hk b (List.mem_cons_of_mem a hb),
      h s a (hk a List.mem_cons_self)]

/-- **A cell that one step names** holds what that step makes of it. -/
theorem foldl_keyed {β κ : Type*} (get : σ → β) (write : α → β → β) {apply : σ → α → σ}
    {key : α → κ} {as : List α} (hnodup : (as.map key).Nodup) {a : α} (ha : a ∈ as)
    (hself : ∀ s, get (apply s a) = write a (get s))
    (hother : ∀ s b, key b ≠ key a → get (apply s b) = get s) (s : σ) :
    get (as.foldl apply s) = write a (get s) := by
  obtain ⟨before, after, rfl⟩ := List.append_of_mem ha
  rw [List.map_append, List.map_cons, List.nodup_append, List.nodup_cons] at hnodup
  obtain ⟨-, ⟨hafter, -⟩, hbefore⟩ := hnodup
  rw [List.foldl_append, List.foldl_cons,
    foldl_other get hother _ fun b hb heq => hafter (heq ▸ List.mem_map_of_mem hb), hself,
    foldl_other get hother _ fun b hb heq =>
      hbefore _ (List.mem_map_of_mem hb) _ List.mem_cons_self heq]

/-- **What is only appended to** holds what every step appended, in order. -/
theorem foldl_flatMap {β : Type*} (get : σ → List β) {apply : σ → α → σ} {more : α → List β}
    (h : ∀ s a, get (apply s a) = get s ++ more a) (s : σ) (as : List α) :
    get (as.foldl apply s) = get s ++ as.flatMap more := by
  induction as generalizing s with
  | nil => rw [List.foldl_nil, List.flatMap_nil, List.append_nil]
  | cons a as ih => rw [List.foldl_cons, ih, h, List.flatMap_cons, List.append_assoc]

/-! ## Calls that may raise -/

section Fallible

variable {ε : Type u} {β γ : Type v}

theorem toOption_eq_some {x : Except ε β} {b : β} (h : x.toOption = some b) : x = .ok b := by
  cases x with
  | error e => cases h
  | ok c => exact congrArg _ (Option.some.inj h)

theorem bind_eq_ok {x : Except ε β} {f : β → Except ε γ} {c : γ} :
    x >>= f = .ok c ↔ ∃ b, x = .ok b ∧ f b = .ok c := by
  cases x with
  | error e =>
    constructor
    · intro h
      cases h
    · rintro ⟨b, h, -⟩
      cases h
  | ok b =>
    constructor
    · exact fun h => ⟨b, rfl, h⟩
    · rintro ⟨b', h, hf⟩
      exact Except.ok.inj h ▸ hf

theorem map_eq_ok {x : Except ε β} {f : β → γ} {c : γ} :
    x.map f = .ok c ↔ ∃ b, x = .ok b ∧ f b = c := by
  cases x with
  | error e =>
    constructor
    · intro h
      cases h
    · rintro ⟨b, h, -⟩
      cases h
  | ok b =>
    constructor
    · exact fun h => ⟨b, rfl, Except.ok.inj h⟩
    · rintro ⟨b', h, rfl⟩
      rw [Except.ok.inj h]
      rfl

theorem mapM_eq_some {f : β → Option γ} {bs : List β} {cs : List γ} :
    bs.mapM f = some cs ↔ bs.map f = cs.map some := by
  induction bs generalizing cs with
  | nil => cases cs <;> simp
  | cons b bs ih =>
    rw [List.mapM_cons, List.map_cons]
    constructor
    · intro h
      obtain ⟨c, hc, h⟩ := Option.bind_eq_some_iff.mp h
      obtain ⟨ds, hds, h⟩ := Option.bind_eq_some_iff.mp h
      rw [← Option.some.inj h, List.map_cons, hc, ih.mp hds]
    · intro h
      cases cs with
      | nil => cases h
      | cons c cs =>
        obtain ⟨hc, hcs⟩ := List.cons.inj h
        rw [hc, ih.mpr hcs]
        rfl

theorem mem_of_map_eq_map_some {f : β → Option γ} {bs : List β} {cs : List γ}
    (h : bs.map f = cs.map some) {c : γ} : c ∈ cs ↔ ∃ b ∈ bs, f b = some c := by
  have hmem : some c ∈ cs.map some ↔ c ∈ cs :=
    List.mem_map_of_injective fun _ _ => Option.some.inj
  rw [← hmem, ← h, List.mem_map]

theorem isSome_of_map_eq_map_some {f : β → Option γ} {bs : List β} {cs : List γ}
    (h : bs.map f = cs.map some) {b : β} (hb : b ∈ bs) : (f b).isSome = true := by
  have hmem : f b ∈ cs.map some := h ▸ List.mem_map_of_mem hb
  obtain ⟨c, -, hc⟩ := List.mem_map.mp hmem
  rw [← hc, Option.isSome_some]

theorem exists_map_eq_map_some {f : β → Option γ} {bs : List β}
    (h : ∀ b ∈ bs, (f b).isSome = true) : ∃ cs : List γ, bs.map f = cs.map some := by
  refine ⟨bs.filterMap f, ?_⟩
  rw [List.map_filterMap_some_eq_filter_map_isSome, eq_comm, List.filter_eq_self]
  intro c hc
  obtain ⟨b, hb, rfl⟩ := List.mem_map.mp hc
  exact h b hb

theorem map_eq_of_map_eq_map_some {δ : Type*} {f : β → Option γ} {g : γ → δ} {k : β → δ}
    (hk : ∀ b c, f b = some c → g c = k b) {bs : List β} {cs : List γ}
    (h : bs.map f = cs.map some) : cs.map g = bs.map k := by
  induction bs generalizing cs with
  | nil => rw [List.map_eq_nil_iff.mp h.symm, List.map_nil, List.map_nil]
  | cons b bs ih =>
    cases cs with
    | nil => cases h
    | cons c cs =>
      obtain ⟨hb, hbs⟩ := List.cons.inj h
      rw [List.map_cons, List.map_cons, hk b c hb, ih hbs]

end Fallible

end Concord.Base
