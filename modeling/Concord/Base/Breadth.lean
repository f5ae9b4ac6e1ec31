import Mathlib.Combinatorics.SimpleGraph.Metric

/-!
# Breadth-first search

A search from a root that takes nodes from a queue, puts their neighbours that are new at its end,
and does not go on from a node whose depth is the limit. It ends (`loop_of_fuel`), and what it has
seen then are the nodes whose distance from the root is at most the limit (`mem_reached_loop`).

What carries the proof: depths in the queue are distances, they grow along the queue and by one at
most, and a node that has left the queue has its neighbours seen, unless it is at the limit.
-/

namespace Concord.Base

universe u

variable {α : Type u}

/-- The nodes seen, those other than the root, and those to go on from, with their depths. -/
structure Search (α : Type u) where
  seen : List α
  reached : List α
  queue : List (α × ℕ)

namespace Search

def start (root : α) : Search α where
  seen := [root]
  reached := []
  queue := [(root, 0)]

section Loop

variable [DecidableEq α]

def visit (depth : ℕ) (s : Search α) (v : α) : Search α :=
  if v ∈ s.seen then s
  else
    { seen := s.seen ++ [v]
      reached := s.reached ++ [v]
      queue := s.queue ++ [(v, depth + 1)] }

def turn (next : α → List α) (limit : ℤ) (v : α) (depth : ℕ) (s : Search α) : Search α :=
  if limit ≤ depth then s else (next v).foldl (visit depth) s

/-- The loop; `none` where it has not come to its end. -/
def loop (next : α → List α) (limit : ℤ) : ℕ → Search α → Option (Search α)
  | 0, s => if s.queue = [] then some s else none
  | fuel + 1, s =>
    match s.queue with
    | [] => some s
    | (v, depth) :: rest => loop next limit fuel (turn next limit v depth { s with queue := rest })

/-! ## The end of the loop -/

theorem length_visit (depth : ℕ) (s : Search α) (v : α) :
    (visit depth s v).queue.length + s.seen.length =
      s.queue.length + (visit depth s v).seen.length := by
  unfold visit
  split
  · rfl
  · simp only [List.length_append, List.length_singleton]
    omega

theorem length_foldl_visit (depth : ℕ) (s : Search α) (vs : List α) :
    (vs.foldl (visit depth) s).queue.length + s.seen.length =
      s.queue.length + (vs.foldl (visit depth) s).seen.length := by
  induction vs generalizing s with
  | nil => rfl
  | cons v vs ih =>
    have hv := length_visit depth s v
    have hvs := ih (visit depth s v)
    rw [List.foldl_cons]
    omega

theorem length_turn (next : α → List α) (limit : ℤ) (v : α) (depth : ℕ) (s : Search α) :
    (turn next limit v depth s).queue.length + s.seen.length =
      s.queue.length + (turn next limit v depth s).seen.length := by
  unfold turn
  split
  · rfl
  · exact length_foldl_visit depth s (next v)

/-- The nodes seen are distinct, and of those that there are. -/
structure Within (nodes : List α) (s : Search α) : Prop where
  nodup : s.seen.Nodup
  subset : s.seen ⊆ nodes

theorem Within.visit {nodes : List α} {s : Search α} (h : Within nodes s) (depth : ℕ) {v : α}
    (hv : v ∈ nodes) : Within nodes (visit depth s v) := by
  unfold Search.visit
  split
  case isTrue => exact h
  case isFalse hnew =>
    refine ⟨?_, ?_⟩
    · exact List.nodup_append.mpr ⟨h.nodup, List.nodup_singleton v, fun a ha b hb heq =>
        hnew (List.mem_singleton.mp hb ▸ heq ▸ ha)⟩
    · exact List.append_subset.mpr
        ⟨h.subset, List.cons_subset.mpr ⟨hv, List.nil_subset _⟩⟩

theorem Within.turn {nodes : List α} {s : Search α} {next : α → List α} (h : Within nodes s)
    (hnext : ∀ v, next v ⊆ nodes) (limit : ℤ) (v : α) (depth : ℕ) :
    Within nodes (turn next limit v depth s) := by
  unfold Search.turn
  split
  · exact h
  · refine List.foldlRecOn (next v) (Search.visit depth) h fun s hs w hw => ?_
    exact hs.visit depth (hnext v hw)

omit [DecidableEq α] in
theorem within_start {nodes : List α} {root : α} (hroot : root ∈ nodes) :
    Within nodes (start root) :=
  ⟨List.nodup_singleton root, List.cons_subset.mpr ⟨hroot, List.nil_subset _⟩⟩

theorem Within.loop {nodes : List α} {next : α → List α} {limit : ℤ}
    (hnext : ∀ v, next v ⊆ nodes) {fuel : ℕ} {s t : Search α} (hs : Within nodes s)
    (h : loop next limit fuel s = some t) : Within nodes t := by
  induction fuel generalizing s with
  | zero =>
    rw [Search.loop] at h
    split at h
    case isFalse => cases h
    case isTrue => exact Option.some.inj h ▸ hs
  | succ fuel ih =>
    rw [Search.loop] at h
    split at h
    case h_1 => exact Option.some.inj h ▸ hs
    case h_2 v depth rest hqueue =>
      have hpopped : Within nodes { s with queue := rest } := ⟨hs.nodup, hs.subset⟩
      exact ih (hpopped.turn hnext limit v depth) h

/-- **The loop ends**: a node is queued once. -/
theorem loop_of_fuel {nodes : List α} {next : α → List α} (hnext : ∀ v, next v ⊆ nodes)
    (limit : ℤ) {fuel : ℕ} {s : Search α} (hs : Within nodes s)
    (hfuel : s.queue.length + nodes.length ≤ fuel + s.seen.length) :
    ∃ t, loop next limit fuel s = some t := by
  induction fuel generalizing s with
  | zero =>
    have hle : s.seen.length ≤ nodes.length := (List.subperm_of_subset hs.nodup hs.subset).length_le
    have hnil : s.queue = [] := List.length_eq_zero_iff.mp (by omega)
    exact ⟨s, if_pos hnil⟩
  | succ fuel ih =>
    rw [loop]
    split
    case h_1 => exact ⟨s, rfl⟩
    case h_2 v depth rest hqueue =>
      have hpopped : Within nodes { s with queue := rest } := ⟨hs.nodup, hs.subset⟩
      refine ih (hpopped.turn hnext limit v depth) ?_
      have hturn := length_turn next limit v depth { s with queue := rest }
      rw [hqueue, List.length_cons] at hfuel
      dsimp only at hturn
      omega

theorem loop_mono {next : α → List α} {limit : ℤ} {fuel fuel' : ℕ} (hle : fuel ≤ fuel')
    {s t : Search α} (h : loop next limit fuel s = some t) : loop next limit fuel' s = some t := by
  induction fuel generalizing fuel' s with
  | zero =>
    rw [loop] at h
    split at h
    case isFalse => cases h
    case isTrue hnil =>
      cases fuel' with
      | zero => exact (if_pos hnil).trans h
      | succ fuel' =>
        rw [loop, hnil]
        exact h
  | succ fuel ih =>
    obtain ⟨fuel', rfl⟩ : ∃ k, fuel' = k + 1 := ⟨fuel' - 1, by omega⟩
    rw [loop] at h ⊢
    split at h
    case h_1 => exact h
    case h_2 => exact ih (by omega) h

end Loop

/-! ## What is seen -/

/-- `next` gives the neighbours in the graph; a node may be among its own. -/
def Neighbours (G : SimpleGraph α) (next : α → List α) : Prop :=
  ∀ v w, v ≠ w → (w ∈ next v ↔ G.Adj v w)

/-- A node that need not be gone on from: it is at the limit, or its neighbours are seen. -/
def Done (G : SimpleGraph α) (root : α) (limit : ℤ) (seen : List α) (u : α) : Prop :=
  (∃ d : ℕ, G.edist root u = d ∧ limit ≤ d) ∨ ∀ w, G.Adj u w → w ∈ seen

theorem Done.mono {G : SimpleGraph α} {root u : α} {limit : ℤ} {seen seen' : List α}
    (h : Done G root limit seen u) (hsub : seen ⊆ seen') : Done G root limit seen' u :=
  h.imp_right fun hall w hw => hsub (hall w hw)

/-- Between two turns, or in one, when `now` is the node at hand. -/
structure Level (G : SimpleGraph α) (root : α) (limit : ℤ) (now : Option α) (depth : ℕ)
    (s : Search α) : Prop where
  split : s.seen = root :: s.reached
  near : ∀ v ∈ s.reached, ∃ d : ℕ, G.edist root v = d ∧ 1 ≤ d ∧ (d : ℤ) ≤ limit
  exact : ∀ q ∈ s.queue, q.1 ∈ s.seen ∧ G.edist root q.1 = q.2
  sorted : s.queue.Pairwise fun a b => a.2 ≤ b.2
  depths : ∀ q ∈ s.queue, depth ≤ q.2 ∧ q.2 ≤ depth + 1
  closed : ∀ u ∈ s.seen, now = some u ∨ (∃ q ∈ s.queue, q.1 = u) ∨ Done G root limit s.seen u

variable {G : SimpleGraph α} {root : α} {limit : ℤ} {next : α → List α}

theorem level_start (G : SimpleGraph α) (root : α) (limit : ℤ) :
    Level G root limit none 0 (start root) where
  split := rfl
  near _ h := absurd h List.not_mem_nil
  exact q hq := by
    rw [List.mem_singleton.mp hq]
    exact ⟨List.mem_singleton_self root, SimpleGraph.edist_self⟩
  sorted := List.pairwise_singleton _ _
  depths q hq := by
    rw [List.mem_singleton.mp hq]
    exact ⟨le_rfl, Nat.zero_le _⟩
  closed u hu := .inr (.inl ⟨_, List.mem_singleton_self _, (List.mem_singleton.mp hu).symm⟩)

theorem exists_nearer {d : ℕ} {v : α} (h : G.edist root v = (d + 1 : ℕ)) :
    ∃ u, G.edist root u = d ∧ G.Adj u v := by
  obtain ⟨p, hp⟩ := SimpleGraph.exists_walk_of_edist_eq_coe (G.edist_comm ▸ h)
  cases p with
  | nil => cases hp
  | @cons _ u _ hadj q =>
    refine ⟨u, ?_, hadj.symm⟩
    have hq : q.length = d := Nat.succ.inj hp
    have hle : G.edist root u ≤ d := by
      rw [SimpleGraph.edist_comm, ← hq]
      exact SimpleGraph.edist_le q
    refine le_antisymm hle ?_
    -- the other way round: one step further than `u` is `v`
    have htri : G.edist root v ≤ G.edist root u + 1 :=
      SimpleGraph.edist_triangle.trans
        (add_le_add_right (SimpleGraph.edist_eq_one_iff_adj.mpr hadj.symm).le _)
    rw [h, Nat.cast_add, Nat.cast_one] at htri
    exact (ENat.add_le_add_iff_right ENat.one_ne_top).mp htri

theorem Level.mem_of_le {now : Option α} {depth : ℕ} {s : Search α}
    (h : Level G root limit now depth s) (hlimit : (depth : ℤ) ≤ limit)
    (hnow : ∀ u, now = some u → ∃ d : ℕ, G.edist root u = d ∧ depth ≤ d) {d : ℕ} {v : α}
    (hv : G.edist root v = d) (hd : d ≤ depth) : v ∈ s.seen := by
  induction d generalizing v with
  | zero =>
    rw [h.split, ← SimpleGraph.edist_eq_zero_iff.mp hv]
    exact List.mem_cons_self
  | succ d ih =>
    obtain ⟨u, hu, hadj⟩ := exists_nearer hv
    rcases h.closed u (ih hu (by omega)) with hnow' | ⟨q, hq, rfl⟩ | ⟨e, he, hle⟩ | hall
    · obtain ⟨e, he, hle⟩ := hnow u hnow'
      have : d = e := ENat.natCast_inj.mp (hu.symm.trans he)
      omega
    · have : d = q.2 := ENat.natCast_inj.mp (hu.symm.trans (h.exact q hq).2)
      have := (h.depths q hq).1
      omega
    · have : d = e := ENat.natCast_inj.mp (hu.symm.trans he)
      omega
    · exact hall v hadj

section Turn

variable [DecidableEq α]

/-- A neighbour is seen for the first time: it is one step further. -/
theorem Level.visit {depth : ℕ} {s : Search α} {v w : α}
    (h : Level G root limit (some v) depth s) (hv : G.edist root v = depth)
    (hdepth : (depth : ℤ) < limit) (hw : v ≠ w → G.Adj v w) :
    Level G root limit (some v) depth (visit depth s w) := by
  unfold Search.visit
  split
  case isTrue => exact h
  case isFalse hnew =>
    have hnow : ∀ u, some v = some u → ∃ d : ℕ, G.edist root u = d ∧ depth ≤ d := by
      rintro u ⟨⟩
      exact ⟨depth, hv, le_rfl⟩
    have hself : v ∈ s.seen := h.mem_of_le hdepth.le hnow hv le_rfl
    have hadj : G.Adj v w := hw fun heq => hnew (heq ▸ hself)
    have hdist : G.edist root w = (depth + 1 : ℕ) := by
      have hle : G.edist root w ≤ (depth + 1 : ℕ) := by
        have htri : G.edist root w ≤ G.edist root v + G.edist v w := SimpleGraph.edist_triangle
        rw [hv, SimpleGraph.edist_eq_one_iff_adj.mpr hadj] at htri
        exact_mod_cast htri
      obtain ⟨d, hd⟩ := ENat.ne_top_iff_exists.mp (ne_top_of_le_ne_top (ENat.natCast_ne_top _) hle)
      -- what is nearer has been seen
      have hfar : depth < d := by
        by_contra hnear
        exact hnew (h.mem_of_le hdepth.le hnow hd.symm (not_lt.mp hnear))
      rw [← hd] at hle ⊢
      have := ENat.natCast_le_natCast.mp hle
      exact ENat.natCast_inj.mpr (by omega)
    have hseen : s.seen ⊆ s.seen ++ [w] := List.subset_append_left _ _
    refine ⟨?_, ?_, ?_, ?_, ?_, ?_⟩
    · rw [h.split, List.cons_append]
    · rw [List.forall_mem_append]
      refine ⟨h.near, fun u hu => ⟨depth + 1, ?_, by omega, by omega⟩⟩
      rw [List.mem_singleton.mp hu, hdist]
    · rw [List.forall_mem_append]
      refine ⟨fun q hq => ⟨hseen (h.exact q hq).1, (h.exact q hq).2⟩, fun q hq => ?_⟩
      rw [List.mem_singleton.mp hq]
      exact ⟨List.mem_append_right _ (List.mem_singleton_self w), hdist⟩
    · refine List.pairwise_append.mpr ⟨h.sorted, List.pairwise_singleton _ _, ?_⟩
      intro q hq q' hq'
      rw [List.mem_singleton.mp hq']
      exact (h.depths q hq).2
    · rw [List.forall_mem_append]
      refine ⟨h.depths, fun q hq => ?_⟩
      rw [List.mem_singleton.mp hq]
      exact ⟨Nat.le_succ depth, le_rfl⟩
    · rw [List.forall_mem_append]
      refine ⟨fun u hu => ?_, fun u hu => .inr (.inl ?_)⟩
      · rcases h.closed u hu with hnow' | ⟨q, hq, hqu⟩ | hdone
        · exact .inl hnow'
        · exact .inr (.inl ⟨q, List.mem_append_left _ hq, hqu⟩)
        · exact .inr (.inr (hdone.mono hseen))
      · exact ⟨(w, depth + 1), List.mem_append_right _ (List.mem_singleton_self _),
          (List.mem_singleton.mp hu).symm⟩

omit [DecidableEq α] in
theorem Level.pop {now : ℕ} {s : Search α} {v : α} {depth : ℕ} {rest : List (α × ℕ)}
    (h : Level G root limit none now s) (hqueue : s.queue = (v, depth) :: rest) :
    Level G root limit (some v) depth { s with queue := rest } := by
  have hsub : ∀ q ∈ rest, q ∈ s.queue := fun q hq => hqueue ▸ List.mem_cons_of_mem _ hq
  have hhead : (v, depth) ∈ s.queue := hqueue ▸ List.mem_cons_self
  have hsorted := hqueue ▸ h.sorted
  refine ⟨h.split, h.near, fun q hq => h.exact q (hsub q hq),
    (List.pairwise_cons.mp hsorted).2, fun q hq => ?_, fun u hu => ?_⟩
  · have hle := (List.pairwise_cons.mp hsorted).1 q hq
    have hq' := h.depths q (hsub q hq)
    have hv := h.depths _ hhead
    dsimp only at hle hv
    omega
  · rcases h.closed u hu with hnow | ⟨q, hq, hqu⟩ | hdone
    · cases hnow
    · rw [hqueue] at hq
      rcases List.mem_cons.mp hq with rfl | hq
      · exact .inl (congrArg some hqu)
      · exact .inr (.inl ⟨q, hq, hqu⟩)
    · exact .inr (.inr hdone)

theorem subset_foldl_visit (depth : ℕ) (vs : List α) (s : Search α) :
    s.seen ⊆ (vs.foldl (visit depth) s).seen ∧ vs ⊆ (vs.foldl (visit depth) s).seen := by
  induction vs generalizing s with
  | nil => exact ⟨List.Subset.refl _, List.nil_subset _⟩
  | cons v vs ih =>
    obtain ⟨hseen, hvs⟩ := ih (visit depth s v)
    have hv : s.seen ⊆ (visit depth s v).seen ∧ v ∈ (visit depth s v).seen := by
      unfold Search.visit
      split
      case isTrue hold => exact ⟨List.Subset.refl _, hold⟩
      case isFalse =>
        exact ⟨List.subset_append_left _ _, List.mem_append_right _ (List.mem_singleton_self v)⟩
    exact ⟨List.Subset.trans hv.1 hseen, List.cons_subset.mpr ⟨hseen hv.2, hvs⟩⟩

theorem Level.turn {now : ℕ} {s : Search α} {v : α} {depth : ℕ} {rest : List (α × ℕ)}
    (hnext : Neighbours G next) (h : Level G root limit none now s)
    (hqueue : s.queue = (v, depth) :: rest) :
    Level G root limit none depth (turn next limit v depth { s with queue := rest }) := by
  have hpop := h.pop hqueue
  have hv : G.edist root v = depth := (h.exact (v, depth) (hqueue ▸ List.mem_cons_self)).2
  -- the node at hand is done: it is at the limit, or all its neighbours have been looked at
  suffices hdone : ∀ t : Search α, Level G root limit (some v) depth t →
      Done G root limit t.seen v → Level G root limit none depth t by
    unfold Search.turn
    split
    case isTrue hlimit => exact hdone _ hpop (.inl ⟨depth, hv, hlimit⟩)
    case isFalse hlimit =>
      refine hdone _ ?_ (.inr fun w hw => ?_)
      · refine List.foldlRecOn (next v) (Search.visit depth) hpop fun t ht w hw => ?_
        exact ht.visit hv (not_le.mp hlimit) fun hne => (hnext v w hne).mp hw
      · exact (subset_foldl_visit depth (next v) _).2 ((hnext v w hw.ne).mpr hw)
  intro t ht hv'
  refine ⟨ht.split, ht.near, ht.exact, ht.sorted, ht.depths, fun u hu => ?_⟩
  rcases ht.closed u hu with hnow | hqueued | hdone
  · exact .inr (.inr (Option.some.inj hnow ▸ hv'))
  · exact .inr (.inl hqueued)
  · exact .inr (.inr hdone)

theorem Level.loop (hnext : Neighbours G next) {fuel : ℕ} {now : ℕ} {s t : Search α}
    (hs : Level G root limit none now s) (h : loop next limit fuel s = some t) (depth : ℕ) :
    Level G root limit none depth t := by
  -- nothing is in the queue any more
  have hend : ∀ {now : ℕ} {s : Search α}, Level G root limit none now s → s.queue = [] →
      Level G root limit none depth s := by
    intro now s hs hnil
    refine ⟨hs.split, hs.near, hs.exact, hs.sorted, fun q hq => ?_, hs.closed⟩
    rw [hnil] at hq
    cases hq
  induction fuel generalizing now s with
  | zero =>
    rw [Search.loop] at h
    split at h
    case isFalse => cases h
    case isTrue hnil => exact Option.some.inj h ▸ hend hs hnil
  | succ fuel ih =>
    rw [Search.loop] at h
    split at h
    case h_1 hnil => exact Option.some.inj h ▸ hend hs hnil
    case h_2 v depth rest hqueue => exact ih (hs.turn hnext hqueue) h

/-- **What the loop has reached at its end**: the nodes within the limit, other than the root. -/
theorem mem_reached_loop (hnext : Neighbours G next) {fuel : ℕ} {t : Search α}
    (h : loop next limit fuel (start root) = some t) (v : α) :
    v ∈ t.reached ↔ ∃ d : ℕ, G.edist root v = d ∧ 1 ≤ d ∧ (d : ℤ) ≤ limit := by
  have hlevel := (level_start G root limit).loop hnext h
  refine ⟨(hlevel 0).near v, ?_⟩
  rintro ⟨d, hd, hpos, hle⟩
  have hseen : v ∈ t.seen := (hlevel d).mem_of_le hle (fun _ hnow => nomatch hnow) hd le_rfl
  rw [(hlevel 0).split, List.mem_cons] at hseen
  refine hseen.resolve_left fun heq => ?_
  rw [heq, SimpleGraph.edist_self] at hd
  have : 0 = d := ENat.natCast_inj.mp hd
  omega

theorem seen_loop {nodes : List α} (hnext : Neighbours G next) (hroot : root ∈ nodes)
    (hnodes : ∀ v, next v ⊆ nodes) {fuel : ℕ} {t : Search α}
    (h : loop next limit fuel (start root) = some t) :
    t.seen = root :: t.reached ∧ t.seen.Nodup :=
  ⟨((level_start G root limit).loop hnext h 0).split,
    ((within_start hroot).loop hnodes h).nodup⟩

end Turn

end Search

end Concord.Base
