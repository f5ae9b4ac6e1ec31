import Concord.Base.Breadth
import Concord.Python.Floats
import Concord.Python.Dict

/-!
# The blast radius of an entity

`impact_for` and `subgraph` of `ccf/assurance/impact.py`: from the node of an entity, the nodes that
the tenant's edges lead to, in either direction, within a number of hops. The distance is that of
the graph which the edges make (`AssuranceGraph.graph`).
-/

namespace Concord.Assurance

open Concord.Base Concord.Python

/-! ## The tables -/

structure AssuranceNode where
  id : ℕ
  organizationId : Option ℕ
  entityType : Text
  entityId : Text
  label : Text
  status : Option Text

structure AssuranceEdge where
  organizationId : Option ℕ
  sourceNodeId : ℕ
  targetNodeId : ℕ
  relationshipType : Text
  confidence : Double

/-- The nodes and the edges that a session sees, each table in the order it is read. Ids are a
primary key, and the ends of an edge are foreign keys. -/
structure AssuranceGraph where
  nodes : List AssuranceNode
  edges : List AssuranceEdge
  nodup : (nodes.map AssuranceNode.id).Nodup
  sources : ∀ e ∈ edges, e.sourceNodeId ∈ nodes.map AssuranceNode.id
  targets : ∀ e ∈ edges, e.targetNodeId ∈ nodes.map AssuranceNode.id

/-- `where(organization_id == org_id)`, with an organization. -/
def owned (org owner : Option ℕ) : Bool := org.isNone || decide (owner = org)

variable (g : AssuranceGraph) (org : Option ℕ)

/-- `root`. -/
def root (entityType entityId : Text) : Option AssuranceNode :=
  g.nodes.find? fun n =>
    decide (n.entityType = entityType) && decide (n.entityId = entityId) &&
      owned org n.organizationId

/-- `edges`. -/
def edgesOf : List AssuranceEdge := g.edges.filter fun e => owned org e.organizationId

/-- `adj` of `impact_for`, with the relationships. -/
def relations : Dict ℕ (List (ℕ × Text)) :=
  .collect Prod.fst Prod.snd ((edgesOf g org).flatMap fun e =>
    [(e.sourceNodeId, (e.targetNodeId, e.relationshipType)),
      (e.targetNodeId, (e.sourceNodeId, e.relationshipType))])

/-- `adj` of `subgraph`. -/
def adjacency : Dict ℕ (List ℕ) :=
  .collect Prod.fst Prod.snd ((edgesOf g org).flatMap fun e =>
    [(e.sourceNodeId, e.targetNodeId), (e.targetNodeId, e.sourceNodeId)])

/-! ## What is returned -/

structure NodeOut where
  id : ℕ
  entityType : Text
  entityId : Text
  label : Text
  status : Option Text

/-- `_node_out`. -/
def nodeOut (n : AssuranceNode) : NodeOut where
  id := n.id
  entityType := n.entityType
  entityId := n.entityId
  label := n.label
  status := n.status

structure Impact where
  root : Option NodeOut
  hops : ℤ
  affected : Dict Text (List NodeOut)
  affectedCount : ℕ

structure EdgeOut where
  source : ℕ
  target : ℕ
  relationshipType : Text
  confidence : Double

def edgeOut (e : AssuranceEdge) : EdgeOut where
  source := e.sourceNodeId
  target := e.targetNodeId
  relationshipType := e.relationshipType
  confidence := e.confidence

structure Subgraph where
  root : Option NodeOut
  nodes : List NodeOut
  edges : List EdgeOut

/-- `impact_for`; `none` where the search has not come to its end. -/
def impactFor (fuel : ℕ) (entityType entityId : Text) (maxHops : ℤ) : Option Impact :=
  match root g org entityType entityId with
  | none => some { root := none, hops := maxHops, affected := .empty, affectedCount := 0 }
  | some root =>
    let next := fun nid => (((relations g org).get? nid).getD []).map Prod.fst
    (Search.loop next maxHops fuel (Search.start root.id)).map fun s =>
      let nodes := g.nodes.filter fun n => n.id ∈ s.reached
      { root := some (nodeOut root)
        hops := maxHops
        affected := .collect AssuranceNode.entityType nodeOut nodes
        affectedCount := s.reached.length }

/-- `subgraph`; `none` where the search has not come to its end. -/
def subgraph (fuel : ℕ) (entityType entityId : Text) (maxHops : ℤ) : Option Subgraph :=
  match root g org entityType entityId with
  | none => some { root := none, nodes := [], edges := [] }
  | some root =>
    let next := fun nid => ((adjacency g org).get? nid).getD []
    (Search.loop next maxHops fuel (Search.start root.id)).map fun s =>
      let kept := (edgesOf g org).filter fun e =>
        e.sourceNodeId ∈ s.seen && e.targetNodeId ∈ s.seen
      { root := some (nodeOut root)
        nodes := (g.nodes.filter fun n => n.id ∈ s.seen).map nodeOut
        edges := kept.map edgeOut }

/-! ## Distances -/

def AssuranceGraph.graph : SimpleGraph ℕ :=
  .fromRel fun a b => ∃ e ∈ edgesOf g org, e.sourceNodeId = a ∧ e.targetNodeId = b

/-- Nodes at a distance from 1 to the number of hops. -/
def InRadius (root : ℕ) (maxHops : ℤ) (v : ℕ) : Prop :=
  ∃ d : ℕ, (g.graph org).edist root v = d ∧ 1 ≤ d ∧ (d : ℤ) ≤ maxHops

def Shown (root : ℕ) (maxHops : ℤ) (v : ℕ) : Prop := v = root ∨ InRadius g org root maxHops v

open scoped Classical in
/-- **An exact blast radius**: the nodes in the radius, each once, under their types. -/
structure Impact.Exact (origin : AssuranceNode) (maxHops : ℤ) (r : Impact) : Prop where
  root : r.root = some (nodeOut origin)
  hops : r.hops = maxHops
  affected : (r.affected.items.flatMap Prod.snd).Perm
    ((g.nodes.filter fun n => InRadius g org origin.id maxHops n.id).map nodeOut)
  types : ∀ t outs, (t, outs) ∈ r.affected.items → ∀ out ∈ outs, out.entityType = t
  count : r.affectedCount = (r.affected.items.flatMap Prod.snd).length

open scoped Classical in
/-- **An exact subgraph**. -/
structure Subgraph.Exact (origin : AssuranceNode) (maxHops : ℤ) (r : Subgraph) : Prop where
  root : r.root = some (nodeOut origin)
  nodes : r.nodes = (g.nodes.filter fun n => Shown g org origin.id maxHops n.id).map nodeOut
  edges : r.edges = ((edgesOf g org).filter fun e =>
    Shown g org origin.id maxHops e.sourceNodeId ∧
      Shown g org origin.id maxHops e.targetNodeId).map edgeOut

variable {g org}

theorem graph_adj {a b : ℕ} : (g.graph org).Adj a b ↔
    a ≠ b ∧ ∃ e ∈ edgesOf g org, (e.sourceNodeId = a ∧ e.targetNodeId = b) ∨
      (e.sourceNodeId = b ∧ e.targetNodeId = a) := by
  rw [AssuranceGraph.graph, SimpleGraph.fromRel_adj, ← exists_or]
  simp only [← and_or_left]

theorem mem_adjacency {v w : ℕ} : w ∈ ((adjacency g org).get? v).getD [] ↔
    ∃ e ∈ edgesOf g org, (e.sourceNodeId = v ∧ e.targetNodeId = w) ∨
      (e.sourceNodeId = w ∧ e.targetNodeId = v) := by
  rw [adjacency, Dict.getD_collect, List.mem_map]
  constructor
  · rintro ⟨q, hq, rfl⟩
    rw [List.mem_filter, List.mem_flatMap] at hq
    obtain ⟨⟨e, he, hmem⟩, hkey⟩ := hq
    refine ⟨e, he, ?_⟩
    rcases List.mem_cons.mp hmem with rfl | hmem
    · exact .inl ⟨of_decide_eq_true hkey, rfl⟩
    · rw [List.mem_singleton.mp hmem] at hkey ⊢
      exact .inr ⟨rfl, of_decide_eq_true hkey⟩
  · rintro ⟨e, he, ⟨rfl, rfl⟩ | ⟨rfl, rfl⟩⟩
    · refine ⟨(e.sourceNodeId, e.targetNodeId), List.mem_filter.mpr ⟨?_, ?_⟩, rfl⟩
      · exact List.mem_flatMap.mpr ⟨e, he, List.mem_cons_self⟩
      · exact decide_eq_true rfl
    · refine ⟨(e.targetNodeId, e.sourceNodeId), List.mem_filter.mpr ⟨?_, ?_⟩, rfl⟩
      · exact List.mem_flatMap.mpr ⟨e, he, List.mem_cons_of_mem _ (List.mem_singleton_self _)⟩
      · exact decide_eq_true rfl

theorem relations_fst (v : ℕ) : (((relations g org).get? v).getD []).map Prod.fst =
    ((adjacency g org).get? v).getD [] := by
  rw [relations, adjacency, Dict.getD_collect, Dict.getD_collect]
  induction edgesOf g org with
  | nil => rfl
  | cons e edges ih =>
    rw [List.flatMap_cons, List.flatMap_cons, List.filter_append, List.filter_append,
      List.map_append, List.map_append, List.map_append, ih]
    congr 1
    simp only [List.filter_cons, List.filter_nil]
    split <;> split <;> rfl

theorem neighbours_adjacency : Search.Neighbours (g.graph org)
    fun v => ((adjacency g org).get? v).getD [] := by
  intro v w hne
  rw [mem_adjacency, graph_adj]
  exact (and_iff_right hne).symm

theorem adjacency_subset (v : ℕ) :
    ((adjacency g org).get? v).getD [] ⊆ g.nodes.map AssuranceNode.id := by
  intro w hw
  obtain ⟨e, he, ⟨-, rfl⟩ | ⟨rfl, -⟩⟩ := mem_adjacency.mp hw
  · exact g.targets e (List.mem_filter.mp he).1
  · exact g.sources e (List.mem_filter.mp he).1

/-! ## The search -/

/-- What a search from a node has found at its end. -/
structure Found (g : AssuranceGraph) (org : Option ℕ) (root : ℕ) (maxHops : ℤ) (s : Search ℕ) :
    Prop where
  seen : s.seen = root :: s.reached
  nodup : s.seen.Nodup
  reached : ∀ v, v ∈ s.reached ↔ InRadius g org root maxHops v
  nodes : ∀ v ∈ s.reached, v ∈ g.nodes.map AssuranceNode.id

theorem found_of_loop {root : ℕ} {maxHops : ℤ} {fuel : ℕ} {s : Search ℕ}
    (hroot : root ∈ g.nodes.map AssuranceNode.id)
    (h : Search.loop (fun v => ((adjacency g org).get? v).getD []) maxHops fuel
      (Search.start root) = some s) : Found g org root maxHops s := by
  obtain ⟨hseen, hnodup⟩ := Search.seen_loop neighbours_adjacency hroot adjacency_subset h
  have hsubset := ((Search.within_start hroot).loop adjacency_subset h).subset
  refine ⟨hseen, hnodup, Search.mem_reached_loop neighbours_adjacency h, fun v hv => hsubset ?_⟩
  rw [hseen]
  exact List.mem_cons_of_mem _ hv

theorem exists_search {root : ℕ} (hroot : root ∈ g.nodes.map AssuranceNode.id) (maxHops : ℤ) :
    ∃ s, Found g org root maxHops s ∧ ∃ bound, ∀ fuel ≥ bound,
      Search.loop (fun v => ((adjacency g org).get? v).getD []) maxHops fuel
        (Search.start root) = some s := by
  have hfuel : (Search.start root).queue.length + (g.nodes.map AssuranceNode.id).length ≤
      g.nodes.length + (Search.start root).seen.length := by
    rw [List.length_map, Nat.add_comm]
    exact Nat.le_refl _
  obtain ⟨s, hs⟩ := Search.loop_of_fuel adjacency_subset maxHops (Search.within_start hroot) hfuel
  exact ⟨s, found_of_loop hroot hs, g.nodes.length, fun fuel hle => Search.loop_mono hle hs⟩

theorem root_mem {entityType entityId : Text} {n : AssuranceNode}
    (h : root g org entityType entityId = some n) : n.id ∈ g.nodes.map AssuranceNode.id :=
  List.mem_map_of_mem (List.mem_of_find?_eq_some h)

theorem length_filter_ids (g : AssuranceGraph) {ids : List ℕ} (hnodup : ids.Nodup)
    (hids : ∀ v ∈ ids, v ∈ g.nodes.map AssuranceNode.id) :
    (g.nodes.filter fun n => n.id ∈ ids).length = ids.length := by
  have hperm : ((g.nodes.filter fun n => n.id ∈ ids).map AssuranceNode.id).Perm ids := by
    refine (List.perm_ext_iff_of_nodup (g.nodup.sublist (List.filter_sublist.map _)) hnodup).mpr ?_
    intro v
    rw [List.mem_map]
    constructor
    · rintro ⟨n, hn, rfl⟩
      exact of_decide_eq_true (List.mem_filter.mp hn).2
    · intro hv
      obtain ⟨n, hn, rfl⟩ := List.mem_map.mp (hids v hv)
      exact ⟨n, List.mem_filter.mpr ⟨hn, decide_eq_true hv⟩, rfl⟩
  rw [← hperm.length_eq, List.length_map]

/-! ## What is returned is exact -/

/-- `impact_for`, of what the search has found. -/
def impactOf (g : AssuranceGraph) (n : AssuranceNode) (maxHops : ℤ) (s : Search ℕ) : Impact where
  root := some (nodeOut n)
  hops := maxHops
  affected := .collect AssuranceNode.entityType nodeOut (g.nodes.filter fun m => m.id ∈ s.reached)
  affectedCount := s.reached.length

theorem impactFor_eq {fuel : ℕ} {entityType entityId : Text} {maxHops : ℤ} {n : AssuranceNode}
    (h : root g org entityType entityId = some n) :
    impactFor g org fuel entityType entityId maxHops =
      (Search.loop (fun v => ((adjacency g org).get? v).getD []) maxHops fuel
        (Search.start n.id)).map (impactOf g n maxHops) := by
  unfold impactFor
  rw [h]
  dsimp only
  rw [funext relations_fst]
  rfl

theorem impactOf_exact {maxHops : ℤ} {n : AssuranceNode} {s : Search ℕ}
    (h : Found g org n.id maxHops s) : (impactOf g n maxHops s).Exact g org n maxHops := by
  classical
  have hnodes : (g.nodes.filter fun m => m.id ∈ s.reached) =
      g.nodes.filter fun m => InRadius g org n.id maxHops m.id :=
    List.filter_congr fun m _ => decide_eq_decide.mpr (h.reached m.id)
  have hperm : ((impactOf g n maxHops s).affected.items.flatMap Prod.snd).Perm
      ((g.nodes.filter fun m => m.id ∈ s.reached).map nodeOut) := Dict.collect_perm
  refine ⟨rfl, rfl, ?_, fun t outs hmem out hout => ?_, ?_⟩
  · rw [hnodes] at hperm
    exact hperm
  · rw [Dict.eq_of_mem_collect hmem] at hout
    obtain ⟨m, hm, rfl⟩ := List.mem_map.mp hout
    exact of_decide_eq_true (List.mem_filter.mp hm).2
  · rw [hperm.length_eq, List.length_map,
      length_filter_ids g (List.nodup_cons.mp (h.seen ▸ h.nodup)).2 h.nodes]
    rfl

/-- `subgraph`, of what the search has found. -/
def subgraphOf (g : AssuranceGraph) (org : Option ℕ) (n : AssuranceNode) (s : Search ℕ) :
    Subgraph where
  root := some (nodeOut n)
  nodes := (g.nodes.filter fun m => m.id ∈ s.seen).map nodeOut
  edges := ((edgesOf g org).filter fun e =>
    e.sourceNodeId ∈ s.seen && e.targetNodeId ∈ s.seen).map edgeOut

theorem subgraph_eq {fuel : ℕ} {entityType entityId : Text} {maxHops : ℤ} {n : AssuranceNode}
    (h : root g org entityType entityId = some n) :
    subgraph g org fuel entityType entityId maxHops =
      (Search.loop (fun v => ((adjacency g org).get? v).getD []) maxHops fuel
        (Search.start n.id)).map (subgraphOf g org n) := by
  unfold subgraph
  rw [h]
  rfl

theorem subgraphOf_exact {maxHops : ℤ} {n : AssuranceNode} {s : Search ℕ}
    (h : Found g org n.id maxHops s) : (subgraphOf g org n s).Exact g org n maxHops := by
  classical
  have hseen : ∀ v, v ∈ s.seen ↔ Shown g org n.id maxHops v := by
    intro v
    rw [h.seen, List.mem_cons, h.reached]
    rfl
  refine ⟨rfl, congrArg (List.map nodeOut) (List.filter_congr fun m _ => ?_),
    congrArg (List.map edgeOut) (List.filter_congr fun e _ => ?_)⟩
  · exact decide_eq_decide.mpr (hseen m.id)
  · rw [← Bool.decide_and]
    exact decide_eq_decide.mpr (and_congr (hseen e.sourceNodeId) (hseen e.targetNodeId))

theorem Impact.Exact.mono {g' : AssuranceGraph} {n : AssuranceNode} {maxHops maxHops' : ℤ}
    {r r' : Impact} (h : r.Exact g org n maxHops) (h' : r'.Exact g' org n maxHops')
    (hnodes : g'.nodes = g.nodes) (hedges : g.edges ⊆ g'.edges) (hle : maxHops ≤ maxHops') :
    r.affected.items.flatMap Prod.snd ⊆ r'.affected.items.flatMap Prod.snd ∧
      r.affectedCount ≤ r'.affectedCount := by
  classical
  have hgraph : g.graph org ≤ g'.graph org := by
    intro a b hab
    obtain ⟨hne, e, he, hends⟩ := graph_adj.mp hab
    have hmem := List.mem_filter.mp he
    exact graph_adj.mpr ⟨hne, e, List.mem_filter.mpr ⟨hedges hmem.1, hmem.2⟩, hends⟩
  have hradius : ∀ v, InRadius g org n.id maxHops v → InRadius g' org n.id maxHops' v := by
    rintro v ⟨d, hd, hpos, hd'⟩
    have hanti : (g'.graph org).edist n.id v ≤ d := hd ▸ SimpleGraph.edist_anti hgraph
    obtain ⟨e, he⟩ := ENat.ne_top_iff_exists.mp (ne_top_of_le_ne_top (ENat.natCast_ne_top _) hanti)
    rw [← he] at hanti
    have hed := ENat.natCast_le_natCast.mp hanti
    refine ⟨e, he.symm, ?_, by omega⟩
    -- the root itself is at no distance
    rcases Nat.eq_zero_or_pos e with rfl | hpos'
    · have heq : n.id = v := SimpleGraph.edist_eq_zero_iff.mp he.symm
      rw [← heq, SimpleGraph.edist_self] at hd
      have : 0 = d := ENat.natCast_inj.mp hd
      omega
    · exact hpos'
  have hsub : ((g.nodes.filter fun m => InRadius g org n.id maxHops m.id).map nodeOut).Sublist
      ((g'.nodes.filter fun m => InRadius g' org n.id maxHops' m.id).map nodeOut) := by
    rw [hnodes]
    refine List.Sublist.map nodeOut (List.monotone_filter_right _ fun m hm => ?_)
    exact decide_eq_true (hradius m.id (of_decide_eq_true hm))
  constructor
  · intro out hout
    exact h'.affected.mem_iff.mpr (hsub.subset (h.affected.mem_iff.mp hout))
  · rw [h.count, h'.count, h.affected.length_eq, h'.affected.length_eq]
    exact hsub.length_le

/-- **The blast radius is exact**: both searches end, what they return is exact, and it grows with
the number of hops and with the edges. -/
theorem blastRadius_exact (g : AssuranceGraph) (org : Option ℕ) (entityType entityId : Text)
    (maxHops : ℤ) :
    (∃ r s bound, ∀ fuel ≥ bound,
      impactFor g org fuel entityType entityId maxHops = some r ∧
        subgraph g org fuel entityType entityId maxHops = some s ∧
        match root g org entityType entityId with
        | none =>
          r = { root := none, hops := maxHops, affected := .empty, affectedCount := 0 } ∧
            s = { root := none, nodes := [], edges := [] }
        | some n => r.Exact g org n maxHops ∧ s.Exact g org n maxHops) ∧
      ∀ (g' : AssuranceGraph) (maxHops' : ℤ) (fuel fuel' : ℕ) (r r' : Impact),
        g'.nodes = g.nodes → g.edges ⊆ g'.edges → maxHops ≤ maxHops' →
          impactFor g org fuel entityType entityId maxHops = some r →
          impactFor g' org fuel' entityType entityId maxHops' = some r' →
            r.affected.items.flatMap Prod.snd ⊆ r'.affected.items.flatMap Prod.snd ∧
              r.affectedCount ≤ r'.affectedCount := by
  constructor
  · cases hroot : root g org entityType entityId with
    | none =>
      refine ⟨_, _, 0, fun fuel _ => ⟨?_, ?_, rfl, rfl⟩⟩
      · rw [impactFor, hroot]
      · rw [subgraph, hroot]
    | some n =>
      obtain ⟨s, hs, bound, hbound⟩ := exists_search (root_mem hroot) maxHops
      refine ⟨impactOf g n maxHops s, subgraphOf g org n s, bound, fun fuel hfuel =>
        ⟨?_, ?_, impactOf_exact hs, subgraphOf_exact hs⟩⟩
      · rw [impactFor_eq hroot, hbound fuel hfuel, Option.map_some]
      · rw [subgraph_eq hroot, hbound fuel hfuel, Option.map_some]
  · intro g' maxHops' fuel fuel' r r' hnodes hedges hle h h'
    have hsame : root g' org entityType entityId = root g org entityType entityId :=
      congrArg (List.find? _) hnodes
    cases hroot : root g org entityType entityId with
    | none =>
      rw [impactFor, hroot] at h
      obtain rfl := Option.some.inj h
      exact ⟨List.nil_subset _, Nat.zero_le _⟩
    | some n =>
      rw [hroot] at hsame
      rw [impactFor_eq hroot] at h
      rw [impactFor_eq hsame] at h'
      obtain ⟨s, hs, rfl⟩ := Option.map_eq_some_iff.mp h
      obtain ⟨s', hs', rfl⟩ := Option.map_eq_some_iff.mp h'
      have hexact := impactOf_exact (found_of_loop (root_mem hroot) hs)
      have hexact' := impactOf_exact (found_of_loop (root_mem hsame) hs')
      exact hexact.mono hexact' hnodes hedges hle

end Concord.Assurance
