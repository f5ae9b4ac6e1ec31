import Concord.Base.OrderBy
import Concord.Prep.Expand
import Concord.Python.Dict
import Concord.Python.Floats
import Concord.Python.KeyOrder

/-!
# Hybrid retrieval

`ccf/prep/retriever.py`: the units that match a query by their words and by their vectors, fused by
reciprocal rank, with a boost for the units that are tagged with the control.

The tagged units are asked for in the order of their ids, and equal scores are told apart by the
id. The other two queries are ordered by rank and by distance alone, and cut off after fifty rows,
so which answer comes is up to the database wherever two rows tie (`retrieve_reproducible_iff`).
-/

namespace Concord.Prep.Retriever

open Concord.Python Concord.Base

/-- `_RRF_K`. -/
def rrfK : Nat := 60

/-- `_CANDIDATE_DEPTH`. -/
def candidateDepth : Nat := 50

/-- The rows of the three tables. A unit has one embedding at most. -/
structure Corpus where
  units : List PrepUnit
  classifications : List PrepClassification
  embeddings : List PrepEmbedding
  ids_nodup : (units.map (·.id)).Nodup
  embedded_nodup : (embeddings.map (·.unitId)).Nodup

/-- What a search asks for. -/
structure Query where
  orgId : Nat
  controlIdentifier : Text
  queryText : Option Text
  systemId : Option Nat
  sourceKind : Option Text

/-- What the database and the embedding provider compute: `ts_rank` of the units that match a text,
the vector of a text, unless the provider is unavailable, and the distance of two vectors. -/
structure Engine (ρ δ : Type) where
  tsRank : Text → PrepUnit → Option ρ
  embed : Text → Option (List Rat)
  distance : List Rat → List Rat → δ

structure RetrievedUnit where
  unitId : Nat
  content : Text
  score : Rat
  pageNumbers : List Nat
  sectionPath : Option Text
  tableCoordinates : Option TableCoordinates
  sourceKind : Text
  controlIdentifiers : List Text
  evidenceStrength : Option Text
  lexicalRank : Option Nat
  vectorRank : Option Nat

/-! ## Fusion -/

def addDouble (x y : Rat) : Rat := (Double.nearest (x + y)).value

/-- `1.0 / (k + position)`. -/
def reciprocal (position : Nat) : Rat := (Double.nearest (1 / (rrfK + position : Nat))).value

/-- `scores[id] = scores.get(id, 0.0) + x`. -/
def addScore (scores : Dict Nat Rat) (id : Nat) (x : Rat) : Dict Nat Rat :=
  scores.set id (addDouble ((scores.get? id).getD 0) x)

def positions (ranking : List Nat) : List (Nat × Nat) :=
  ranking.zipIdx.map fun p => (p.1, p.2 + 1)

def addRanking (scores : Dict Nat Rat) (ranking : List Nat) : Dict Nat Rat :=
  (positions ranking).foldl (fun scores p => addScore scores p.1 (reciprocal p.2)) scores

/-- `fuse`. -/
def fuse (lexical vector : List Nat) : List (Nat × Rat) :=
  (addRanking (addRanking .empty lexical) vector).items.insertionSort fun a b => b.2 ≤ a.2

/-! ## Candidates -/

/-- `_base_filters`. -/
def baseFilters (q : Query) (u : PrepUnit) : Bool :=
  u.organizationId = q.orgId &&
    (match q.systemId with
      | none => true
      | some systemId => u.systemId = some systemId || u.systemId = none) &&
    (match q.sourceKind with
      | none => true
      | some kind => u.sourceKind = kind)

/-- `query_text or control_identifier`. -/
def Query.text (q : Query) : Text := (orElse q.queryText none).getD q.controlIdentifier

variable {ρ δ : Type}

/-- The rows of `_lexical_ids`, with what they are ordered by. -/
def lexicalRows (e : Engine ρ δ) (c : Corpus) (q : Query) : List (Nat × ρ) :=
  (c.units.filter (baseFilters q)).filterMap fun u => (e.tsRank q.text u).map fun rank => (u.id, rank)

/-- The rows of `_vector_ids`, with what they are ordered by. -/
def vectorRows (e : Engine ρ δ) (c : Corpus) (q : Query) : List (Nat × δ) :=
  match e.embed q.text with
  | none => []
  | some v =>
    (c.units.filter (baseFilters q)).flatMap fun u =>
      (c.embeddings.filter fun x => x.unitId = u.id).map fun x => (u.id, e.distance x.embedding v)

/-- `re.sub(r"\(.*$", "", s)`: `.` is no newline, and `$` is the end, or before a newline there. -/
def baseControl (s : Text) : Text :=
  let (body, tail) := if s.getLast? = some '\n' then (s.dropLast, ['\n']) else (s, [])
  let last := (body.reverse.takeWhile (· ≠ '\n')).reverse
  body.take (body.length - last.length) ++ last.takeWhile (· ≠ '(') ++ tail

/-- `str.zfill(2)` of digits. -/
def zfillTwo (s : Text) : Text := List.replicate (2 - s.length) '0' ++ s

/-- `control_identifier_spellings`. -/
def controlIdentifierSpellings (identifier : Text) : List Text :=
  let base := strip (baseControl identifier)
  let (family, rest) := base.span isAsciiLetter
  match rest with
  | '-' :: digits =>
    if family ≠ [] ∧ digits ≠ [] ∧ digits.all isDecimal then
      -- the zeros in front are dropped, but one digit stays
      let significant := digits.dropWhile (· = '0')
      let number := if significant = [] then ['0'] else significant
      [base, family ++ '-' :: number, family ++ '-' :: zfillTwo number].dedup.insertionSort
        Json.keyLe
    else [base]
  | _ => [base]

/-- `_tagged_ids`. -/
def taggedIds (c : Corpus) (q : Query) : List Nat :=
  let spellings := controlIdentifierSpellings q.controlIdentifier
  let tagged (u : PrepUnit) : Bool := c.classifications.any fun x =>
    x.unitId = u.id ∧ spellings.any fun spelling => spelling ∈ x.controlIdentifiers
  let ids := (c.units.filter fun u => baseFilters q u && tagged u).map (·.id)
  (ids.insertionSort (· ≤ ·)).take candidateDepth

example : ["AC-6(2)", "AC-02", "CP-000", "AC.L2-3.1.1", "AC-2(1)\n"].map
    (fun s => controlIdentifierSpellings s.toList) =
      [["AC-06".toList, "AC-6".toList], ["AC-02".toList, "AC-2".toList],
        ["CP-0".toList, "CP-00".toList, "CP-000".toList], ["AC.L2-3.1.1".toList],
        ["AC-02".toList, "AC-2".toList]] := by
  decide +kernel

/-! ## Retrieval -/

/-- The scores, with the boost of the tagged units. -/
def fusedScores (c : Corpus) (q : Query) (lexical vector : List Nat) : Dict Nat Rat :=
  (taggedIds c q).foldl (fun scores id => addScore scores id (reciprocal 1))
    (.ofPairs (fuse lexical vector))

/-- `sorted(fused.items(), key=lambda pair: (-pair[1], pair[0]))`. -/
def ranked (scores : Dict Nat Rat) : List (Nat × Rat) :=
  scores.items.insertionSort fun a b => b.2 < a.2 ∨ a.2 = b.2 ∧ a.1 ≤ b.1

/-- The units to hand out, each with its classification: of several the last. -/
def hydrated (c : Corpus) (q : Query) (ids : List Nat) :
    Dict Nat (PrepUnit × Option PrepClassification) :=
  .ofPairs ((c.units.filter fun u => decide (u.id ∈ ids) && baseFilters q u).flatMap fun u =>
    match c.classifications.filter fun x => x.unitId = u.id with
    | [] => [(u.id, u, none)]
    | xs => xs.map fun x => (u.id, u, some x))

/-- `retrieve`, with the answers that its two queries got. The limit is what the caller asks for, or
`ai_max_context_docs`. -/
def retrieve (c : Corpus) (q : Query) (topN : Int) (lexical vector : List Nat) :
    List RetrievedUnit :=
  let ordered := Expand.pySlice (ranked (fusedScores c q lexical vector)) 0 topN
  let lexicalPositions : Dict Nat Nat := .ofPairs (positions lexical)
  let vectorPositions : Dict Nat Nat := .ofPairs (positions vector)
  let byId := hydrated c q (ordered.map Prod.fst)
  ordered.filterMap fun p =>
    (byId.get? p.1).map fun found => {
      unitId := p.1
      content := found.1.content
      score := p.2
      pageNumbers := found.1.pageNumbers
      sectionPath := found.1.sectionPath
      tableCoordinates := found.1.tableCoordinates
      sourceKind := found.1.sourceKind
      controlIdentifiers := (found.2.map (·.controlIdentifiers)).getD []
      evidenceStrength := found.2.bind (·.evidenceStrength)
      lexicalRank := lexicalPositions.get? p.1
      vectorRank := vectorPositions.get? p.1 }

/-! ## Two runs -/

/-- The answers that the lexical query may get: by rank, the highest first. -/
def LexicalAnswer [LinearOrder ρ] (e : Engine ρ δ) (c : Corpus) (q : Query) (ids : List Nat) :
    Prop :=
  ∃ rows, Answers (fun p => OrderDual.toDual p.2) candidateDepth (lexicalRows e c q) rows ∧
    ids = rows.map Prod.fst

/-- The answers that the vector query may get: by distance, the smallest first. -/
def VectorAnswer [LinearOrder δ] (e : Engine ρ δ) (c : Corpus) (q : Query) (ids : List Nat) :
    Prop :=
  ∃ rows, Answers Prod.snd candidateDepth (vectorRows e c q) rows ∧ ids = rows.map Prod.fst

section Lists

variable {α β γ : Type}

theorem map_flatMap_sublist {f : α → List β} {g : β → γ} {h : α → γ}
    (hf : ∀ a, ((f a).map g).Sublist [h a]) (as : List α) :
    ((as.flatMap f).map g).Sublist (as.map h) := by
  induction as with
  | nil => exact List.Sublist.refl _
  | cons a as ih =>
    rw [List.flatMap_cons, List.map_append]
    exact (hf a).append ih

theorem eq_of_map_eq {f : α → β} {rows xs ys : List α} (hrows : (rows.map f).Nodup)
    (hxs : ∀ a ∈ xs, a ∈ rows) (hys : ∀ a ∈ ys, a ∈ rows) (h : xs.map f = ys.map f) :
    xs = ys := by
  have hlength : xs.length = ys.length := by
    simpa using congrArg List.length h
  refine List.ext_getElem hlength fun i hi hi' => ?_
  have hget := congrArg (·[i]?) h
  refine List.inj_on_of_nodup_map hrows (hxs _ (List.getElem_mem hi))
    (hys _ (List.getElem_mem hi')) ?_
  simpa [hi, hi'] using hget

end Lists

theorem lexicalRows_nodup (e : Engine ρ δ) (c : Corpus) (q : Query) :
    ((lexicalRows e c q).map Prod.fst).Nodup := by
  have hids : ((c.units.filter (baseFilters q)).map (·.id)).Nodup :=
    (List.filter_sublist.map _).nodup c.ids_nodup
  rw [lexicalRows, List.filterMap_eq_flatMap_toList]
  refine (map_flatMap_sublist (h := (·.id)) (fun u => ?_) _).nodup hids
  cases e.tsRank q.text u with
  | none => exact List.nil_sublist _
  | some rank => exact List.Sublist.refl _

theorem vectorRows_nodup (e : Engine ρ δ) (c : Corpus) (q : Query) :
    ((vectorRows e c q).map Prod.fst).Nodup := by
  unfold vectorRows
  split
  · exact List.nodup_nil
  have hids : ((c.units.filter (baseFilters q)).map (·.id)).Nodup :=
    (List.filter_sublist.map _).nodup c.ids_nodup
  refine (map_flatMap_sublist (h := (·.id)) (fun u => ?_) _).nodup hids
  rw [List.map_map]
  -- a unit has one embedding at most
  have hone : ((c.embeddings.filter fun x => x.unitId = u.id).map (·.unitId)).Nodup :=
    (List.filter_sublist.map _).nodup c.embedded_nodup
  cases hfound : c.embeddings.filter fun x => x.unitId = u.id with
  | nil => exact List.nil_sublist _
  | cons x xs =>
    rw [hfound] at hone
    have hall : ∀ y ∈ x :: xs, y.unitId = u.id := by
      intro y hy
      have hmem : y ∈ c.embeddings.filter fun x => x.unitId = u.id := hfound ▸ hy
      simpa using (List.mem_filter.mp hmem).2
    cases xs with
    | nil => exact List.Sublist.refl _
    | cons y ys =>
      -- two embeddings of one unit
      have hsame := (hall x List.mem_cons_self).trans
        (hall y (List.mem_cons_of_mem _ List.mem_cons_self)).symm
      simp [hsame] at hone

theorem exists_unit_of_lexicalRows {e : Engine ρ δ} {c : Corpus} {q : Query} {p : Nat × ρ}
    (h : p ∈ lexicalRows e c q) : ∃ u ∈ c.units, baseFilters q u = true ∧ u.id = p.1 := by
  obtain ⟨u, hu, hp⟩ := List.mem_filterMap.mp h
  obtain ⟨rank, -, rfl⟩ := Option.map_eq_some_iff.mp hp
  exact ⟨u, (List.mem_filter.mp hu).1, (List.mem_filter.mp hu).2, rfl⟩

theorem exists_unit_of_vectorRows {e : Engine ρ δ} {c : Corpus} {q : Query} {p : Nat × δ}
    (h : p ∈ vectorRows e c q) : ∃ u ∈ c.units, baseFilters q u = true ∧ u.id = p.1 := by
  unfold vectorRows at h
  split at h
  · cases h
  · obtain ⟨u, hu, hp⟩ := List.mem_flatMap.mp h
    obtain ⟨x, -, rfl⟩ := List.mem_map.mp hp
    exact ⟨u, (List.mem_filter.mp hu).1, (List.mem_filter.mp hu).2, rfl⟩

/-! ## What is found in the results -/

theorem keys_positions (ranking : List Nat) : (positions ranking).map Prod.fst = ranking := by
  rw [positions, List.map_map]
  exact List.zipIdx_map_fst 0 ranking

theorem get?_positions {ranking : List Nat} (h : ranking.Nodup) {id k : Nat} :
    (Dict.ofPairs (positions ranking)).get? id = some k ↔
      ∃ i, k = i + 1 ∧ ranking[i]? = some id := by
  have hkeys : ((positions ranking).map Prod.fst).Nodup := by rwa [keys_positions]
  rw [← Dict.mem_items_iff, Dict.items_ofPairs hkeys, positions, List.mem_map]
  constructor
  · rintro ⟨⟨id', i⟩, hmem, heq⟩
    obtain ⟨rfl, rfl⟩ := Prod.mk.inj heq
    exact ⟨i, rfl, List.mem_zipIdx_iff_getElem?.mp hmem⟩
  · rintro ⟨i, rfl, hi⟩
    exact ⟨(id, i), List.mem_zipIdx_iff_getElem?.mpr hi, rfl⟩

theorem eq_of_positions {xs ys : List Nat} (hxs : xs.Nodup) (hys : ys.Nodup)
    (h : ∀ id, id ∈ xs ∨ id ∈ ys →
      (Dict.ofPairs (positions xs)).get? id = (Dict.ofPairs (positions ys)).get? id) :
    xs = ys := by
  refine List.ext_getElem? fun i => ?_
  have hiff : ∀ id, xs[i]? = some id ↔ ys[i]? = some id := by
    intro id
    constructor
    · intro hid
      have hget := (get?_positions hxs).mpr ⟨i, rfl, hid⟩
      rw [h id (.inl (List.mem_of_getElem? hid))] at hget
      obtain ⟨j, hj, hid'⟩ := (get?_positions hys).mp hget
      obtain rfl : i = j := Nat.succ.inj hj
      exact hid'
    · intro hid
      have hget := (get?_positions hys).mpr ⟨i, rfl, hid⟩
      rw [← h id (.inr (List.mem_of_getElem? hid))] at hget
      obtain ⟨j, hj, hid'⟩ := (get?_positions hxs).mp hget
      obtain rfl : i = j := Nat.succ.inj hj
      exact hid'
  exact Option.ext hiff

theorem get?_addScore_isSome {scores : Dict Nat Rat} {id key : Nat} {x : Rat}
    (h : (scores.get? key).isSome = true ∨ id = key) :
    ((addScore scores id x).get? key).isSome = true := by
  rw [addScore, Dict.get?_set]
  by_cases hid : id = key
  · rw [if_pos hid]
    rfl
  · rw [if_neg hid]
    exact h.resolve_right hid

theorem get?_foldl_addScore_isSome {α : Type} (idOf : α → Nat) (xOf : α → Rat) (as : List α)
    {scores : Dict Nat Rat} {key : Nat}
    (h : (scores.get? key).isSome = true ∨ key ∈ as.map idOf) :
    ((as.foldl (fun scores a => addScore scores (idOf a) (xOf a)) scores).get? key).isSome =
      true := by
  induction as generalizing scores with
  | nil => exact h.resolve_right List.not_mem_nil
  | cons a as ih =>
    refine ih ?_
    rcases h with h | h
    · exact .inl (get?_addScore_isSome (.inl h))
    · rcases List.mem_cons.mp h with h | h
      · exact .inl (get?_addScore_isSome (.inr h.symm))
      · exact .inr h

theorem get?_addRanking_isSome {scores : Dict Nat Rat} {ranking : List Nat} {key : Nat}
    (h : (scores.get? key).isSome = true ∨ key ∈ ranking) :
    ((addRanking scores ranking).get? key).isSome = true :=
  get?_foldl_addScore_isSome Prod.fst (fun p => reciprocal p.2) _
    (h.imp_right fun h => (keys_positions ranking).symm ▸ h)

theorem get?_fusedScores_isSome (c : Corpus) (q : Query) {lexical vector : List Nat} {key : Nat}
    (h : key ∈ lexical ∨ key ∈ vector) :
    ((fusedScores c q lexical vector).get? key).isSome = true := by
  refine get?_foldl_addScore_isSome id (fun _ => reciprocal 1) _ (.inl ?_)
  have hscores : ((addRanking (addRanking .empty lexical) vector).get? key).isSome = true := by
    rcases h with h | h
    · exact get?_addRanking_isSome (.inl (get?_addRanking_isSome (.inr h)))
    · exact get?_addRanking_isSome (.inr h)
  have hperm : (fuse lexical vector).Perm (addRanking (addRanking .empty lexical) vector).items :=
    List.perm_insertionSort _ _
  have hkeys : ((fuse lexical vector).map Prod.fst).Nodup :=
    (hperm.map Prod.fst).nodup_iff.mpr (Dict.nodup _)
  rw [← Dict.mem_keys_iff, Dict.items_ofPairs hkeys, (hperm.map Prod.fst).mem_iff,
    Dict.mem_keys_iff]
  exact hscores

theorem pySlice_all {α : Type} {xs : List α} {n : Nat} (h : xs.length ≤ n) :
    Expand.pySlice xs 0 n = xs := by
  unfold Expand.pySlice
  dsimp only
  rw [if_neg (by omega), if_neg (by omega)]
  show (xs.take n).drop 0 = xs
  rw [List.drop_zero, List.take_of_length_le h]

theorem get?_hydrated_isSome {c : Corpus} {q : Query} {ids : List Nat} {u : PrepUnit}
    (hu : u ∈ c.units) (hq : baseFilters q u = true) (hid : u.id ∈ ids) :
    ((hydrated c q ids).get? u.id).isSome = true := by
  rw [hydrated, Dict.get?_ofPairs, Option.isSome_map, List.find?_isSome]
  have hmem : u ∈ c.units.filter fun u => decide (u.id ∈ ids) && baseFilters q u :=
    List.mem_filter.mpr ⟨hu, by simp [hid, hq]⟩
  cases hfound : c.classifications.filter fun x => x.unitId = u.id with
  | nil =>
    refine ⟨(u.id, u, none), List.mem_reverse.mpr (List.mem_flatMap.mpr ⟨u, hmem, ?_⟩), by simp⟩
    rw [hfound]
    exact List.mem_singleton.mpr rfl
  | cons x xs =>
    refine ⟨(u.id, u, some x), List.mem_reverse.mpr (List.mem_flatMap.mpr ⟨u, hmem, ?_⟩), by simp⟩
    rw [hfound]
    exact List.mem_cons_self

section Results

variable {c : Corpus} {q : Query} {topN : Int} {lexical vector : List Nat}

theorem ranks_of_mem {r : RetrievedUnit} (h : r ∈ retrieve c q topN lexical vector) :
    r.lexicalRank = (Dict.ofPairs (positions lexical)).get? r.unitId ∧
      r.vectorRank = (Dict.ofPairs (positions vector)).get? r.unitId := by
  obtain ⟨p, -, hp⟩ := List.mem_filterMap.mp h
  obtain ⟨found, -, rfl⟩ := Option.map_eq_some_iff.mp hp
  exact ⟨rfl, rfl⟩

theorem exists_result {n : Nat} (hn : (fusedScores c q lexical vector).items.length ≤ n) {id : Nat}
    (hid : id ∈ lexical ∨ id ∈ vector)
    (hunit : ∃ u ∈ c.units, baseFilters q u = true ∧ u.id = id) :
    ∃ r ∈ retrieve c q n lexical vector, r.unitId = id := by
  obtain ⟨u, hu, hq, rfl⟩ := hunit
  have hperm : (ranked (fusedScores c q lexical vector)).Perm
      (fusedScores c q lexical vector).items := List.perm_insertionSort _ _
  have hkey := Dict.mem_keys_iff.mpr (get?_fusedScores_isSome c q hid)
  rw [← (hperm.map Prod.fst).mem_iff] at hkey
  obtain ⟨p, hp, hpid⟩ := List.mem_map.mp hkey
  have hall := pySlice_all (hperm.length_eq.trans_le hn)
  have hid' : u.id ∈ (ranked (fusedScores c q lexical vector)).map Prod.fst :=
    hpid ▸ List.mem_map_of_mem hp
  obtain ⟨found, hfound⟩ := Option.isSome_iff_exists.mp (get?_hydrated_isSome hu hq hid')
  unfold retrieve
  dsimp only
  rw [hall]
  refine ⟨_, List.mem_filterMap.mpr ⟨p, hp, Option.map_eq_some_iff.mpr ⟨found, ?_, rfl⟩⟩, hpid⟩
  rw [hpid]
  exact hfound

end Results

section Reproducible

variable [LinearOrder ρ] [LinearOrder δ]

/-- Whatever answers its two queries get, a search returns the same. -/
def Reproducible (e : Engine ρ δ) (c : Corpus) (q : Query) : Prop :=
  ∀ (topN : Int) (lexical lexical' vector vector' : List Nat),
    LexicalAnswer e c q lexical → LexicalAnswer e c q lexical' →
    VectorAnswer e c q vector → VectorAnswer e c q vector' →
      retrieve c q topN lexical vector = retrieve c q topN lexical' vector'

variable {e : Engine ρ δ} {c : Corpus} {q : Query}

omit [LinearOrder δ] in
theorem LexicalAnswer.nodup {ids : List Nat} (h : LexicalAnswer e c q ids) : ids.Nodup := by
  obtain ⟨rows, hrows, rfl⟩ := h
  exact hrows.nodup_map (lexicalRows_nodup e c q)

omit [LinearOrder ρ] in
theorem VectorAnswer.nodup {ids : List Nat} (h : VectorAnswer e c q ids) : ids.Nodup := by
  obtain ⟨rows, hrows, rfl⟩ := h
  exact hrows.nodup_map (vectorRows_nodup e c q)

omit [LinearOrder δ] in
theorem LexicalAnswer.unit {ids : List Nat} (h : LexicalAnswer e c q ids) {id : Nat}
    (hid : id ∈ ids) : ∃ u ∈ c.units, baseFilters q u = true ∧ u.id = id := by
  obtain ⟨rows, hrows, rfl⟩ := h
  obtain ⟨p, hp, rfl⟩ := List.mem_map.mp hid
  exact exists_unit_of_lexicalRows (hrows.mem hp)

omit [LinearOrder ρ] in
theorem VectorAnswer.unit {ids : List Nat} (h : VectorAnswer e c q ids) {id : Nat}
    (hid : id ∈ ids) : ∃ u ∈ c.units, baseFilters q u = true ∧ u.id = id := by
  obtain ⟨rows, hrows, rfl⟩ := h
  obtain ⟨p, hp, rfl⟩ := List.mem_map.mp hid
  exact exists_unit_of_vectorRows (hrows.mem hp)

theorem answers_eq_of_reproducible (h : Reproducible e c q)
    {lexical lexical' vector vector' : List Nat} (hlex : LexicalAnswer e c q lexical)
    (hlex' : LexicalAnswer e c q lexical') (hvec : VectorAnswer e c q vector)
    (hvec' : VectorAnswer e c q vector') : lexical = lexical' ∧ vector = vector' := by
  let n := (fusedScores c q lexical vector).items.length +
    (fusedScores c q lexical' vector').items.length
  have hsame := h n lexical lexical' vector vector' hlex hlex' hvec hvec'
  -- with a limit past every result, each id that was answered shows its two ranks
  have hranks : ∀ id, (id ∈ lexical ∨ id ∈ vector) ∨ (id ∈ lexical' ∨ id ∈ vector') →
      (Dict.ofPairs (positions lexical)).get? id = (Dict.ofPairs (positions lexical')).get? id ∧
        (Dict.ofPairs (positions vector)).get? id = (Dict.ofPairs (positions vector')).get? id := by
    intro id hid
    obtain ⟨r, hr, rfl⟩ : ∃ r ∈ retrieve c q n lexical vector, r.unitId = id := by
      rcases hid with hid | hid
      · exact exists_result (Nat.le_add_right _ _) hid (hid.elim hlex.unit hvec.unit)
      · rw [hsame]
        exact exists_result (Nat.le_add_left _ _) hid (hid.elim hlex'.unit hvec'.unit)
    have hranks := ranks_of_mem hr
    have hranks' := ranks_of_mem (hsame ▸ hr)
    exact ⟨hranks.1.symm.trans hranks'.1, hranks.2.symm.trans hranks'.2⟩
  exact ⟨eq_of_positions hlex.nodup hlex'.nodup fun id hid => (hranks id (hid.imp .inl .inl)).1,
    eq_of_positions hvec.nodup hvec'.nodup fun id hid => (hranks id (hid.imp .inr .inr)).2⟩

omit [LinearOrder δ] in
theorem lexicalAnswer_of_rows {rows : List (Nat × ρ)}
    (h : Answers (fun p => OrderDual.toDual p.2) candidateDepth (lexicalRows e c q) rows) :
    LexicalAnswer e c q (rows.map Prod.fst) := ⟨rows, h, rfl⟩

omit [LinearOrder ρ] in
theorem vectorAnswer_of_rows {rows : List (Nat × δ)}
    (h : Answers Prod.snd candidateDepth (vectorRows e c q) rows) :
    VectorAnswer e c q (rows.map Prod.fst) := ⟨rows, h, rfl⟩

/-- **A search can be repeated** exactly if no two units tie on their rank among the words, or on
their distance, with fewer than fifty units before them. -/
theorem retrieve_reproducible_iff :
    Reproducible e c q ↔
      Untied (fun p => OrderDual.toDual p.2) candidateDepth (lexicalRows e c q) ∧
        Untied Prod.snd candidateDepth (vectorRows e c q) := by
  have hlex := lexicalAnswer_of_rows
    (answers_insertionSort (fun p => OrderDual.toDual p.2) candidateDepth (lexicalRows e c q))
  have hvec := vectorAnswer_of_rows
    (answers_insertionSort Prod.snd candidateDepth (vectorRows e c q))
  rw [← answers_unique_iff, ← answers_unique_iff]
  constructor
  · intro h
    constructor
    -- the other answer is held fixed
    · intro out out' hout hout'
      have hids := (answers_eq_of_reproducible h (lexicalAnswer_of_rows hout)
        (lexicalAnswer_of_rows hout') hvec hvec).1
      exact eq_of_map_eq (lexicalRows_nodup e c q) (fun _ => hout.mem) (fun _ => hout'.mem) hids
    · intro out out' hout hout'
      have hids := (answers_eq_of_reproducible h hlex hlex (vectorAnswer_of_rows hout)
        (vectorAnswer_of_rows hout')).2
      exact eq_of_map_eq (vectorRows_nodup e c q) (fun _ => hout.mem) (fun _ => hout'.mem) hids
  · rintro ⟨hlexical, hvector⟩ topN - - - - ⟨rows, hrows, rfl⟩ ⟨rows', hrows', rfl⟩
      ⟨rows₁, hrows₁, rfl⟩ ⟨rows₂, hrows₂, rfl⟩
    rw [hlexical rows rows' hrows hrows', hvector rows₁ rows₂ hrows₁ hrows₂]

end Reproducible

def samePassage (id : Nat) : PrepUnit where
  id := id
  organizationId := 1
  triggerLineId := id
  sourceLineIds := [id]
  content := "Accounts are reviewed quarterly.".toList
  pageNumbers := [1]
  sectionPath := none
  tableCoordinates := none
  tokenCount := 8
  systemId := none
  sourceKind := "policy_version".toList

def twoPassages : Corpus where
  units := [samePassage 1, samePassage 2]
  classifications := []
  embeddings := []
  ids_nodup := by decide
  embedded_nodup := List.nodup_nil

def lexicalOnly : Engine Nat Nat where
  tsRank _ _ := some 1
  embed _ := none
  distance _ _ := 0

def reviewQuery : Query := ⟨1, "AC-2".toList, some "quarterly review".toList, none, none⟩

/-- Two passages of one rank: the first result is the one that the database named first. -/
theorem tied_passages_not_reproducible :
    ¬ Reproducible lexicalOnly twoPassages reviewQuery ∧
      (retrieve twoPassages reviewQuery 1 [1, 2] []).map (·.unitId) = [1] ∧
      (retrieve twoPassages reviewQuery 1 [2, 1] []).map (·.unitId) = [2] := by
  refine ⟨fun h => ?_, by decide +kernel, by decide +kernel⟩
  have huntied := (retrieve_reproducible_iff.mp h).1 (1, 1) (by decide) (2, 1) (by decide) rfl
    (by decide)
  exact absurd huntied (by decide)

end Concord.Prep.Retriever
