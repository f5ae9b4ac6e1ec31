import Concord.Catalog.CanonicalForm
import Concord.Cci.Reader

/-!
# Resolving references

`ccf/cci/resolve.py`: a reference of the list, against the one catalog there is. The leading
`(n)` are enhancements while the catalog has the enhanced control; what is left is the path of a
statement item.

The first enhancement that the catalog lacks ends the control id, so that a reference may stop short
of a control (`stops_short`). In a catalog with the control of every enhancement it does not, and a
part of the catalog is what its reference in DISA notation resolves to (`resolveReference_deepest`).
-/

namespace Concord.Cci

open Concord.Python Concord.Catalog

/-- `ResolutionStatus`. -/
inductive ResolutionStatus
  | resolved | baseControlFallback | withdrawn | unparseable
  deriving DecidableEq

/-- `ResolvedReference`. -/
structure ResolvedReference where
  canonicalControl : Option Text
  oscalControlId : Option Text
  oscalPartId : Option Text
  status : ResolutionStatus
  deriving DecidableEq

/-- `_nothing`. -/
def nothing (status : ResolutionStatus) : ResolvedReference := ⟨none, none, none, status⟩

/-- `OscalCatalog`: the canonical id of every control, and its statement parts. -/
structure OscalCatalog where
  controls : List (Text × List Text)

section Resolve

variable (lib : Library)

/-- `catalog_index`: the control ids. -/
def OscalCatalog.controlIds (catalog : OscalCatalog) : List Text :=
  catalog.controls.map fun c => canonicalToOscalId lib.lower c.1

/-- `catalog_index`: the part ids. -/
def OscalCatalog.partIds (catalog : OscalCatalog) : List Text :=
  catalog.controls.flatMap Prod.snd

/-- `_ENH_TOKEN`, of a text without blanks. -/
def enhancement : Text → Option Nat
  | '(' :: rest =>
    let digits := rest.takeWhile isDecimal
    if 1 ≤ digits.length ∧ digits.length ≤ 3 ∧ rest.drop digits.length = [')'] then
      some (digits.foldl (fun n c => 10 * n + decimalValue c) 0)
    else none
  | _ => none

/-- `_ENH_LIKE`, of a text without blanks. -/
def enhancementLike : Text → Bool
  | '(' :: c :: _ => isDecimal c
  | _ => false

/-- The enhancements that the catalog has, and the tokens after them. -/
def absorb (controlIds : List Text) (canonical : Text) : List Text → Text × List Text
  | [] => (canonical, [])
  | token :: tokens =>
    match enhancement token with
    | none => (canonical, token :: tokens)
    | some n =>
      let candidate := canonical ++ '(' :: natText n ++ [')']
      if canonicalToOscalId lib.lower candidate ∈ controlIds then
        absorb controlIds candidate tokens
      else (canonical, token :: tokens)

/-- `t.strip("()").lower()`. -/
def segment (token : Text) : Text :=
  let paren := fun c => decide (c = '(' ∨ c = ')')
  lib.lower (((token.dropWhile paren).reverse.dropWhile paren).reverse)

/-- `resolve_reference`. -/
def resolveReference (rawIndex : Text) (controlIds partIds : List Text) : ResolvedReference :=
  match splitWords rawIndex with
  | [] => nothing .unparseable
  | first :: tokens =>
    match Packs.Catalog.canonicalize first with
    | none => nothing .unparseable
    | some base =>
      if canonicalToOscalId lib.lower base.value ∈ controlIds then
        let (canonical, rest) := absorb lib controlIds base.value tokens
        let oscalId := canonicalToOscalId lib.lower canonical
        let status := if rest.head?.any enhancementLike then .baseControlFallback else .resolved
        let partId := oscalId ++ "_smt".toList ++ rest.flatMap fun t => '.' :: segment lib t
        { canonicalControl := some canonical
          oscalControlId := some oscalId
          oscalPartId := if partId ∈ partIds then some partId else none
          status := status }
      else nothing .withdrawn

end Resolve

/-! ## The enhancements that are in the index -/

/-- The numbers of the leading enhancement tokens. -/
def leadingEnhancements : List Text → List Nat
  | [] => []
  | token :: tokens =>
    match enhancement token with
    | none => []
    | some n => n :: leadingEnhancements tokens

/-- The first `k` enhancements of `base` are in the index, and the next is not. -/
structure Deepest (lower : Text → Text) (controlIds : List Text) (base : Text) (ns : List Nat)
    (k : Nat) : Prop where
  within : k ≤ ns.length
  found : ∀ j ≤ k, canonicalToOscalId lower (base ++ groups (ns.take j)) ∈ controlIds
  stops : k < ns.length →
    canonicalToOscalId lower (base ++ groups (ns.take (k + 1))) ∉ controlIds

section Absorb

variable {lib : Library} {controlIds : List Text} {base : Text} {ns : List Nat}

theorem append_groups_cons (base : Text) (n : Nat) (ns : List Nat) :
    base ++ groups (n :: ns) = base ++ '(' :: natText n ++ [')'] ++ groups ns := by
  rw [groups_cons]
  simp

theorem append_groups_nil (base : Text) : base ++ groups [] = base := List.append_nil base

theorem Deepest.zero (hbase : canonicalToOscalId lib.lower base ∈ controlIds)
    (hstops : ∀ n rest, ns = n :: rest →
      canonicalToOscalId lib.lower (base ++ '(' :: natText n ++ [')']) ∉ controlIds) :
    Deepest lib.lower controlIds base ns 0 where
  within := Nat.zero_le _
  found := by
    intro j hj
    rw [Nat.le_zero.mp hj, List.take_zero, append_groups_nil]
    exact hbase
  stops := by
    intro h
    obtain ⟨n, rest, rfl⟩ := List.exists_cons_of_length_pos h
    rw [List.take_succ_cons, List.take_zero, append_groups_cons, append_groups_nil]
    exact hstops n rest rfl

theorem Deepest.succ {n k : Nat} (hbase : canonicalToOscalId lib.lower base ∈ controlIds)
    (h : Deepest lib.lower controlIds (base ++ '(' :: natText n ++ [')']) ns k) :
    Deepest lib.lower controlIds base (n :: ns) (k + 1) where
  within := Nat.succ_le_succ h.within
  found := by
    intro j hj
    cases j with
    | zero =>
      rw [List.take_zero, append_groups_nil]
      exact hbase
    | succ j =>
      rw [List.take_succ_cons, append_groups_cons]
      exact h.found j (Nat.le_of_succ_le_succ hj)
  stops := by
    intro hlt
    rw [List.take_succ_cons, append_groups_cons]
    exact h.stops (Nat.lt_of_succ_lt_succ hlt)

theorem absorb_spec (hbase : canonicalToOscalId lib.lower base ∈ controlIds)
    (tokens : List Text) :
    ∃ k, Deepest lib.lower controlIds base (leadingEnhancements tokens) k ∧
      absorb lib controlIds base tokens =
        (base ++ groups ((leadingEnhancements tokens).take k), tokens.drop k) := by
  induction tokens generalizing base with
  | nil =>
    refine ⟨0, Deepest.zero hbase fun n rest h => absurd h.symm (List.cons_ne_nil n rest), ?_⟩
    rw [List.take_zero, append_groups_nil]
    rfl
  | cons token tokens ih =>
    rw [absorb, leadingEnhancements]
    cases henhancement : enhancement token with
    | none =>
      refine ⟨0, Deepest.zero hbase fun n rest h => absurd h.symm (List.cons_ne_nil n rest), ?_⟩
      rw [List.take_zero, append_groups_nil]
      rfl
    | some n =>
      by_cases hin :
          canonicalToOscalId lib.lower (base ++ '(' :: natText n ++ [')']) ∈ controlIds
      · obtain ⟨k, hk, habsorb⟩ := ih hin
        refine ⟨k + 1, hk.succ hbase, ?_⟩
        simp only [hin, if_true, habsorb, List.take_succ_cons, List.drop_succ_cons,
          append_groups_cons]
      · refine ⟨0, Deepest.zero hbase ?_, ?_⟩
        · rintro m rest hcons
          obtain ⟨rfl, -⟩ := List.cons.inj hcons
          exact hin
        · simp only [hin, if_false, List.take_zero, append_groups_nil, List.drop_zero]

end Absorb

/-! ## What a reference resolves to -/

/-- The first word of a reference is the id `base`, and the others are `tokens`. -/
def Opens (rawIndex : Text) (base : Packs.Catalog.CanonicalId) (tokens : List Text) : Prop :=
  ∃ first, splitWords rawIndex = first :: tokens ∧ Packs.Catalog.canonicalize first = some base

/-- The part id of a path below the statement of a control. -/
def partId (oscalId : Text) (path : List Text) : Text :=
  oscalId ++ "_smt".toList ++ path.flatMap ('.' :: ·)

/-- The answer of a control, with the tokens that are left. -/
def answer (lib : Library) (partIds : List Text) (canonical : Text) (rest : List Text) :
    ResolvedReference :=
  let oscalId := canonicalToOscalId lib.lower canonical
  let part := partId oscalId (rest.map (segment lib))
  { canonicalControl := some canonical
    oscalControlId := some oscalId
    oscalPartId := if part ∈ partIds then some part else none
    status := if rest.head?.any enhancementLike then .baseControlFallback else .resolved }

/-- What `resolveReference` answers, for whatever index. -/
structure Answers (lower : Text → Text) (controlIds partIds : List Text) (rawIndex : Text)
    (r : ResolvedReference) : Prop where
  none_iff : r.canonicalControl = none ↔ r.status = .unparseable ∨ r.status = .withdrawn
  control : ∀ c, r.canonicalControl = some c →
    r.oscalControlId = some (canonicalToOscalId lower c) ∧
      ∃ base tokens k, Opens rawIndex base tokens ∧
        Deepest lower controlIds base.value (leadingEnhancements tokens) k ∧
          c = base.value ++ groups ((leadingEnhancements tokens).take k)
  part : ∀ p, r.oscalPartId = some p →
    p ∈ partIds ∧ ∃ oscalId path, r.oscalControlId = some oscalId ∧ p = partId oscalId path

section Answers

variable {lib : Library} {controlIds partIds : List Text} {rawIndex : Text}

theorem resolveReference_cases (lib : Library) (rawIndex : Text)
    (controlIds partIds : List Text) :
    (∃ status, (status = .unparseable ∨ status = .withdrawn) ∧
      resolveReference lib rawIndex controlIds partIds = nothing status ∧
        ∀ base tokens, Opens rawIndex base tokens →
          canonicalToOscalId lib.lower base.value ∉ controlIds) ∨
    ∃ base tokens k, Opens rawIndex base tokens ∧
      Deepest lib.lower controlIds base.value (leadingEnhancements tokens) k ∧
        resolveReference lib rawIndex controlIds partIds =
          answer lib partIds (base.value ++ groups ((leadingEnhancements tokens).take k))
            (tokens.drop k) := by
  unfold resolveReference
  cases hwords : splitWords rawIndex with
  | nil =>
    refine .inl ⟨.unparseable, .inl rfl, rfl, ?_⟩
    rintro base tokens ⟨first, hsplit, -⟩
    rw [hwords] at hsplit
    cases hsplit
  | cons first tokens =>
    have hfirst : ∀ base tokens', Opens rawIndex base tokens' →
        Packs.Catalog.canonicalize first = some base := by
      rintro base tokens' ⟨first', hsplit, hcanonical⟩
      rw [hwords] at hsplit
      rwa [(List.cons.inj hsplit).1]
    cases hbase : Packs.Catalog.canonicalize first with
    | none =>
      refine .inl ⟨.unparseable, .inl rfl, by simp only [hbase], fun base tokens' href => ?_⟩
      have hsome := hfirst base tokens' href
      rw [hbase] at hsome
      cases hsome
    | some base =>
      by_cases hin : canonicalToOscalId lib.lower base.value ∈ controlIds
      · obtain ⟨k, hk, habsorb⟩ := absorb_spec hin tokens
        refine .inr ⟨base, tokens, k, ⟨first, hwords, hbase⟩, hk, ?_⟩
        simp only [hbase, hin, if_true, habsorb, answer, partId, List.flatMap_map]
      · refine .inl ⟨.withdrawn, .inr rfl, by simp only [hbase, hin, if_false], ?_⟩
        intro base' tokens' href
        have hsome := hfirst base' tokens' href
        rw [hbase] at hsome
        exact Option.some.inj hsome ▸ hin

theorem status_answer (canonical : Text) (rest : List Text) :
    (answer lib partIds canonical rest).status ≠ .unparseable ∧
      (answer lib partIds canonical rest).status ≠ .withdrawn := by
  unfold answer
  dsimp only
  split
  · exact ⟨ResolutionStatus.noConfusion, ResolutionStatus.noConfusion⟩
  · exact ⟨ResolutionStatus.noConfusion, ResolutionStatus.noConfusion⟩

theorem part_answer {canonical : Text} {rest : List Text} {p : Text}
    (h : (answer lib partIds canonical rest).oscalPartId = some p) :
    p ∈ partIds ∧
      p = partId (canonicalToOscalId lib.lower canonical) (rest.map (segment lib)) := by
  obtain ⟨hin, heq⟩ := Option.ite_none_right_eq_some.mp h
  exact ⟨Option.some.inj heq ▸ hin, (Option.some.inj heq).symm⟩

theorem resolveReference_answers (lib : Library) (rawIndex : Text)
    (controlIds partIds : List Text) :
    Answers lib.lower controlIds partIds rawIndex
      (resolveReference lib rawIndex controlIds partIds) := by
  rcases resolveReference_cases lib rawIndex controlIds partIds with
    ⟨status, hstatus, h, -⟩ | ⟨base, tokens, k, hopens, hk, h⟩
  · rw [h]
    refine ⟨iff_of_true rfl hstatus, ?_, ?_⟩
    · rintro c ⟨⟩
    · rintro p ⟨⟩
  · rw [h]
    refine ⟨iff_of_false (Option.some_ne_none _) ?_, ?_, ?_⟩
    · exact not_or.mpr (status_answer _ _)
    · rintro c hc
      obtain rfl := Option.some.inj hc
      exact ⟨rfl, base, tokens, k, hopens, hk, rfl⟩
    · rintro p hp
      obtain ⟨hin, rfl⟩ := part_answer hp
      exact ⟨hin, _, _, rfl, rfl⟩

end Answers

/-! ## References in DISA notation -/

/-- A segment of a path: neither blanks nor parentheses, and lower case. -/
structure Segment (lower : Text → Text) (seg : Text) : Prop where
  nonempty : seg ≠ []
  tight : ∀ c ∈ seg, isSpace c = false ∧ c ≠ '(' ∧ c ≠ ')'
  lower_eq : lower seg = seg

/-- A segment is written bare or in parentheses. -/
def Writes (seg token : Text) : Prop := token = seg ∨ token = '(' :: seg ++ [')']

/-- The tokens of a path, the first of which cannot be taken for an enhancement. -/
def Itemizes (path items : List Text) : Prop :=
  List.Forall₂ Writes path items ∧ items.head?.any enhancementLike = false

/-- A reference: the control, its enhancements, and the items. -/
def disaReference (id : Packs.Catalog.CanonicalId) (items : List Text) : Text :=
  [' '].intercalate ((id.family ++ '-' :: natText id.number) ::
    (id.enhancements.map (fun e => '(' :: natText e ++ [')']) ++ items))

/-- A word, as `split` has them. -/
def Word (w : Text) : Prop := w ≠ [] ∧ ∀ c ∈ w, isSpace c = false

theorem splitWords_intercalate {ws : List Text} (h : ∀ w ∈ ws, Word w) :
    splitWords ([' '].intercalate ws) = ws := by
  induction ws with
  | nil => rfl
  | cons w ws ih =>
    rw [List.forall_mem_cons] at h
    obtain ⟨⟨hne, hw⟩, hrest⟩ := h
    cases ws with
    | nil =>
      rw [splitWords, List.intercalate_singleton, List.splitOnP_eq_singleton hw]
      exact List.filter_cons_of_pos (decide_eq_true hne)
    | cons w' ws =>
      have hjoin : [' '].intercalate (w :: w' :: ws) =
          w ++ ' ' :: [' '].intercalate (w' :: ws) := by
        rw [List.intercalate_cons_cons, List.append_assoc, List.singleton_append]
      rw [hjoin, splitWords, List.splitOnP_append_cons_of_forall_mem hw ' ' rfl]
      refine (List.filter_cons_of_pos ?_).trans (congrArg (w :: ·) (ih hrest))
      exact decide_eq_true hne

theorem word_group (n : Nat) : Word ('(' :: natText n ++ [')']) := by
  refine ⟨List.cons_ne_nil _ _, fun c hc => ?_⟩
  simp only [List.cons_append, List.mem_cons, List.mem_append, List.not_mem_nil, or_false] at hc
  rcases hc with rfl | hc | rfl
  · rfl
  · exact Bool.eq_false_iff.mpr fun hspace => absurd (Oscal.isDecimal_of_mem_natText c hc)
      (by rw [not_isDecimal_of_isSpace hspace]; exact Bool.false_ne_true)
  · rfl

theorem Writes.word {lower : Text → Text} {seg token : Text} (h : Writes seg token)
    (hseg : Segment lower seg) : Word token := by
  rcases h with rfl | rfl
  · exact ⟨hseg.nonempty, fun c hc => (hseg.tight c hc).1⟩
  · refine ⟨List.cons_ne_nil _ _, fun c hc => ?_⟩
    simp only [List.cons_append, List.mem_cons, List.mem_append, List.not_mem_nil, or_false] at hc
    rcases hc with rfl | hc | rfl
    · rfl
    · exact (hseg.tight c hc).1
    · rfl

theorem Writes.segment_eq {lib : Library} {seg token : Text} (h : Writes seg token)
    (hseg : Segment lib.lower seg) : segment lib token = seg := by
  let paren := fun c => decide (c = '(' ∨ c = ')')
  have hstop : ∀ c ∈ seg, ¬paren c = true := fun c hc hp =>
    (of_decide_eq_true hp).elim (hseg.tight c hc).2.1 (hseg.tight c hc).2.2
  have hkeep : seg.dropWhile paren = seg ∧ seg.reverse.dropWhile paren = seg.reverse := by
    constructor
    · cases hs : seg with
      | nil => rfl
      | cons c s => exact List.dropWhile_cons_of_neg (hstop c (hs ▸ List.mem_cons_self))
    · cases hs : seg.reverse with
      | nil => rfl
      | cons c s =>
        have hc : c ∈ seg := List.mem_reverse.mp (hs ▸ List.mem_cons_self)
        exact List.dropWhile_cons_of_neg (hstop c hc)
  have hbare : ((seg.dropWhile paren).reverse.dropWhile paren).reverse = seg := by
    rw [hkeep.1, hkeep.2, List.reverse_reverse]
  rcases h with rfl | rfl
  · show lib.lower (((token.dropWhile paren).reverse.dropWhile paren).reverse) = token
    rw [hbare, hseg.lower_eq]
  · have hopen : ('(' :: seg ++ [')']).dropWhile paren = seg ++ [')'] := by
      rw [List.cons_append, List.dropWhile_cons_of_pos (by rfl)]
      cases hs : seg with
      | nil => exact absurd hs hseg.nonempty
      | cons c s =>
        exact List.dropWhile_cons_of_neg (hstop c (hs ▸ List.mem_cons_self))
    have hclose : (seg ++ [')']).reverse.dropWhile paren = seg.reverse := by
      rw [List.reverse_append, List.reverse_singleton, List.singleton_append,
        List.dropWhile_cons_of_pos (by rfl), hkeep.2]
    show lib.lower (((('(' :: seg ++ [')']).dropWhile paren).reverse.dropWhile paren).reverse) = seg
    rw [hopen, hclose, List.reverse_reverse, hseg.lower_eq]

theorem words_of_writes {lib : Library} {path items : List Text}
    (h : List.Forall₂ Writes path items) (hpath : ∀ seg ∈ path, Segment lib.lower seg) :
    (∀ w ∈ items, Word w) ∧ items.map (segment lib) = path := by
  induction h with
  | nil => exact ⟨fun w hw => absurd hw List.not_mem_nil, rfl⟩
  | cons hwrite _ ih =>
    rw [List.forall_mem_cons] at hpath
    obtain ⟨hwords, hsegments⟩ := ih hpath.2
    refine ⟨List.forall_mem_cons.mpr ⟨hwrite.word hpath.1, hwords⟩, ?_⟩
    rw [List.map_cons, hwrite.segment_eq hpath.1, hsegments]

theorem itemizes_bare {lower : Text → Text} {path : List Text}
    (h : ∀ seg ∈ path, Segment lower seg) : Itemizes path path := by
  refine ⟨List.forall₂_same.mpr fun seg _ => .inl rfl, ?_⟩
  cases path with
  | nil => rfl
  | cons seg path =>
    have hseg := h seg List.mem_cons_self
    rw [List.head?_cons, Option.any_some]
    unfold enhancementLike
    split
    · exact absurd rfl (hseg.tight '(' List.mem_cons_self).2.1
    · rfl

theorem word_control {a b : Char} (ha : isAsciiLetter a = true) (hb : isAsciiLetter b = true)
    (n : Nat) : Word ([a.toUpper, b.toUpper] ++ '-' :: natText n) := by
  refine ⟨List.cons_ne_nil _ _, fun c hc => ?_⟩
  simp only [List.cons_append, List.nil_append, List.mem_cons] at hc
  rcases hc with rfl | rfl | rfl | hc
  · exact (toUpper_letter ha).2.1
  · exact (toUpper_letter hb).2.1
  · rfl
  · exact (word_group n).2 c (by simp [hc])

theorem enhancement_group {n : Nat} (h : n < 1000) :
    enhancement ('(' :: natText n ++ [')']) = some n := by
  have hdigits := (span_natText n (show isDecimal ')' = false by decide) []).1
  have hlength : 1 ≤ (natText n).length := List.length_pos_iff.mpr Nat.toDigits_ne_nil
  rw [List.cons_append, enhancement]
  simp only [hdigits, List.drop_left, foldl_natText, hlength, length_natText h, and_self, if_true]

theorem enhancement_lt {token : Text} {n : Nat} (h : enhancement token = some n) : n < 1000 := by
  unfold enhancement at h
  split at h
  · rename_i rest
    dsimp only at h
    split at h
    · rename_i hdigits
      obtain rfl := Option.some.inj h
      calc (rest.takeWhile isDecimal).foldl (fun n c => 10 * n + decimalValue c) 0
          < (0 + 1) * 10 ^ (rest.takeWhile isDecimal).length := foldl_decimal_lt _ 0
        _ ≤ 1 * 10 ^ 3 := Nat.mul_le_mul_left 1 (Nat.pow_le_pow_right (by decide) hdigits.2.1)
    · cases h
  · cases h

theorem enhancementLike_of_enhancement {token : Text} (h : (enhancement token).isSome) :
    enhancementLike token = true := by
  unfold enhancement at h
  split at h
  · rename_i rest
    dsimp only at h
    split at h
    · rename_i hdigits
      cases rest with
      | nil => exact absurd hdigits.1 (by simp)
      | cons c rest =>
        by_contra hc
        rw [enhancementLike] at hc
        rw [List.takeWhile_cons_of_neg hc] at hdigits
        exact absurd hdigits.1 (by simp)
    · cases h
  · cases h

theorem leadingEnhancements_lt (tokens : List Text) :
    ∀ n ∈ leadingEnhancements tokens, n < 1000 := by
  induction tokens with
  | nil => exact fun n hn => absurd hn List.not_mem_nil
  | cons token tokens ih =>
    rw [leadingEnhancements]
    cases h : enhancement token with
    | none => exact fun n hn => absurd hn List.not_mem_nil
    | some n => exact List.forall_mem_cons.mpr ⟨enhancement_lt h, ih⟩

theorem leadingEnhancements_groups {es : List Nat} (hes : ∀ e ∈ es, e < 1000) {items : List Text}
    (h : items.head?.any enhancementLike = false) :
    leadingEnhancements (es.map (fun e => '(' :: natText e ++ [')']) ++ items) = es := by
  induction es with
  | nil =>
    cases items with
    | nil => rfl
    | cons item items =>
      rw [List.map_nil, List.nil_append, leadingEnhancements]
      cases hitem : enhancement item with
      | none => rfl
      | some n =>
        have hlike := enhancementLike_of_enhancement (Option.isSome_iff_exists.mpr ⟨n, hitem⟩)
        rw [List.head?_cons, Option.any_some, hlike] at h
        cases h
  | cons e es ih =>
    rw [List.forall_mem_cons] at hes
    rw [List.map_cons, List.cons_append, leadingEnhancements, enhancement_group hes.1]
    exact congrArg (e :: ·) (ih hes.2)

/-! ## A catalog as it is published -/

def OscalCatalog.keys (catalog : OscalCatalog) : List Text := catalog.controls.map Prod.fst

/-- The ids are canonical, the control of every enhancement is there, and parts are named after
their controls. -/
structure OscalCatalog.Regular (lower : Text → Text) (catalog : OscalCatalog) : Prop where
  canonical : ∀ c ∈ catalog.keys, ∃ id, Packs.Catalog.canonicalize c = some id ∧ id.value = c
  closed : ∀ c n, c ++ groups [n] ∈ catalog.keys → c ∈ catalog.keys
  named : ∀ c parts, (c, parts) ∈ catalog.controls → ∀ p ∈ parts,
    ∃ path, p = partId (canonicalToOscalId lower c) path ∧ ∀ seg ∈ path, Segment lower seg

/-- What `resolveReference` answers, of a catalog. -/
structure InCatalog (catalog : OscalCatalog) (rawIndex : Text) (r : ResolvedReference) :
    Prop where
  control : ∀ c, r.canonicalControl = some c → c ∈ catalog.keys ∧
    ∃ base tokens k, Opens rawIndex base tokens ∧
      c = base.value ++ groups ((leadingEnhancements tokens).take k) ∧
        ∀ j, k < j → j ≤ (leadingEnhancements tokens).length →
          base.value ++ groups ((leadingEnhancements tokens).take j) ∉ catalog.keys
  part : ∀ p, r.oscalPartId = some p →
    ∃ c parts, r.canonicalControl = some c ∧ (c, parts) ∈ catalog.controls ∧ p ∈ parts

theorem canonicalize_append {first : Text} {base : Packs.Catalog.CanonicalId}
    (h : Packs.Catalog.canonicalize first = some base) {ns : List Nat}
    (hns : ∀ n ∈ ns, n < 1000) : ∃ id, Packs.Catalog.canonicalize (base.value ++ groups ns) =
      some id ∧ id.value = base.value ++ groups ns := by
  obtain ⟨a, b, ha, hb, hnumber, hes, hfamily, hvalue⟩ := canonicalize_parts h
  have hjoin : base.value ++ groups ns =
      [a.toUpper, b.toUpper] ++ '-' :: natText base.number ++ groups (base.enhancements ++ ns) := by
    rw [hvalue, hfamily, groups, groups, groups, List.flatMap_append, List.append_assoc,
      List.append_assoc]
  rw [hjoin]
  refine ⟨_, canonicalize_written ha hb hnumber ?_, rfl⟩
  exact fun e he => (List.mem_append.mp he).elim (hes e) (hns e)

section Regular

variable {lib : Library} {l : Oscal.Lower} {catalog : OscalCatalog}

theorem OscalCatalog.Regular.mem_controlIds_iff (hreg : catalog.Regular l.lower)
    (hlower : lib.lower = l.lower) {c : Text} {id : Packs.Catalog.CanonicalId}
    (hc : Packs.Catalog.canonicalize c = some id) (hvalue : id.value = c) :
    canonicalToOscalId lib.lower c ∈ catalog.controlIds lib ↔ c ∈ catalog.keys := by
  rw [OscalCatalog.controlIds, OscalCatalog.keys, hlower]
  constructor
  · intro h
    obtain ⟨control, hcontrol, heq⟩ := List.mem_map.mp h
    have hkey : control.1 ∈ catalog.keys := List.mem_map_of_mem hcontrol
    obtain ⟨id', hid', hvalue'⟩ := hreg.canonical control.1 hkey
    rw [← hvalue, ← hvalue'] at heq
    rw [← hvalue, ← value_eq_of_oscal_eq l hid' hc heq, hvalue']
    exact hkey
  · intro h
    obtain ⟨control, hcontrol, rfl⟩ := List.mem_map.mp h
    exact List.mem_map_of_mem hcontrol

theorem OscalCatalog.Regular.mem_keys_take (hreg : catalog.Regular l.lower) {c : Text}
    {ns : List Nat} (h : c ++ groups ns ∈ catalog.keys) (j : Nat) :
    c ++ groups (ns.take j) ∈ catalog.keys := by
  induction ns using List.reverseRecOn with
  | nil =>
    rw [List.take_nil]
    exact h
  | append_singleton ns n ih =>
    by_cases hj : j ≤ ns.length
    · rw [List.take_append_of_le_length hj]
      refine ih (hreg.closed _ n ?_)
      rw [groups, List.flatMap_append, ← List.append_assoc] at h
      exact h
    · rw [List.take_of_length_le]
      · exact h
      · rw [List.length_append, List.length_singleton]
        omega

theorem OscalCatalog.Regular.mem_parts (hreg : catalog.Regular l.lower) {c : Text}
    {path : List Text} (hc : c ∈ catalog.keys)
    (hp : partId (canonicalToOscalId l.lower c) path ∈ catalog.partIds) :
    ∃ parts, (c, parts) ∈ catalog.controls ∧
      partId (canonicalToOscalId l.lower c) path ∈ parts := by
  obtain ⟨⟨c', parts⟩, hcontrol, hpart⟩ := List.mem_flatMap.mp hp
  obtain ⟨path', heq, -⟩ := hreg.named c' parts hcontrol _ hpart
  have hc' : c' ∈ catalog.keys := List.mem_map_of_mem hcontrol
  obtain ⟨id, hid, hvalue⟩ := hreg.canonical c hc
  obtain ⟨id', hid', hvalue'⟩ := hreg.canonical c' hc'
  rw [partId, partId, List.append_assoc, List.append_assoc, ← hvalue, ← hvalue'] at heq
  obtain ⟨hoscal, -⟩ := append_separator_inj (underscore_notMem_oscal l hid)
    (underscore_notMem_oscal l hid') heq
  have hsame : c' = c := by rw [← hvalue', ← hvalue, value_eq_of_oscal_eq l hid hid' hoscal]
  exact ⟨parts, hsame ▸ hcontrol, hpart⟩

theorem resolveReference_inCatalog (hreg : catalog.Regular l.lower)
    (hlower : lib.lower = l.lower) (rawIndex : Text) :
    InCatalog catalog rawIndex
      (resolveReference lib rawIndex (catalog.controlIds lib) catalog.partIds) := by
  rcases resolveReference_cases lib rawIndex (catalog.controlIds lib) catalog.partIds with
    ⟨status, -, h, -⟩ | ⟨base, tokens, k, hopens, hk, h⟩
  · rw [h]
    constructor
    · rintro c ⟨⟩
    · rintro p ⟨⟩
  · have hns := leadingEnhancements_lt tokens
    have ⟨first, _, hbase⟩ := hopens
    have hmem : ∀ j, canonicalToOscalId lib.lower
        (base.value ++ groups ((leadingEnhancements tokens).take j)) ∈ catalog.controlIds lib ↔
          base.value ++ groups ((leadingEnhancements tokens).take j) ∈ catalog.keys := by
      intro j
      obtain ⟨id, hid, hvalue⟩ :=
        canonicalize_append hbase fun n hn => hns n (List.mem_of_mem_take hn)
      exact hreg.mem_controlIds_iff hlower hid hvalue
    have hkey := (hmem k).mp (hk.found k le_rfl)
    rw [h]
    constructor
    · rintro c hc
      obtain rfl := Option.some.inj hc
      refine ⟨hkey, base, tokens, k, hopens, rfl, fun j hj hle hin => ?_⟩
      -- the next control would be there too
      refine hk.stops (Nat.lt_of_lt_of_le hj hle) ((hmem (k + 1)).mpr ?_)
      have htake := hreg.mem_keys_take hin (k + 1)
      rwa [List.take_take, Nat.min_eq_left hj] at htake
    · intro p hp
      obtain ⟨hin, rfl⟩ := part_answer hp
      rw [hlower] at hin ⊢
      obtain ⟨parts, hparts⟩ := hreg.mem_parts hkey hin
      exact ⟨_, parts, rfl, hparts⟩

/-- A path in DISA notation resolves to its part. -/
theorem resolveReference_disaReference (hreg : catalog.Regular l.lower)
    (hlower : lib.lower = l.lower) {c : Text} {id : Packs.Catalog.CanonicalId}
    (hc : c ∈ catalog.keys) (hid : Packs.Catalog.canonicalize c = some id) (hvalue : id.value = c)
    {path items : List Text} (hpath : ∀ seg ∈ path, Segment l.lower seg)
    (hitems : Itemizes path items)
    (hp : partId (canonicalToOscalId l.lower c) path ∈ catalog.partIds) :
    resolveReference lib (disaReference id items) (catalog.controlIds lib) catalog.partIds =
      ⟨some c, some (canonicalToOscalId l.lower c),
        some (partId (canonicalToOscalId l.lower c) path), .resolved⟩ := by
  obtain ⟨a, b, ha, hb, hnumber, hes, hfamily, hform⟩ := canonicalize_parts hid
  obtain ⟨hwrites, hfirst⟩ := hitems
  -- the first word is the control without its enhancements
  have hbase : Packs.Catalog.canonicalize (id.family ++ '-' :: natText id.number) =
      some ⟨id.family ++ '-' :: natText id.number, id.family, id.number, []⟩ := by
    have hwritten := canonicalize_written ha hb hnumber fun e he => absurd he List.not_mem_nil
    rw [append_groups_nil, ← hfamily] at hwritten
    exact hwritten
  obtain ⟨hitemWords, hsegments⟩ := words_of_writes hwrites (hlower ▸ hpath)
  have hwords : splitWords (disaReference id items) = (id.family ++ '-' :: natText id.number) ::
      (id.enhancements.map (fun e => '(' :: natText e ++ [')']) ++ items) := by
    refine splitWords_intercalate (List.forall_mem_cons.mpr ⟨hfamily ▸ word_control ha hb _, ?_⟩)
    intro w hw
    rcases List.mem_append.mp hw with hw | hw
    · obtain ⟨e, -, rfl⟩ := List.mem_map.mp hw
      exact word_group e
    · exact hitemWords w hw
  have hfound : ∀ j, canonicalToOscalId lib.lower
      (id.family ++ '-' :: natText id.number ++ groups (id.enhancements.take j)) ∈
        catalog.controlIds lib := by
    intro j
    obtain ⟨id', hid', hvalue'⟩ :=
      canonicalize_append hbase fun n hn => hes n (List.mem_of_mem_take hn)
    refine (hreg.mem_controlIds_iff hlower hid' hvalue').mpr (hreg.mem_keys_take ?_ j)
    rw [← hform, hvalue]
    exact hc
  rcases resolveReference_cases lib (disaReference id items) (catalog.controlIds lib)
    catalog.partIds with ⟨status, -, -, h⟩ | ⟨base, tokens, k, ⟨first, hsplit, hfirst'⟩, hk, h⟩
  · refine absurd (hfound 0) ?_
    rw [List.take_zero, append_groups_nil]
    exact h _ _ ⟨_, hwords, hbase⟩
  · rw [hwords] at hsplit
    obtain ⟨rfl, rfl⟩ := List.cons.inj hsplit
    rw [hbase] at hfirst'
    obtain rfl := Option.some.inj hfirst'
    rw [leadingEnhancements_groups hes hfirst] at hk h
    -- every enhancement is absorbed, and the items are left
    have hall : k = id.enhancements.length := by
      refine le_antisymm hk.within (Nat.le_of_not_lt fun hlt => ?_)
      exact hk.stops hlt (hfound (k + 1))
    rw [h, hall, List.take_length, ← hform, hvalue, List.drop_left' (List.length_map _), answer,
      hsegments, hlower]
    simp only [hp, if_true, hfirst, Bool.false_eq_true, if_false]

end Regular

/-! ## The deepest control -/

/-- **What a reference resolves to**: the deepest control that the leading enhancements reach one
by one, or none; in a published catalog, the deepest at all, with a part of its own. There a part is
what its own reference resolves to. -/
theorem resolveReference_deepest (lib : Library) (l : Oscal.Lower) :
    (∀ rawIndex controlIds partIds, Answers lib.lower controlIds partIds rawIndex
      (resolveReference lib rawIndex controlIds partIds)) ∧
    ∀ catalog : OscalCatalog, catalog.Regular l.lower →
      let resolve := fun rawIndex => resolveReference { lib with lower := l.lower } rawIndex
        (catalog.controlIds { lib with lower := l.lower }) catalog.partIds
      (∀ rawIndex, InCatalog catalog rawIndex (resolve rawIndex)) ∧
      ∀ c parts, (c, parts) ∈ catalog.controls → ∀ p ∈ parts,
        ∃ id path, Packs.Catalog.canonicalize c = some id ∧
          p = partId (canonicalToOscalId l.lower c) path ∧ Itemizes path path ∧
            ∀ items, Itemizes path items → resolve (disaReference id items) =
              ⟨some c, some (canonicalToOscalId l.lower c), some p, .resolved⟩ := by
  refine ⟨fun rawIndex controlIds partIds =>
    resolveReference_answers lib rawIndex controlIds partIds, fun catalog hreg => ⟨?_, ?_⟩⟩
  · exact fun rawIndex => resolveReference_inCatalog hreg rfl rawIndex
  · intro c parts hcontrol p hp
    have hc : c ∈ catalog.keys := List.mem_map_of_mem hcontrol
    obtain ⟨id, hid, hvalue⟩ := hreg.canonical c hc
    have hpart : p ∈ catalog.partIds := List.mem_flatMap.mpr ⟨(c, parts), hcontrol, hp⟩
    obtain ⟨path, rfl, hpath⟩ := hreg.named c parts hcontrol p hp
    exact ⟨id, path, hid, rfl, itemizes_bare hpath, fun items hitems =>
      resolveReference_disaReference hreg rfl hc hid hvalue hpath hitems hpart⟩

/-- A catalog with an enhancement of an enhancement that it lacks, and with parts that are not named
after their control. -/
def irregular : OscalCatalog :=
  ⟨[("AC-2".toList, ["ac-3_smt".toList, "a".toList]), ("AC-2(1)(2)".toList, []),
    ("AC-3".toList, [])]⟩

/-- There `AC-2 (1) (2)` resolves to `AC-2`, `AC-3` to a part of `AC-2`, and nothing to the part
`a`. -/
theorem irregular_catalogs :
    (¬ ∀ (lib : Library) (catalog : OscalCatalog) (rawIndex c : Text)
      (base : Packs.Catalog.CanonicalId) (tokens : List Text) (j k : Nat),
      (resolveReference lib rawIndex (catalog.controlIds lib) catalog.partIds).canonicalControl =
        some c → Opens rawIndex base tokens →
      c = base.value ++ groups ((leadingEnhancements tokens).take j) → j < k →
      k ≤ (leadingEnhancements tokens).length →
        canonicalToOscalId lib.lower (base.value ++ groups ((leadingEnhancements tokens).take k)) ∉
          catalog.controlIds lib) ∧
    (¬ ∀ (lib : Library) (catalog : OscalCatalog) (rawIndex c p : Text),
      let r := resolveReference lib rawIndex (catalog.controlIds lib) catalog.partIds
      r.canonicalControl = some c → r.oscalPartId = some p →
        ∃ control ∈ catalog.controls, control.1 = c ∧ p ∈ control.2) ∧
    ¬ ∀ (lib : Library) (catalog : OscalCatalog), ∀ control ∈ catalog.controls, ∀ p ∈ control.2,
      ∃ rawIndex, (resolveReference lib rawIndex (catalog.controlIds lib)
        catalog.partIds).oscalPartId = some p := by
  refine ⟨fun h => ?_, fun h => ?_, fun h => ?_⟩
  · refine h ⟨List.map Char.toLower, id, fun _ => []⟩ irregular "AC-2 (1) (2)".toList
      "AC-2".toList ⟨"AC-2".toList, "AC".toList, 2, []⟩ ["(1)".toList, "(2)".toList] 0 2 ?_
      ⟨"AC-2".toList, ?_, ?_⟩ ?_ ?_ ?_ ?_
    all_goals decide +kernel
  · obtain ⟨control, hcontrol, hc, hp⟩ := h ⟨List.map Char.toLower, id, fun _ => []⟩ irregular
      "AC-3".toList "AC-3".toList "ac-3_smt".toList (by decide +kernel) (by decide +kernel)
    have hno : ∀ control ∈ irregular.controls, control.1 = "AC-3".toList →
        "ac-3_smt".toList ∉ control.2 := by decide +kernel
    exact hno control hcontrol hc hp
  · obtain ⟨rawIndex, hr⟩ := h ⟨List.map Char.toLower, id, fun _ => []⟩ irregular _
      List.mem_cons_self "a".toList (by decide +kernel)
    obtain ⟨-, oscalId, path, -, heq⟩ := (resolveReference_answers _ _ _ _).part _ hr
    have hmark : '_' ∈ partId oscalId path := by simp [partId]
    rw [← heq] at hmark
    exact absurd hmark (by decide)

end Concord.Cci
