import Mathlib.Logic.Function.Basic
import Concord.Python.Dates
import Concord.Governance.Importer

/-!
# The datasets of the exporter

The four registers that `ccf/governance/exporter.py` lists and ingests, with the columns it
names (`ccf/models.py`) and the scores of `ccf/governance/risk.py`. An `Entity` is a row of
any of them; what no exported or imported column holds is left out.

A `Table` carries what the schema promises: ids are unique, each value fits its column, and
no two rows of an organization share the name that the schema makes unique. Writes go
through `Table.update` and `Table.insert`, which refuse what would break that.
-/

namespace Concord.Governance.Datasets

open Concord.Python

/-! ## Columns -/

inductive ColumnType
  | string (width : Nat)
  | enum (values : List Text)

/-- A string column of a model. -/
structure Column where
  name : String
  type : ColumnType
  nullable : Bool := true
  default : Option Text := none

def Column.accepts (c : Column) : Option Text → Bool
  | none => c.nullable
  | some t =>
    t.all (· ≠ '\x00') &&
      match c.type with
      | .string width => t.length ≤ width
      | .enum values => values.any (· = t)

inductive Model
  | poam
  | risk
  | vendor
  | policy
  deriving DecidableEq

/-- How a row is tied to an organization: through its system, or directly. -/
inductive Link
  | system
  | org
  deriving DecidableEq

/-- An entry of `_IMPORT_SPEC`. -/
structure Spec where
  model : Model
  required : String
  strFields : List Column
  dateFields : List String
  link : Link

def riskLevels : List Text := ["low".toList, "moderate".toList, "high".toList]

def poamSpec : Spec where
  model := .poam
  required := "title"
  strFields :=
    [{ name := "title", type := .string 512, nullable := false },
     { name := "severity", type := .enum (severities.map Severity.text), nullable := false,
       default := some "moderate".toList },
     { name := "status", type := .enum (poamStatuses.map PoamStatus.text), nullable := false,
       default := some "open".toList },
     { name := "source", type := .string 32 },
     { name := "point_of_contact", type := .string 255 }]
  dateFields := ["identified_on", "due_on", "scheduled_completion"]
  link := .system

def riskSpec : Spec where
  model := .risk
  required := "title"
  strFields :=
    [{ name := "title", type := .string 512, nullable := false },
     { name := "category", type := .string 64 },
     { name := "likelihood", type := .enum riskLevels },
     { name := "impact", type := .enum riskLevels },
     { name := "treatment",
       type := .enum ["mitigate".toList, "transfer".toList, "accept".toList, "avoid".toList] },
     { name := "status",
       type := .enum ["open".toList, "mitigated".toList, "accepted".toList, "closed".toList],
       nullable := false, default := some "open".toList }]
  dateFields := []
  link := .system

def vendorSpec : Spec where
  model := .vendor
  required := "name"
  strFields :=
    [{ name := "name", type := .string 255, nullable := false },
     { name := "criticality", type := .string 16, nullable := false,
       default := some "medium".toList },
     { name := "status", type := .string 16, nullable := false,
       default := some "active".toList },
     { name := "risk_rating", type := .string 16 },
     { name := "authorization", type := .string 128 }]
  dateFields := ["last_reviewed_on", "next_review_on"]
  link := .org

def policySpec : Spec where
  model := .policy
  required := "name"
  strFields :=
    [{ name := "name", type := .string 255, nullable := false },
     { name := "category", type := .string 64 },
     { name := "status", type := .string 16, nullable := false,
       default := some "draft".toList },
     { name := "review_frequency", type := .string 32 }]
  dateFields := ["next_review_on"]
  link := .org

inductive Dataset
  | poams
  | risks
  | vendors
  | policies
  deriving DecidableEq

/-- `_IMPORT_SPEC[dataset]`. -/
def Dataset.spec : Dataset → Spec
  | .poams => poamSpec
  | .risks => riskSpec
  | .vendors => vendorSpec
  | .policies => policySpec

/-! ## Rows -/

/-- A row of a dataset: its attributes by name. The link is the id of its system or of its
organization; only a risk has scores. -/
@[ext]
structure Entity where
  id : Nat
  link : Option Nat
  text : String → Option Text
  date : String → Option Date
  inherentScore : Option Nat
  residualScore : Option Nat

/-- `model()`. -/
def blank : Entity where
  id := 0
  link := none
  text := fun _ => none
  date := fun _ => none
  inherentScore := none
  residualScore := none

/-- `setattr(obj, f, value)`, of a string column. -/
def Entity.setText (e : Entity) (f : String) (value : Option Text) : Entity :=
  { e with text := Function.update e.text f value }

/-- `setattr(obj, f, value)`, of a date column. -/
def Entity.setDate (e : Entity) (f : String) (value : Option Date) : Entity :=
  { e with date := Function.update e.date f value }

/-- `_LEVEL`. -/
def level (t : Text) : Option Nat :=
  if t = "low".toList then some 1
  else if t = "moderate".toList then some 3
  else if t = "high".toList then some 5
  else none

/-- `_RESIDUAL_FACTOR`, in tenths. -/
def residualFactor (t : Text) : Nat :=
  if t = "mitigate".toList then 4
  else if t = "transfer".toList then 5
  else if t = "avoid".toList then 1
  else 10

/-- `(value or "").lower()`, as far as these words go: no other character lowers to a letter
of theirs. -/
def lowered (value : Option Text) : Text := (value.getD []).map Char.toLower

/-- `round(n / 10)`: a half goes to the even side. -/
def roundTenths (n : Nat) : Nat :=
  if n % 10 < 5 then n / 10
  else if n % 10 = 5 ∧ n / 10 % 2 = 0 then n / 10
  else n / 10 + 1

/-- `compute_scores`. -/
def computeScores (likelihood impact treatment : Option Text) : Option Nat × Option Nat :=
  match level (lowered likelihood), level (lowered impact) with
  | some lk, some im =>
    let inherent := lk * im
    (some inherent,
      some (max 1 (roundTenths (inherent * residualFactor (lowered treatment)))))
  | _, _ => (none, none)

example : computeScores (some "high".toList) (some "high".toList) (some "transfer".toList) =
    (some 25, some 12) := by decide +kernel

/-- `band`. -/
def band : Option Nat → Text
  | none => "unknown".toList
  | some score =>
    if score = 0 then "unknown".toList
    else if score ≤ 4 then "low".toList
    else if score ≤ 9 then "moderate".toList
    else if score ≤ 15 then "high".toList
    else "critical".toList

def Entity.scores (e : Entity) : Option Nat × Option Nat :=
  computeScores (e.text "likelihood") (e.text "impact") (e.text "treatment")

/-- The last lines of `_apply_fields`: only a risk is scored. -/
def Spec.rescore (spec : Spec) (e : Entity) : Entity :=
  if spec.model = .risk then
    { e with inherentScore := e.scores.1, residualScore := e.scores.2 }
  else e

/-! ## Tables -/

theorem le_foldr_max {ns : List Nat} {n : Nat} (h : n ∈ ns) : n ≤ ns.foldr max 0 := by
  induction ns with
  | nil => exact absurd h List.not_mem_nil
  | cons m ns ih =>
    rw [List.foldr_cons]
    rcases List.mem_cons.mp h with rfl | h
    · exact Nat.le_max_left _ _
    · exact Nat.le_trans (ih h) (Nat.le_max_right _ _)

/-- An `INTEGER` that is not negative. -/
def fitsInteger (n : Nat) : Bool := n < 2 ^ 31

def Spec.accepts (spec : Spec) (e : Entity) : Bool :=
  (spec.strFields.all fun c => c.accepts (e.text c.name)) &&
    (1 ≤ e.id && fitsInteger e.id) && e.inherentScore.all fitsInteger &&
      e.residualScore.all fitsInteger

/-- Two rows that `UniqueConstraint("organization_id", "name")` keeps apart. -/
def Spec.Clash (spec : Spec) (e e' : Entity) : Prop :=
  spec.link = .org ∧ e.link.isSome = true ∧ e.link = e'.link ∧
    e.text spec.required = e'.text spec.required

instance (spec : Spec) (e e' : Entity) : Decidable (spec.Clash e e') :=
  inferInstanceAs (Decidable (_ ∧ _ ∧ _ ∧ _))

/-- A table, in the order of its ids. -/
structure Table (spec : Spec) where
  rows : List Entity
  ordered : rows.Pairwise fun e e' => e.id < e'.id
  fits : ∀ e ∈ rows, spec.accepts e = true
  unique : ∀ e ∈ rows, ∀ e' ∈ rows, e.id ≠ e'.id → ¬spec.Clash e e'

namespace Table

variable {spec : Spec}

@[ext]
theorem ext {t t' : Table spec} (h : t.rows = t'.rows) : t = t' := by
  cases t
  cases t'
  obtain rfl := h
  rfl

theorem ids_nodup (t : Table spec) : (t.rows.map Entity.id).Nodup := by
  rw [List.Nodup, List.pairwise_map]
  exact t.ordered.imp Nat.ne_of_lt

theorem eq_of_id {t : Table spec} {e e' : Entity} (h : e ∈ t.rows) (h' : e' ∈ t.rows)
    (hid : e.id = e'.id) : e = e' :=
  List.inj_on_of_nodup_map t.ids_nodup h h' hid

/-- The row of an id takes the place of the one that is there. -/
def replace (e e' : Entity) : Entity := if e'.id = e.id then e else e'

theorem replace_id (e e' : Entity) : (replace e e').id = e'.id := by
  unfold replace
  split
  · rename_i h
    exact h.symm
  · rfl

theorem mem_replace {rows : List Entity} {e e' : Entity} (h : e' ∈ rows.map (replace e)) :
    e' = e ∨ (e' ∈ rows ∧ e'.id ≠ e.id) := by
  obtain ⟨d, hd, rfl⟩ := List.mem_map.mp h
  unfold replace
  split
  · exact .inl rfl
  · rename_i hne
    exact .inr ⟨hd, hne⟩

theorem Clash.symm {e e' : Entity} (h : spec.Clash e e') : spec.Clash e' e :=
  ⟨h.1, h.2.2.1 ▸ h.2.1, h.2.2.1.symm, h.2.2.2.symm⟩

def free (t : Table spec) (e : Entity) : Bool :=
  t.rows.all fun e' => decide (e'.id ≠ e.id → ¬spec.Clash e e')

theorem free_iff {t : Table spec} {e : Entity} :
    t.free e = true ↔ ∀ e' ∈ t.rows, e'.id ≠ e.id → ¬spec.Clash e e' := by
  simp only [free, List.all_eq_true, decide_eq_true_eq]

theorem fits_single {e : Entity} (h : spec.accepts e = true) :
    ∀ a ∈ [e], spec.accepts a = true :=
  fun _ ha => List.mem_singleton.mp ha ▸ h

theorem unique_single (e : Entity) :
    ∀ a ∈ [e], ∀ b ∈ [e], a.id ≠ b.id → ¬spec.Clash a b := fun _ ha _ hb hne =>
  absurd (congrArg Entity.id ((List.mem_singleton.mp ha).trans (List.mem_singleton.mp hb).symm))
    hne

def single (e : Entity) (h : spec.accepts e = true) : Table spec where
  rows := [e]
  ordered := List.pairwise_singleton _ _
  fits := fits_single h
  unique := unique_single e

theorem ordered_replace (t : Table spec) (e : Entity) :
    (t.rows.map (replace e)).Pairwise fun a b => a.id < b.id := by
  rw [List.pairwise_map]
  exact t.ordered.imp fun {a b} hlt => by rwa [replace_id, replace_id]

theorem fits_replace (t : Table spec) {e : Entity} (h : spec.accepts e = true) :
    ∀ a ∈ t.rows.map (replace e), spec.accepts a = true := by
  intro a ha
  rcases mem_replace ha with rfl | ⟨hmem, -⟩
  · exact h
  · exact t.fits a hmem

theorem unique_replace (t : Table spec) {e : Entity} (h : t.free e = true) :
    ∀ a ∈ t.rows.map (replace e), ∀ b ∈ t.rows.map (replace e), a.id ≠ b.id →
      ¬spec.Clash a b := by
  intro a ha b hb hne
  rcases mem_replace ha with rfl | ⟨hma, hia⟩
  · rcases mem_replace hb with rfl | ⟨hmb, hib⟩
    · exact absurd rfl hne
    · exact free_iff.mp h b hmb hib
  · rcases mem_replace hb with rfl | ⟨hmb, hib⟩
    · exact fun hc => free_iff.mp h a hma hia (Clash.symm hc)
    · exact t.unique a hma b hmb hne

/-- `UPDATE`; `none` is the error of the database. -/
def update (t : Table spec) (e : Entity) : Option (Table spec) :=
  if h : spec.accepts e = true ∧ t.free e = true then
    some
      { rows := t.rows.map (replace e)
        ordered := ordered_replace t e
        fits := fits_replace t h.1
        unique := unique_replace t h.2 }
  else none

theorem update_eq_some {t t' : Table spec} {e : Entity} (h : t.update e = some t') :
    t'.rows = t.rows.map (replace e) := by
  unfold update at h
  split at h
  · exact congrArg Table.rows (Option.some.inj h).symm
  · cases h

theorem update_self {t : Table spec} {e : Entity} (h : e ∈ t.rows) : t.update e = some t := by
  have hfree : t.free e = true :=
    free_iff.mpr fun e' he' hne => t.unique e h e' he' (Ne.symm hne)
  unfold update
  rw [dif_pos ⟨t.fits e h, hfree⟩]
  refine congrArg some (Table.ext ?_)
  calc t.rows.map (replace e)
    _ = t.rows.map id := List.map_congr_left fun e' he' => by
      unfold replace
      split
      · rename_i hid
        exact eq_of_id h he' hid.symm
      · rfl
    _ = t.rows := List.map_id _

theorem updates_self {t : Table spec} {es : List Entity} (h : ∀ e ∈ es, e ∈ t.rows) :
    es.foldlM update t = some t := by
  induction es with
  | nil => rfl
  | cons e es ih =>
    rw [List.foldlM_cons, update_self (h e List.mem_cons_self)]
    exact ih fun e' he' => h e' (List.mem_cons_of_mem e he')

theorem mem_of_updates {es : List Entity} : ∀ {t t' : Table spec},
    es.foldlM update t = some t' → (es.map Entity.id).Nodup →
      (∀ e ∈ es, ∃ x ∈ t.rows, x.id = e.id) →
        (∀ e ∈ es, e ∈ t'.rows) ∧ ∀ x ∈ t.rows, x.id ∉ es.map Entity.id → x ∈ t'.rows := by
  induction es with
  | nil =>
    intro t t' h _ _
    obtain rfl := Option.some.inj h
    exact ⟨fun e he => absurd he List.not_mem_nil, fun x hx _ => hx⟩
  | cons e es ih =>
    intro t t' h hnodup hthere
    rw [List.foldlM_cons] at h
    obtain ⟨t₁, h₁, h⟩ := Option.bind_eq_some_iff.mp h
    rw [List.map_cons, List.nodup_cons] at hnodup
    have hrows := update_eq_some h₁
    have hmem : e ∈ t₁.rows := by
      obtain ⟨x, hx, hid⟩ := hthere e List.mem_cons_self
      rw [hrows]
      exact List.mem_map.mpr ⟨x, hx, if_pos hid⟩
    have hthere₁ : ∀ e' ∈ es, ∃ x ∈ t₁.rows, x.id = e'.id := by
      intro e' he'
      obtain ⟨x, hx, hid⟩ := hthere e' (List.mem_cons_of_mem e he')
      rw [hrows]
      exact ⟨replace e x, List.mem_map_of_mem hx, (replace_id e x).trans hid⟩
    obtain ⟨hes, hkept⟩ := ih h hnodup.2 hthere₁
    refine ⟨fun e' he' => ?_, fun x hx hnew => ?_⟩
    · rcases List.mem_cons.mp he' with rfl | he'
      · exact hkept e' hmem hnodup.1
      · exact hes e' he'
    · rw [List.map_cons, List.mem_cons, not_or] at hnew
      refine hkept x ?_ hnew.2
      rw [hrows]
      exact List.mem_map.mpr ⟨x, hx, if_neg hnew.1⟩

def nextId (t : Table spec) : Nat := (t.rows.map Entity.id).foldr max 0 + 1

theorem lt_nextId (t : Table spec) {e : Entity} (h : e ∈ t.rows) : e.id < t.nextId :=
  Nat.lt_succ_of_le (le_foldr_max (List.mem_map_of_mem h))

/-- What an `INSERT` stores: a new id, and the default of a column that is null. -/
def toInsert (t : Table spec) (e : Entity) : Entity :=
  { e with
    id := t.nextId
    text := fun f =>
      match e.text f with
      | some value => some value
      | none => (spec.strFields.find? fun c => c.name = f).bind Column.default }

theorem ordered_insert (t : Table spec) (e : Entity) :
    (t.rows ++ [t.toInsert e]).Pairwise fun a b => a.id < b.id := by
  rw [List.pairwise_append]
  refine ⟨t.ordered, List.pairwise_singleton _ _, fun a ha b hb => ?_⟩
  rw [List.mem_singleton.mp hb]
  exact t.lt_nextId ha

theorem fits_insert (t : Table spec) {e : Entity} (h : spec.accepts (t.toInsert e) = true) :
    ∀ a ∈ t.rows ++ [t.toInsert e], spec.accepts a = true := by
  intro a ha
  rcases List.mem_append.mp ha with hmem | hnew
  · exact t.fits a hmem
  · exact List.mem_singleton.mp hnew ▸ h

theorem unique_insert (t : Table spec) {e : Entity} (h : t.free (t.toInsert e) = true) :
    ∀ a ∈ t.rows ++ [t.toInsert e], ∀ b ∈ t.rows ++ [t.toInsert e], a.id ≠ b.id →
      ¬spec.Clash a b := by
  intro a ha b hb hne
  rcases List.mem_append.mp ha with hma | hna
  · rcases List.mem_append.mp hb with hmb | hnb
    · exact t.unique a hma b hmb hne
    · rw [List.mem_singleton.mp hnb] at hne ⊢
      exact fun hc => free_iff.mp h a hma hne (Clash.symm hc)
  · rw [List.mem_singleton.mp hna] at hne ⊢
    rcases List.mem_append.mp hb with hmb | hnb
    · exact free_iff.mp h b hmb (Ne.symm hne)
    · exact absurd (congrArg Entity.id (List.mem_singleton.mp hnb).symm) hne

/-- `INSERT`. -/
def insert (t : Table spec) (e : Entity) : Option (Table spec) :=
  if h : spec.accepts (t.toInsert e) = true ∧ t.free (t.toInsert e) = true then
    some
      { rows := t.rows ++ [t.toInsert e]
        ordered := ordered_insert t e
        fits := fits_insert t h.1
        unique := unique_insert t h.2 }
  else none

end Table

end Concord.Governance.Datasets
