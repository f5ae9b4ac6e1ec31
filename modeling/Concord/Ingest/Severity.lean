import Concord.Ingest.ScanFile
import Mathlib.Tactic.Linarith
import Mathlib.Tactic.IntervalCases
import Mathlib.Tactic.NormNum

/-!
# One column, two scales

`_sev_from_number` of `ccf/ingest/scanners.py` reads the whole numbers from 0 to 4 as the risk
factors of Nessus, and every other number as a CVSS score. Each scale keeps the order of its
numbers, and a risk factor may be more severe than a score above it, which `severity_ordered` says
exactly.
-/

namespace Concord.Ingest

open Concord.Python Concord.Governance

/-- How severe; what calls for no POA&M is least. -/
def severityRank : Option Severity → Nat
  | none => 0
  | some .low => 1
  | some .moderate => 2
  | some .high => 3
  | some .critical => 4

def RawSeverity.double (lower : Text → Text) : RawSeverity → Option Double
  | .absent | .bool _ => none
  | .int n => some (.nearest n)
  | .float x => some x
  | .text raw => pyFloat (lower (strip raw))

/-- A number that has a severity: a string may spell `nan`, and is then passed over. -/
def RawSeverity.Regular (lower : Text → Text) (raw : RawSeverity) : Prop :=
  ∀ x, raw.double lower = some x → (∃ q, x = .finite q) ∨ x = .nan ∧ ∃ t, raw = .text t

/-! ## The two scales -/

def OnScale (n : Rat) : Prop := n = truncate n ∧ 0 ≤ n ∧ n ≤ 4

instance (n : Rat) : Decidable (OnScale n) := by unfold OnScale; infer_instance

def numberSeverity (n : Rat) : Option Severity :=
  if OnScale n then nessusNum (truncate n) else cvssBand n

theorem onScale_iff {n : Rat} : OnScale n ↔ n = 0 ∨ n = 1 ∨ n = 2 ∨ n = 3 ∨ n = 4 := by
  constructor
  · rintro ⟨hint, hlow, hhigh⟩
    generalize truncate n = k at hint
    subst hint
    have hlow' : 0 ≤ k := by exact_mod_cast hlow
    have hhigh' : k ≤ 4 := by exact_mod_cast hhigh
    interval_cases k <;> simp
  · rintro (rfl | rfl | rfl | rfl | rfl) <;> decide +kernel

theorem rank_onScale {n : Rat} (h : OnScale n) :
    (severityRank (numberSeverity n) : Rat) = n := by
  obtain rfl | rfl | rfl | rfl | rfl := onScale_iff.mp h <;> decide +kernel

theorem le_rank_cvssBand (b : Rat) :
    (1 ≤ severityRank (cvssBand b) ↔ 0 < b) ∧ (2 ≤ severityRank (cvssBand b) ↔ 4 ≤ b) ∧
      (3 ≤ severityRank (cvssBand b) ↔ 7 ≤ b) ∧ (4 ≤ severityRank (cvssBand b) ↔ 9 ≤ b) := by
  unfold cvssBand
  split_ifs with h9 h7 h4 h0
  · refine ⟨iff_of_true (by decide) ?_, iff_of_true (by decide) ?_, iff_of_true (by decide) ?_,
      iff_of_true (by decide) h9⟩ <;> linarith
  · refine ⟨iff_of_true (by decide) ?_, iff_of_true (by decide) ?_, iff_of_true (by decide) h7,
      iff_of_false (by decide) h9⟩ <;> linarith
  · exact ⟨iff_of_true (by decide) (by linarith), iff_of_true (by decide) h4,
      iff_of_false (by decide) h7, iff_of_false (by decide) h9⟩
  · exact ⟨iff_of_true (by decide) h0, iff_of_false (by decide) h4,
      iff_of_false (by decide) h7, iff_of_false (by decide) h9⟩
  · exact ⟨iff_of_false (by decide) h0, iff_of_false (by decide) h4,
      iff_of_false (by decide) h7, iff_of_false (by decide) h9⟩

theorem cvssBand_mono {a b : Rat} (h : a ≤ b) :
    severityRank (cvssBand a) ≤ severityRank (cvssBand b) := by
  unfold cvssBand
  split_ifs <;> first | decide | (exfalso; linarith)

/-- A risk factor that is more severe than a score that is no lower. -/
structure Outranks (a b : Rat) : Prop where
  factor : a = 2 ∧ b < 4 ∨ a = 3 ∧ b < 7 ∨ a = 4 ∧ b < 9
  score : ¬ OnScale b

theorem Outranks.onScale {a b : Rat} (h : Outranks a b) : OnScale a := by
  rw [onScale_iff]
  obtain ⟨rfl, -⟩ | ⟨rfl, -⟩ | ⟨rfl, -⟩ := h.factor <;> norm_num

theorem rank_le_cvssBand_iff {a b : Rat} (ha : OnScale a) (hb : ¬ OnScale b) (h : a ≤ b) :
    severityRank (numberSeverity a) ≤ severityRank (cvssBand b) ↔ ¬ Outranks a b := by
  obtain ⟨h1, h2, h3, h4⟩ := le_rank_cvssBand b
  have hnot : ¬ Outranks a b ↔ ¬(a = 2 ∧ b < 4 ∨ a = 3 ∧ b < 7 ∨ a = 4 ∧ b < 9) :=
    not_congr ⟨fun h => h.factor, fun h => ⟨h, hb⟩⟩
  rw [hnot]
  obtain rfl | rfl | rfl | rfl | rfl := onScale_iff.mp ha
  · refine iff_of_true ?_ (by norm_num)
    rw [show severityRank (numberSeverity 0) = 0 by decide +kernel]
    exact Nat.zero_le _
  · refine iff_of_true ?_ (by norm_num)
    rw [show severityRank (numberSeverity 1) = 1 by decide +kernel, h1]
    exact lt_of_lt_of_le one_pos h
  · rw [show severityRank (numberSeverity 2) = 2 by decide +kernel, h2]
    norm_num
  · rw [show severityRank (numberSeverity 3) = 3 by decide +kernel, h3]
    norm_num
  · rw [show severityRank (numberSeverity 4) = 4 by decide +kernel, h4]
    norm_num

theorem cvssBand_le_rank {a b : Rat} (hb : OnScale b) (h : a < b) :
    severityRank (cvssBand a) ≤ severityRank (numberSeverity b) := by
  obtain ⟨h1, h2, -, -⟩ := le_rank_cvssBand a
  have hb4 : b ≤ 4 := hb.2.2
  have hlow : severityRank (cvssBand a) ≤ 1 := by
    by_contra hhigh
    linarith [h2.mp (Nat.lt_of_not_le hhigh)]
  obtain rfl | hb' := onScale_iff.mp hb
  · have hzero : severityRank (cvssBand a) = 0 := by
      by_contra hne
      linarith [h1.mp (Nat.pos_of_ne_zero hne)]
    rw [hzero]
    exact Nat.zero_le _
  · refine hlow.trans ?_
    obtain rfl | rfl | rfl | rfl := hb' <;> decide +kernel

/-- **Two numbers keep their order**, but for a risk factor and a score that it outranks. -/
theorem rank_le_iff {a b : Rat} (h : a ≤ b) :
    severityRank (numberSeverity a) ≤ severityRank (numberSeverity b) ↔
      ¬ Outranks a b := by
  by_cases ha : OnScale a
  · by_cases hb : OnScale b
    · refine iff_of_true ?_ fun hout => hout.score hb
      have hcast : (severityRank (numberSeverity a) : Rat) ≤ severityRank (numberSeverity b) := by
        rw [rank_onScale ha, rank_onScale hb]
        exact h
      exact_mod_cast hcast
    · rw [← rank_le_cvssBand_iff ha hb h]
      unfold numberSeverity
      rw [if_neg hb]
  · -- a score below a risk factor is in the lowest bands
    refine iff_of_true ?_ fun hout => ha hout.onScale
    by_cases hb : OnScale b
    · have hlt : a < b := lt_of_le_of_ne h fun heq => ha (heq ▸ hb)
      have hle := cvssBand_le_rank hb hlt
      rw [numberSeverity, if_neg ha]
      exact hle
    · rw [numberSeverity, numberSeverity, if_neg ha, if_neg hb]
      exact cvssBand_mono h

/-! ## Normalizing -/

section Normalizing

variable {lower : Text → Text}

theorem pyFloat_word : (∀ w ∈ severityWords, pyFloat w.1 = none) ∧
    pyFloat [] = none ∧
    ∀ w ∈ ["none".toList, "info".toList, "informational".toList], pyFloat w = none := by
  decide +kernel

theorem normalize_text {raw : Text} {x : Double} (h : pyFloat (lower (strip raw)) = some x) :
    normalizeSeverity lower (.text raw) = sevFromString x := by
  obtain ⟨hwords, hempty, hnone⟩ := pyFloat_word
  unfold normalizeSeverity
  dsimp only
  generalize lower (strip raw) = text at h ⊢
  split
  · -- of the words for none `0` alone is a number, and as a number it has no severity either
    rename_i hsilent
    have hzero : text = "0".toList := by
      rcases hsilent with rfl | hmem
      · rw [hempty] at h
        cases h
      · by_contra hne
        have hmem' : text ∈ ["none".toList, "info".toList, "informational".toList] := by
          simp only [List.mem_cons, List.not_mem_nil, or_false] at hmem ⊢
          exact hmem.imp_right fun h => h.imp_right fun h => h.resolve_right hne
        rw [hnone text hmem'] at h
        cases h
    have hx : x = .finite 0 := by
      rw [hzero] at h
      exact Option.some.inj (h.symm.trans (by decide +kernel))
    rw [hx]
    decide +kernel
  · split
    · rename_i sev hlookup
      obtain ⟨l, r, heq, -⟩ := List.lookup_eq_some_iff.mp hlookup
      have hmem : (text, sev) ∈ severityWords := by
        rw [heq]
        exact List.mem_append_right _ List.mem_cons_self
      rw [hwords _ hmem] at h
      cases h
    · rw [h]

theorem sevFromString_finite (q : Rat) : sevFromString (.finite q) = .ok (numberSeverity q) := rfl

theorem normalize_finite {raw : RawSeverity} {q : Rat} (h : raw.double lower = some (.finite q)) :
    normalizeSeverity lower raw = .ok (numberSeverity q) := by
  cases raw with
  | absent => cases h
  | bool value => cases h
  | int n =>
    have hq : Double.ofInt n = some q := by
      unfold Double.ofInt
      rw [Option.some.inj h]
    unfold normalizeSeverity
    dsimp only
    rw [hq]
    rfl
  | float x =>
    rw [Option.some.inj h]
    rfl
  | text raw => exact (normalize_text h).trans (sevFromString_finite q)

theorem normalize_nan {raw : Text} (h : pyFloat (lower (strip raw)) = some .nan) :
    normalizeSeverity lower (.text raw) = .ok none :=
  normalize_text h

theorem normalize_noNumber {raw : RawSeverity} (h : raw.double lower = none) :
    ∃ sev, normalizeSeverity lower raw = .ok sev := by
  cases raw with
  | absent => exact ⟨none, rfl⟩
  | bool value => exact ⟨none, rfl⟩
  | int n => cases h
  | float x => cases h
  | text raw =>
    have hfloat : pyFloat (lower (strip raw)) = none := h
    unfold normalizeSeverity
    dsimp only
    rw [hfloat]
    split
    · exact ⟨none, rfl⟩
    · split
      · exact ⟨_, rfl⟩
      · exact ⟨none, rfl⟩

theorem normalize_regular {raw : RawSeverity} (h : raw.Regular lower) :
    ∃ sev, normalizeSeverity lower raw = .ok sev := by
  cases hx : raw.double lower with
  | none => exact normalize_noNumber hx
  | some x =>
    obtain ⟨q, rfl⟩ | ⟨rfl, t, rfl⟩ := h x hx
    · exact ⟨_, normalize_finite hx⟩
    · exact ⟨none, normalize_nan hx⟩

end Normalizing

/-! ## A file -/

/-- **Severities are total and ordered**: a file without an infinite severity is parsed, what is
no number or `nan` does not raise, and of two numbers of a column the larger one is not less
severe, but for a risk factor of Nessus and a CVSS score that it outranks. -/
theorem severity_ordered (lower : Text → Text) :
    (∀ raw : RawSeverity, raw.Regular lower → ∃ sev, normalizeSeverity lower raw = .ok sev) ∧
    (∀ (s : Sheet) (text : Text) (records : List (List Text)),
      readCsv text = some (s.names :: records) →
      (∀ record ∈ dataRows records, (RawSeverity.text (s.cell record .severity)).Regular s.lower) →
      (parseCsv s.lower s.scanner text).isSome = true) ∧
    ∀ (raw raw' : RawSeverity) (a b : Rat), raw.double lower = some (.finite a) →
      raw'.double lower = some (.finite b) → a ≤ b →
      ∃ sev sev', normalizeSeverity lower raw = .ok sev ∧ normalizeSeverity lower raw' = .ok sev' ∧
        (severityRank sev ≤ severityRank sev' ↔ ¬ Outranks a b) := by
  refine ⟨fun raw h => normalize_regular h, fun s text records hread hregular => ?_,
    fun raw raw' a b ha hb hab =>
      ⟨_, _, normalize_finite ha, normalize_finite hb, rank_le_iff hab⟩⟩
  rw [parseCsv_eq hread, parseRows_isSome]
  intro record hrecord
  obtain ⟨sev, hsev⟩ := normalize_regular (hregular record hrecord)
  unfold Sheet.severity
  rw [hsev]
  rfl

/-- A finding of Nessus and a score: `4` is critical, and `4.5` is moderate. -/
theorem severity_not_monotone :
    ¬∀ (lower : Text → Text) (raw raw' : RawSeverity) (a b : Rat),
      raw.double lower = some (.finite a) → raw'.double lower = some (.finite b) → a ≤ b →
      ∃ sev sev', normalizeSeverity lower raw = .ok sev ∧ normalizeSeverity lower raw' = .ok sev' ∧
        severityRank sev ≤ severityRank sev' := by
  intro h
  obtain ⟨sev, sev', hsev, hsev', hle⟩ := h id (.text "4".toList) (.text "4.5".toList) 4 (9 / 2)
    (by decide +kernel) (by decide +kernel) (by norm_num)
  have hfour : normalizeSeverity id (.text "4".toList) = .ok (some .critical) :=
    (normalize_text (x := .finite 4) (by decide +kernel)).trans (by decide +kernel)
  have hhalf : normalizeSeverity id (.text "4.5".toList) = .ok (some .moderate) :=
    (normalize_text (x := .finite (9 / 2)) (by decide +kernel)).trans (by decide +kernel)
  rw [hfour] at hsev
  rw [hhalf] at hsev'
  cases hsev
  cases hsev'
  exact absurd hle (by decide)

end Concord.Ingest
