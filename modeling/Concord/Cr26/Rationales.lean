import Concord.Cr26.Filed

/-!
# No rationale is lost by seeding again

A seed that reads the stored entries writes what it finds into the blank columns before it
replaces the document, so that the rationale of a row survives wherever the walk puts the row,
short of the half that is not accepted. `Carried` says that a row has its rationale, in the
column or in the entry the next seed reads, and `carried_of_run` that a run keeps it.
-/

namespace Concord.Cr26

open Concord.Python Concord.Base

/-- The seeds, and an edit of the POA&Ms, which may leave any rows. -/
inductive SeedAction
  | vdr (period : Period) (today : Date)
  | avi (period : Period) (today : Date)
  | verHistory (now : Instant) (today : Date)
  | edit (table : PoamTable)

def SeedAction.apply (s : Filings) : SeedAction → Filings
  | .vdr period today => (seedVdr s period today).1
  | .avi period today => (seedAvi s period today).1
  | .verHistory now today => (seedVerHistory s now today).1
  | .edit table => { s with table := table }

def SeedAction.step (s : Filings) (a : SeedAction) : Option Filings := some (a.apply s)

/-- The period and the day of a seed that reads the stored entries. -/
def SeedAction.reads : SeedAction → Option (Option Period × Date)
  | .avi period today => some (some period, today)
  | .verHistory _ today => some (none, today)
  | _ => none

theorem exec_step (s : Filings) (as : List SeedAction) :
    exec SeedAction.step s as = some (as.foldl SeedAction.apply s) := by
  induction as generalizing s with
  | nil => rfl
  | cons a as ih => exact ih (a.apply s)

/-- What a row's rationale is, in its column or in the stored entry. -/
def carriedText (s : Filings) (p : Poam) : Option Text :=
  (written p.acceptanceRationale).or ((lastAuthored s.authored p.key).bind entryRationale)

theorem rowRationale_fst (s : Filings) (p : Poam) :
    (rowRationale s.authored p).map Prod.fst = carriedText s p := by
  rw [rowRationale, resolveRationale_eq, carriedText]
  cases lastAuthored s.authored p.key <;> rfl

/-! ## One seed -/

theorem vdr_table (s : Filings) (period : Period) (today : Date) :
    ((SeedAction.vdr period today).apply s).table.rows = s.table.rows :=
  List.map_id s.table.rows

theorem vdr_avi (s : Filings) (period : Period) (today : Date) :
    ((SeedAction.vdr period today).apply s).documents .avi = s.documents .avi := rfl

theorem reads_table {s : Filings} {a : SeedAction} {period : Option Period} {today : Date}
    (h : a.reads = some (period, today)) :
    (a.apply s).table.rows = s.table.rows.map (promotedRow (s.merged today period).promoted) := by
  cases a with
  | vdr period today => cases h
  | avi p t =>
    cases h
    rfl
  | verHistory now t =>
    cases h
    rfl
  | edit table => cases h

/-- **A seed saves the rationales it reads**: a row that it does not put into the other half
has its rationale in the column. -/
theorem reads_column {s : Filings} {a : SeedAction} {period : Option Period} {today : Date}
    (h : a.reads = some (period, today)) {p : Poam} (hp : p ∈ s.table.rows)
    (hactive : ∀ detail, place p today {} period ≠ .rendered false detail) :
    ∃ q ∈ (a.apply s).table.rows, q.id = p.id ∧
      written q.acceptanceRationale = carriedText s p := by
  refine ⟨promotedRow (s.merged today period).promoted p, ?_, promotedRow_id _ p, ?_⟩
  · rw [reads_table h]
    exact List.mem_map_of_mem hp
  · rw [merged_column hp hactive, rowRationale_fst]

/-! ## Runs -/

def Rationalized (s : Filings) : Prop := ∀ e ∈ s.authored, entryRationale e ≠ none

theorem rationalized_avi (s : Filings) (period : Period) (today : Date) :
    Rationalized ((SeedAction.avi period today).apply s) := by
  have hauthored : ((SeedAction.avi period today).apply s).authored =
      (s.merged today (some period)).entries.map Prod.snd := acceptedOf_seedAvi s period today
  intro e he
  rw [hauthored] at he
  obtain ⟨x, hx, rfl⟩ := List.mem_map.mp he
  obtain ⟨p, -, -, hentry⟩ := mem_entries.mp hx
  obtain ⟨found, -, hrationale⟩ := entryRationale_rowEntry hentry
  exact Option.ne_none_iff_exists'.mpr ⟨found.1, hrationale⟩

theorem authored_apply (s : Filings) (a : SeedAction) :
    (a.apply s).authored = s.authored ∨ ∃ period today, a = .avi period today := by
  cases a with
  | vdr period today => exact .inl rfl
  | avi period today => exact .inr ⟨period, today, rfl⟩
  | verHistory now today => exact .inl rfl
  | edit table => exact .inl rfl

theorem rationalized_step (s : Filings) (a : SeedAction) (s' : Filings) (h : Rationalized s)
    (hs : a.step s = some s') : Rationalized s' := by
  obtain rfl := Option.some.inj hs
  obtain heq | ⟨period, today, rfl⟩ := authored_apply s a
  · unfold Rationalized
    rwa [heq]
  · exact rationalized_avi s period today

def Carried (key text : Text) (s : Filings) : Prop :=
  ∃ p ∈ s.table.rows, p.key = key ∧ carriedText s p = some text

/-- What a run must not do to a row: an edit keeps it and its column, and a seed of the AVI does
not find it in the half that is not accepted. -/
def Stays (key : Text) (s : Filings) : SeedAction → Prop
  | .edit table => ∀ p ∈ s.table.rows, p.key = key →
      ∃ q ∈ table.rows, q.key = key ∧ q.acceptanceRationale = p.acceptanceRationale
  | .avi period today => ∀ p ∈ s.table.rows, p.key = key →
      ∀ detail, place p today {} (some period) ≠ .rendered false detail
  | _ => True

theorem carriedText_of_column {s : Filings} {p : Poam} {text : Text}
    (h : written p.acceptanceRationale = some text) : carriedText s p = some text := by
  rw [carriedText, h, Option.some_or]

theorem carried_step (key text : Text) (s : Filings) (a : SeedAction) (s' : Filings)
    (h : Carried key text s) (hstays : Stays key s a) (hs : a.step s = some s') :
    Carried key text s' := by
  obtain rfl := Option.some.inj hs
  obtain ⟨p, hp, hkey, htext⟩ := h
  cases a with
  | vdr period today =>
    refine ⟨p, ?_, hkey, htext⟩
    rwa [vdr_table]
  | avi period today =>
    obtain ⟨q, hq, hid, hcolumn⟩ := reads_column (a := .avi period today) rfl hp (hstays p hp hkey)
    exact ⟨q, hq, (congrArg natText hid).trans hkey, carriedText_of_column (hcolumn.trans htext)⟩
  | verHistory now today =>
    by_cases hactive : ∃ detail, place p today {} none = .rendered false detail
    · -- the other half: neither the column nor the AVI is touched
      obtain ⟨detail, hplace⟩ := hactive
      refine ⟨promotedRow (s.merged today none).promoted p, List.mem_map_of_mem hp,
        (promotedRow_key _ p).trans hkey, ?_⟩
      rw [carriedText, promotedRow_key, merged_column_active hp hplace]
      exact htext
    · obtain ⟨q, hq, hid, hcolumn⟩ := reads_column (a := .verHistory now today) rfl hp
        fun detail hplace => hactive ⟨detail, hplace⟩
      exact ⟨q, hq, (congrArg natText hid).trans hkey,
        carriedText_of_column (hcolumn.trans htext)⟩
  | edit table =>
    obtain ⟨q, hq, hqkey, hcolumn⟩ := hstays p hp hkey
    refine ⟨q, hq, hqkey, ?_⟩
    rw [carriedText, hcolumn, hqkey, ← hkey]
    exact htext

/-- **A run keeps the rationale of a row** that stays. -/
theorem carried_of_run {key text : Text} {s : Filings} {as : List SeedAction}
    (h : Carried key text s) (hstays : Guarded SeedAction.step (Stays key) s as) :
    Carried key text (as.foldl SeedAction.apply s) :=
  guarded_invariant (carried_step key text) h hstays (exec_step s as)

/-- **No rationale is lost by seeding again**, after any run: a seed that reads the entries
leaves the rationale of the last entry of a row in the row's column, unless it finds the row in
the other half; a seed of the VDR changes neither the columns nor the AVI; every AVI that is
seeded says why of each row it carries, for good; and a row keeps its rationale as long as it
stays. -/
theorem rationale_not_lost (s₀ : Filings) (before after : List SeedAction) :
    let s := before.foldl SeedAction.apply s₀
    (∀ (a : SeedAction) (period : Option Period) (today : Date), a.reads = some (period, today) →
      ∀ p ∈ s.table.rows, (∀ detail, place p today {} period ≠ .rendered false detail) →
      ∀ entry text, lastAuthored s.authored p.key = some entry → entryRationale entry = some text →
      ∃ q ∈ (a.apply s).table.rows, q.id = p.id ∧
        written q.acceptanceRationale = (written p.acceptanceRationale).or (some text)) ∧
    (∀ (period : Period) (today : Date),
      ((SeedAction.vdr period today).apply s).table.rows = s.table.rows ∧
      ((SeedAction.vdr period today).apply s).documents .avi = s.documents .avi) ∧
    (∀ (period : Period) (today : Date),
      Rationalized (after.foldl SeedAction.apply ((SeedAction.avi period today).apply s))) ∧
    ∀ key text : Text, Carried key text s → Guarded SeedAction.step (Stays key) s after →
      Carried key text (after.foldl SeedAction.apply s) := by
  intro s
  refine ⟨?_, fun period today => ⟨vdr_table s period today, vdr_avi s period today⟩, ?_, ?_⟩
  · intro a period today hreads p hp hactive entry text hlast htext
    obtain ⟨q, hq, hid, hcolumn⟩ := reads_column hreads hp hactive
    refine ⟨q, hq, hid, ?_⟩
    rw [hcolumn, carriedText, hlast, Option.bind_some, htext]
  · intro period today
    exact exec_invariant rationalized_step (rationalized_avi s period today)
      (exec_step ((SeedAction.avi period today).apply s) after)
  · exact fun key text h hstays => carried_of_run h hstays

def twiceEntered : Filings where
  table :=
    { rows := [{ blankedRow with title := "Outdated TLS".toList, status := .riskAccepted }]
      distinct := blanked_distinct
      bounded := fun p hp => by
        rw [List.mem_singleton.mp hp]
        decide }
  documents := fun kind => if kind = .avi then
      some (Json.ofItems [("acceptedVulnerabilities".toList, .arr
        [staleEntry, staleEntry.set "acceptanceRationale".toList (.str [])])])
    else none

/-- The first of the two is lost. -/
theorem first_entry_lost :
    (∃ e ∈ twiceEntered.authored, trackingId e = some ['7'] ∧
      entryRationale e = some "compensating control".toList) ∧
    twiceEntered.table.rows.map (fun p =>
      (p.key, acceptedWeaknessState p january.finish.date)) = [(['7'], .accepted)] ∧
    ((SeedAction.avi january january.finish.date).apply twiceEntered).table.rows.map (fun q =>
      (q.key, written q.acceptanceRationale)) = [(['7'], none)] := by
  refine ⟨⟨staleEntry, List.mem_cons_self, ?_, ?_⟩, ?_, ?_⟩
  · decide +kernel
  · decide +kernel
  · decide +kernel
  · decide +kernel

end Concord.Cr26
