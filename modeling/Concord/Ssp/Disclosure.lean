import Concord.Base.Run
import Concord.Ssp.Generate

/-!
# Findings and the statements that stand

An SSP project over time: statements are generated, control tests report, and people edit
parameters, statuses and narratives. A statement that was composed without a finding carries no
marker where its control is inherited with a reference, or not applicable, or where the caller
asked for no marker: the next call takes it for a person's and leaves it, whatever the tests have
found since.

`findings_disclosed` is what remains: in a run whose calls leave in place no machine narrative of
a control with a finding it was not composed with, each call discloses every finding.
-/

namespace Concord.Ssp

open Concord.Base
open Concord.Python
open Concord.Scoring

/-! ## The desk -/

/-- `EntryUpdate`: what a person changes of an entry. -/
structure EntryUpdate where
  responsibleRole : Option Text := none
  status : Option (List Text) := none
  parts : Option (List Part) := none
  odpValues : Option (List (Text × Text)) := none
  deriving DecidableEq

/-- `update_entry`, on its entry. -/
def EntryUpdate.apply (u : EntryUpdate) (e : Entry) : Entry :=
  { e with
    responsibleRole := u.responsibleRole.or e.responsibleRole
    status := u.status.getD e.status
    parts := u.parts.getD e.parts
    odpValues := u.odpValues.getD e.odpValues }

def updateEntry (u : EntryUpdate) (controlId : Text) (e : Entry) : Entry :=
  if e.controlId = controlId then u.apply e else e

theorem updateEntry_controlId (u : EntryUpdate) (controlId : Text) (e : Entry) :
    (updateEntry u controlId e).controlId = e.controlId := by
  unfold updateEntry
  split <;> rfl

theorem nodup_updateEntry (p : Project) (u : EntryUpdate) (controlId : Text) :
    ((p.entries.map (updateEntry u controlId)).map Entry.controlId).Nodup := by
  have hsame : (p.entries.map (updateEntry u controlId)).map Entry.controlId =
      p.entries.map Entry.controlId := by
    rw [List.map_map]
    exact List.map_congr_left fun e _ => updateEntry_controlId u controlId e
  rw [hsame]
  exact p.nodup

/-- `update_entry`, on the project. -/
def Project.updateEntry (p : Project) (u : EntryUpdate) (controlId : Text) : Project :=
  { p with
    entries := p.entries.map (Ssp.updateEntry u controlId)
    nodup := nodup_updateEntry p u controlId }

/-- A project, what a call reads beside it, and for each narrative the machine composed and nobody
has edited since the findings it was composed with. -/
structure Desk where
  project : Project
  surroundings : Surroundings
  composedWith : Text → Option (List Finding)

def Desk.findings (d : Desk) (controlId : Text) : List Finding :=
  d.surroundings.failingByControl d.project controlId

inductive Action
  | generate (o : Options)
  | report (w : Surroundings)
  | update (controlId : Text) (u : EntryUpdate)

/-- `generate_statements`, which writes what it does not preserve. -/
def Desk.generate (d : Desk) (o : Options) : Desk :=
  { d with
    project := (d.surroundings.generateStatements d.project o).2
    composedWith := fun controlId =>
      if d.project.entries.any fun e => e.controlId = controlId && handling o e ≠ .preserved then
        some (d.findings controlId)
      else d.composedWith controlId }

/-- An update. A narrative that is saved as it was has not been edited. -/
def Desk.update (d : Desk) (controlId : Text) (u : EntryUpdate) : Desk :=
  { d with
    project := d.project.updateEntry u controlId
    composedWith := fun c =>
      if d.project.entries.any fun e =>
          c = controlId && e.controlId = c && (u.apply e).parts ≠ e.parts then none
      else d.composedWith c }

def Desk.step (d : Desk) : Action → Option Desk
  | .generate o => some (d.generate o)
  | .report w => some { d with surroundings := w }
  | .update controlId u =>
    if d.project.entries.any fun e => e.controlId = controlId then some (d.update controlId u)
    else none

/-! ## What is disclosed -/

def Entry.Discloses (e : Entry) (findings : List Finding) : Prop :=
  ∀ f ∈ findings, ∃ q ∈ e.parts, f.line <:+: q.text

instance (e : Entry) (findings : List Finding) : Decidable (e.Discloses findings) :=
  inferInstanceAs (Decidable (∀ f ∈ findings, ∃ q ∈ e.parts, f.line <:+: q.text))

/-- No narrative that the machine composed stands against the findings of its control. -/
def Desk.Honest (d : Desk) : Prop :=
  ∀ e ∈ d.project.entries, (d.composedWith e.controlId).isSome →
    d.findings e.controlId ≠ [] →
      e.Discloses (d.findings e.controlId) ∧ implementedStatus ∉ e.status

/-- A narrative names the findings it was composed with. -/
def Desk.Sourced (d : Desk) : Prop :=
  ∀ e ∈ d.project.entries, ∀ fs, d.composedWith e.controlId = some fs → e.Discloses fs

/-- The findings a statement is composed with can be named, and the text of the AI, which takes
the place of what is composed, names them too. -/
def Surroundings.nameable (w : Surroundings) (p : Project) (o : Options) (e : Entry) : Prop :=
  match w.aiText o e with
  | none => ∀ f ∈ w.failingByControl p e.controlId, f.dated = true
  | some ai => ∀ f ∈ w.failingByControl p e.controlId, f.line <:+: ai

/-- A narrative left in place was composed with the findings of now, by their check and day, and
nobody has put its status back. -/
def Desk.current (d : Desk) (e : Entry) : Prop :=
  ∀ fs, d.composedWith e.controlId = some fs →
    (∀ f ∈ d.findings e.controlId, f.line ∈ fs.map Finding.line) ∧ implementedStatus ∉ e.status

/-- The condition on a call: of each control with a finding. -/
def Desk.meets (d : Desk) : Action → Prop
  | .generate o => ∀ e ∈ d.project.entries, d.findings e.controlId ≠ [] →
    if handling o e = .preserved then d.current e
    else d.surroundings.nameable d.project o e
  | _ => True

/-! ## A call -/

theorem drafted_infix_statement (w : Surroundings) (p : Project) (o : Options) (e : Entry) :
    (w.drafted p o e).1 <:+: (w.statement p o e).1 := by
  unfold Surroundings.statement
  dsimp only
  split
  · exact List.infix_rfl
  · -- the caveat stands after the text, the marker before it
    rw [List.append_assoc]
    refine List.IsInfix.trans ?_ (List.prefix_append _ _).isInfix
    split
    · exact (List.suffix_append _ _).isInfix
    · exact List.infix_rfl

theorem statement_discloses {w : Surroundings} {p : Project} {o : Options} {e : Entry}
    (h : w.nameable p o e) {f : Finding} (hf : f ∈ w.failingByControl p e.controlId) :
    f.line <:+: (w.statement p o e).1 := by
  refine List.IsInfix.trans ?_ (drafted_infix_statement w p o e)
  unfold Surroundings.nameable at h
  unfold Surroundings.drafted
  dsimp only
  cases hai : w.aiText o e with
  | none =>
    rw [hai] at h
    exact compose_discloses (w.composition p o e) hf (h f hf)
  | some ai =>
    rw [hai] at h
    show f.line <:+: draftPrefix ++ ai ++ _
    rw [List.append_assoc]
    exact (h f hf).trans ((List.prefix_append ai _).isInfix.trans
      (List.suffix_append draftPrefix _).isInfix)

theorem notMem_statusOf {w : Surroundings} {p : Project} {e : Entry}
    (h : w.failingByControl p e.controlId ≠ []) : implementedStatus ∉ w.statusOf p e := by
  unfold Surroundings.statusOf Surroundings.contradicted
  rw [decide_eq_true h, Bool.true_and]
  split
  case isTrue => decide
  case isFalse hnot => simpa using hnot

theorem mem_entries_generate {d : Desk} {o : Options} {e : Entry}
    (he : e ∈ (d.generate o).project.entries) :
    ∃ b ∈ d.project.entries, d.surroundings.generateEntry d.project o b = e ∧
      b.controlId = e.controlId := by
  obtain ⟨b, hb, rfl⟩ := List.mem_map.mp he
  exact ⟨b, hb, rfl, (generateEntry_controlId _ _ _ b).symm⟩

theorem written_iff {d : Desk} {o : Options} {b : Entry} (hb : b ∈ d.project.entries) :
    (d.project.entries.any fun e =>
      e.controlId = b.controlId && handling o e ≠ .preserved) = true ↔
      handling o b ≠ .preserved := by
  rw [List.any_eq_true]
  constructor
  · rintro ⟨e, he, h⟩
    rw [Bool.and_eq_true, decide_eq_true_iff, decide_eq_true_iff] at h
    rw [← eq_of_controlId he hb h.1]
    exact h.2
  · intro h
    exact ⟨b, hb, by rw [Bool.and_eq_true, decide_eq_true_iff, decide_eq_true_iff]; exact ⟨rfl, h⟩⟩

theorem composedWith_generate {d : Desk} {o : Options} {b : Entry} (hb : b ∈ d.project.entries) :
    (d.generate o).composedWith b.controlId =
      if handling o b = .preserved then d.composedWith b.controlId
      else some (d.findings b.controlId) := by
  show (if _ then _ else _) = _
  by_cases h : handling o b = .preserved
  · rw [if_pos h, if_neg fun hw => (written_iff hb).mp hw h]
  · rw [if_neg h, if_pos ((written_iff hb).mpr h)]

theorem discloses_write {d : Desk} {o : Options} {b : Entry}
    (h : d.surroundings.nameable d.project o b) :
    (d.surroundings.write d.project o b).Discloses (d.findings b.controlId) :=
  fun _ hf => ⟨_, List.mem_singleton_self _, statement_discloses h hf⟩

theorem sourced_generate {d : Desk} {o : Options} (hd : d.Sourced)
    (hmeets : d.meets (.generate o)) : (d.generate o).Sourced := by
  intro e he fs hfs
  obtain ⟨b, hb, rfl, hid⟩ := mem_entries_generate he
  rw [← hid, composedWith_generate hb] at hfs
  unfold Surroundings.generateEntry
  split at hfs
  case isTrue hkept =>
    rw [if_pos hkept]
    exact hd b hb fs hfs
  case isFalse hwritten =>
    rw [if_neg hwritten, ← Option.some.inj hfs]
    by_cases hnone : d.findings b.controlId = []
    · rw [hnone]
      intro f hf
      cases hf
    · have hcond := hmeets b hb hnone
      rw [if_neg hwritten] at hcond
      exact discloses_write hcond

theorem honest_generate {d : Desk} {o : Options} (hd : d.Sourced)
    (hmeets : d.meets (.generate o)) : (d.generate o).Honest := by
  intro e he hsome hfound
  obtain ⟨b, hb, rfl, hid⟩ := mem_entries_generate he
  rw [← hid] at hsome hfound ⊢
  have hfound : d.findings b.controlId ≠ [] := hfound
  show Entry.Discloses _ (d.findings b.controlId) ∧ _
  have hcond := hmeets b hb hfound
  rw [composedWith_generate hb] at hsome
  unfold Surroundings.generateEntry
  split at hcond
  case isTrue hkept =>
    rw [if_pos hkept] at hsome ⊢
    obtain ⟨fs, hfs⟩ := Option.isSome_iff_exists.mp hsome
    obtain ⟨hlines, hstatus⟩ := hcond fs hfs
    refine ⟨fun f hf => ?_, hstatus⟩
    obtain ⟨g, hg, hline⟩ := List.mem_map.mp (hlines f hf)
    rw [← hline]
    exact hd b hb fs hfs g hg
  case isFalse hwritten =>
    rw [if_neg hwritten]
    exact ⟨discloses_write hcond, notMem_statusOf hfound⟩

theorem sourced_update {d : Desk} {controlId : Text} {u : EntryUpdate} (hd : d.Sourced) :
    (d.update controlId u).Sourced := by
  intro e he fs hfs
  obtain ⟨b, hb, rfl⟩ := List.mem_map.mp he
  rw [updateEntry_controlId] at hfs
  have hfs : (if _ then none else d.composedWith b.controlId) = some fs := hfs
  split at hfs
  case isTrue => cases hfs
  case isFalse hsame =>
    have hparts : (updateEntry u controlId b).parts = b.parts := by
      unfold updateEntry
      split
      case isFalse => rfl
      case isTrue hid =>
        by_contra hne
        refine hsame (List.any_eq_true.mpr ⟨b, hb, ?_⟩)
        simp [hid, hne]
    intro f hf
    rw [hparts]
    exact hd b hb fs hfs f hf

theorem sourced_step {d d' : Desk} {a : Action} (hd : d.Sourced) (hmeets : d.meets a)
    (h : d.step a = some d') : d'.Sourced := by
  cases a with
  | generate o =>
    rw [Desk.step, Option.some.injEq] at h
    exact h ▸ sourced_generate hd hmeets
  | report w =>
    rw [Desk.step, Option.some.injEq] at h
    exact h ▸ hd
  | update controlId u =>
    rw [Desk.step] at h
    split at h
    · exact Option.some.inj h ▸ sourced_update hd
    · cases h

/-- **No generated statement outlives a finding.** In a run whose calls meet the condition, each
call leaves every narrative that the machine composed, and nobody has edited since, naming the
findings of its control, and without the status `Implemented` where there are any. -/
theorem findings_disclosed {d : Desk} {as : List Action} (hd : d.Sourced)
    (hmeets : Guarded Desk.step Desk.meets d as) {bs : List Action} {o : Options} {t : Desk}
    (hbs : bs ++ [.generate o] <+: as) (hrun : exec Desk.step d (bs ++ [.generate o]) = some t) :
    t.Honest := by
  obtain ⟨cs, rfl⟩ := hbs
  have hguard := hmeets.take
  obtain ⟨u, hu, hlast⟩ := exec_append_eq_some.mp hrun
  have hsourced : u.Sourced :=
    guarded_invariant (fun _ _ _ h hG hs => sourced_step h hG hs) hd hguard.take hu
  obtain ⟨t', ht', hnil⟩ := exec_cons_eq_some.mp hlast
  rw [exec_nil, Option.some.injEq] at hnil
  rw [Desk.step, Option.some.injEq] at ht'
  rw [← hnil, ← ht']
  exact honest_generate hsourced (hguard.drop hu).1

/-! ## A finding after the statement -/

def leveraged : Surroundings :=
  { unexamined with
    derivation := fun _ => some ⟨some .inherited, some "vendor:Acme".toList⟩
    vendorsByName := fun _ => some ⟨some "FedRAMP High Authorized".toList, none⟩ }

def leveragedFailing : Surroundings :=
  { leveraged with
    systems := [⟨1, some 1, false⟩]
    tests := [{
      id := 4
      systemId := some 1
      controlId := "AC-2".toList
      controlIds := []
      checkKey := none
      name := "Stale accounts".toList
      lastStatus := some .fail
      lastTestedAt := (Date.mk? 2026 3 2).toOption }] }

def accessProject : Project where
  systemId := some 1
  organizationId := some 1
  entries := [{
    controlId := "AC-2".toList
    nistId := some "AC-2".toList
    domain := some "AC".toList
    requirement := some "Manage system accounts.".toList
    responsibleRole := none
    status := [implementedStatus]
    parts := []
    odpValues := [] }]
  nodup := List.nodup_singleton _

def accessDesk : Desk := ⟨accessProject, leveraged, fun _ => none⟩

/-- The statement composed before the test failed stands, and so does its status. -/
theorem accessDesk_not_honest :
    ∃ t, exec Desk.step accessDesk [.generate {}, .report leveragedFailing, .generate {}] = some t ∧
      accessDesk.Sourced ∧ ¬t.Honest := by
  refine ⟨_, rfl, ?_, fun h => ?_⟩
  · intro e _ fs hfs
    cases hfs
  · have hentry := h _ List.mem_cons_self (by decide +kernel) (by decide +kernel)
    exact absurd hentry.1 (by decide +kernel)

/-- A statement composed after the failure discloses it. -/
theorem accessDesk_discloses :
    ∃ t, exec Desk.step accessDesk [.report leveragedFailing, .generate {}] = some t ∧
      t.Honest := by
  have hsourced : accessDesk.Sourced := by
    intro e _ fs hfs
    cases hfs
  have hprefix : [Action.report leveragedFailing] ++ [.generate {}] <+:
      [.report leveragedFailing, .generate {}] := List.prefix_rfl
  refine ⟨_, rfl, findings_disclosed hsourced ?_ hprefix rfl⟩
  refine Guarded.cons rfl trivial (Guarded.cons rfl ?_ trivial)
  intro e he _
  rw [List.mem_singleton.mp he, if_neg (by decide +kernel)]
  show ∀ f ∈ leveragedFailing.failingByControl accessProject "AC-2".toList, f.dated = true
  decide +kernel

end Concord.Ssp
