import Concord.Python.Text

/-!
# Python's `csv`

`csv.writer` and `csv.reader` in the default dialect: fields are parted by commas, lines end
with CRLF, and a field is quoted if it holds a comma, a quote or a line break. The reader is
the state machine of `_csv.c`, fed by the lines of an `io.StringIO`: a line ends with `\n`,
and its end is a character of its own (`Reader.eol`).

`readCsv_writeCsv`: what is written is read back, whatever the fields hold.
-/

namespace Concord.Python

/-! ## The writer -/

def isSpecial (c : Char) : Bool := c = ',' ∨ c = '"' ∨ c = '\r' ∨ c = '\n'

/-- A field between quotes: its own quotes are doubled. -/
def quoteChar (c : Char) : Text := if c = '"' then ['"', '"'] else [c]

def csvField (field : Text) : Text :=
  if field.any isSpecial then '"' :: (field.flatMap quoteChar ++ ['"']) else field

/-- The fields of a row after the first, and the end of the line. -/
def csvFields : List Text → Text
  | [] => ['\r', '\n']
  | field :: fields => ',' :: (csvField field ++ csvFields fields)

/-- `writer.writerow`. A row of one empty field is quoted, so that it is no empty line. -/
def csvRow : List Text → Text
  | [] => ['\r', '\n']
  | [[]] => ['"', '"', '\r', '\n']
  | field :: fields => csvField field ++ csvFields fields

/-- `writer.writerows`. -/
def writeCsv (rows : List (List Text)) : Text := rows.flatMap csvRow

/-! ## The reader -/

inductive ReaderState
  | startRecord
  | startField
  | inField
  | inQuotedField
  | quoteInQuotedField
  | eatCrnl
  deriving DecidableEq

/-- A `csv.reader` within a record. -/
structure Reader where
  state : ReaderState := .startRecord
  field : Text := []
  fields : List Text := []

/-- `csv.field_size_limit()`. -/
def fieldSizeLimit : Nat := 131072

namespace Reader

/-- `parse_save_field`, and the state that follows. -/
def save (r : Reader) (next : ReaderState) : Reader :=
  { state := next, field := [], fields := r.fields ++ [r.field] }

/-- `parse_add_char`, and the state that follows. -/
def add (r : Reader) (c : Char) (next : ReaderState) : Option Reader :=
  if r.field.length < fieldSizeLimit then
    some { r with state := next, field := r.field ++ [c] }
  else none

def startField (r : Reader) (c : Char) : Option Reader :=
  if c = '\n' ∨ c = '\r' then some (r.save .eatCrnl)
  else if c = '"' then some { r with state := .inQuotedField }
  else if c = ',' then some (r.save .startField)
  else r.add c .inField

/-- `parse_process_char` of a character; `none` is `csv.Error`. -/
def char (r : Reader) (c : Char) : Option Reader :=
  match r.state with
  | .startRecord =>
    if c = '\n' ∨ c = '\r' then some { r with state := .eatCrnl } else r.startField c
  | .startField => r.startField c
  | .inField =>
    if c = '\n' ∨ c = '\r' then some (r.save .eatCrnl)
    else if c = ',' then some (r.save .startField)
    else r.add c .inField
  | .inQuotedField =>
    if c = '"' then some { r with state := .quoteInQuotedField } else r.add c .inQuotedField
  | .quoteInQuotedField =>
    if c = '"' then r.add c .inQuotedField
    else if c = ',' then some (r.save .startField)
    else if c = '\n' ∨ c = '\r' then some (r.save .eatCrnl)
    else r.add c .inField
  | .eatCrnl => if c = '\n' ∨ c = '\r' then some r else none

/-- `parse_process_char` of `EOL`. -/
def eol (r : Reader) : Reader :=
  match r.state with
  | .startRecord | .eatCrnl => { r with state := .startRecord }
  | .inQuotedField => r
  | .startField | .inField | .quoteInQuotedField => r.save .startRecord

/-- The records of a text; `pending` says that a line is open. A record that the text ends in
is returned as it is. -/
def read (r : Reader) (pending : Bool) : Text → Option (List (List Text))
  | [] =>
    let last := if pending then r.eol else r
    if last.state = .inQuotedField then some [(last.save .startRecord).fields]
    else if pending then some [last.fields]
    else some []
  | c :: s => do
    let r ← r.char c
    if c = '\n' then
      if r.eol.state = .startRecord then
        let records ← read {} false s
        return r.eol.fields :: records
      else read r.eol false s
    else read r true s

end Reader

/-- `list(csv.reader(io.StringIO(text)))`. -/
def readCsv (text : Text) : Option (List (List Text)) := Reader.read {} false text

example : readCsv "a,\"b \"\"c\"\"\nd\"\r\n,e".toList =
    some [["a".toList, "b \"c\"\nd".toList], [[], "e".toList]] := by decide +kernel

/-! ## Reading what was written -/

namespace Reader

variable {r : Reader} {p : Bool} {c : Char} {field rest : Text} {fields : List Text}

theorem read_cons {r' : Reader} (hc : c ≠ '\n') (h : r.char c = some r') :
    r.read p (c :: rest) = r'.read true rest := by
  rw [read, h, Option.bind_eq_bind, Option.bind_some, if_neg hc]

theorem add_eq {next : ReaderState} (h : r.field.length < fieldSizeLimit) :
    r.add c next = some { r with state := next, field := r.field ++ [c] } := if_pos h

theorem room_of_cons {acc field : Text} {c : Char}
    (h : acc.length + (c :: field).length ≤ fieldSizeLimit) :
    acc.length < fieldSizeLimit ∧ (acc ++ [c]).length + field.length ≤ fieldSizeLimit := by
  rw [List.length_cons] at h
  rw [List.length_append, List.length_singleton]
  omega

theorem read_quoted (field acc : Text) (p : Bool)
    (h : acc.length + field.length ≤ fieldSizeLimit) :
    (Reader.mk .inQuotedField acc fields).read p (field.flatMap quoteChar ++ '"' :: rest) =
      (Reader.mk .quoteInQuotedField (acc ++ field) fields).read true rest := by
  induction field generalizing acc p with
  | nil =>
    rw [List.flatMap_nil, List.nil_append, List.append_nil]
    exact read_cons (by decide) rfl
  | cons c field ih =>
    obtain ⟨hlt, hnext⟩ := room_of_cons h
    have hadd : acc ++ c :: field = acc ++ [c] ++ field := by simp
    rw [List.flatMap_cons, List.append_assoc, hadd]
    by_cases hq : c = '"'
    · -- a quote is doubled: the second one is the character
      subst hq
      have hfirst : (Reader.mk .inQuotedField acc fields).char '"' =
          some ⟨.quoteInQuotedField, acc, fields⟩ := rfl
      have hsecond : (Reader.mk .quoteInQuotedField acc fields).char '"' =
          some ⟨.inQuotedField, acc ++ ['"'], fields⟩ := add_eq hlt
      rw [quoteChar, if_pos rfl, List.cons_append, List.singleton_append,
        read_cons (by decide) hfirst, read_cons (by decide) hsecond]
      exact ih _ _ hnext
    · have hchar : (Reader.mk .inQuotedField acc fields).char c =
          some ⟨.inQuotedField, acc ++ [c], fields⟩ := by
        rw [char]
        dsimp only
        rw [if_neg hq]
        exact add_eq hlt
      rw [quoteChar, if_neg hq, List.singleton_append]
      by_cases hn : c = '\n'
      · -- the line ends, and the field goes on
        rw [read, hchar, Option.bind_eq_bind, Option.bind_some, if_pos hn]
        exact ih _ _ hnext
      · rw [read_cons hn hchar]
        exact ih _ _ hnext

theorem read_plain (field acc : Text) (hplain : ∀ c ∈ field, isSpecial c = false)
    (h : acc.length + field.length ≤ fieldSizeLimit) :
    (Reader.mk .inField acc fields).read true (field ++ rest) =
      (Reader.mk .inField (acc ++ field) fields).read true rest := by
  induction field generalizing acc with
  | nil => rw [List.nil_append, List.append_nil]
  | cons c field ih =>
    obtain ⟨hlt, hnext⟩ := room_of_cons h
    have hadd : acc ++ c :: field = acc ++ [c] ++ field := by simp
    have hc := hplain c List.mem_cons_self
    simp only [isSpecial, decide_eq_false_iff_not, not_or] at hc
    have hchar : (Reader.mk .inField acc fields).char c =
        some ⟨.inField, acc ++ [c], fields⟩ := by
      rw [char]
      dsimp only
      rw [if_neg (by simp [hc]), if_neg hc.1]
      exact add_eq hlt
    rw [List.cons_append, read_cons hc.2.2.2 hchar, hadd]
    exact ih _ (fun d hd => hplain d (List.mem_cons_of_mem c hd)) hnext

/-- The field that was read is there to be saved. -/
structure Ready (r : Reader) : Prop where
  comma : r.char ',' = some (r.save .startField)
  cr : r.char '\r' = some (r.save .eatCrnl)

theorem read_field {state : ReaderState} (p : Bool) (fields : List Text) (rest : Text)
    (hstate : state = .startRecord ∨ state = .startField)
    (hfield : field.length ≤ fieldSizeLimit) (hne : csvField field ≠ []) :
    ∃ state', Ready ⟨state', field, fields⟩ ∧
      (Reader.mk state [] fields).read p (csvField field ++ rest) =
        (Reader.mk state' field fields).read true rest := by
  unfold csvField at hne ⊢
  by_cases hany : field.any isSpecial = true
  · rw [if_pos hany]
    refine ⟨.quoteInQuotedField, ⟨rfl, rfl⟩, ?_⟩
    have hquote : (Reader.mk state [] fields).char '"' =
        some ⟨.inQuotedField, [], fields⟩ := by rcases hstate with rfl | rfl <;> rfl
    rw [List.cons_append, read_cons (by decide) hquote, List.append_assoc,
      List.singleton_append]
    exact read_quoted field [] true (by simpa using hfield)
  · rw [if_neg hany] at hne ⊢
    refine ⟨.inField, ⟨rfl, rfl⟩, ?_⟩
    have hplain : ∀ c ∈ field, isSpecial c = false := by simpa using hany
    cases field with
    | nil => exact absurd rfl hne
    | cons c field =>
      have hc := hplain c List.mem_cons_self
      simp only [isSpecial, decide_eq_false_iff_not, not_or] at hc
      have hstart : (Reader.mk state [] fields).startField c =
          some ⟨.inField, [c], fields⟩ := by
        rw [startField, if_neg (by simp [hc]), if_neg hc.2.1, if_neg hc.1]
        exact add_eq (Nat.zero_lt_succ _)
      have hchar : (Reader.mk state [] fields).char c = some ⟨.inField, [c], fields⟩ := by
        rcases hstate with rfl | rfl
        · exact (if_neg (by simp [hc])).trans hstart
        · exact hstart
      rw [List.cons_append, read_cons hc.2.2.2 hchar]
      refine read_plain field [c] (fun d hd => hplain d (List.mem_cons_of_mem c hd)) ?_
      rw [List.length_cons] at hfield
      rw [List.length_singleton]
      omega

theorem read_crlf {r' : Reader} (hr : r.char '\r' = some r') (hstate : r'.state = .eatCrnl) :
    r.read p ('\r' :: '\n' :: rest) = (read {} false rest).map (r'.fields :: ·) := by
  have hn : r'.char '\n' = some r' := by rw [char, hstate]; rfl
  have heol : r'.eol = { r' with state := .startRecord } := by rw [eol, hstate]
  rw [read_cons (by decide) hr, read, hn, Option.bind_eq_bind, Option.bind_some, if_pos rfl,
    heol, if_pos rfl]
  cases read {} false rest <;> rfl

theorem eq_nil_of_csvField {f : Text} (h : csvField f = []) : f = [] := by
  cases f with
  | nil => rfl
  | cons c f =>
    unfold csvField at h
    split at h <;> cases h

theorem read_fields (more : List Text) {r : Reader} (hr : Ready r)
    (hmore : ∀ f ∈ more, f.length ≤ fieldSizeLimit) :
    r.read true (csvFields more ++ rest) =
      (read {} false rest).map ((r.fields ++ r.field :: more) :: ·) := by
  induction more generalizing r with
  | nil => exact read_crlf hr.cr rfl
  | cons f more ih =>
    have hmore' : ∀ g ∈ more, g.length ≤ fieldSizeLimit :=
      fun g hg => hmore g (List.mem_cons_of_mem f hg)
    have hassoc : r.fields ++ r.field :: f :: more =
        (r.fields ++ [r.field]) ++ f :: more := by simp
    rw [csvFields, List.cons_append, List.append_assoc, read_cons (by decide) hr.comma, hassoc]
    by_cases hne : csvField f = []
    · -- an empty field: the next comma or line break saves it
      obtain rfl := eq_nil_of_csvField hne
      exact ih (r := ⟨.startField, [], r.fields ++ [r.field]⟩) ⟨rfl, rfl⟩ hmore'
    · obtain ⟨state', hready, hread⟩ := read_field true (r.fields ++ [r.field])
        (csvFields more ++ rest) (.inr rfl) (hmore f List.mem_cons_self) hne
      exact hread.trans (ih hready hmore')

theorem read_row (row : List Text) (hrow : ∀ f ∈ row, f.length ≤ fieldSizeLimit) :
    read {} false (csvRow row ++ rest) = (read {} false rest).map (row :: ·) := by
  unfold csvRow
  split
  · exact read_crlf (r := {}) rfl rfl
  · have hopen : ({} : Reader).char '"' = some ⟨.inQuotedField, [], []⟩ := rfl
    have hclose : (Reader.mk .inQuotedField [] []).char '"' =
        some ⟨.quoteInQuotedField, [], []⟩ := rfl
    have hcr : (Reader.mk .quoteInQuotedField [] []).char '\r' =
        some ⟨.eatCrnl, [], [[]]⟩ := rfl
    exact (read_cons (by decide) hopen).trans
      ((read_cons (by decide) hclose).trans (read_crlf hcr rfl))
  · rename_i f fs hsingle
    rw [List.append_assoc]
    have hfs : ∀ g ∈ fs, g.length ≤ fieldSizeLimit :=
      fun g hg => hrow g (List.mem_cons_of_mem f hg)
    by_cases hne : csvField f = []
    · obtain rfl := eq_nil_of_csvField hne
      cases fs with
      | nil => exact (hsingle rfl rfl).elim
      | cons g fs =>
        -- a record that starts with a comma goes on like a field that does
        have hready : Ready ⟨.startField, [], []⟩ := ⟨rfl, rfl⟩
        have hcomma : ({} : Reader).char ',' = some ⟨.startField, [], [[]]⟩ := rfl
        exact (read_cons (by decide) hcomma).trans
          ((read_cons (by decide) hready.comma).symm.trans (read_fields (g :: fs) hready hfs))
    · obtain ⟨state', hready, hread⟩ := read_field false [] (csvFields fs ++ rest) (.inl rfl)
        (hrow f List.mem_cons_self) hne
      exact hread.trans (read_fields fs hready hfs)

end Reader

/-- **What is written is read back.** -/
theorem readCsv_writeCsv (rows : List (List Text))
    (hrows : ∀ row ∈ rows, ∀ f ∈ row, f.length ≤ fieldSizeLimit) :
    readCsv (writeCsv rows) = some rows := by
  unfold readCsv writeCsv
  induction rows with
  | nil => rfl
  | cons row rows ih =>
    rw [List.flatMap_cons, Reader.read_row row (hrows row List.mem_cons_self),
      ih fun row' hrow' => hrows row' (List.mem_cons_of_mem row hrow')]
    rfl

end Concord.Python
