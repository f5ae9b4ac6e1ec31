import Concord.Ingest.Scanners
import Concord.Python.Csv
import Concord.Python.Dict
import Concord.Python.Floats

/-!
# A CSV scan

`normalize_severity` and `parse_csv` of `ccf/ingest/scanners.py`, on the decoded text of a file. A
row without a cell for the id of its finding is identified by its number.
-/

namespace Concord.Ingest

open Concord.Python Concord.Governance

/-! ## Severities -/

/-- A severity as a scanner reports it; what is no number and no string is read as its `str`. -/
inductive RawSeverity
  | absent
  | bool (value : Bool)
  | int (value : Int)
  | float (value : Double)
  | text (value : Text)

inductive SeverityError
  | valueError
  | overflowError
  deriving DecidableEq

/-- `_SEVERITY_WORDS`. -/
def severityWords : List (Text × Severity) :=
  [("critical".toList, .critical), ("crit".toList, .critical), ("high".toList, .high),
    ("important".toList, .high), ("medium".toList, .moderate), ("moderate".toList, .moderate),
    ("med".toList, .moderate), ("low".toList, .low), ("minor".toList, .low)]

/-- `_NESSUS_NUM`; `info` is no severity. -/
def nessusNum : Int → Option Severity
  | 1 => some .low
  | 2 => some .moderate
  | 3 => some .high
  | 4 => some .critical
  | _ => none

def cvssBand (n : Rat) : Option Severity :=
  if 9 ≤ n then some .critical
  else if 7 ≤ n then some .high
  else if 4 ≤ n then some .moderate
  else if 0 < n then some .low
  else none

/-- `_sev_from_number`. What is not finite has no `int`. -/
def sevFromNumber : Double → Except SeverityError (Option Severity)
  | .nan => .error .valueError
  | .infinite _ => .error .overflowError
  | .finite n =>
    .ok (if n = truncate n ∧ 0 ≤ n ∧ n ≤ 4 then nessusNum (truncate n) else cvssBand n)

/-- `_sev_from_number`, where a `ValueError` is caught. -/
def sevFromString (x : Double) : Except SeverityError (Option Severity) :=
  match sevFromNumber x with
  | .error .valueError => .ok none
  | result => result

/-- `normalize_severity`; `lower` is `str.lower`. -/
def normalizeSeverity (lower : Text → Text) : RawSeverity → Except SeverityError (Option Severity)
  | .absent | .bool _ => .ok none
  | .int n =>
    match Double.ofInt n with
    | none => .error .overflowError
    | some q => sevFromNumber (.finite q)
  | .float x => sevFromNumber x
  | .text raw =>
    let text := lower (strip raw)
    if text = [] ∨ text ∈ ["none".toList, "info".toList, "informational".toList, "0".toList] then
      .ok none
    else
      match severityWords.lookup text with
      | some sev => .ok (some sev)
      | none =>
        match pyFloat text with
        | none => .ok none
        | some x => sevFromString x

/-! ## Rows -/

/-- The normalized fields. -/
inductive Field
  | title | severity | description | asset | nativeId | solution

/-- `_CSV_ALIASES`. -/
def Field.aliases : Field → List String
  | .title => ["title", "name", "plugin_name", "pluginname", "synopsis", "vulnerability"]
  | .severity => ["severity", "risk", "risk_factor", "criticality", "cvss", "cvss3", "cvss_base"]
  | .description => ["description", "details", "synopsis", "threat"]
  | .asset => ["asset", "host", "hostname", "ip", "ip_address", "resource", "dns"]
  | .nativeId => ["plugin_id", "pluginid", "qid", "cve", "finding_id", "id"]
  | .solution => ["solution", "remediation", "fix", "recommendation"]

/-- What `parse_csv` knows when it comes to the rows: `reader.fieldnames`, and the scanner. -/
structure Sheet where
  lower : Text → Text
  scanner : Text
  names : List Text
  named : names ≠ []

variable (s : Sheet)

def Sheet.lowered : Dict Text Text := .ofPairs (s.names.map fun h => (s.lower (strip h), h))

/-- `colmap.get(field_name)`. -/
def Sheet.column (field : Field) : Option Text :=
  field.aliases.findSome? fun name => s.lowered.get? name.toList

/-- A row of `csv.DictReader`. What a row has beyond the header is under no column. -/
def Sheet.dictRow (record : List Text) : Dict Text (Option Text) :=
  .ofPairs (s.names.zip (record.map some) ++
    (s.names.drop record.length).map fun name => (name, none))

/-- `cell(row, field_name)`. -/
def Sheet.cell (record : List Text) (field : Field) : Text :=
  match s.column field with
  | none | some [] => []
  | some col => strip ((((s.dictRow record).get? col).getD none).getD [])

/-- `normalize_severity` of the cell; `none` is what it raises. -/
def Sheet.severity (record : List Text) : Option (Option Severity) :=
  (normalizeSeverity s.lower (.text (s.cell record .severity))).toOption

/-- `native.upper().startswith("CVE-")`: only the letters of `CVE` have these in upper case. -/
def isCve (native : Text) : Bool := (native.map Char.toUpper).take 4 = "CVE-".toList

/-- `cell(row, "native_id") or f"row-{i}"`. -/
def Sheet.native (i : Nat) (record : List Text) : Text :=
  if s.cell record .nativeId = [] then "row-".toList ++ natText i else s.cell record .nativeId

def Sheet.finding (i : Nat) (record : List Text) (severity : Severity) : ScanFinding where
  scanner := s.scanner
  nativeId := s.native i record
  title :=
    if s.cell record .title = [] then "Unnamed finding".toList else s.cell record .title
  severity := severity
  asset := s.cell record .asset
  description := s.cell record .description
  solution := s.cell record .solution
  refs := if isCve (s.native i record) then [s.native i record] else []

/-- The findings of the rows from the one with the number `i` on. -/
def Sheet.parseRows (s : Sheet) : Nat → List (List Text) → Option (List ScanFinding)
  | _, [] => some []
  | i, record :: records => do
    let severity ← s.severity record
    let findings ← s.parseRows (i + 1) records
    some ((severity.map (s.finding i record)).toList ++ findings)

/-- The rows that `csv.DictReader` does not pass over. -/
def dataRows (records : List (List Text)) : List (List Text) := records.filter fun r => !r.isEmpty

/-- `parse_csv`, on the records of the file. -/
def parseRecords (lower : Text → Text) (scanner : Text) :
    List (List Text) → Option (List ScanFinding)
  | [] => some []
  | names :: records =>
    if h : names = [] then some []
    else Sheet.parseRows ⟨lower, scanner, names, h⟩ 0 (dataRows records)

/-- `parse_csv`; `none` is what it raises. -/
def parseCsv (lower : Text → Text) (scanner text : Text) : Option (List ScanFinding) :=
  (readCsv text).bind (parseRecords lower scanner)

example : ((parseCsv (List.map Char.toLower) "csv".toList
      "Risk,Host,Name\nHigh,web,Weak cipher\n\n0.0,web,Banner\nCRIT,db\n".toList).map
        (List.map fun f => (f.nativeId, f.title, f.severity))) =
    some [("row-0".toList, "Weak cipher".toList, .high),
      ("row-2".toList, "Unnamed finding".toList, .critical)] := by
  decide +kernel

variable {s}

/-! ## What is parsed -/

theorem parseRows_cons {i : Nat} {record : List Text} {records : List (List Text)}
    {fs : List ScanFinding} :
    s.parseRows i (record :: records) = some fs ↔
      ∃ sev rest, s.severity record = some sev ∧ s.parseRows (i + 1) records = some rest ∧
        (sev.map (s.finding i record)).toList ++ rest = fs := by
  simp [Sheet.parseRows, Option.bind_eq_some_iff]

theorem mem_parseRows {i : Nat} {records : List (List Text)} {fs : List ScanFinding}
    (h : s.parseRows i records = some fs) {f : ScanFinding} :
    f ∈ fs ↔ ∃ j record sev, records[j]? = some record ∧ s.severity record = some (some sev) ∧
      f = s.finding (i + j) record sev := by
  induction records generalizing i fs with
  | nil =>
    rw [Sheet.parseRows, Option.some.injEq] at h
    subst h
    simp
  | cons record records ih =>
    obtain ⟨sev, rest, hsev, hrest, rfl⟩ := parseRows_cons.mp h
    rw [List.mem_append, ih hrest]
    -- the rows behind the first one are counted from one more
    constructor
    · rintro (hf | ⟨j, record', sev', hj, hsev', rfl⟩)
      · rw [Option.mem_toList, Option.map_eq_some_iff] at hf
        obtain ⟨sev', rfl, rfl⟩ := hf
        exact ⟨0, record, sev', rfl, hsev, rfl⟩
      · exact ⟨j + 1, record', sev', hj, hsev', by rw [Nat.add_right_comm, Nat.add_assoc]⟩
    · rintro ⟨j, record', sev', hj, hsev', rfl⟩
      cases j with
      | zero =>
        obtain rfl : record = record' := Option.some.inj hj
        rw [hsev, Option.some.injEq] at hsev'
        exact Or.inl (by rw [hsev']; exact List.mem_singleton_self _)
      | succ j =>
        exact Or.inr ⟨j, record', sev', hj, hsev', by rw [Nat.add_right_comm, Nat.add_assoc]⟩

theorem parseCsv_eq {text : Text} {records : List (List Text)}
    (h : readCsv text = some (s.names :: records)) :
    parseCsv s.lower s.scanner text = s.parseRows 0 (dataRows records) := by
  unfold parseCsv
  rw [h, Option.bind_some, parseRecords, dif_neg s.named]

theorem parseRows_isSome {i : Nat} {records : List (List Text)} :
    (s.parseRows i records).isSome = true ↔
      ∀ record ∈ records, (s.severity record).isSome = true := by
  induction records generalizing i with
  | nil => simp [Sheet.parseRows]
  | cons record records ih =>
    rw [List.forall_mem_cons, ← ih (i := i + 1), Option.isSome_iff_exists,
      Option.isSome_iff_exists, Option.isSome_iff_exists]
    simp only [parseRows_cons]
    constructor
    · rintro ⟨_, sev, rest, hsev, hrest, -⟩
      exact ⟨⟨sev, hsev⟩, rest, hrest⟩
    · rintro ⟨⟨sev, hsev⟩, rest, hrest⟩
      exact ⟨_, sev, rest, hsev, hrest, rfl⟩

end Concord.Ingest
