import SmarTune.Benchmark.RunRequests
import SmarTune.Library.PosixPath

/-!
# The join of summaries and medians

A row of `summary.tsv` names a case by its log file.  Its metrics, its derived
values and its dimensions are looked up in the medians file of the run
directory or, when there is none, of the backend: under the case directory and
then under the bare name of the case.  A file is indexed by the directories of
its rows, and by their names where one row has the name; rows without metrics,
or without derived values, are left out of their index before that.

A value that is looked up is kept with the row that it was read from.
-/

namespace SmarTune

/-! ## Rows -/

/-- A row of a file with named columns; a cell that the row is too short for
is `none`. -/
abbrev CsvRow := List (List Char × Option (List Char))

/-- `row.get(column) or ""`. -/
def CsvRow.cell (row : CsvRow) (column : List Char) : List Char :=
  ((row.lookup column).getD none).getD []

/-- The cell without the blanks around it. -/
def CsvRow.text (row : CsvRow) (column : List Char) : List Char :=
  stripText (row.cell column)

/-- `_MEDIANS_DIMENSION_COLUMNS` without the two that name the case. -/
def dimensionColumns : List (List Char) :=
  ["model_name".toList, "model_source".toList, "platform".toList,
    "device".toList, "batch_size".toList, "precision".toList, "mode".toList]

/-- `_MEDIANS_DIMENSION_COLUMNS`. -/
def mediansDimensionColumns : List (List Char) :=
  "case_name".toList :: "case_dir".toList :: dimensionColumns

/-- A row of a medians file, as the aggregator writes it for a case
directory. -/
structure MediansRow where
  cells : CsvRow
  dir : PosixPath
  absolute : dir.root ≠ .relative
  inside : dir.parts ≠ []
  caseDir : cells.text "case_dir".toList = dir.toText
  caseName : cells.text "case_name".toList = dir.name
  deriving DecidableEq

/-- A file that may be missing. -/
inductive Artifact (α : Type*)
  | absent
  | unreadable
  | readable (content : α)

/-- `_artifact`: the file of the run directory, or that of the backend. -/
def Artifact.orElse {α : Type*} : Artifact α → Artifact α → Artifact α
  | .absent, backend => backend
  | run, _ => run

/-- `_medians_rows`. -/
def mediansRows (run backend : Artifact (List MediansRow)) : List MediansRow :=
  match run.orElse backend with
  | .readable rows => rows
  | _ => []

/-! ## Indexes -/

/-- A value with the row that it was read from. -/
structure Reading (ν : Type*) where
  row : MediansRow
  value : ν
  deriving DecidableEq

/-- `dict.setdefault`. -/
def setDefault {κ ν : Type*} [BEq κ] (dict : List (κ × ν)) (key : κ)
    (value : ν) : List (κ × ν) :=
  if (dict.lookup key).isSome then dict else dict ++ [(key, value)]

/-- What `_index_by_case` has gathered. -/
structure CaseIndex (ν : Type*) where
  byCase : List (List Char × Reading ν)
  byName : List (List Char × Reading ν)
  ambiguous : List (List Char)

section Index

variable {ν : Type*}

/-- One row. -/
def CaseIndex.add (index : CaseIndex ν) (reading : Reading ν) : CaseIndex ν :=
  let caseDir := reading.row.cells.text "case_dir".toList
  let name := reading.row.cells.text "case_name".toList
  { byCase :=
      if caseDir ≠ [] then setDefault index.byCase caseDir reading
      else index.byCase
    byName :=
      if name ≠ [] then setDefault index.byName name reading else index.byName
    ambiguous :=
      if name ≠ [] ∧ (index.byName.lookup name).isSome then
        name :: index.ambiguous
      else index.ambiguous }

/-- `_index_by_case`. -/
def indexByCase (readings : List (Reading ν)) : List (List Char × Reading ν) :=
  let index := readings.foldl CaseIndex.add ⟨[], [], []⟩
  index.byName.foldl (fun byCase entry =>
      if entry.1 ∉ index.ambiguous then setDefault byCase entry.1 entry.2
      else byCase)
    index.byCase

end Index

/-! ## Readers -/

section Read

variable {V : Type*} (float : List Char → Option V)

/-- The measurements of a row. -/
def metricsOf (row : CsvRow) : List (List Char × V) :=
  row.filterMap fun (column, cell) =>
    if column = [] ∨ column ∈ mediansDimensionColumns then none
    else (cell.bind float).map (column, ·)

/-- The rows that give values, with these. -/
def readingsOf {α : Type*} (valuesOf : CsvRow → List α)
    (rows : List MediansRow) : List (Reading (List α)) :=
  rows.filterMap fun row =>
    if (valuesOf row.cells).isEmpty then none
    else some ⟨row, valuesOf row.cells⟩

/-- The rows of `_read_medians`. -/
def measured (rows : List MediansRow) : List (Reading (List (List Char × V))) :=
  readingsOf (metricsOf float) rows

/-- A row of the pivot report: the texts of its dimensions and its derived
values. -/
structure PivotRow (V : Type*) where
  dims : List (List Char)
  derived : List (List Char × V)

/-- The pivot report. -/
structure PivotReport (V : Type*) where
  dims : List (List Char)
  rows : List (PivotRow V)

/-- `_pivot_payload`, empty when it cannot be read. -/
def pivotReport (run backend : Artifact (PivotReport V)) : PivotReport V :=
  match run.orElse backend with
  | .readable report => report
  | _ => ⟨[], []⟩

/-- The derived values of a medians row: those of the last row of the report
with its dimensions. -/
def PivotReport.derivedOf (report : PivotReport V) (row : CsvRow) :
    List (List Char × V) :=
  ((report.rows.reverse.find? fun pivot =>
    !pivot.derived.isEmpty && pivot.dims = report.dims.map row.text).map
      PivotRow.derived).getD []

/-- The rows of `_read_derived`. -/
def derivedReadings (report : PivotReport V)
    (rows : List MediansRow) : List (Reading (List (List Char × V))) :=
  if report.dims = [] then [] else readingsOf report.derivedOf rows

/-- The rows of `_read_dimensions`. -/
def dimensionReadings (rows : List MediansRow) :
    List (Reading (List (List Char × List Char))) :=
  rows.map fun row =>
    ⟨row, dimensionColumns.filterMap fun column =>
      if row.cells.cell column = [] then none
      else some (column, row.cells.text column)⟩

/-! ## The join -/

/-- The case directory of a summary row. -/
def caseDirOf (logFile : List Char) : Option PosixPath :=
  if stripText logFile = [] then none
  else some (PosixPath.ofText (stripText logFile)).parent

/-- `_case_keys`. -/
def caseKeys (logFile : List Char) : List (List Char) :=
  match caseDirOf logFile with
  | none => []
  | some caseDir => [caseDir.toText, caseDir.name]

def firstKey {ν : Type*} (index : List (List Char × ν))
    (keys : List (List Char)) : Option (List Char × ν) :=
  keys.findSome? fun key => (index.lookup key).map (key, ·)

/-- What `collect` attaches to a summary row. -/
structure Attached (V : Type*) where
  metrics : Option (Reading (List (List Char × V)))
  derived : Option (Reading (List (List Char × V)))
  dimensions : Option (Reading (List (List Char × List Char)))

/-- `row["metrics"]`: measured and derived values in one. -/
def Attached.shown (attached : Attached V) : List (List Char × V) :=
  let metrics := (attached.metrics.map Reading.value).getD []
  let derived := (attached.derived.map Reading.value).getD []
  metrics.map (fun entry =>
      (entry.1, (derived.lookup entry.1).getD entry.2)) ++
    derived.filter fun entry => (metrics.lookup entry.1).isNone

/-- The body of `collect` for a summary row. -/
def attach (rows : List MediansRow) (report : PivotReport V)
    (logFile : List Char) : Attached V :=
  let found := firstKey (indexByCase (measured float rows)) (caseKeys logFile)
  { metrics := found.map Prod.snd
    derived := found.bind fun entry =>
      (indexByCase (derivedReadings report rows)).lookup entry.1
    dimensions :=
      (firstKey (indexByCase (dimensionReadings rows)) (caseKeys logFile)).map
        Prod.snd }

end Read

/-! ## What an index finds -/

section Lookup

variable {κ ν : Type*} [BEq κ] [LawfulBEq κ]

theorem lookup_setDefault (dict : List (κ × ν)) (key other : κ) (value : ν) :
    (setDefault dict key value).lookup other =
      (dict.lookup other).or (if other == key then some value else none) := by
  unfold setDefault
  by_cases same : other == key
  · obtain rfl := eq_of_beq same
    cases found : dict.lookup other with
    | none => simp [found, List.lookup_append]
    | some present => simp [found]
  · cases found : dict.lookup key with
    | none => simp [List.lookup_append, List.lookup_cons, same]
    | some present => simp [same]

/-- Entries that are put in where they are not there yet. -/
theorem lookup_foldl_setDefault (keep : κ → Prop) [DecidablePred keep] (key : κ)
    (entries dict : List (κ × ν)) :
    (entries.foldl (fun dict entry =>
        if keep entry.1 then setDefault dict entry.1 entry.2 else dict)
      dict).lookup key =
      (dict.lookup key).or (if keep key then entries.lookup key else none) := by
  induction entries generalizing dict with
  | nil => simp
  | cons entry entries ih =>
    rw [List.foldl_cons, ih, List.lookup_cons]
    by_cases same : key == entry.1
    · obtain rfl := eq_of_beq same
      by_cases kept : keep entry.1 <;> simp [kept, lookup_setDefault]
    · split
      · simp [lookup_setDefault, same]
      · simp [same]

end Lookup

/-- The only item of a list. -/
def sole {α : Type*} : List α → Option α
  | [item] => some item
  | _ => none

theorem sole_eq_some_iff {α : Type*} {items : List α} {item : α} :
    sole items = some item ↔ items = [item] := by
  match items with
  | [] => simp [sole]
  | [only] => simp [sole]
  | first :: second :: rest => simp [sole]

theorem sole_eq_head? {α : Type*} {items : List α} (few : items.length ≤ 1) :
    sole items = items.head? := by
  match items with
  | [] => rfl
  | [only] => rfl
  | first :: second :: rest => simp at few

theorem sole_eq_none {α : Type*} {items : List α} (several : 2 ≤ items.length) :
    sole items = none := by
  match items with
  | [] => rfl
  | [only] => simp at several
  | first :: second :: rest => rfl

namespace MediansRow

variable (row : MediansRow)

theorem name_ne_nil : row.dir.name ≠ [] := by
  obtain ⟨part, last⟩ := Option.ne_none_iff_exists'.mp
    (fun none => row.inside (List.getLast?_eq_none_iff.mp none))
  rw [PosixPath.name, last]
  exact (row.dir.valid part (List.mem_of_getLast? last)).1

theorem isPathPart_name : IsPathPart row.dir.name :=
  row.dir.name_eq_nil_or.resolve_left row.name_ne_nil

theorem slash_mem_dir : '/' ∈ row.dir.toText :=
  PosixPath.slash_mem_toText_of_ne_relative row.absolute

end MediansRow

section Index

variable {ν : Type*}

def named (name : List Char) (readings : List (Reading ν)) :
    List (Reading ν) :=
  readings.filter fun reading => reading.row.dir.name = name

/-- What an index has gathered from readings: the first ones for each directory
and for each name, and the names that there are several of. -/
structure CaseIndex.Of (readings : List (Reading ν))
    (index : CaseIndex ν) : Prop where
  byCase : ∀ key, index.byCase.lookup key =
    readings.find? fun reading => reading.row.dir.toText = key
  byName : ∀ key, index.byName.lookup key =
    readings.find? fun reading => reading.row.dir.name = key
  ambiguous : ∀ key, key ∈ index.ambiguous ↔ 2 ≤ (named key readings).length

theorem CaseIndex.add_eq (index : CaseIndex ν) (reading : Reading ν) :
    index.add reading =
      { byCase := setDefault index.byCase reading.row.dir.toText reading
        byName := setDefault index.byName reading.row.dir.name reading
        ambiguous :=
          if (index.byName.lookup reading.row.dir.name).isSome then
            reading.row.dir.name :: index.ambiguous
          else index.ambiguous } := by
  have dir : reading.row.dir.toText ≠ [] :=
    List.ne_nil_of_mem reading.row.slash_mem_dir
  have name := reading.row.name_ne_nil
  simp only [CaseIndex.add, reading.row.caseDir, reading.row.caseName, dir,
    name, ne_eq, not_false_eq_true, if_true, true_and]

/-- A first item is found, or the new one. -/
theorem find?_append_singleton {key : List Char} (keyOf : Reading ν → List Char)
    (readings : List (Reading ν)) (reading : Reading ν) :
    (readings ++ [reading]).find? (fun other => keyOf other = key) =
      (readings.find? fun other => keyOf other = key).or
        (if key == keyOf reading then some reading else none) := by
  rw [List.find?_append, List.find?_singleton]
  by_cases same : key = keyOf reading
  · simp [same]
  · simp [same, Ne.symm same]

theorem isSome_find?_name (readings : List (Reading ν)) (key : List Char) :
    (readings.find? fun other => other.row.dir.name = key).isSome ↔
      1 ≤ (named key readings).length := by
  rw [List.find?_isSome, Nat.one_le_iff_ne_zero, Ne, List.length_eq_zero_iff,
    named, List.filter_eq_nil_iff]
  push Not
  rfl

theorem CaseIndex.Of.add {readings : List (Reading ν)} {index : CaseIndex ν}
    (holds : index.Of readings) (reading : Reading ν) :
    (index.add reading).Of (readings ++ [reading]) := by
  rw [CaseIndex.add_eq]
  constructor
  · intro key
    rw [lookup_setDefault, holds.byCase,
      find?_append_singleton fun other => other.row.dir.toText]
  · intro key
    rw [lookup_setDefault, holds.byName,
      find?_append_singleton fun other => other.row.dir.name]
  · intro key
    have known := isSome_find?_name readings reading.row.dir.name
    rw [← holds.byName] at known
    have more := holds.ambiguous key
    dsimp only
    rw [named, List.filter_append, List.length_append, ← named]
    by_cases same : reading.row.dir.name = key
    · subst same
      have one : ([reading].filter fun other =>
          other.row.dir.name = reading.row.dir.name).length = 1 := by
        simp
      rw [one]
      split
      · next met =>
          exact iff_of_true List.mem_cons_self (Nat.succ_le_succ (known.mp met))
      · next fresh =>
          rw [known, not_le, Nat.lt_one_iff] at fresh
          rw [more, fresh]
          decide
    · have different : ¬ key = reading.row.dir.name := Ne.symm same
      split <;> simp [same, different, more]

theorem CaseIndex.of_foldl (readings : List (Reading ν)) :
    (readings.foldl CaseIndex.add ⟨[], [], []⟩).Of readings := by
  induction readings using List.reverseRecOn with
  | nil => exact ⟨fun _ => rfl, fun _ => rfl, fun _ => by simp [named]⟩
  | append_singleton readings reading ih =>
    rw [List.foldl_append]
    exact ih.add reading

theorem lookup_indexByCase (readings : List (Reading ν)) (key : List Char) :
    (indexByCase readings).lookup key =
      (readings.find? fun reading => reading.row.dir.toText = key).or
        (sole (named key readings)) := by
  have gathered := CaseIndex.of_foldl readings
  rw [indexByCase, lookup_foldl_setDefault (· ∉ _), gathered.byCase,
    gathered.byName]
  have ambiguous := gathered.ambiguous key
  congr 1
  split
  · next unambiguous =>
      rw [ambiguous, not_le, Nat.lt_succ_iff] at unambiguous
      rw [sole_eq_head? unambiguous, named, List.head?_filter]
  · next several =>
      rw [not_not, ambiguous] at several
      rw [sole_eq_none several]

theorem named_eq_nil {name : List Char} (notPart : ¬ IsPathPart name)
    (readings : List (Reading ν)) :
    named name readings = [] := by
  rw [named, List.filter_eq_nil_iff]
  intro reading _ same
  rw [decide_eq_true_eq] at same
  exact notPart (same ▸ reading.row.isPathPart_name)

theorem lookup_indexByCase_name (readings : List (Reading ν))
    (caseDir : PosixPath) :
    (indexByCase readings).lookup caseDir.name =
      sole (named caseDir.name readings) := by
  have lacks : '/' ∉ caseDir.name := by
    rcases caseDir.name_eq_nil_or with empty | part
    · simp [empty]
    · exact part.2.2
  have none : (readings.find? fun reading =>
      reading.row.dir.toText = caseDir.name) = none := by
    rw [List.find?_eq_none]
    intro reading _ same
    rw [decide_eq_true_eq] at same
    exact lacks (same ▸ reading.row.slash_mem_dir)
  rw [lookup_indexByCase, none, Option.none_or]

theorem firstKey_indexByCase (readings : List (Reading ν))
    (caseDir : PosixPath) :
    firstKey (indexByCase readings) [caseDir.toText, caseDir.name] =
      match readings.find? fun reading => reading.row.dir = caseDir with
      | some reading => some (caseDir.toText, reading)
      | none => (sole (named caseDir.name readings)).map (caseDir.name, ·) := by
  have byDir := lookup_indexByCase readings caseDir.toText
  simp only [PosixPath.toText_injective.eq_iff] at byDir
  have byName := lookup_indexByCase_name readings caseDir
  cases found : readings.find? fun reading => reading.row.dir = caseDir with
  | some reading =>
    rw [found, Option.some_or] at byDir
    simp [firstKey, byDir]
  | none =>
    rw [found, Option.none_or] at byDir
    by_cases slash : '/' ∈ caseDir.toText
    · rw [named_eq_nil fun part => part.2.2 slash] at byDir
      simp [firstKey, byDir, byName, sole]
    · rcases PosixPath.toText_eq_of_slash_not_mem slash with dot | same
      · rw [dot, named_eq_nil (by decide)] at byDir
        simp [firstKey, byDir, byName, dot, sole]
      · rw [same] at byDir ⊢
        cases only : sole (named caseDir.name readings) <;>
          simp [firstKey, byName, only]

end Index

/-! ## Whose numbers are shown -/

/-- A row of a file is that of a case directory: it was written for it, or, in
a tree that was moved, it is the only row with the name of the case and was
written for a case of that name in a run directory of the same name. -/
def RowOf (rows : List MediansRow) (caseDir : PosixPath)
    (row : MediansRow) : Prop :=
  row.dir = caseDir ∨ (row.dir.parent.name = caseDir.parent.name ∧
      rows.filter (fun other => other.dir.name = caseDir.name) = [row])

/-- Everything that is attached to a summary row was read from the row of its
case. -/
structure Attached.Right {V : Type*} (attached : Attached V)
    (rows : List MediansRow) (caseDir : PosixPath) : Prop where
  metrics : ∀ reading, attached.metrics = some reading →
    RowOf rows caseDir reading.row
  derived : ∀ reading, attached.derived = some reading →
    RowOf rows caseDir reading.row
  dimensions : ∀ reading, attached.dimensions = some reading →
    RowOf rows caseDir reading.row

section Right

variable {α : Type*} {valuesOf : CsvRow → List α} {rows : List MediansRow}
  {caseDir : PosixPath}

theorem readingsOf_cons (row : MediansRow) (rows : List MediansRow) :
    readingsOf valuesOf (row :: rows) =
      if (valuesOf row.cells).isEmpty then readingsOf valuesOf rows
      else ⟨row, valuesOf row.cells⟩ :: readingsOf valuesOf rows := by
  rw [readingsOf, List.filterMap_cons]
  split
  · next skipped =>
      split at skipped
      · next empty => rw [if_pos empty, readingsOf]
      · cases skipped
  · next reading made =>
      split at made
      · cases made
      · next given =>
          cases made
          rw [if_neg given, readingsOf]

theorem map_row_named (name : List Char) :
    (named name (readingsOf valuesOf rows)).map Reading.row =
      rows.filter fun row =>
        row.dir.name = name && !(valuesOf row.cells).isEmpty := by
  induction rows with
  | nil => rfl
  | cons row rows ih =>
    rw [readingsOf_cons, List.filter_cons]
    cases given : (valuesOf row.cells).isEmpty with
    | true => simpa [given] using ih
    | false =>
      by_cases same : row.dir.name = name
      · simpa [named, given, same] using ih
      · simpa [named, given, same] using ih

theorem mem_of_mem_readingsOf {reading : Reading (List α)}
    (member : reading ∈ readingsOf valuesOf rows) :
    reading.row ∈ rows ∧ (valuesOf reading.row.cells).isEmpty = false := by
  obtain ⟨row, inside, made⟩ := List.mem_filterMap.mp member
  split at made
  · cases made
  · next given =>
      cases made
      exact ⟨inside, by simpa using given⟩

theorem find?_readingsOf_eq_none_iff :
    ((readingsOf valuesOf rows).find? fun reading =>
        reading.row.dir = caseDir) = none ↔
      ∀ row ∈ rows, row.dir = caseDir → (valuesOf row.cells).isEmpty = true := by
  rw [List.find?_eq_none]
  constructor
  · intro none row member same
    by_contra given
    rw [Bool.not_eq_true] at given
    refine none ⟨row, valuesOf row.cells⟩ ?_ (by simpa using same)
    exact List.mem_filterMap.mpr ⟨row, member, by simp [given]⟩
  · intro empty reading member same
    obtain ⟨inside, given⟩ := mem_of_mem_readingsOf member
    rw [empty reading.row inside (by simpa using same)] at given
    cases given

theorem sole_named_eq_some {reading : Reading (List α)}
    (only : sole (named caseDir.name (readingsOf valuesOf rows)) =
      some reading) :
    rows.filter (fun row =>
      row.dir.name = caseDir.name && !(valuesOf row.cells).isEmpty) =
        [reading.row] := by
  rw [← map_row_named, sole_eq_some_iff.mp only, List.map_singleton]

theorem exists_sole_named {row : MediansRow}
    (only : rows.filter (fun row =>
      row.dir.name = caseDir.name && !(valuesOf row.cells).isEmpty) = [row]) :
    ∃ reading, sole (named caseDir.name (readingsOf valuesOf rows)) =
      some reading ∧ reading.row = row := by
  rw [← map_row_named] at only
  obtain ⟨reading, whole, same⟩ := List.map_eq_singleton_iff.mp only
  exact ⟨reading, sole_eq_some_iff.mpr whole, same⟩

end Right

/-- A run directory: the log files of its summary, and its own files. -/
structure ResultsRun (V : Type*) where
  logFiles : List (List Char)
  medians : Artifact (List MediansRow)
  pivot : Artifact (PivotReport V)

/-- A backend directory. -/
structure ResultsBackend (V : Type*) where
  runs : List (ResultsRun V)
  medians : Artifact (List MediansRow)
  pivot : Artifact (PivotReport V)

def ResultsBackend.rowsOf {V : Type*} (backend : ResultsBackend V)
    (run : ResultsRun V) : List MediansRow :=
  mediansRows run.medians backend.medians

/-- Everything that is shown in a backend is of the case that it is shown
for. -/
def ResultsBackend.JoinsRight {V : Type*} (float : List Char → Option V)
    (backend : ResultsBackend V) : Prop :=
  ∀ run ∈ backend.runs, ∀ logFile ∈ run.logFiles, ∀ caseDir,
    caseDirOf logFile = some caseDir →
      (attach float (backend.rowsOf run) (pivotReport run.pivot backend.pivot)
        logFile).Right (backend.rowsOf run) caseDir

/-- Where the index by name does not lead to another case: a case without a
measured row of its own has the name of no measured row, of several, or of one
that is the only row with it; and a case without any row has that name only in
a tree that was moved. -/
structure NoStranger {V : Type*} (float : List Char → Option V)
    (rows : List MediansRow) (caseDir : PosixPath) : Prop where
  unmeasured :
    (∀ row ∈ rows, row.dir = caseDir →
        (metricsOf float row.cells).isEmpty = true) →
      ∀ row, rows.filter (fun other => other.dir.name = caseDir.name &&
          !(metricsOf float other.cells).isEmpty) = [row] →
        rows.filter (fun other => other.dir.name = caseDir.name) = [row]
  unknown :
    (∀ row ∈ rows, row.dir ≠ caseDir) →
      ∀ row, rows.filter (fun other => other.dir.name = caseDir.name) = [row] →
        row.dir.parent.name = caseDir.parent.name

section Join

variable {V : Type*} {float : List Char → Option V} {rows : List MediansRow}
  {report : PivotReport V} {logFile : List Char} {caseDir : PosixPath}

theorem NoStranger.rowOf (none : NoStranger float rows caseDir)
    {row : MediansRow}
    (only : rows.filter (fun other => other.dir.name = caseDir.name) = [row]) :
    RowOf rows caseDir row := by
  by_cases own : ∀ other ∈ rows, other.dir ≠ caseDir
  · exact .inr ⟨none.unknown own row only, only⟩
  · push Not at own
    obtain ⟨other, member, same⟩ := own
    have listed : other ∈ rows.filter fun other =>
        other.dir.name = caseDir.name :=
      List.mem_filter.mpr ⟨member, by simp [same]⟩
    rw [only, List.mem_singleton] at listed
    exact .inl (listed ▸ same)

theorem attach_eq (known : caseDirOf logFile = some caseDir) :
    (attach float rows report logFile).metrics =
        ((measured float rows).find? fun reading =>
          reading.row.dir = caseDir).or
            (sole (named caseDir.name (measured float rows))) ∧
      (attach float rows report logFile).dimensions =
        ((dimensionReadings rows).find? fun reading =>
          reading.row.dir = caseDir).or
            (sole (named caseDir.name (dimensionReadings rows))) := by
  have keys : caseKeys logFile = [caseDir.toText, caseDir.name] := by
    simp only [caseKeys, known]
  simp only [attach, keys, firstKey_indexByCase]
  constructor
  · cases (measured float rows).find? fun reading =>
      reading.row.dir = caseDir <;> simp
  · cases (dimensionReadings rows).find? fun reading =>
      reading.row.dir = caseDir <;> simp

theorem map_row_named_dimensionReadings (name : List Char) :
    (named name (dimensionReadings rows)).map Reading.row =
      rows.filter fun row => row.dir.name = name := by
  rw [named, dimensionReadings, List.filter_map, List.map_map]
  exact List.map_id _

theorem find?_dimensionReadings_eq_none_iff :
    ((dimensionReadings rows).find? fun reading =>
        reading.row.dir = caseDir) = none ↔
      ∀ row ∈ rows, row.dir ≠ caseDir := by
  simp [dimensionReadings]

variable {reading : Reading (List (List Char × V))}

theorem row_mem_of_mem_derivedReadings
    (member : reading ∈ derivedReadings report rows) :
    reading.row ∈ rows := by
  unfold derivedReadings at member
  split at member
  · exact absurd member List.not_mem_nil
  · exact (mem_of_mem_readingsOf member).1

/-- The derived values are looked up where the metrics were found. -/
theorem derived_attach (known : caseDirOf logFile = some caseDir)
    (derived : (attach float rows report logFile).derived = some reading) :
    reading.row.dir = caseDir ∨
      (∃ measuredRow, sole (named caseDir.name (measured float rows)) =
          some measuredRow) ∧
        (measured float rows).find? (fun reading =>
          reading.row.dir = caseDir) = none ∧
        sole (named caseDir.name (derivedReadings report rows)) =
          some reading := by
  have keys : caseKeys logFile = [caseDir.toText, caseDir.name] := by
    simp only [caseKeys, known]
  simp only [attach, keys, firstKey_indexByCase] at derived
  cases own : (measured float rows).find? fun reading =>
      reading.row.dir = caseDir with
  | some ownReading =>
    left
    have slash : '/' ∈ caseDir.toText := by
      have same := List.find?_some own
      rw [decide_eq_true_eq] at same
      exact same ▸ ownReading.row.slash_mem_dir
    rw [own] at derived
    simp only [Option.bind_some] at derived
    rw [lookup_indexByCase, named_eq_nil fun part => part.2.2 slash] at derived
    have found : (derivedReadings report rows).find? (fun reading =>
        reading.row.dir.toText = caseDir.toText) = some reading := by
      simpa [sole] using derived
    have same := List.find?_some found
    rw [decide_eq_true_eq] at same
    exact PosixPath.toText_injective same
  | none =>
    right
    rw [own] at derived
    cases only : sole (named caseDir.name (measured float rows)) with
    | none =>
      rw [only] at derived
      cases derived
    | some measuredRow =>
      rw [only] at derived
      simp only [Option.map_some, Option.bind_some] at derived
      rw [lookup_indexByCase_name] at derived
      exact ⟨⟨measuredRow, rfl⟩, rfl, derived⟩

/-- What is attached to a summary row is of its case exactly if the index by
name leads to no other case. -/
theorem attached_right_iff (known : caseDirOf logFile = some caseDir) :
    (attach float rows report logFile).Right rows caseDir ↔
      NoStranger float rows caseDir := by
  obtain ⟨metricsEq, dimensionsEq⟩ := @attach_eq V float rows report logFile
    caseDir known
  constructor
  · intro right
    refine ⟨fun unmeasured row only => ?_, fun own row only => ?_⟩
    · obtain ⟨reading, found, rfl⟩ := exists_sole_named only
      have metrics : (attach float rows report logFile).metrics = some reading := by
        rw [metricsEq, measured,
          find?_readingsOf_eq_none_iff.mpr unmeasured, Option.none_or, found]
      rcases right.metrics reading metrics with same | ⟨-, alone⟩
      · have listed : reading.row ∈ [reading.row] := List.mem_singleton_self _
        rw [← only, List.mem_filter] at listed
        obtain ⟨inside, given⟩ := listed
        rw [unmeasured reading.row inside same] at given
        simp at given
      · exact alone
    · rw [← map_row_named_dimensionReadings] at only
      obtain ⟨reading, found, rfl⟩ := List.map_eq_singleton_iff.mp only
      have dimensions :
          (attach float rows report logFile).dimensions = some reading := by
        rw [dimensionsEq, find?_dimensionReadings_eq_none_iff.mpr own,
          Option.none_or, found]
        rfl
      rcases right.dimensions reading dimensions with same | ⟨parent, -⟩
      · have listed : reading ∈ named caseDir.name (dimensionReadings rows) :=
          found ▸ List.mem_singleton_self reading
        obtain ⟨row, inside, rfl⟩ := List.mem_map.mp (List.mem_filter.mp listed).1
        exact absurd same (own row inside)
      · exact parent
  · intro none
    have byName : ∀ reading, (measured float rows).find? (fun reading =>
          reading.row.dir = caseDir) = Option.none →
        sole (named caseDir.name (measured float rows)) = some reading →
          rows.filter (fun other => other.dir.name = caseDir.name) =
            [reading.row] := fun reading unmeasured only =>
      none.unmeasured (find?_readingsOf_eq_none_iff.mp unmeasured) _
        (sole_named_eq_some only)
    constructor
    · intro reading metrics
      rw [metricsEq] at metrics
      cases own : (measured float rows).find? fun reading =>
          reading.row.dir = caseDir with
      | some ownReading =>
        rw [own, Option.some_or, Option.some_inj] at metrics
        exact .inl (metrics ▸ by simpa using List.find?_some own)
      | none =>
        rw [own, Option.none_or] at metrics
        exact none.rowOf (byName reading own metrics)
    · intro reading derived
      rcases derived_attach known derived with same | ⟨⟨only, sole⟩, own, found⟩
      · exact .inl same
      · have whole := byName only own sole
        have given : reading.row ∈ [only.row] := by
          have listed : reading ∈ named caseDir.name
              (derivedReadings report rows) := by
            rw [sole_eq_some_iff.mp found]
            exact List.mem_singleton_self reading
          obtain ⟨inside, same⟩ := List.mem_filter.mp listed
          rw [← whole]
          exact List.mem_filter.mpr ⟨row_mem_of_mem_derivedReadings inside, same⟩
        rw [List.mem_singleton.mp given]
        exact none.rowOf whole
    · intro reading dimensions
      rw [dimensionsEq] at dimensions
      cases own : (dimensionReadings rows).find? fun reading =>
          reading.row.dir = caseDir with
      | some ownReading =>
        rw [own, Option.some_or, Option.some_inj] at dimensions
        exact .inl (dimensions ▸ by simpa using List.find?_some own)
      | none =>
        rw [own, Option.none_or] at dimensions
        refine none.rowOf ?_
        rw [← map_row_named_dimensionReadings, sole_eq_some_iff.mp dimensions,
          List.map_singleton]

end Join

/-- For every backend directory, with its own medians file or those of its runs:
all metrics, derived values and dimensions are of the case that they are shown
for, exactly if no case is led to another one by its name. -/
theorem joins_right_iff {V : Type*} (float : List Char → Option V)
    (backend : ResultsBackend V) :
    backend.JoinsRight float ↔
      ∀ run ∈ backend.runs, ∀ logFile ∈ run.logFiles, ∀ caseDir,
        caseDirOf logFile = some caseDir →
          NoStranger float (backend.rowsOf run) caseDir := by
  constructor
  · intro right run member logFile listed caseDir known
    exact (attached_right_iff known).mp
      (right run member logFile listed caseDir known)
  · intro none run member logFile listed caseDir known
    exact (attached_right_iff known).mpr
      (none run member logFile listed caseDir known)

/-- A row that has no cells but those of its case and a throughput. -/
def throughputRow (dir : List Char) (throughput : List Char)
    (absolute : (PosixPath.ofText dir).root ≠ .relative)
    (inside : (PosixPath.ofText dir).parts ≠ [])
    (caseDir : stripText dir = (PosixPath.ofText dir).toText)
    (caseName : stripText (PosixPath.ofText dir).name =
      (PosixPath.ofText dir).name) : MediansRow where
  cells :=
    [("case_name".toList, some (PosixPath.ofText dir).name),
      ("kpi_throughput_tokens_s".toList, some throughput),
      ("case_dir".toList, some dir)]
  dir := PosixPath.ofText dir
  absolute := absolute
  inside := inside
  caseDir := caseDir
  caseName := caseName

/-- A case that was measured on the CPU. -/
def cpuRow : MediansRow :=
  throughputRow "/b/genai/r_CPU/m_int4".toList "25.0".toList (by decide)
    (by decide) (by decide) (by decide)

def failedGpuRow : MediansRow :=
  throughputRow "/b/genai/r_GPU/m_int4".toList [] (by decide)
    (by decide) (by decide) (by decide)

/-- The GPU run directory, with a medians file of the backend. -/
def failedGpuBackend : ResultsBackend ℚ where
  runs :=
    [⟨["/b/genai/r_GPU/m_int4/benchmark.log".toList], .absent, .absent⟩]
  medians := .readable [cpuRow, failedGpuRow]
  pivot := .absent

/-- `float`, of the text that is written here. -/
def sampleFloat (text : List Char) : Option ℚ :=
  if text = "25.0".toList then some 25 else none

/-- The GPU case that failed shows the throughput of the CPU. -/
theorem failed_case_shows_other_device :
    (attach sampleFloat [cpuRow, failedGpuRow] ⟨[], []⟩
        "/b/genai/r_GPU/m_int4/benchmark.log".toList).shown =
      [("kpi_throughput_tokens_s".toList, 25)] ∧
    ¬ failedGpuBackend.JoinsRight sampleFloat := by
  refine ⟨by decide +kernel, fun right => ?_⟩
  have shown : (attach sampleFloat [cpuRow, failedGpuRow] ⟨[], []⟩
      "/b/genai/r_GPU/m_int4/benchmark.log".toList).metrics =
        some ⟨cpuRow, [("kpi_throughput_tokens_s".toList, 25)]⟩ := by
    decide +kernel
  have rowOf := (right _ List.mem_cons_self _ List.mem_cons_self
    (PosixPath.ofText "/b/genai/r_GPU/m_int4".toList) (by decide +kernel)).metrics
      _ shown
  rcases rowOf with same | ⟨parent, -⟩
  · exact absurd same (by decide +kernel)
  · exact absurd parent (by decide +kernel)

end SmarTune
