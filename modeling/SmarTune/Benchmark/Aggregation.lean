import SmarTune.Benchmark.RunRequests
import SmarTune.Identity.Names
import Mathlib.Data.List.Find

/-!
# The aggregation of benchmark cases

The aggregation step takes medians of the samples in a window of time, and the
service shows the curve of the samples of a case.  The window is read from the
stamps in `detail.log`: of the iterations or, when there are none, of the
pipeline; for `benchmark_app` the medians go back from its end by the duration
that the log reports.

The device, the precision and the model of a case are read off the names in the
path of its directory, from the root on.
-/

namespace SmarTune

/-! ## Windows -/

/-- What the patterns find in a line of `detail.log`. -/
structure DetailLine (T : Type*) where
  /-- Begin and end of a pipeline. -/
  pipeline : Option (T × T)
  /-- Name, start and end of an iteration. -/
  iteration : Option (String × T × T)
  /-- The duration that `benchmark_app` reports, in seconds. -/
  duration : Option T

/-- A `detail.log`, and whether it has KPIs of each mode. -/
structure DetailLog (T : Type*) where
  lines : List (DetailLine T)
  genaiKpis : Bool
  appKpis : Bool

/-- The modes of the benchmarks. -/
inductive BenchmarkMode
  | genai
  | app
  deriving DecidableEq

/-- What `parse_detail_window` has read. -/
structure WindowBounds (T : Type*) where
  pipelineStart : Option T
  pipelineEnd : Option T
  warmupStart : Option T
  lastEnd : Option T
  earliestStart : Option T

section Window

variable {T : Type*} [LT T] [DecidableLT T]

/-- The lesser of two stamps, if there is one already. -/
def earlier (old : Option T) (new : T) : Option T :=
  match old with
  | some stamp => if new < stamp then some new else some stamp
  | none => some new

/-- The greater of two stamps, if there is one already. -/
def later (old : Option T) (new : T) : Option T :=
  match old with
  | some stamp => if stamp < new then some new else some stamp
  | none => some new

/-- The body of the loop of `parse_detail_window`. -/
def WindowBounds.read (bounds : WindowBounds T) (line : DetailLine T) :
    WindowBounds T :=
  match line.pipeline, line.iteration with
  | some (start, stop), _ =>
    { bounds with
      pipelineStart := earlier bounds.pipelineStart start
      pipelineEnd := later bounds.pipelineEnd stop }
  | none, some (name, start, stop) =>
    { bounds with
      earliestStart := earlier bounds.earliestStart start
      lastEnd := later bounds.lastEnd stop
      warmupStart :=
        if name = "warm-up" ∧ bounds.warmupStart.isNone then some start
        else bounds.warmupStart }
  | none, none => bounds

namespace DetailLog

/-- `parse_detail_window`. -/
def window (log : DetailLog T) : Option (T × T) :=
  let bounds :=
    log.lines.foldl WindowBounds.read ⟨none, none, none, none, none⟩
  match bounds.warmupStart.or bounds.earliestStart, bounds.lastEnd with
  | some start, some stop => some (start, stop)
  | _, _ =>
    match bounds.pipelineStart, bounds.pipelineEnd with
    | some start, some stop => some (start, stop)
    | _, _ => none

/-- `parse_benchmark_app_duration_s`. -/
def duration (log : DetailLog T) : Option T :=
  (log.lines.filterMap DetailLine.duration).getLast?

/-- The window of `summarize_case_app` or of `summarize_case`. -/
def medianWindow [Sub T] (mode : BenchmarkMode) (log : DetailLog T) :
    Option (T × T) :=
  match mode with
  | .genai => if log.genaiKpis then log.window else none
  | .app =>
    if log.appKpis then
      log.window.bind fun window => log.duration.map fun duration =>
        (window.2 - duration, window.2)
    else none

end DetailLog

end Window

/-! ## Samples -/

/-- A row of the sampling file, as `safe_float` reads its cells. -/
structure SampleRow (T V : Type*) where
  stamp : Option T
  cell : String → Option V

/-- `METRICS_COLUMNS`. -/
def metricsColumns : List (String × String) :=
  [("cpu_usage_pct", "cpu_usage_percent_median"),
    ("cpu_p_core_usage_pct", "cpu_p_core_usage_percent_median"),
    ("cpu_e_core_usage_pct", "cpu_e_core_usage_percent_median"),
    ("cpu_p_core_freq_mhz", "cpu_p_core_frequency_mhz_median"),
    ("cpu_e_core_freq_mhz", "cpu_e_core_frequency_mhz_median"),
    ("cpu_package_power_w", "cpu_package_power_w_median"),
    ("cpu_package_temp_c", "cpu_package_temp_c_median"),
    ("cpu_package_tjmax_c", "cpu_package_tjmax_c_median"),
    ("memory_used_gb", "memory_used_gb_median"),
    ("memory_available_gb", "memory_available_gb_median"),
    ("memory_used_pct", "memory_used_percent_median"),
    ("memory_bandwidth_gb_s", "memory_bandwidth_gb_s_median"),
    ("memory_bandwidth_pct", "memory_bandwidth_percent_median"),
    ("memory_bandwidth_read_gb_s", "memory_bandwidth_read_gb_s_median"),
    ("memory_bandwidth_write_gb_s", "memory_bandwidth_write_gb_s_median"),
    ("memory_bandwidth_cpu_gb_s", "memory_bandwidth_cpu_gb_s_median"),
    ("memory_bandwidth_gpu_gb_s", "memory_bandwidth_gpu_gb_s_median"),
    ("memory_soc_cache_hit_pct", "memory_soc_cache_hit_percent_median"),
    ("gpu_power_w", "gpu_power_w_median"),
    ("gpu_freq_mhz", "gpu_frequency_mhz_median"),
    ("gpu_render_busy_pct", "gpu_render_busy_percent_median"),
    ("gpu_compute_busy_pct", "gpu_compute_busy_percent_median"),
    ("gpu_video_busy_pct", "gpu_video_busy_percent_median"),
    ("npu_utilization_pct", "npu_utilization_percent_median"),
    ("npu_power_w", "npu_power_w_median"),
    ("npu_frequency_mhz", "npu_frequency_mhz_median"),
    ("npu_bandwidth_mib_s", "npu_bandwidth_mib_s_median"),
    ("npu_temperature_c", "npu_temperature_c_median")]

section Samples

variable {T V M : Type*} [LT T] [DecidableLT T] [Sub T]
  (median : List V → M) (round : T → T)

def SampleRow.Within (window : T × T) (row : SampleRow T V) : Prop :=
  ∃ stamp ∈ row.stamp, ¬ stamp < window.1 ∧ ¬ window.2 < stamp

instance (window : T × T) (row : SampleRow T V) :
    Decidable (row.Within window) :=
  inferInstanceAs (Decidable (∃ stamp ∈ row.stamp, _))

def rowsWithin (rows : List (SampleRow T V)) (window : T × T) :
    List (SampleRow T V) :=
  rows.filter fun row => row.Within window

/-- `median_or_blank`. -/
def medianOrBlank (values : List V) : Option M :=
  if values.isEmpty then none else some (median values)

/-- `collect_csv_medians`. -/
def collectCsvMedians (rows : List (SampleRow T V)) (window : T × T) :
    List (String × Option M) :=
  metricsColumns.map fun column =>
    (column.2, medianOrBlank median
      ((rowsWithin rows window).filterMap fun row => row.cell column.1))

/-- `values[::stride]`. -/
def everyNth {α : Type*} (stride : ℕ) : List α → List α
  | [] => []
  | item :: items => item :: everyNth stride (items.drop (stride - 1))
  termination_by items => items.length
  decreasing_by simp only [List.length_drop, List.length_cons]; omega

/-- The curve of a case. -/
structure Curve (T V : Type*) where
  t : List T
  series : List (String × List (Option V))

/-- The samples of `timeline` before striding. -/
def samples (rows : List (SampleRow T V)) (window : T × T) : Curve T V where
  t := (rowsWithin rows window).filterMap fun row =>
    row.stamp.map fun stamp => round (stamp - window.1)
  series := metricsColumns.map fun column =>
    (column.2, (rowsWithin rows window).map fun row => row.cell column.1)

/-- The stride of so many points, for at most `_TIMELINE_MAX_POINTS`. -/
def strideOf (count : ℕ) : ℕ := (count + 1499) / 1500

/-- The curve with every so many points. -/
def Curve.strided (curve : Curve T V) : Curve T V :=
  let stride := strideOf curve.t.length
  if 1 < stride then
    { t := everyNth stride curve.t
      series := curve.series.map fun entry =>
        (entry.1, everyNth stride entry.2) }
  else curve

/-- `timeline`, for the samples of a run. -/
def timeline (log : DetailLog T) (rows : List (SampleRow T V)) :
    Option (Curve T V) :=
  log.window.bind fun window =>
    let curve := samples round rows window
    if curve.t.isEmpty then none
    else
      some { curve.strided with
        series := curve.strided.series.filter fun entry =>
          entry.2.any Option.isSome }

/-- The points of a list are some of another one, evenly spaced. -/
def Spaced {α : Type*} (stride : ℕ) (points whole : List α) : Prop :=
  ∀ index, points[index]? = whole[index * stride]?

/-- The curve of a case and its medians agree: they are of the same rows, the
median of a series is the one that is exported, and the curve has at most 1500
evenly spaced points, and as many in each series. -/
structure CurveAgrees (mode : BenchmarkMode) (log : DetailLog T)
    (rows : List (SampleRow T V)) : Prop where
  sameRows : ∀ window measured, log.window = some window →
    log.medianWindow mode = some measured →
      rowsWithin rows window = rowsWithin rows measured
  medians : ∀ window measured, log.window = some window →
    log.medianWindow mode = some measured →
      ∀ entry ∈ (samples round rows window).series,
        (entry.1, medianOrBlank median (entry.2.filterMap id)) ∈
          collectCsvMedians median rows measured
  lengths : ∀ curve, timeline round log rows = some curve →
    curve.t.length ≤ 1500 ∧
      ∀ entry ∈ curve.series, entry.2.length = curve.t.length
  spaced : ∀ window curve, log.window = some window →
    timeline round log rows = some curve → ∃ stride, 0 < stride ∧
      Spaced stride curve.t (samples round rows window).t ∧
        ∀ entry ∈ curve.series, ∃ whole,
          (entry.1, whole) ∈ (samples round rows window).series ∧
            Spaced stride entry.2 whole

/-! ## When they agree -/

section Agree

variable {median round} {mode : BenchmarkMode} {log : DetailLog T}
  {rows : List (SampleRow T V)}

theorem spaced_everyNth {α : Type*} {stride : ℕ} (positive : 0 < stride)
    (items : List α) : Spaced stride (everyNth stride items) items := by
  intro index
  fun_induction everyNth stride items generalizing index with
  | case1 => simp
  | case2 item items ih =>
    cases index with
    | zero => simp
    | succ index =>
      rw [List.getElem?_cons_succ, ih, List.getElem?_drop,
        show (index + 1) * stride = stride - 1 + index * stride + 1 by
          rw [Nat.add_one_mul]; omega,
        List.getElem?_cons_succ]

theorem Spaced.length_le_iff {α : Type*} {stride : ℕ} {points whole : List α}
    (spaced : Spaced stride points whole) (count : ℕ) :
    points.length ≤ count ↔ whole.length ≤ count * stride := by
  rw [← List.getElem?_eq_none_iff, spaced, List.getElem?_eq_none_iff]

theorem spaced_one {α : Type*} (items : List α) : Spaced 1 items items :=
  fun index => by rw [Nat.mul_one]

omit [LT T] [DecidableLT T] [Sub T] in
theorem spaced_strided (curve : Curve T V) :
    ∃ stride, 0 < stride ∧ curve.t.length ≤ 1500 * stride ∧
      Spaced stride curve.strided.t curve.t ∧
        ∀ entry ∈ curve.strided.series, ∃ whole,
          (entry.1, whole) ∈ curve.series ∧ Spaced stride entry.2 whole := by
  unfold Curve.strided
  dsimp only
  split
  · next several =>
      refine ⟨strideOf curve.t.length, by omega, by unfold strideOf; omega,
        spaced_everyNth (by omega) _, fun entry member => ?_⟩
      obtain ⟨whole, inside, rfl⟩ := List.mem_map.mp member
      exact ⟨whole.2, inside, spaced_everyNth (by omega) _⟩
  · next one =>
      refine ⟨1, Nat.one_pos, by unfold strideOf at one; omega, spaced_one _,
        fun entry member => ⟨entry.2, member, spaced_one _⟩⟩

theorem length_samples (rows : List (SampleRow T V)) (window : T × T) :
    ∀ entry ∈ (samples round rows window).series,
      entry.2.length = (samples round rows window).t.length := by
  intro entry member
  obtain ⟨column, -, rfl⟩ := List.mem_map.mp member
  rw [samples, List.length_map]
  symm
  rw [List.length_filterMap_eq_countP, List.countP_eq_length]
  intro row inside
  obtain ⟨stamp, there, -⟩ := of_decide_eq_true (List.mem_filter.mp inside).2
  rw [Option.mem_def.mp there]
  rfl

theorem exists_of_timeline {curve : Curve T V}
    (shown : timeline round log rows = some curve) :
    ∃ window, log.window = some window ∧
      curve.t = (samples round rows window).strided.t ∧
        curve.series ⊆ (samples round rows window).strided.series := by
  obtain ⟨window, known, drawn⟩ := Option.bind_eq_some_iff.mp shown
  dsimp only at drawn
  split at drawn
  · cases drawn
  · rw [Option.some_inj] at drawn
    subst drawn
    exact ⟨window, known, rfl, List.filter_subset_self _⟩

omit [Sub T] in
theorem rowsWithin_eq_iff {window other : T × T} :
    rowsWithin rows window = rowsWithin rows other ↔
      ∀ row ∈ rows, row.Within window ↔ row.Within other := by
  constructor
  · intro same row member
    have inside := congrArg (row ∈ ·) same
    simpa [rowsWithin, member] using inside
  · intro same
    exact List.filter_congr fun row member => by simp [same row member]

/-- For every mode, every log and all samples, with any median: curve and
medians agree exactly if, for `benchmark_app`, no sample before the end of the
window lies between the start that is shown and the one that is measured. -/
theorem curveAgrees_iff (median : List V → M) (round : T → T)
    (mode : BenchmarkMode) (log : DetailLog T) (rows : List (SampleRow T V)) :
    CurveAgrees median round mode log rows ↔
      (mode = .app → log.appKpis = true → ∀ window duration,
        log.window = some window → log.duration = some duration →
          ∀ row ∈ rows, ∀ stamp, row.stamp = some stamp → ¬ window.2 < stamp →
            (stamp < window.1 ↔ stamp < window.2 - duration)) := by
  constructor
  · rintro agrees rfl kpis window duration known given row member stamp there
      before
    have same := agrees.sameRows window (window.2 - duration, window.2) known (by
      simp [DetailLog.medianWindow, kpis, known, given])
    rw [rowsWithin_eq_iff] at same
    simpa [SampleRow.Within, there, before] using not_congr (same row member)
  · intro unsampled
    have same : ∀ window measured, log.window = some window →
        log.medianWindow mode = some measured →
          rowsWithin rows window = rowsWithin rows measured := by
      intro window measured known taken
      cases mode with
      | genai =>
        obtain ⟨-, taken⟩ := Option.ite_none_right_eq_some.mp taken
        rw [Option.some_inj.mp (known.symm.trans taken)]
      | app =>
        obtain ⟨kpis, taken⟩ := Option.ite_none_right_eq_some.mp taken
        rw [known, Option.bind_some, Option.map_eq_some_iff] at taken
        obtain ⟨duration, given, rfl⟩ := taken
        rw [rowsWithin_eq_iff]
        intro row member
        refine exists_congr fun stamp => and_congr_right fun there => ?_
        refine and_congr_left fun before => not_congr ?_
        exact unsampled rfl kpis window duration known given row member stamp
          there before
    refine ⟨same, fun window measured known taken entry member => ?_,
      fun curve shown => ?_, fun window curve known shown => ?_⟩
    · obtain ⟨column, listed, rfl⟩ := List.mem_map.mp member
      refine List.mem_map.mpr ⟨column, listed, ?_⟩
      rw [← same window measured known taken, List.filterMap_map]
      rfl
    · obtain ⟨window, -, times, series⟩ := exists_of_timeline shown
      obtain ⟨stride, positive, few, spaced, each⟩ :=
        spaced_strided (samples round rows window)
      rw [times]
      refine ⟨(spaced.length_le_iff 1500).mpr few, fun entry member => ?_⟩
      obtain ⟨whole, inside, entrySpaced⟩ := each entry (series member)
      have length := length_samples rows window _ inside
      refine le_antisymm ?_ ?_
      · rw [entrySpaced.length_le_iff, length, ← spaced.length_le_iff]
      · rw [spaced.length_le_iff, ← length, ← entrySpaced.length_le_iff]
    · obtain ⟨shownWindow, found, times, series⟩ := exists_of_timeline shown
      obtain rfl := Option.some_inj.mp (found.symm.trans known)
      obtain ⟨stride, positive, -, spaced, each⟩ :=
        spaced_strided (samples round rows shownWindow)
      exact ⟨stride, positive, times ▸ spaced,
        fun entry member => each entry (series member)⟩

end Agree

end Samples

/-- An app run of ten seconds, of which four are measured. -/
def sampleLog : DetailLog ℚ where
  lines := [⟨some (100, 110), none, some 4⟩]
  genaiKpis := false
  appKpis := true

/-- A sample of the model load, and one of the measurement. -/
def sampleRows : List (SampleRow ℚ ℚ) :=
  [⟨some 102, fun _ => some 1⟩, ⟨some 108, fun _ => some 9⟩]

/-- The median of at most two values. -/
def sampleMedian (values : List ℚ) : ℚ := values.sum / values.length

/-- The curve shows the model load, which the medians leave out. -/
theorem app_curve_shows_model_load :
    sampleLog.window = some (100, 110) ∧
    sampleLog.medianWindow .app = some (106, 110) ∧
    ¬ CurveAgrees sampleMedian id .app sampleLog sampleRows := by
  have window : sampleLog.window = some (100, 110) := rfl
  have measured : sampleLog.medianWindow .app = some (106, 110) := by
    decide +kernel
  refine ⟨window, measured, fun agrees => ?_⟩
  have same := agrees.sameRows (100, 110) (106, 110) window measured
  rw [rowsWithin_eq_iff] at same
  exact absurd ((same _ List.mem_cons_self).mp (by decide))
    (by decide)

/-! ## Categories -/

/-- `text.lower()`. -/
def lowerText (text : List Char) : List Char := text.map Char.toLower

/-- The precisions that are looked for, with their normal names. -/
def precisionNames : List (List Char × List Char) :=
  [("fp32".toList, "fp32".toList), ("fp16".toList, "fp16".toList),
    ("fp64".toList, "fp64".toList), ("int8".toList, "int8".toList),
    ("int4".toList, "int4".toList), ("uint8".toList, "uint8".toList),
    ("uint4".toList, "uint4".toList), ("float32".toList, "fp32".toList),
    ("float16".toList, "fp16".toList), ("float64".toList, "fp64".toList),
    ("bf16".toList, "bf16".toList), ("bfloat16".toList, "bf16".toList),
    ("f32".toList, "fp32".toList), ("f16".toList, "fp16".toList),
    ("i8".toList, "int8".toList), ("i4".toList, "int4".toList)]

/-- The tags of `CONFIG_SUFFIX_PATTERN` but for batch sizes. -/
def configTags : List (List Char) :=
  precisionNames.map Prod.fst ++
    ["igpu".toList, "dgpu".toList, "gpu".toList, "cpu".toList, "npu".toList,
      "ov".toList]

def deviceKeywords : List (List Char × BenchDevice) :=
  [("igpu".toList, .gpu), ("dgpu".toList, .gpu), ("gpu".toList, .gpu),
    ("cpu".toList, .cpu), ("npu".toList, .npu)]

/-- The first device keyword in a name. -/
def deviceIn : List Char → Option BenchDevice
  | [] => none
  | char :: chars =>
    match deviceKeywords.find? fun keyword =>
        keyword.1.isPrefixOf (char :: chars) with
    | some keyword => some keyword.2
    | none => deviceIn chars

/-- An underscore, a hyphen, a slash or a blank. -/
def isTagBoundary (char : Char) : Bool :=
  char = '_' || char = '-' || char = '/' || UnicodeText.isSpace char

/-- The first precision between boundaries. -/
def precisionIn (name : List Char) : Option (List Char) :=
  (name.splitOnP isTagBoundary).findSome? fun piece =>
    precisionNames.lookup piece

/-- The first platform between characters that are no letters or digits. -/
def platformIn (name : List Char) : Option (List Char) :=
  ((name.splitOnP fun char =>
    ¬ (char.isLower || char.isDigit)).find? fun piece =>
      piece ∈ ["ptl".toList, "nvl".toList, "arl".toList, "wcl".toList]).map
    (List.map Char.toUpper)

/-- What follows `bs` or `batch` and a separator. -/
def afterBatch (name : List Char) : Option (List Char) :=
  (["bs".toList, "batch".toList].find? fun head => head.isPrefixOf name).map
    fun head =>
      match name.drop head.length with
      | '_' :: rest => rest
      | '-' :: rest => rest
      | rest => rest

/-- The first batch size in a name. -/
def batchIn : List Char → Option (List Char)
  | [] => none
  | char :: chars =>
    match (afterBatch (char :: chars)).map
        (List.takeWhile UnicodeText.isDecimal) with
    | some (digit :: digits) => some ("bs".toList ++ digit :: digits)
    | _ => batchIn chars

/-- A text without the newline that `$` allows at its end. -/
def chomp (text : List Char) : List Char :=
  if text.getLast? = some '\n' then text.dropLast else text

/-- A text is a tag of `CONFIG_SUFFIX_PATTERN`. -/
def isConfigTag (text : List Char) : Bool :=
  text ∈ configTags || (match afterBatch text with
    | some digits => digits ≠ [] && digits.all UnicodeText.isDecimal
    | none => false)

/-- `CONFIG_SUFFIX_PATTERN.search`: what is before the tag, and the tag. -/
def cutTag : List Char → Option (List Char × List Char)
  | [] => none
  | char :: chars =>
    if (char = '_' ∨ char = '-') ∧ isConfigTag (lowerText (chomp chars)) then
      some ([], lowerText (chomp chars))
    else (cutTag chars).map fun cut => (char :: cut.1, cut.2)

theorem length_lt_of_cutTag {name : List Char} {cut : List Char × List Char}
    (found : cutTag name = some cut) : cut.1.length < name.length := by
  induction name generalizing cut with
  | nil => cases found
  | cons char chars ih =>
    rw [cutTag] at found
    split at found
    · rw [← Option.some_inj.mp found]
      simp
    · obtain ⟨rest, inner, rfl⟩ := Option.map_eq_some_iff.mp found
      simpa using ih inner

/-- `strip_precision_suffix`, with whether the source is `ov`. -/
def stripPrecisionSuffix (name : List Char) : List Char × Bool :=
  match _found : cutTag name with
  | none => (name, false)
  | some cut =>
    let rest := stripPrecisionSuffix cut.1
    (rest.1, rest.2 || cut.2 = "ov".toList)
  termination_by name.length
  decreasing_by exact length_lt_of_cutTag _found

/-- What `catogary` returns. -/
structure Category where
  platform : Option (List Char)
  device : Option BenchDevice
  batchSize : Option (List Char)
  precision : Option (List Char)
  caseName : List Char
  modelName : List Char
  ovSource : Bool

/-- `catogary`, for the names in a path. -/
def catogary (parts : List (List Char)) : Category :=
  let lowered := parts.map lowerText
  let caseName := parts.getLast?.getD []
  { platform := lowered.findSome? platformIn
    device := lowered.findSome? deviceIn
    batchSize := lowered.findSome? batchIn
    precision := lowered.findSome? precisionIn
    caseName := caseName
    modelName := (stripPrecisionSuffix caseName).1
    ovSource := (stripPrecisionSuffix caseName).2 }

/-- A quantisation suffix: a precision, and further tags. -/
structure QuantSuffix where
  precision : List Char
  normal : List Char
  more : List (List Char)
  known : (lowerText precision, normal) ∈ precisionNames
  tags : ∀ tag ∈ more, lowerText tag ∈ configTags

def QuantSuffix.text (quant : QuantSuffix) : List Char :=
  ['_'].intercalate (quant.precision :: quant.more)

/-- The directory of a case: that of its run on a device below a backend below
a root, and in it that of a model with a quantisation suffix. -/
structure CaseDir where
  root : List (List Char)
  backend : List Char
  run : List Char
  device : BenchDevice
  model : List Char
  quant : QuantSuffix

/-- The names in the path. -/
def CaseDir.parts (dir : CaseDir) : List (List Char) :=
  dir.root ++ [dir.backend, dir.run ++ '_' :: dir.device.name,
    dir.model ++ '_' :: dir.quant.text]

/-! ## What is read off a path -/

theorem lowerText_append (first second : List Char) :
    lowerText (first ++ second) = lowerText first ++ lowerText second :=
  List.map_append

theorem lowerText_cons_underscore (text : List Char) :
    lowerText ('_' :: text) = '_' :: lowerText text := rfl

theorem deviceIn_cons (char : Char) (chars : List Char) :
    deviceIn (char :: chars) = (((deviceKeywords.find? fun keyword =>
        keyword.1.isPrefixOf (char :: chars)).map Prod.snd).or
          (deviceIn chars)) := by
  rw [deviceIn]
  cases deviceKeywords.find? fun keyword =>
    keyword.1.isPrefixOf (char :: chars) <;> rfl

/-- No keyword goes over an underscore. -/
theorem deviceIn_append (first second : List Char) :
    deviceIn (first ++ '_' :: second) = (deviceIn first).or (deviceIn second) := by
  have plain : ∀ keyword ∈ deviceKeywords, '_' ∉ keyword.1 ∧ keyword.1 ≠ [] := by
    decide
  induction first with
  | nil =>
    have none : (deviceKeywords.find? fun keyword =>
        keyword.1.isPrefixOf ('_' :: second)) = none := by
      rw [List.find?_eq_none]
      intro keyword member begins
      obtain ⟨lacks, written⟩ := plain keyword member
      obtain ⟨char, rest, split⟩ := List.exists_cons_of_ne_nil written
      rw [split, List.isPrefixOf_iff_prefix, List.cons_prefix_cons] at begins
      rw [split, begins.1] at lacks
      exact lacks List.mem_cons_self
    rw [List.nil_append, deviceIn_cons, none]
    rfl
  | cons char first ih =>
    have same : (deviceKeywords.find? fun keyword =>
          keyword.1.isPrefixOf (char :: first ++ '_' :: second)) =
        deviceKeywords.find? fun keyword =>
          keyword.1.isPrefixOf (char :: first) := by
      refine List.find?_congr fun keyword member => ?_
      rw [Bool.eq_iff_iff, List.isPrefixOf_iff_prefix,
        List.isPrefixOf_iff_prefix]
      constructor
      · intro begins
        refine List.prefix_of_prefix_length_le begins
          (List.prefix_append _ _) ?_
        by_contra longer
        rw [not_le] at longer
        have inside := List.IsPrefix.getElem begins longer
        rw [List.getElem_append_right le_rfl] at inside
        simp only [Nat.sub_self, List.getElem_cons_zero] at inside
        exact (plain keyword member).1 (inside ▸ List.getElem_mem longer)
      · exact fun begins => begins.trans (List.prefix_append _ _)
    rw [deviceIn_cons, Option.or_assoc, ← ih,
      List.cons_append, deviceIn_cons, ← List.cons_append, same]

theorem precisionIn_append (first second : List Char) :
    precisionIn (first ++ '_' :: second) =
      (precisionIn first).or (precisionIn second) := by
  rw [precisionIn, List.splitOnP_append_cons first second (by decide),
    List.findSome?_append]
  rfl

/-- Tags have no separators and no newline, and are no numbers. -/
theorem configTags_plain :
    ∀ tag ∈ configTags, '_' ∉ tag ∧ tag.getLast? ≠ some '\n' ∧ tag ≠ [] ∧
      ¬ tag.all UnicodeText.isDecimal := by
  decide

variable {tag : List Char}

/-- A text that ends in a tag is none itself. -/
theorem not_isConfigTag (known : tag ∈ configTags)
    (first : List Char) : isConfigTag (first ++ '_' :: tag) = false := by
  have underscore : '_' ∈ first ++ '_' :: tag := by simp
  have heads : ∀ head ∈ ["bs".toList, "batch".toList], '_' ∉ head := by decide
  rw [isConfigTag, Bool.or_eq_false_iff, decide_eq_false_iff_not]
  refine ⟨fun whole => (configTags_plain _ whole).1 underscore, ?_⟩
  split
  · next digits found =>
      obtain ⟨head, given, rest⟩ := Option.map_eq_some_iff.mp found
      have begins := List.find?_some given
      have plain : '_' ∉ head := heads head (List.mem_of_find?_eq_some given)
      rw [List.isPrefixOf_iff_prefix] at begins
      have inside : head <+: first := by
        refine List.prefix_of_prefix_length_le begins (List.prefix_append _ _) ?_
        by_contra longer
        rw [not_le] at longer
        have there := List.IsPrefix.getElem begins longer
        rw [List.getElem_append_right le_rfl] at there
        simp only [Nat.sub_self, List.getElem_cons_zero] at there
        exact plain (there ▸ List.getElem_mem longer)
      obtain ⟨middle, rfl⟩ := inside
      rw [List.append_assoc, List.drop_left] at rest
      have blocked : ∀ digits : List Char, '_' ∈ digits →
          (digits ≠ [] && digits.all UnicodeText.isDecimal) = false := by
        intro digits member
        rw [Bool.and_eq_false_iff]
        right
        rw [List.all_eq_false]
        exact ⟨'_', member, by decide⟩
      rcases middle with _ | ⟨char, middle⟩
      · rw [List.nil_append] at rest
        rw [← rest, Bool.and_eq_false_iff]
        right
        simpa using (configTags_plain tag known).2.2.2
      · rw [← rest, List.cons_append]
        split
        · next same => exact blocked _ ((List.cons.inj same).2 ▸ by simp)
        · next same => exact blocked _ ((List.cons.inj same).2 ▸ by simp)
        · exact blocked _ (by simp)
  · rfl

theorem chomp_eq_self (known : lowerText tag ∈ configTags)
    (first : List Char) : chomp (first ++ tag) = first ++ tag := by
  obtain ⟨-, last, written, -⟩ := configTags_plain _ known
  rw [chomp, if_neg]
  rw [List.getLast?_append_of_ne_nil first (by rintro rfl; exact written rfl)]
  intro newline
  rw [lowerText, List.getLast?_map, newline] at last
  exact last rfl

theorem cutTag_append (known : lowerText tag ∈ configTags) (name : List Char) :
    cutTag (name ++ '_' :: tag) = some (name, lowerText tag) := by
  induction name with
  | nil =>
    have whole := chomp_eq_self known []
    rw [List.nil_append] at whole
    rw [List.nil_append, cutTag, whole, if_pos]
    exact ⟨.inl rfl, by simp [isConfigTag, known]⟩
  | cons char name ih =>
    have whole := chomp_eq_self known (name ++ ['_'])
    rw [List.append_assoc, List.singleton_append] at whole
    rw [List.cons_append, cutTag, whole, lowerText_append,
      lowerText_cons_underscore, not_isConfigTag known, if_neg (by simp),
      ih]
    rfl

/-- Tags behind a name make no difference to what is left of it. -/
theorem stripPrecisionSuffix_append {tags : List (List Char)}
    (known : ∀ tag ∈ tags, lowerText tag ∈ configTags) (nonempty : tags ≠ [])
    (name : List Char) :
    (stripPrecisionSuffix (name ++ '_' :: ['_'].intercalate tags)).1 =
      (stripPrecisionSuffix name).1 := by
  have one : ∀ {tag}, lowerText tag ∈ configTags → ∀ name,
      (stripPrecisionSuffix (name ++ '_' :: tag)).1 =
        (stripPrecisionSuffix name).1 := by
    intro tag known name
    rw [stripPrecisionSuffix]
    split
    · next missing => simp [cutTag_append known] at missing
    · next cut found =>
        rw [cutTag_append known, Option.some_inj] at found
        rw [← found]
  induction tags generalizing name with
  | nil => exact absurd rfl nonempty
  | cons tag tags ih =>
    have first := known tag List.mem_cons_self
    cases tags with
    | nil => simpa using one first name
    | cons next tags =>
      have whole : name ++ '_' :: ['_'].intercalate (tag :: next :: tags) =
          (name ++ '_' :: tag) ++ '_' :: ['_'].intercalate (next :: tags) := by
        simp
      rw [whole, ih (fun other member =>
        known other (List.mem_cons_of_mem _ member)) (by simp), one first]

theorem QuantSuffix.precisionIn_text (quant : QuantSuffix) :
    precisionIn (lowerText quant.text) = some quant.normal := by
  have each : ∀ entry ∈ precisionNames, precisionIn entry.1 = some entry.2 := by
    decide
  have own := each _ quant.known
  rw [text]
  cases quant.more with
  | nil => simpa using own
  | cons tag tags =>
    rw [List.intercalate_cons_cons, List.append_assoc, lowerText_append,
      List.singleton_append, lowerText_cons_underscore, precisionIn_append, own]
    rfl

theorem QuantSuffix.isTag (quant : QuantSuffix) :
    ∀ tag ∈ quant.precision :: quant.more, lowerText tag ∈ configTags := by
  intro tag member
  rcases List.mem_cons.mp member with rfl | member
  · exact List.mem_append_left _ (List.mem_map_of_mem quant.known)
  · exact quant.tags tag member

/-- The suffix of an OpenVINO model of four bits. -/
def int4Suffix : QuantSuffix where
  precision := "int4".toList
  normal := "int4".toList
  more := ["ov".toList]
  known := by decide
  tags := by decide

def cpuCase (root model : List Char) : CaseDir where
  root := [['/'], root]
  backend := "genai".toList
  run := "20260902_181245_ab12cd".toList
  device := .cpu
  model := model
  quant := int4Suffix

end SmarTune
