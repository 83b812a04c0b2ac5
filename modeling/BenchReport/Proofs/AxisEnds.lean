import BenchReport.Proofs.AgreementCharts
import BenchReport.Proofs.Magnitudes
import BenchReport.Proofs.Numerals
import BenchReport.Proofs.RoundTrip
import BenchReport.Proofs.RunningMean
import BenchReport.Style.Source

/-!
# Where the vertical axis ends

The vertical axis of a chart starts at zero, so it is of use only if it ends at a finite number above
zero (`BarChart.IsUsable`).  The end is the cap of the style, or it follows the data.

An end that follows the data is always usable (`AgreementChart.isUsable_yUpper_of_none`).  The figures
of a report are integers of 64 bits, so the sums of two of them are far from the largest double, and
a tenth above the highest of them is compared with one.

A cap is not always usable (`AgreementChart.isUsable_yUpper_iff`).  The environment asks for an end
that follows the data by a number that is not above zero, which leaves the infinite number.  A file
has no such way: its cap is taken as it is, also if it is zero, negative or no number at all.
-/

namespace BenchReport

open Binary64 (Valued Rounds Within)

/-! ## The figures of a report -/

section Except

variable {ε ε' α β : Type}

lemma exists_of_bind_eq_ok {step : Except ε α} {next : α → Except ε β} {b : β}
    (h : (step >>= next) = .ok b) : ∃ a, step = .ok a ∧ next a = .ok b := by
  cases step with
  | error error => cases h
  | ok a => exact ⟨a, rfl, h⟩

lemma eq_ok_of_mapError_eq_ok {change : ε → ε'} {step : Except ε α} {a : α}
    (h : step.mapError change = .ok a) : step = .ok a := by
  cases step with
  | error error => cases h
  | ok found => exact congrArg Except.ok (Except.ok.inj h)

end Except

namespace Numeral

/-- A signed numeral is within its bounds. -/
lemma abs_signed_le {radix bound : ℕ} {text : List Char} {i : ℤ}
    (h : signed radix bound text = .ok i) : |i| ≤ bound + 1 := by
  obtain ⟨-, hlo, hhi⟩ := signed_eq_ok.mp h
  exact abs_le.mpr ⟨hlo, by omega⟩

end Numeral

namespace Record

/-- A figure of a report is an integer of 64 bits. -/
lemma within_figureField {record : Record} {size index : ℕ} {figure : Float}
    (h : record.figureField size index = .ok figure) : Within (2 ^ 65) figure := by
  obtain ⟨i, hi, rfl⟩ := Log.map_eq_ok.mp h
  have hbound : |i| ≤ 2 ^ 63 := by
    rw [integerField] at hi
    split at hi
    · cases hi
    · have hread := eq_ok_of_mapError_eq_ok hi
      rw [integer.eq_def] at hread
      split at hread <;> exact Numeral.abs_signed_le hread
  have hle : |(i : ℚ)| ≤ 2 ^ 63 := by
    rw [← Int.cast_abs]
    exact_mod_cast hbound
  obtain ⟨q, hvalued, hrounds⟩ := Binary64.exists_valued_ofInt (hle.trans (by norm_num))
  have hq := abs_le_of_rounds hrounds
  refine ⟨q, hvalued, hq.trans ?_⟩
  linarith

end Record

/-- Whether the figures of a row are small enough for sums. -/
def MeanSpread.IsSmall (stats : MeanSpread) : Prop :=
  Within (2 ^ 65) stats.mean ∧ Within (2 ^ 65) stats.spread

namespace AgreementRow

lemma isSmall_of_ofRecord {record : Record} {row : AgreementRow} (h : ofRecord record = .ok row) :
    row.stats.IsSmall := by
  obtain ⟨replicas, -, h⟩ := exists_of_bind_eq_ok h
  obtain ⟨protocolText, -, h⟩ := exists_of_bind_eq_ok h
  obtain ⟨variantText, -, h⟩ := exists_of_bind_eq_ok h
  obtain ⟨mean, hmean, h⟩ := exists_of_bind_eq_ok h
  obtain ⟨spread, hspread, h⟩ := exists_of_bind_eq_ok h
  obtain ⟨protocol, -, h⟩ := exists_of_bind_eq_ok h
  obtain ⟨variant, -, h⟩ := exists_of_bind_eq_ok h
  obtain rfl := Except.ok.inj h
  exact ⟨Record.within_figureField (eq_ok_of_mapError_eq_ok hmean),
    Record.within_figureField (eq_ok_of_mapError_eq_ok hspread)⟩

end AgreementRow

namespace Report

variable {α : Type} {toRow : Record → Except RowError α}

/-- The rows of a report are made of records. -/
lemma exists_record_of_mem_rowsFrom {raws : List Record.Raw} {expected : Option ℕ} {rows : List α}
    (h : rowsFrom toRow expected raws = .ok rows) : ∀ row ∈ rows, ∃ record, toRow record = .ok row := by
  induction raws generalizing expected rows with
  | nil =>
    obtain rfl := Except.ok.inj h
    simp
  | cons raw raws ih =>
    rw [rowsFrom] at h
    split at h
    · cases h
    · rename_i record _
      split at h
      · cases h
      · rename_i row hrow
        obtain ⟨rest, hrest, rfl⟩ := Log.map_eq_ok.mp h
        exact List.forall_mem_cons.mpr ⟨⟨record, hrow⟩, ih hrest⟩

lemma exists_record_of_mem_readRows {files : FileTree} {path : Path} {rows : List α}
    (h : readRows toRow files path = .ok rows) : ∀ row ∈ rows, ∃ record, toRow record = .ok row := by
  rw [readRows] at h
  split at h
  · cases h
  · exact exists_record_of_mem_rowsFrom (eq_ok_of_mapError_eq_ok h)

end Report

/-! ## Ends that follow the data -/

namespace BarChart

/-- Whether an axis that starts at zero can end at a number. -/
def IsUsable (x : Float) : Prop := x.isFinite = true ∧ 0 < x

instance : DecidablePred IsUsable := fun x => inferInstanceAs (Decidable (x.isFinite = true ∧ 0 < x))

lemma isUsable_of_valued {x : Float} {q : ℚ} (h : Valued x q) (hq : 0 < q) : IsUsable x := by
  have hzero : Valued 0 0 := Binary64.valued_ofNat (by norm_num)
  exact ⟨h.isFinite, (hzero.lt_iff h).mpr hq⟩

/-- The larger of a finite double and one is usable. -/
lemma isUsable_larger_one {x : Float} {q : ℚ} (h : Valued x q) : IsUsable (Binary64.larger x 1) := by
  have hone : Valued 1 1 := Binary64.valued_ofNat (by norm_num)
  rw [Binary64.larger, h.isNaN, if_neg Bool.false_ne_true]
  split_ifs with hlt
  · exact isUsable_of_valued hone one_pos
  · rw [h.lt_iff hone, not_lt] at hlt
    exact isUsable_of_valued h (one_pos.trans_le hlt)

/-- Two small figures have a sum that is not too large. -/
lemma within_add {x y : Float} (hx : Within (2 ^ 65) x) (hy : Within (2 ^ 65) y) :
    Within (2 ^ 68) (x + y) := by
  obtain ⟨a, hx, ha⟩ := hx
  obtain ⟨b, hy, hb⟩ := hy
  have hsum := abs_add_le a b
  have hle : |a + b| ≤ 2 ^ 66 := by linarith
  obtain ⟨c, hc, hrounds⟩ := hx.add hy (hle.trans (by norm_num))
  have hbound := abs_le_of_rounds hrounds
  exact ⟨c, hc, by linarith⟩

lemma within_factor : Within 2 1.1 := by
  have hunpack : (1.1 : Float).toModel.unpack =
      .finite .positive 4953959590107546 (-52) (by norm_num) := rfl
  refine ⟨4953959590107546 * 2 ^ (-52 : ℤ), ?_, by norm_num [abs_of_pos]⟩
  rw [Binary64.Valued, hunpack]
  refine ⟨⟨by norm_num, by norm_num, .inl (by norm_num)⟩, ?_⟩
  norm_num [Float.Model.UnpackedFloat.Sign.apply]

/-- An end that follows small figures is usable. -/
lemma isUsable_yUpper_of_tops {chart : BarChart} (hcap : chart.yMax = none)
    (htops : ∀ top ∈ chart.tops, Within (2 ^ 68) top) : IsUsable chart.yUpper := by
  have hzero : Within (2 ^ 68) 0 := ⟨0, Binary64.valued_ofNat (by norm_num), by norm_num⟩
  obtain ⟨highest, hhighest, hbound⟩ := hzero.foldl_larger htops
  obtain ⟨factor, hfactor, hsmall⟩ := within_factor
  have hproduct : |highest * factor| ≤ 2 ^ 100 := by
    rw [abs_mul]
    calc
      |highest| * |factor| ≤ 2 ^ 68 * 2 := by gcongr
      _ ≤ 2 ^ 100 := by norm_num
  obtain ⟨q, hq, -⟩ := hhighest.mul hfactor hproduct
  rw [yUpper, hcap]
  exact isUsable_larger_one hq

end BarChart

namespace AgreementChart

open BarChart (IsUsable)

variable {rows : List AgreementRow} {metric : Metric} {style : Style}

/-- What stands above the bars are the sums of the figures of rows. -/
lemma exists_row_of_mem_tops {top : Float} (h : top ∈ (ofRows rows metric style).tops) :
    ∃ row ∈ rows, top = row.stats.mean + row.stats.spread := by
  obtain ⟨shown, hshown, hbars⟩ := List.mem_flatMap.mp h
  obtain ⟨bar, hbar, rfl⟩ := List.mem_map.mp hbars
  simp only [ofRows, BarChart.ofSeries, List.mem_map, List.mem_filter] at hshown
  obtain ⟨_, ⟨⟨⟨protocol, variant⟩, -, rfl⟩, -⟩, rfl⟩ := hshown
  obtain ⟨point, hpoint, -, hfigures⟩ := BarChart.exists_of_mem_barsOf hbar
  obtain ⟨row, hrow, rfl⟩ := List.mem_map.mp hpoint.mem
  exact ⟨row, (List.mem_filter.mp hrow).1, by rw [hfigures]⟩

/-- An end that follows the rows of a report is usable. -/
lemma isUsable_yUpper_of_none (hcap : yMax style metric = none)
    (hrows : ∀ row ∈ rows, row.stats.IsSmall) : IsUsable (ofRows rows metric style).yUpper := by
  refine BarChart.isUsable_yUpper_of_tops hcap fun top htop => ?_
  obtain ⟨row, hrow, rfl⟩ := exists_row_of_mem_tops htop
  exact BarChart.within_add (hrows row hrow).1 (hrows row hrow).2

/-- The end of the axis of a report is usable if its cap is, or if it has none. -/
lemma isUsable_yUpper_iff_cap (hrows : ∀ row ∈ rows, row.stats.IsSmall) :
    IsUsable (ofRows rows metric style).yUpper ↔
      ∀ cap, yMax style metric = some cap → IsUsable cap := by
  cases hcap : yMax style metric with
  | none => simpa using isUsable_yUpper_of_none hcap hrows
  | some cap =>
    have hend : (ofRows rows metric style).yUpper = cap := by
      have hmax : (ofRows rows metric style).yMax = some cap := hcap
      rw [BarChart.yUpper, hmax]
    simp [hend]

end AgreementChart

/-! ## Caps -/

namespace Style

/-- The variable that holds the cap of the axis of a metric. -/
def capVariable : Metric → String
  | .responseTime => "SMELT_RT_Y_MAX"
  | .throughput => "SMELT_TP_Y_MAX"

/-- The key of the cap of the axis of a metric in a file. -/
def capKey : Metric → String
  | .responseTime => "rt_y_max"
  | .throughput => "tp_y_max"

/-- The cap of the axis of a metric where nothing else is asked. -/
def standardCap : Metric → Float
  | .responseTime => 250
  | .throughput => 850

/-- The cap that a document asks for, the standard one if it asks for none; nothing if what stands
there is no number. -/
def capOfEntries (entries : Toml.Entries) (metric : Metric) : Option Float :=
  setting? capOf? entries (capKey metric) (standardCap metric)

lemma isUsable_standardCap (metric : Metric) : BarChart.IsUsable (standardCap metric) := by
  cases metric
  · exact BarChart.isUsable_of_valued (Binary64.valued_ofNat (n := 250) (by norm_num)) (by norm_num)
  · exact BarChart.isUsable_of_valued (Binary64.valued_ofNat (n := 850) (by norm_num)) (by norm_num)

lemma yMax_ofEnvironment (env : Environment) (metric : Metric) :
    AgreementChart.yMax (ofEnvironment env) metric =
      capIn env (capVariable metric) (some (standardCap metric)) := by
  cases metric <;> rfl

lemma exists_of_setting?_map {α β : Type} {read : Toml.Value → Option α} {f : α → β} {b : β}
    {entries : Toml.Entries} {key : String} {standard : α}
    (h : setting? (fun value => (read value).map f) entries key (f standard) = some b) :
    ∃ a, setting? read entries key standard = some a ∧ f a = b := by
  rw [setting?] at h ⊢
  cases hlookup : entries.lookup key with
  | none => exact ⟨standard, rfl, Option.some.inj (by rwa [hlookup] at h)⟩
  | some value => exact Option.map_eq_some_iff.mp (by rwa [hlookup] at h)

/-- The style of a document always has a cap: that of its entries. -/
lemma exists_cap_of_ofEntries {entries : Toml.Entries} {style : Style}
    (h : ofEntries entries = some style) (metric : Metric) :
    ∃ cap, capOfEntries entries metric = some cap ∧ AgreementChart.yMax style metric = some cap := by
  simp only [ofEntries, bind, Option.bind_eq_some_iff, pure] at h
  obtain ⟨width, -, height, -, fontSize, -, responseTimeMax, hresponse, throughputMax, hthroughput,
    hstyle⟩ := h
  obtain rfl := Option.some.inj hstyle
  cases metric with
  | responseTime =>
    obtain ⟨cap, hcap, rfl⟩ := exists_of_setting?_map hresponse
    exact ⟨cap, hcap, rfl⟩
  | throughput =>
    obtain ⟨cap, hcap, rfl⟩ := exists_of_setting?_map hthroughput
    exact ⟨cap, hcap, rfl⟩

/-- The style of a file is that of the document in it. -/
lemma exists_entries_of_ofFile {tree : FileTree} {file : Path} {style : Style}
    (h : ofFile tree file = .ok style) : ∃ bytes text entries, tree.read file = .ok bytes ∧
      Utf8.decode bytes = .ok text ∧ Toml.Document.entries text = some entries ∧
      ofEntries entries = some style := by
  rw [ofFile] at h
  split at h
  · cases h
  · rename_i bytes hbytes
    rw [ofBytes] at h
    split at h
    · cases h
    · rename_i text htext
      split at h
      · cases h
      · rename_i found hfound
        obtain rfl := Except.ok.inj h
        obtain ⟨entries, hentries, hstyle⟩ := Option.bind_eq_some_iff.mp hfound
        exact ⟨bytes, text, entries, hbytes, htext, hentries, hstyle⟩

end Style

namespace AgreementChart

open BarChart (IsUsable)

/-- **When the vertical axis is usable.**  With a style from the environment it is, unless the variable
of the cap writes an infinite number above zero; a number that is not above zero leaves the chart
without a cap.  With a style from a file it is usable if the cap of the file is. -/
theorem isUsable_yUpper_iff {tree : FileTree} {env : Environment} {source : Option Path}
    {style : Style} (hstyle : Style.load tree env source = .ok style) {files : FileTree} {path : Path}
    {rows : List AgreementRow} (hrows : AgreementRow.readReport files path = .ok rows)
    (metric : Metric) :
    (source = none →
      (IsUsable (ofRows rows metric style).yUpper ↔
        ∀ cap, (env.get? (Style.capVariable metric)).bind Numeral.real? = some cap →
          0 < cap → cap.isFinite = true) ∧
      ∀ cap, (env.get? (Style.capVariable metric)).bind Numeral.real? = some cap →
        ¬ 0 < cap → (ofRows rows metric style).yMax = none) ∧
    ∀ file, source = some file → ∃ bytes text entries cap,
      tree.read file = .ok bytes ∧ Utf8.decode bytes = .ok text ∧
      Toml.Document.entries text = some entries ∧
      Style.capOfEntries entries metric = some cap ∧
      (IsUsable (ofRows rows metric style).yUpper ↔ IsUsable cap) := by
  have hsmall : ∀ row ∈ rows, row.stats.IsSmall := by
    intro row hrow
    obtain ⟨record, hrecord⟩ := Report.exists_record_of_mem_readRows hrows row hrow
    exact AgreementRow.isSmall_of_ofRecord hrecord
  constructor
  · rintro rfl
    obtain rfl := Except.ok.inj hstyle
    have hcap := Style.yMax_ofEnvironment env metric
    rw [Style.capIn] at hcap
    have hmax : (ofRows rows metric (Style.ofEnvironment env)).yMax =
      yMax (Style.ofEnvironment env) metric := rfl
    rw [isUsable_yUpper_iff_cap hsmall, hmax, hcap]
    cases (env.get? (Style.capVariable metric)).bind Numeral.real? with
    | none => simp [Style.isUsable_standardCap]
    | some number =>
      by_cases hpositive : 0 < number
      · simp [hpositive, IsUsable]
      · simp [hpositive]
  · rintro file rfl
    obtain ⟨bytes, text, entries, hbytes, htext, hentries, hof⟩ := Style.exists_entries_of_ofFile hstyle
    obtain ⟨cap, hcap, hmax⟩ := Style.exists_cap_of_ofEntries hof metric
    refine ⟨bytes, text, entries, cap, hbytes, htext, hentries, hcap, ?_⟩
    simp [isUsable_yUpper_iff_cap hsmall, hmax]

/-- A zero in the environment leaves the chart without a cap, and a cap of 300 in a file stays. -/
theorem isUsable_yUpper_iff_zero_variable :
    let rows : List AgreementRow := [⟨2, .broadcast, .sequential, ⟨120, 10⟩⟩]
    let zero : Environment := ⟨[("SMELT_RT_Y_MAX", "0")]⟩
    let tree : FileTree := ⟨[],
      [(["rt_r2"], .file (.bytes (Report.bytes (rows.map AgreementRow.toLine)))),
        (["style.toml"], .file (.bytes (Utf8.ofString "rt_y_max = 300.0\n")))]⟩
    let settled := rows.map AgreementRow.settled
    AgreementRow.readReport tree ⟨"rt_r2"⟩ = .ok settled ∧
      Style.load tree zero none = .ok (Style.ofEnvironment zero) ∧
      (ofRows settled .responseTime (Style.ofEnvironment zero)).yMax = none ∧
      IsUsable (ofRows settled .responseTime (Style.ofEnvironment zero)).yUpper ∧
      ∃ style, Style.load tree zero (some ⟨"style.toml"⟩) = .ok style ∧
        IsUsable (ofRows settled .responseTime style).yUpper := by
  intro rows zero tree settled
  have hread : AgreementRow.readReport tree ⟨"rt_r2"⟩ = .ok settled :=
    AgreementRow.readReport_of_read (by decide +kernel)
  have hload : Style.load tree zero none = .ok (Style.ofEnvironment zero) := rfl
  have hzero : (zero.get? "SMELT_RT_Y_MAX").bind Numeral.real? = some 0 := by decide +kernel
  have hnot : ¬ (0 : Float) < 0 := by decide +kernel
  obtain ⟨husable, hmax⟩ := (isUsable_yUpper_iff hload hread .responseTime).1 rfl
  refine ⟨hread, hload, hmax 0 hzero hnot, husable.mpr ?_, ?_⟩
  · intro cap hcap hpositive
    obtain rfl := Option.some.inj (hzero.symm.trans hcap)
    exact absurd hpositive hnot
  · have hloads : (Style.load tree zero (some ⟨"style.toml"⟩)).isOk = true := by decide +kernel
    have hcap : (tree.read ⟨"style.toml"⟩).toOption.bind (fun bytes =>
        (Utf8.decode bytes).toOption.bind fun text => (Toml.Document.entries text).bind fun entries =>
          Style.capOfEntries entries .responseTime) = some 300 := by
      decide +kernel
    cases hstyle : Style.load tree zero (some ⟨"style.toml"⟩) with
    | error error => rw [hstyle] at hloads; cases hloads
    | ok style =>
      obtain ⟨bytes, text, entries, cap, hbytes, htext, hentries, hfound, hiff⟩ :=
        (isUsable_yUpper_iff hstyle hread .responseTime).2 _ rfl
      have hsame : some cap = some 300 := by
        rw [hbytes, Except.toOption, Option.bind_some, htext, Except.toOption, Option.bind_some,
          hentries] at hcap
        exact hfound.symm.trans hcap
      obtain rfl := Option.some.inj hsame
      exact ⟨style, rfl, hiff.mpr (by decide +kernel)⟩

/-- A cap of zero in a file is taken as it is, and so is an infinite one in the environment. -/
theorem not_isUsable_yUpper_zero_cap :
    let rows : List AgreementRow := [⟨2, .broadcast, .sequential, ⟨120, 10⟩⟩]
    let tree : FileTree := ⟨[],
      [(["rt_r2"], .file (.bytes (Report.bytes (rows.map AgreementRow.toLine)))),
        (["style.toml"], .file (.bytes (Utf8.ofString "rt_y_max = 0.0\n")))]⟩
    let settled := rows.map AgreementRow.settled
    AgreementRow.readReport tree ⟨"rt_r2"⟩ = .ok settled ∧
      (∃ style, Style.load tree ⟨[]⟩ (some ⟨"style.toml"⟩) = .ok style ∧
        (ofRows settled .responseTime style).yUpper = 0 ∧
        ¬ IsUsable (ofRows settled .responseTime style).yUpper) ∧
      ∃ style, Style.load tree ⟨[("SMELT_RT_Y_MAX", "inf")]⟩ none = .ok style ∧
        (ofRows settled .responseTime style).yUpper.isFinite = false ∧
        ¬ IsUsable (ofRows settled .responseTime style).yUpper := by
  intro rows tree settled
  refine ⟨AgreementRow.readReport_of_read (by decide +kernel), ?_, ?_⟩
  · have hzero : (Style.load tree ⟨[]⟩ (some ⟨"style.toml"⟩)).map (fun style =>
        (ofRows settled .responseTime style).yUpper) = .ok 0 := by
      decide +kernel
    obtain ⟨style, hstyle, hend⟩ := Log.map_eq_ok.mp hzero
    exact ⟨style, hstyle, hend, hend ▸ by decide +kernel⟩
  · exact ⟨_, rfl, by decide +kernel, by decide +kernel⟩

end AgreementChart
end BenchReport
