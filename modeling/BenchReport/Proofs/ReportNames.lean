import BenchReport.Proofs.LogNames
import BenchReport.Proofs.Trails

/-!
# Names of reports and names of logs

Reports stand in a directory among logs, and the two begin alike: `tp_r8` is a report, and the logs
of replicas are all called `tp_` and something.  But they end differently.  Every name ends in a
count, and the character before the count is a letter in the name of a report and an underscore in
that of a log or of a directory of logs (`EndsInCount`), whatever the name of the tree is.  So no
report is ever taken for a log (`EndsInCount.unique`).

A tree whose name has a slash would make directories out of the name of a log, so it is excluded
(`SlashFree`).  The steps of the path of a log are then those of the directory of results and one or
two names (`LogName.steps_path`).
-/

namespace BenchReport

/-! ## Counts at the end -/

/-- Whether a name ends in a count, with the given character before it. -/
def EndsInCount (before : Char) (name : String) : Prop :=
  ∃ front n, name = front ++ countText n ∧ front.toList.getLast? = some before

/-- There is only one character before the count. -/
lemma EndsInCount.unique {c d : Char} {name : String} (h : EndsInCount c name)
    (h' : EndsInCount d name) (hc : c.isDigit = false) (hd : d.isDigit = false) : c = d := by
  obtain ⟨front, n, rfl, hfront⟩ := h
  obtain ⟨other, m, heq, hother⟩ := h'
  obtain ⟨rfl, -⟩ := append_numeral_inj ⟨c, hfront, hc⟩ ⟨d, hother, hd⟩ heq
  exact Option.some.inj (hfront.symm.trans hother)

/-- A text that ends in a count ends in a digit. -/
lemma EndsInCount.ne {c : Char} {name text : String} (h : EndsInCount c name)
    (hplain : text.toList.getLast?.any Char.isDigit = false) : name ≠ text := by
  rintro rfl
  obtain ⟨front, n, rfl, -⟩ := h
  obtain ⟨d, hlast, hdigit⟩ := exists_getLast?_numeral front n.toNat
  rw [countText, hlast, Option.any_some, hdigit] at hplain
  cases hplain

/-- A text that ends in a count and has no slash is the name of a file. -/
lemma EndsInCount.isName {c : Char} {name : String} (h : EndsInCount c name)
    (hslash : Path.slash ∉ name.toList) : Path.IsName name :=
  ⟨h.ne (by decide), hslash, h.ne (by decide), h.ne (by decide)⟩

lemma endsInCount_append (front word : String) {c : Char} (h : word.toList.getLast? = some c)
    (n : UInt32) : EndsInCount c (front ++ word ++ countText n) := by
  refine ⟨front ++ word, n, rfl, ?_⟩
  rw [String.toList_append, List.getLast?_append, h]
  rfl

/-! ## Slashes -/

/-- Whether a text has no slash. -/
def SlashFree (text : String) : Prop := Path.slash ∉ text.toList

instance : DecidablePred SlashFree := fun text =>
  inferInstanceAs (Decidable (Path.slash ∉ text.toList))

lemma slashFree_append {u v : String} : SlashFree (u ++ v) ↔ SlashFree u ∧ SlashFree v := by
  rw [SlashFree, String.toList_append, List.mem_append, not_or]
  rfl

lemma slashFree_numeral (n : ℕ) : SlashFree (toString n) := by
  intro h
  rw [Nat.toString_eq_repr, Nat.toList_repr] at h
  exact absurd (allDigits_toDigits n _ h) (by decide)

lemma slashFree_countText (n : UInt32) : SlashFree (countText n) := slashFree_numeral _

/-! ## Reports -/

namespace Report

lemma slashFree_tag (metric : Metric) : SlashFree metric.tag := by
  cases metric <;> decide

lemma toList_agreementName (metric : Metric) (replicas : UInt32) :
    (agreementName metric replicas).toList =
      metric.tag.toList ++ '_' :: 'r' :: (countText replicas).toList := by
  simp [agreementName]

lemma agreementName_injective (metric : Metric) : Function.Injective (agreementName metric) := by
  intro m n h
  refine countText_injective (String.toList_inj.mp ?_)
  simpa [toList_agreementName] using congrArg String.toList h

/-- What makes a text the name of a report among logs. -/
structure IsReportName (name : String) : Prop where
  /-- It can be the name of a file. -/
  isName : Path.IsName name
  nul : '\x00' ∉ name.toList
  /-- The system takes it. -/
  short : name.utf8ByteSize ≤ FileTree.longestName
  /-- It ends in a count, but not in the way of the names of logs. -/
  endsInCount : ∃ c, c.isDigit = false ∧ c ≠ '_' ∧ EndsInCount c name

/-- The name of a metric, a word and a count make the name of a report. -/
lemma isReportName (metric : Metric) {word : String} {c : Char}
    (hlast : word.toList.getLast? = some c) (hdigit : c.isDigit = false) (hletter : c ≠ '_')
    (hslash : SlashFree word) (hnul : '\x00' ∉ word.toList) (hshort : word.utf8ByteSize ≤ 200)
    (n : UInt32) : IsReportName (metric.tag ++ word ++ countText n) := by
  have hcount := endsInCount_append metric.tag word hlast n
  refine ⟨hcount.isName ?_, ?_, ?_, c, hdigit, hletter, hcount⟩
  · exact slashFree_append.mpr
      ⟨slashFree_append.mpr ⟨slashFree_tag metric, hslash⟩, slashFree_countText n⟩
  · have htag : '\x00' ∉ metric.tag.toList := by cases metric <;> decide
    have hdigits : '\x00' ∉ (countText n).toList := by
      intro h
      rw [countText, Nat.toString_eq_repr, Nat.toList_repr] at h
      exact absurd (allDigits_toDigits _ _ h) (by decide)
    rw [String.toList_append, String.toList_append, List.mem_append, List.mem_append]
    tauto
  · have htag : metric.tag.utf8ByteSize ≤ 2 := by cases metric <;> decide
    have hdigits : (countText n).utf8ByteSize ≤ 4 * 10 := by
      have hlength : (countText n).length ≤ 10 :=
        Nat.repr_length _ _ (by decide) (n.toNat_lt.trans (by decide))
      exact (utf8ByteSize_le _).trans (Nat.mul_le_mul_left 4 hlength)
    rw [String.utf8ByteSize_append, String.utf8ByteSize_append, FileTree.longestName]
    omega

lemma isReportName_agreementName (metric : Metric) (replicas : UInt32) :
    IsReportName (agreementName metric replicas) :=
  isReportName metric (c := 'r') (by decide) (by decide) (by decide) (by decide) (by decide)
    (by decide) replicas

lemma isReportName_storeName (metric : Metric) (clients : UInt32) :
    IsReportName (storeName metric clients) :=
  isReportName metric (c := 'c') (by decide) (by decide) (by decide) (by decide) (by decide)
    (by decide) clients

lemma isName_agreementName (metric : Metric) (replicas : UInt32) :
    Path.IsName (agreementName metric replicas) :=
  (isReportName_agreementName metric replicas).isName

end Report

/-! ## Logs -/

namespace LogName

/-- The name of the tree in the name of a log. -/
def tree? : LogName → Option String
  | agreementClient _ _ _ _ _ tree => tree
  | replica .. => none
  | treeReplica _ _ tree _ => some tree
  | storeClient _ _ tree => tree

/-- The names on the way from the directory of results to a log. -/
def names (log : LogName) : List String := log.directory.toList ++ [log.fileName]

lemma endsInCount_fileName (log : LogName) : EndsInCount '_' log.fileName := by
  cases log
  case agreementClient => exact endsInCount_append _ "num_" (by decide) _
  case replica => exact endsInCount_append _ "_numc_" (by decide) _
  case treeReplica => exact endsInCount_append _ "_numc_" (by decide) _
  case storeClient => exact endsInCount_append _ "_num_" (by decide) _

lemma slashFree_treePart {tree : Option String} (h : ∀ text ∈ tree, SlashFree text) :
    SlashFree (treePart tree) := by
  cases tree with
  | none => exact List.not_mem_nil
  | some text => exact slashFree_append.mpr ⟨h text rfl, by decide⟩

lemma slashFree_stem (protocol : Protocol) : SlashFree protocol.stem := by
  cases protocol <;> decide

lemma slashFree_fileName {log : LogName} (h : ∀ text ∈ log.tree?, SlashFree text) :
    SlashFree log.fileName := by
  cases log with
  | agreementClient replicas client protocol layer clients tree =>
    have htree : SlashFree (treePart tree) := slashFree_treePart h
    dsimp only [fileName]
    simp only [slashFree_append, slashFree_countText, slashFree_numeral, htree, and_true]
    decide
  | replica replicas protocol layer clients =>
    dsimp only [fileName]
    simp only [slashFree_append, slashFree_countText, slashFree_numeral, slashFree_stem, and_true]
    decide
  | treeReplica replicas protocol tree clients =>
    dsimp only [fileName]
    simp only [slashFree_append, slashFree_countText, slashFree_stem, h tree rfl, and_true]
    decide
  | storeClient client clients tree =>
    have htree : SlashFree (treePart tree) := slashFree_treePart h
    dsimp only [fileName]
    simp only [slashFree_append, slashFree_countText, htree, and_true]
    decide

/-- The names on the way to a log end in a count behind an underscore. -/
lemma names_spec {log : LogName} (h : ∀ text ∈ log.tree?, SlashFree text) :
    ∀ name ∈ log.names, Path.IsName name ∧ EndsInCount '_' name := by
  intro name hname
  rcases List.mem_append.mp hname with hsub | hfile
  · cases log with
    | agreementClient replicas =>
      obtain rfl := List.mem_singleton.mp hsub
      have hcount : EndsInCount '_' ("rep_" ++ countText replicas) :=
        endsInCount_append "" "rep_" (by decide) replicas
      exact ⟨hcount.isName (slashFree_append.mpr ⟨by decide, slashFree_countText _⟩), hcount⟩
    | _ => cases hsub
  · obtain rfl := List.mem_singleton.mp hfile
    exact ⟨(endsInCount_fileName log).isName (slashFree_fileName h), endsInCount_fileName log⟩

/-- The steps to a log are those to the directory of results and its names. -/
lemma steps_path {log : LogName} (h : ∀ text ∈ log.tree?, SlashFree text) (dir : Path) :
    (log.path dir).steps = dir.steps ++ log.names ∧
      (log.path dir).isAbsolute = dir.isAbsolute := by
  have hnames := fun name hname => (names_spec h name hname).1
  have hfile : Path.IsName log.fileName := hnames _ (List.mem_append_right _ List.mem_cons_self)
  cases hdirectory : log.directory with
  | none =>
    rw [path, names, hdirectory]
    exact ⟨Path.steps_join dir hfile, Path.isAbsolute_join dir hfile⟩
  | some sub =>
    have hsub : Path.IsName sub := hnames sub (List.mem_append_left _ (by simp [hdirectory]))
    rw [path, names, hdirectory]
    refine ⟨?_, ?_⟩
    · rw [Path.steps_join _ hfile, Path.steps_join _ hsub, List.append_assoc]
      rfl
    · rw [Path.isAbsolute_join _ hfile, Path.isAbsolute_join _ hsub]

end LogName

end BenchReport
