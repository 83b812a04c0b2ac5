import BenchReport.Collection.Agreement
import BenchReport.Collection.Store
import BenchReport.Proofs.Decimals

/-!
# No two logs have the same path

The name of a log spells out its parameters between fixed words, and a tree name is any text at all,
so it may look like the words and the numbers around it.  The parameters can be read off nevertheless
(`LogName.eq_of_path_eq`): numbers at the ends of a name are found by reading digits as far as they
go, from the front (`numeral_append_inj`) or from the back (`append_numeral_inj`), and what is then
left of the name is the tree name with known words around it.

The kinds of logs keep apart by their first letter, but for the two kinds of replica logs.  What is
left of those before the replica count ends in a digit for one kind, the number of the layer, and in
a letter for the other, the last one of the name of the protocol.
-/

namespace BenchReport

/-! ## Numerals at the ends of a text -/

/-- Whether a text begins with a character that is no digit. -/
def StartsPlain (text : String) : Prop := ∃ c, text.toList.head? = some c ∧ c.isDigit = false

/-- Whether a text ends in a character that is no digit. -/
def EndsPlain (text : String) : Prop := ∃ c, text.toList.getLast? = some c ∧ c.isDigit = false

lemma startsPlain_append {u : String} (h : StartsPlain u) (v : String) : StartsPlain (u ++ v) := by
  obtain ⟨c, hhead, hc⟩ := h
  refine ⟨c, ?_, hc⟩
  rw [String.toList_append, List.head?_append, hhead]
  rfl

lemma endsPlain_append (u : String) {v : String} (h : EndsPlain v) : EndsPlain (u ++ v) := by
  obtain ⟨c, hlast, hc⟩ := h
  refine ⟨c, ?_, hc⟩
  rw [String.toList_append, List.getLast?_append, hlast]
  rfl

lemma exists_getLast?_numeral (u : String) (n : ℕ) :
    ∃ c, (u ++ toString n).toList.getLast? = some c ∧ c.isDigit = true := by
  obtain ⟨c, hc⟩ := Option.ne_none_iff_exists'.mp
    (mt List.getLast?_eq_none_iff.mp (Nat.toDigits_ne_nil (n := n) (b := 10)))
  refine ⟨c, ?_, allDigits_toDigits n c (List.mem_of_getLast? hc)⟩
  rw [String.toList_append, Nat.toString_eq_repr, Nat.toList_repr, List.getLast?_append, hc]
  rfl

lemma not_endsPlain_numeral (u : String) (n : ℕ) : ¬ EndsPlain (u ++ toString n) := by
  rintro ⟨c, hlast, hc⟩
  obtain ⟨d, hd, hdigit⟩ := exists_getLast?_numeral u n
  obtain rfl := Option.some.inj (hlast.symm.trans hd)
  rw [hdigit] at hc
  exact absurd hc (by decide)

/-- The digits at the front of a text are the numeral that stands there. -/
lemma takeWhile_numeral_append (n : ℕ) {u : String} (h : StartsPlain u) :
    (toString n ++ u).toList.takeWhile Char.isDigit = Nat.toDigits 10 n := by
  obtain ⟨c, hhead, hc⟩ := h
  obtain ⟨rest, hu⟩ := List.head?_eq_some_iff.mp hhead
  rw [String.toList_append, Nat.toString_eq_repr, Nat.toList_repr, hu,
    List.takeWhile_append_of_pos (allDigits_toDigits n)]
  simp [hc]

/-- A numeral at the front of a text can be read off. -/
lemma numeral_append_inj {a b : ℕ} {u v : String} (hu : StartsPlain u) (hv : StartsPlain v)
    (h : toString a ++ u = toString b ++ v) : a = b ∧ u = v := by
  have hdigits : Nat.toDigits 10 a = Nat.toDigits 10 b := by
    rw [← takeWhile_numeral_append a hu, ← takeWhile_numeral_append b hv, h]
  obtain rfl := toDigits_injective hdigits
  exact ⟨rfl, String.append_right_inj _ |>.mp h⟩

/-- The digits at the back of a text are the numeral that stands there. -/
lemma rtakeWhile_append_numeral (n : ℕ) {u : String} (h : EndsPlain u) :
    (u ++ toString n).toList.rtakeWhile Char.isDigit = Nat.toDigits 10 n := by
  obtain ⟨c, hlast, hc⟩ := h
  obtain ⟨init, hu⟩ := List.getLast?_eq_some_iff.mp hlast
  have hall : ∀ d ∈ (Nat.toDigits 10 n).reverse, d.isDigit = true := by
    intro d hd
    exact allDigits_toDigits n d (List.mem_reverse.mp hd)
  rw [String.toList_append, Nat.toString_eq_repr, Nat.toList_repr, hu, List.rtakeWhile,
    List.reverse_append, List.takeWhile_append_of_pos hall]
  simp [hc]

/-- A numeral at the back of a text can be read off. -/
lemma append_numeral_inj {a b : ℕ} {u v : String} (hu : EndsPlain u) (hv : EndsPlain v)
    (h : u ++ toString a = v ++ toString b) : u = v ∧ a = b := by
  have hdigits : Nat.toDigits 10 a = Nat.toDigits 10 b := by
    rw [← rtakeWhile_append_numeral a hu, ← rtakeWhile_append_numeral b hv, h]
  obtain rfl := toDigits_injective hdigits
  exact ⟨String.append_left_inj _ |>.mp h, rfl⟩

namespace LogName

/-! ## Names of files -/

lemma treePart_injective : Function.Injective treePart := by
  have hne : ∀ tree : String, "" ≠ tree ++ "_" := by
    intro tree h
    have hlength := congrArg (List.length ∘ String.toList) h
    simp at hlength
  intro a b h
  cases a with
  | none =>
    cases b with
    | none => rfl
    | some tree => exact absurd h (hne tree)
  | some tree =>
    cases b with
    | none => exact absurd h.symm (hne tree)
    | some other => exact congrArg some (String.append_left_inj _ |>.mp h)

lemma protocol_harnessId_injective : Function.Injective Protocol.harnessId := by
  intro a b h
  cases a <;> cases b <;> first | rfl | contradiction

lemma layer_harnessId_injective : Function.Injective Layer.harnessId := by
  intro a b h
  cases a <;> cases b <;> first | rfl | contradiction

lemma endsPlain_stem (protocol : Protocol) : EndsPlain protocol.stem := by
  cases protocol
  · exact ⟨'e', by decide, by decide⟩
  · exact ⟨'c', by decide, by decide⟩
  · exact ⟨'d', by decide, by decide⟩
  · exact ⟨'n', by decide, by decide⟩

/-- The stems of the protocols have different last letters. -/
lemma stem_eq_of_getLast? {p q : Protocol}
    (h : p.stem.toList.getLast? = q.stem.toList.getLast?) : p = q := by
  cases p <;> cases q <;> first | rfl | exact absurd h (by decide)

/-- A stem at the back of a text can be read off. -/
lemma append_stem_inj {p q : Protocol} {u v : String} (h : u ++ p.stem = v ++ q.stem) :
    u = v ∧ p = q := by
  obtain ⟨c, hc, -⟩ := endsPlain_stem p
  obtain ⟨d, hd, -⟩ := endsPlain_stem q
  have hlast := congrArg (fun text : String => text.toList.getLast?) h
  simp only [String.toList_append, List.getLast?_append, hc, hd, Option.some_or] at hlast
  obtain rfl := stem_eq_of_getLast? (hc.trans (hlast.trans hd.symm))
  exact ⟨String.append_left_inj _ |>.mp h, rfl⟩

/-- The counts of replicas and clients at the back of the name of a replica log. -/
lemma append_counts_inj {r r' n n' : UInt32} {u v : String}
    (h : u ++ "_num_" ++ countText r ++ "_numc_" ++ countText n =
      v ++ "_num_" ++ countText r' ++ "_numc_" ++ countText n') :
    u = v ∧ r = r' ∧ n = n' := by
  have hnum : EndsPlain "_num_" := ⟨'_', by decide, by decide⟩
  have hnumc : EndsPlain "_numc_" := ⟨'_', by decide, by decide⟩
  obtain ⟨h, hn⟩ := append_numeral_inj (endsPlain_append _ hnumc) (endsPlain_append _ hnumc) h
  replace h := String.append_left_inj _ |>.mp h
  obtain ⟨h, hr⟩ := append_numeral_inj (endsPlain_append _ hnum) (endsPlain_append _ hnum) h
  exact ⟨String.append_left_inj _ |>.mp h, UInt32.toNat_inj.mp hr, UInt32.toNat_inj.mp hn⟩

/-- The parameters of a client log of an agreement run, the replicas apart. -/
lemma agreementClient_fileName_inj {r r' c c' n n' : UInt32} {p p' : Protocol} {l l' : Layer}
    {t t' : Option String}
    (h : fileName (.agreementClient r c p l n t) = fileName (.agreementClient r' c' p' l' n' t')) :
    c = c' ∧ p = p' ∧ l = l' ∧ n = n' ∧ t = t' := by
  have halgo : StartsPlain "_algo_" := ⟨'_', by decide, by decide⟩
  have hbelow : StartsPlain "_below_" := ⟨'_', by decide, by decide⟩
  have hrest : StartsPlain "_" := ⟨'_', by decide, by decide⟩
  have hnum : EndsPlain "num_" := ⟨'_', by decide, by decide⟩
  dsimp only [fileName, countText] at h
  simp only [String.append_assoc] at h
  replace h := String.append_right_inj _ |>.mp h
  obtain ⟨hc, h⟩ := numeral_append_inj (startsPlain_append halgo _) (startsPlain_append halgo _) h
  replace h := String.append_right_inj _ |>.mp h
  obtain ⟨hp, h⟩ := numeral_append_inj (startsPlain_append hbelow _) (startsPlain_append hbelow _) h
  replace h := String.append_right_inj _ |>.mp h
  obtain ⟨hl, h⟩ := numeral_append_inj (startsPlain_append hrest _) (startsPlain_append hrest _) h
  replace h := String.append_right_inj _ |>.mp h
  simp only [← String.append_assoc] at h
  obtain ⟨h, hn⟩ := append_numeral_inj (endsPlain_append _ hnum) (endsPlain_append _ hnum) h
  replace h := String.append_left_inj _ |>.mp h
  have ht : t = t' := treePart_injective h
  exact ⟨UInt32.toNat_inj.mp hc, protocol_harnessId_injective hp, layer_harnessId_injective hl,
    UInt32.toNat_inj.mp hn, ht⟩

lemma replica_fileName_inj {r r' n n' : UInt32} {p p' : Protocol} {l l' : Layer}
    (h : fileName (.replica r p l n) = fileName (.replica r' p' l' n')) :
    r = r' ∧ p = p' ∧ l = l' ∧ n = n' := by
  have hbelow : EndsPlain "_below_" := ⟨'_', by decide, by decide⟩
  obtain ⟨h, hr, hn⟩ := append_counts_inj h
  obtain ⟨h, hl⟩ := append_numeral_inj (endsPlain_append _ hbelow) (endsPlain_append _ hbelow) h
  replace h := String.append_left_inj _ |>.mp h
  have hp := (append_stem_inj h).2
  exact ⟨hr, hp, layer_harnessId_injective hl, hn⟩

lemma treeReplica_fileName_inj {r r' n n' : UInt32} {p p' : Protocol} {t t' : String}
    (h : fileName (.treeReplica r p t n) = fileName (.treeReplica r' p' t' n')) :
    r = r' ∧ p = p' ∧ t = t' ∧ n = n' := by
  obtain ⟨h, hr, hn⟩ := append_counts_inj h
  obtain ⟨h, hp⟩ := append_stem_inj h
  replace h := String.append_left_inj _ |>.mp h
  exact ⟨hr, hp, String.append_right_inj _ |>.mp h, hn⟩

/-- Before the counts, the name of a replica log ends in the number of the layer, and that of a run on
the tree library in the name of the protocol. -/
lemma replica_fileName_ne_treeReplica (r r' n n' : UInt32) (p p' : Protocol) (l : Layer)
    (t : String) : fileName (.replica r p l n) ≠ fileName (.treeReplica r' p' t n') := by
  intro h
  obtain ⟨h, -, -⟩ := append_counts_inj h
  have hletter : EndsPlain ("tp_" ++ t ++ "_" ++ p'.stem) := endsPlain_append _ (endsPlain_stem p')
  rw [← h] at hletter
  exact not_endsPlain_numeral _ _ hletter

lemma storeClient_fileName_inj {c c' n n' : UInt32} {t t' : Option String}
    (h : fileName (.storeClient c n t) = fileName (.storeClient c' n' t')) :
    c = c' ∧ n = n' ∧ t = t' := by
  have hnum : EndsPlain "_num_" := ⟨'_', by decide, by decide⟩
  have hid : EndsPlain "id_" := ⟨'_', by decide, by decide⟩
  dsimp only [fileName, countText] at h
  obtain ⟨h, hn⟩ := append_numeral_inj (endsPlain_append _ hnum) (endsPlain_append _ hnum) h
  replace h := String.append_left_inj _ |>.mp h
  obtain ⟨h, hc⟩ := append_numeral_inj (endsPlain_append _ hid) (endsPlain_append _ hid) h
  replace h := String.append_left_inj _ |>.mp h
  replace h := String.append_right_inj _ |>.mp h
  have ht : t = t' := treePart_injective h
  exact ⟨UInt32.toNat_inj.mp hc, UInt32.toNat_inj.mp hn, ht⟩

/-! ## Paths -/

/-- The path of a log as it stands below the results directory. -/
def below (log : LogName) : String :=
  match log.directory with
  | some sub => sub ++ "/" ++ log.fileName
  | none => log.fileName

/-- A name that begins with a letter is no absolute path. -/
lemma isAbsolute_append (word rest : String) {c : Char} (hword : word.toList.head? = some c)
    (hc : c ≠ Path.slash) : Path.isAbsolute ⟨word ++ rest⟩ = false := by
  simpa [Path.isAbsolute, List.head?_append, hword] using hc

lemma isAbsolute_fileName (log : LogName) : Path.isAbsolute ⟨log.fileName⟩ = false := by
  cases log <;> dsimp only [fileName] <;> simp only [String.append_assoc]
  · exact isAbsolute_append "client_id_" _ rfl (by decide)
  · exact isAbsolute_append "tp_" _ rfl (by decide)
  · exact isAbsolute_append "tp_" _ rfl (by decide)
  · exact isAbsolute_append "client_kvs_" _ rfl (by decide)

/-- Below a directory whose name ends in a number, a slash comes before the next name. -/
lemma separator_append_numeral (u : String) (n : ℕ) : Path.separator ⟨u ++ toString n⟩ = "/" := by
  obtain ⟨c, hlast, hc⟩ := exists_getLast?_numeral u n
  have hempty : (u ++ toString n).isEmpty = false := by
    rw [String.isEmpty_eq_false_iff]
    intro h
    rw [h] at hlast
    simp at hlast
  have hslash : Path.endsInSlash ⟨u ++ toString n⟩ = false := by
    have hne : c ≠ Path.slash := by
      rintro rfl
      exact absurd hc (by decide)
    rw [Path.endsInSlash, hlast]
    simpa using hne
  rw [Path.separator, hempty, hslash]
  rfl

lemma path_text (dir : Path) (log : LogName) :
    (log.path dir).text = dir.text ++ dir.separator ++ log.below := by
  cases log with
  | agreementClient r c p l n t =>
    have hsub : Path.isAbsolute ⟨"rep_" ++ countText r⟩ = false :=
      isAbsolute_append "rep_" _ rfl (by decide)
    have hdir : dir.join ("rep_" ++ countText r) =
        ⟨dir.text ++ dir.separator ++ "rep_" ++ countText r⟩ := by
      rw [Path.join, if_neg (by simp [hsub]), ← String.append_assoc]
    have hsep : Path.separator ⟨dir.text ++ dir.separator ++ "rep_" ++ countText r⟩ = "/" :=
      separator_append_numeral _ _
    dsimp only [path, below, directory]
    rw [hdir, Path.join_text (isAbsolute_fileName _), hsep]
    simp only [String.append_assoc]
  | replica r p l n => exact Path.join_text (isAbsolute_fileName _)
  | treeReplica r p t n => exact Path.join_text (isAbsolute_fileName _)
  | storeClient c n t => exact Path.join_text (isAbsolute_fileName _)

/-- The first letter of what stands below the results directory: one for each kind of logs, but for
the replica logs. -/
def letter : LogName → Char
  | agreementClient .. => 'r'
  | replica .. => 't'
  | treeReplica .. => 't'
  | storeClient .. => 'c'

lemma head?_below (log : LogName) : log.below.toList.head? = some log.letter := by
  cases log <;> dsimp only [below, directory, fileName, letter] <;>
    simp only [String.append_assoc, String.toList_append, List.head?_append] <;> rfl

lemma agreementClient_below_inj {r r' c c' n n' : UInt32} {p p' : Protocol} {l l' : Layer}
    {t t' : Option String}
    (h : below (.agreementClient r c p l n t) = below (.agreementClient r' c' p' l' n' t')) :
    agreementClient r c p l n t = agreementClient r' c' p' l' n' t' := by
  have hslash : StartsPlain "/" := ⟨'/', by decide, by decide⟩
  dsimp only [below, directory, countText] at h
  simp only [String.append_assoc] at h
  replace h := String.append_right_inj _ |>.mp h
  obtain ⟨hr, h⟩ := numeral_append_inj (startsPlain_append hslash _) (startsPlain_append hslash _) h
  obtain rfl := UInt32.toNat_inj.mp hr
  obtain ⟨rfl, rfl, rfl, rfl, rfl⟩ :=
    agreementClient_fileName_inj (String.append_right_inj _ |>.mp h)
  rfl

/-- What stands below the results directory tells the parameters. -/
lemma below_injective : Function.Injective below := by
  intro a b h
  have hletter : a.letter = b.letter := by
    have hhead := head?_below a
    rw [h, head?_below b] at hhead
    exact (Option.some.inj hhead).symm
  cases a <;> cases b
  case agreementClient.agreementClient => exact agreementClient_below_inj h
  case replica.replica =>
    obtain ⟨rfl, rfl, rfl, rfl⟩ := replica_fileName_inj h
    rfl
  case treeReplica.treeReplica =>
    obtain ⟨rfl, rfl, rfl, rfl⟩ := treeReplica_fileName_inj h
    rfl
  case storeClient.storeClient =>
    obtain ⟨rfl, rfl, rfl⟩ := storeClient_fileName_inj h
    rfl
  case replica.treeReplica => exact absurd h (replica_fileName_ne_treeReplica _ _ _ _ _ _ _ _)
  case treeReplica.replica =>
    exact absurd h.symm (replica_fileName_ne_treeReplica _ _ _ _ _ _ _ _)
  -- all other pairs begin with different letters
  all_goals
    dsimp only [letter] at hletter
    exact absurd hletter (by decide)

lemma path_eq_of_locate {files : FileTree} {dir found : Path} {log : LogName}
    (h : log.locate files dir = some found) : log.path dir = found := by
  rw [locate] at h
  split_ifs at h
  exact Option.some.inj h

end LogName
end BenchReport
