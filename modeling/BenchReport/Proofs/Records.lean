import BenchReport.Record
import BenchReport.Proofs.Utf8

/-!
# What the scanner makes of a line

A line of a log or of a report is a row of cells between tabs.  `Cell written content` says how a
cell may be written so that the scanner reads its content: as it stands, if it holds neither a tab nor
a line end and does not start with a quote (`Cell.bare`), or between two quotes, if it holds none
(`Cell.quoted`).

The main statement is `Scanner.exists_run_cells`: on any row of cells that is not empty the scanner
comes to stand where a record may end (`Scanner.Ending`), and the record is the row of contents.  From
there the end of the input ends the record (`Scanner.Ending.run_nil`), and so does a line end, behind
which the scanner is ahead of a record again (`Scanner.Ending.run_end`).  Both forms are used: a
report has a line end behind every line (`map_fields_run_lines`), a log need not have one behind its
last line.

Marks are carried along, because errors name them, but nothing here depends on them.
-/

namespace BenchReport

/-- Where the reader stands behind some more bytes of the same record. -/
def Mark.past (mark : Mark) (bytes : List UInt8) : Mark :=
  ⟨mark.record, mark.line + bytes.count Record.lineFeed, mark.byte + bytes.length⟩

/-- Where the reader stands behind the end of a record. -/
def Mark.next (mark : Mark) : Mark := ⟨mark.record + 1, mark.line, mark.byte⟩

lemma Mark.past_nil (mark : Mark) : mark.past [] = mark := by
  simp [Mark.past]

lemma Mark.past_append (mark : Mark) (a b : List UInt8) :
    mark.past (a ++ b) = (mark.past a).past b := by
  simp [Mark.past, List.count_append, Nat.add_assoc]

namespace Record

/-- Whether a byte is an ordinary one: neither a tab nor a line end. -/
def isPlain (byte : UInt8) : Bool := byte != tab && !isEnd byte

/-- How the content of a field may be written. -/
inductive Cell : (written content : List UInt8) → Prop where
  /-- As it stands. -/
  | bare {content : List UInt8} (plain : ∀ byte ∈ content, isPlain byte = true)
      (unquoted : content.head? ≠ some quote) : Cell content content
  /-- Between quotes. -/
  | quoted {content : List UInt8} (free : quote ∉ content) :
      Cell (quote :: content ++ [quote]) content

/-- Whether a text can stand as a field without quotes. -/
def Unquoted (text : List Char) : Prop :=
  '\t' ∉ text ∧ '\n' ∉ text ∧ '\r' ∉ text ∧ text.head? ≠ some '\"'

lemma Unquoted.cell {text : List Char} (h : Unquoted text) :
    Cell (Utf8.encode text) (Utf8.encode text) := by
  obtain ⟨htab, hfeed, hreturn, hhead⟩ := h
  refine .bare (fun byte hbyte => ?_) (Utf8.head?_encode_ne (by decide) hhead)
  have hne : ∀ c : Char, c.toNat < 128 → c ∉ text → byte ≠ UInt8.ofNat c.toNat := by
    rintro c hc hmem rfl
    exact Utf8.not_mem_encode hc hmem hbyte
  have h1 : byte ≠ tab := hne '\t' (by decide) htab
  have h2 : byte ≠ lineFeed := hne '\n' (by decide) hfeed
  have h3 : byte ≠ carriageReturn := hne '\r' (by decide) hreturn
  simp [isPlain, isEnd, h1, h2, h3]

/-- The line of some cells. -/
def joinTabs (cells : List (List UInt8)) : List UInt8 := [tab].intercalate cells

namespace Scanner

/-- A scanner ahead of a record. -/
def fresh (start here : Mark) : Scanner := ⟨.between, start, here, [], []⟩

lemma advance_eq (s : Scanner) (byte : UInt8) :
    s.advance byte = { s with here := s.here.past [byte] } := by
  by_cases h : byte = lineFeed
  · subst h
    simp [advance, Mark.past]
  · simp [advance, Mark.past, h]

/-! ## Inside a cell -/

lemma run_bare (start here : Mark) (field : List UInt8) (fields : List (List UInt8))
    {bytes : List UInt8} (plain : ∀ byte ∈ bytes, isPlain byte = true) (rest : List UInt8) :
    (Scanner.mk .bare start here field fields).run (bytes ++ rest) =
      (Scanner.mk .bare start (here.past bytes) (bytes.reverse ++ field) fields).run rest := by
  induction bytes generalizing here field with
  | nil => simp [Mark.past_nil]
  | cons byte bytes ih =>
    rw [List.forall_mem_cons] at plain
    obtain ⟨hbyte, hbytes⟩ := plain
    simp only [isPlain, Bool.and_eq_true, bne_iff_ne, ne_eq, Bool.not_eq_true',
      ← beq_eq_false_iff_ne] at hbyte
    rw [List.cons_append, run]
    simp only [step, advance_eq, take, hbyte.1, hbyte.2, Bool.false_eq_true, if_false]
    rw [ih _ _ hbytes, ← Mark.past_append]
    simp

lemma run_quoted (start here : Mark) (field : List UInt8) (fields : List (List UInt8))
    {bytes : List UInt8} (free : quote ∉ bytes) (rest : List UInt8) :
    (Scanner.mk .quoted start here field fields).run (bytes ++ rest) =
      (Scanner.mk .quoted start (here.past bytes) (bytes.reverse ++ field) fields).run rest := by
  induction bytes generalizing here field with
  | nil => simp [Mark.past_nil]
  | cons byte bytes ih =>
    rw [List.mem_cons, not_or] at free
    have hbyte : (byte == quote) = false := beq_eq_false_iff_ne.mpr (Ne.symm free.1)
    rw [List.cons_append, run]
    simp only [step, advance_eq, take, hbyte, Bool.false_eq_true, if_false]
    rw [ih _ _ free.2, ← Mark.past_append]
    simp

/-- What the scanner may be in behind a cell: nothing but a tab or the end of the record is missing. -/
def Held (mode : Mode) (content : List UInt8) : Prop :=
  mode = .bare ∨ mode = .closing ∨ (mode = .fieldStart ∧ content = [])

/-- The scanner reads a cell and holds its content. -/
lemma exists_run_cell {written content : List UInt8} (cell : Cell written content)
    (start here : Mark) (fields : List (List UInt8)) :
    ∃ mode, Held mode content ∧ ∀ rest,
      (Scanner.mk .fieldStart start here [] fields).run (written ++ rest) =
        (Scanner.mk mode start (here.past written) content.reverse fields).run rest := by
  cases cell with
  | bare plain unquoted =>
    cases written with
    | nil => exact ⟨.fieldStart, .inr (.inr ⟨rfl, rfl⟩), fun rest => by simp [Mark.past_nil]⟩
    | cons byte bytes =>
      refine ⟨.bare, .inl rfl, fun rest => ?_⟩
      rw [List.forall_mem_cons] at plain
      obtain ⟨hbyte, hbytes⟩ := plain
      simp only [isPlain, Bool.and_eq_true, bne_iff_ne, ne_eq, Bool.not_eq_true',
        ← beq_eq_false_iff_ne] at hbyte
      have hquote : (byte == quote) = false := by
        simpa using unquoted
      rw [List.cons_append, run]
      simp only [step, advance_eq, startField, take, hbyte.1, hbyte.2, hquote,
        Bool.false_eq_true, if_false]
      rw [run_bare _ _ _ _ hbytes, ← Mark.past_append]
      simp
  | quoted free =>
    refine ⟨.closing, .inr (.inl rfl), fun rest => ?_⟩
    have hend : isEnd quote = false := by decide
    rw [List.cons_append, List.cons_append, List.append_assoc, run]
    simp only [step, advance_eq, startField, hend, beq_self_eq_true, if_true, Bool.false_eq_true,
      if_false]
    rw [run_quoted _ _ _ _ free, List.singleton_append, run]
    simp only [step, advance_eq, beq_self_eq_true, if_true, ← Mark.past_append]
    simp

/-- A tab behind a cell ends its field. -/
lemma run_tab {mode : Mode} {content : List UInt8} (held : Held mode content) (start here : Mark)
    (fields : List (List UInt8)) (rest : List UInt8) :
    (Scanner.mk mode start here content.reverse fields).run (tab :: rest) =
      (Scanner.mk .fieldStart start (here.past [tab]) [] (content :: fields)).run rest := by
  have hend : isEnd tab = false := by decide
  have hquote : (tab == quote) = false := by decide
  rw [run]
  rcases held with rfl | rfl | ⟨rfl, rfl⟩ <;>
    simp [step, advance_eq, startField, endField, hend, hquote]

/-! ## A whole record -/

/-- The scanner stands where the given record may end. -/
structure Ending (s : Scanner) (record : Raw) (here : Mark) : Prop where
  raw : s.raw = record
  here : s.here = here
  open_ : s.mode ≠ .between
  unquoted : s.mode ≠ .quoted

/-- A cell that is read can be the last one of its record. -/
lemma Held.ending {mode : Mode} {content : List UInt8} (held : Held mode content) (start here : Mark)
    (fields : List (List UInt8)) :
    (Scanner.mk mode start here content.reverse fields).Ending ⟨start, fields.reverse ++ [content]⟩
      here := by
  refine ⟨by simp [raw], rfl, ?_, ?_⟩
  · rcases held with rfl | rfl | ⟨rfl, -⟩ <;> simp
  · rcases held with rfl | rfl | ⟨rfl, -⟩ <;> simp

lemma Ending.run_nil {s : Scanner} {record : Raw} {here : Mark} (h : s.Ending record here) :
    s.run [] = [record] := by
  have hopen := h.open_
  rw [run, finish]
  split
  · contradiction
  · rw [h.raw]

lemma Ending.run_end {s : Scanner} {record : Raw} {here : Mark} (h : s.Ending record here)
    {byte : UInt8} (hbyte : isEnd byte = true) (rest : List UInt8) :
    s.run (byte :: rest) =
      record :: (fresh (here.past [byte]).next (here.past [byte]).next).run rest := by
  obtain ⟨mode, start, place, field, fields⟩ := s
  obtain ⟨hraw, rfl, hopen, hquoted⟩ := h
  have htab : (byte == tab) = false := by
    rw [beq_eq_false_iff_ne]
    rintro rfl
    exact absurd hbyte (by decide)
  have hquote : (byte == quote) = false := by
    rw [beq_eq_false_iff_ne]
    rintro rfl
    exact absurd hbyte (by decide)
  rw [run]
  cases mode with
  | between => contradiction
  | quoted => contradiction
  | _ => simp_all [step, advance_eq, endRecord, fresh, Mark.next, Scanner.raw]

/-- From the start of a field, a row of cells leads to where the record may end. -/
lemma exists_ending_cells {written contents : List (List UInt8)}
    (cells : List.Forall₂ Cell written contents) (hne : written ≠ []) (start here : Mark)
    (fields : List (List UInt8)) :
    ∃ s : Scanner, s.Ending ⟨start, fields.reverse ++ contents⟩ (here.past (joinTabs written)) ∧
      ∀ rest, (Scanner.mk .fieldStart start here [] fields).run (joinTabs written ++ rest) =
        s.run rest := by
  induction cells generalizing here fields with
  | nil => contradiction
  | @cons w c ws cs cell cells ih =>
    obtain ⟨mode, held, hrun⟩ := exists_run_cell cell start here fields
    cases cells with
    | nil =>
      refine ⟨⟨mode, start, here.past (joinTabs [w]), c.reverse, fields⟩,
        ⟨by simp [Scanner.raw], rfl, ?_, ?_⟩, fun rest => ?_⟩
      · rcases held with rfl | rfl | ⟨rfl, -⟩ <;> simp
      · rcases held with rfl | rfl | ⟨rfl, -⟩ <;> simp
      · simpa [joinTabs] using hrun rest
    | @cons w' c' ws' cs' cell' cells' =>
      obtain ⟨s, hending, hs⟩ := ih (by simp) ((here.past w).past [tab]) (c :: fields)
      have hjoin : joinTabs (w :: w' :: ws') = w ++ ([tab] ++ joinTabs (w' :: ws')) := by
        simp [joinTabs, List.intercalate_cons_cons]
      refine ⟨s, ?_, fun rest => ?_⟩
      · rw [hjoin, Mark.past_append, Mark.past_append]
        simpa using hending
      · rw [hjoin, List.append_assoc, hrun, List.append_assoc, List.singleton_append,
          run_tab held, hs]

/-- Ahead of a record, a byte that ends none starts a field. -/
lemma run_fresh_of_not_end (start here : Mark) {byte : UInt8} (h : isEnd byte = false)
    (rest : List UInt8) :
    (fresh start here).run (byte :: rest) =
      (Scanner.mk .fieldStart start here [] []).run (byte :: rest) := by
  rw [run, run]
  simp [step, fresh, advance_eq, startField, take, endField, h]

/-- Ahead of a record, a line end is only counted. -/
lemma run_fresh_of_end (start here : Mark) {byte : UInt8} (h : isEnd byte = true)
    (rest : List UInt8) :
    (fresh start here).run (byte :: rest) = (fresh start (here.past [byte])).run rest := by
  rw [run]
  simp [step, fresh, advance_eq, h]

/-- The first byte of a line that is not empty ends no record. -/
lemma isEnd_head_joinTabs {written contents : List (List UInt8)}
    (cells : List.Forall₂ Cell written contents) {byte : UInt8} {bytes : List UInt8}
    (h : joinTabs written = byte :: bytes) : isEnd byte = false := by
  cases cells with
  | nil => simp [joinTabs] at h
  | @cons w c ws cs cell cells =>
    -- an empty first cell is written as nothing, so the line then begins with a tab
    have hw : w = [] ∨ w.head? = some byte := by
      cases w with
      | nil => exact .inl rfl
      | cons b w =>
        cases ws <;> simp_all [joinTabs, List.intercalate_cons_cons]
    rcases hw with rfl | hw
    · cases ws with
      | nil => simp [joinTabs] at h
      | cons w' ws =>
        simp only [joinTabs, List.intercalate_cons_cons, List.nil_append, List.singleton_append,
          List.cons.injEq] at h
        rw [← h.1]
        decide
    · cases cell with
      | bare plain _ =>
        have hbyte := plain byte (List.mem_of_mem_head? hw)
        simp only [isPlain, Bool.and_eq_true, Bool.not_eq_true'] at hbyte
        exact hbyte.2
      | quoted _ =>
        simp only [List.cons_append, List.head?_cons, Option.some.injEq] at hw
        rw [← hw]
        decide

/-- Ahead of a record, a row of cells leads to where the record may end. -/
theorem exists_run_cells {written contents : List (List UInt8)}
    (cells : List.Forall₂ Cell written contents) (hne : joinTabs written ≠ [])
    (start here : Mark) :
    ∃ s : Scanner, s.Ending ⟨start, contents⟩ (here.past (joinTabs written)) ∧
      ∀ rest, (fresh start here).run (joinTabs written ++ rest) = s.run rest := by
  have hcells : written ≠ [] := by
    rintro rfl
    exact hne rfl
  obtain ⟨s, hending, hs⟩ := exists_ending_cells cells hcells start here []
  refine ⟨s, by simpa using hending, fun rest => ?_⟩
  rw [← hs]
  obtain ⟨byte, bytes, hline⟩ := List.exists_cons_of_ne_nil hne
  rw [hline, List.cons_append]
  exact run_fresh_of_not_end start here (isEnd_head_joinTabs cells hline) _

/-- A file in which every line is a row of cells and has a line end behind it is read line by
line. -/
theorem map_fields_run_lines {α : Type} (written contents : α → List (List UInt8))
    (rows : List α) (cells : ∀ row ∈ rows, List.Forall₂ Cell (written row) (contents row))
    (hne : ∀ row ∈ rows, joinTabs (written row) ≠ []) (start here : Mark) :
    ((fresh start here).run (rows.flatMap fun row => joinTabs (written row) ++ [lineFeed])).map
      Raw.fields = rows.map contents := by
  induction rows generalizing start here with
  | nil => rfl
  | cons row rows ih =>
    rw [List.forall_mem_cons] at cells hne
    obtain ⟨s, hending, hs⟩ := exists_run_cells cells.1 hne.1 start here
    rw [List.flatMap_cons, List.append_assoc, hs, List.singleton_append,
      hending.run_end (by decide), List.map_cons, List.map_cons, ih cells.2 hne.2]

end Scanner
end Record
end BenchReport
