import BenchReport.Plot.Error
import BenchReport.Proofs.Numerals
import BenchReport.Proofs.SummaryRow
import BenchReport.Proofs.Scans

/-!
# Which points a text holds

A text is looked at as lines of characters (`Surface.textLines`), and a line as words.  A line that
starts with a digit, a point or a space and has at least three words is a point line
(`Surface.IsPointLine`), and all others are prose.  The first three words of a point line must be two
indices of 64 bits and a real (`Surface.Holds`); the first of them that is not is its fault
(`Surface.Fault`).

`Surface.readPoints_spec` says that the reader of points finds what these say: the points of the point
lines, one for each and in order, unless one of them has a fault.  Then the first such line is the
error, with its number among all lines, its first bad word and what that word should have been.
Neither prose nor words behind the third matter, but for the numbers of the lines.
-/

namespace BenchReport
namespace Surface

/-! ## Lines -/

/-- A line without the carriage return at its end, if there is one. -/
def withoutReturn (line : List Char) : List Char :=
  if line.getLast? = some '\r' then line.dropLast else line

/-- The lines of a text.  What stands behind the last line feed is a line of its own, unless nothing
does, and has no end that a carriage return could be part of. -/
def textLines (text : List Char) : List (List Char) :=
  let pieces := text.splitOn '\n'
  pieces.dropLast.map withoutReturn ++ pieces.getLast?.toList.filter (· ≠ [])

/-- A carriage return can be taken off as a byte. -/
lemma withoutReturn_encode (line : List Char) :
    (if (Utf8.encode line).getLast? == some 13 then (Utf8.encode line).dropLast
      else Utf8.encode line) = Utf8.encode (withoutReturn line) := by
  have hreturn : Utf8.encode ['\r'] = [13] := by decide
  by_cases h : line.getLast? = some '\r'
  · obtain ⟨front, rfl⟩ := List.getLast?_eq_some_iff.mp h
    simp [withoutReturn, Utf8.encode_append, hreturn]
  · have hbyte : (Utf8.encode line).getLast? ≠ some 13 := Utf8.getLast?_encode_ne (by decide) h
    rw [withoutReturn, if_neg h, if_neg (by simpa using hbyte)]

/-- The lines of the bytes are the bytes of the lines. -/
lemma lines_encode (text : List Char) :
    lines (Utf8.encode text) = (textLines text).map Utf8.encode := by
  have hfeed : (10 : UInt8) = UInt8.ofNat '\n'.toNat := rfl
  have hpieces : (Utf8.encode text).splitOnP (· == 10) = (text.splitOn '\n').map Utf8.encode := by
    rw [← List.splitOn_eq_splitOnP, hfeed, Utf8.splitOn_encode (by decide)]
  rw [lines, textLines, hpieces]
  simp only [List.map_append, ← List.map_dropLast, List.map_map, List.getLast?_map]
  congr 1
  · refine List.map_congr_left fun line _ => ?_
    exact withoutReturn_encode line
  · cases (text.splitOn '\n').getLast? with
    | none => rfl
    | some last => by_cases hlast : last = [] <;> simp [hlast]

/-! ## Points -/

/-- A line that is read as a point, and not as prose. -/
def IsPointLine (line : List Char) : Prop :=
  line.head?.any (fun c => c.isDigit || c == '.' || c == ' ') = true ∧ 3 ≤ (Text.words line).length

instance : DecidablePred IsPointLine := fun line =>
  inferInstanceAs (Decidable (_ = true ∧ 3 ≤ (Text.words line).length))

/-- The words of a line that make its point. -/
def pointWords (line : List Char) : List (List Char) := (Text.words line).take 3

/-- A word that writes an index. -/
def WritesIndex (word : List Char) (n : ℕ) : Prop := Numeral.IsNatural 10 word n ∧ n < 2 ^ 64

/-- A line that holds a point. -/
def Holds (line : List Char) (point : SurfacePoint) : Prop :=
  ∃ x y z, pointWords line = [x, y, z] ∧
    WritesIndex x point.x ∧ WritesIndex y point.y ∧ Numeral.IsReal z point.z

/-- The first word of a line that is not the number that should stand there. -/
inductive Fault (line : List Char) : Coordinate → List Char → Prop
  | x {x y z : List Char} (hwords : pointWords line = [x, y, z]) (hx : ¬ ∃ n, WritesIndex x n) :
    Fault line .xIndex x
  | y {x y z : List Char} (hwords : pointWords line = [x, y, z]) (hx : ∃ n, WritesIndex x n)
    (hy : ¬ ∃ n, WritesIndex y n) : Fault line .yIndex y
  | z {x y z : List Char} (hwords : pointWords line = [x, y, z]) (hx : ∃ n, WritesIndex x n)
    (hy : ∃ n, WritesIndex y n) (hz : ¬ ∃ r, Numeral.IsReal z r) : Fault line .zValue z

/-- A point line that does not hold a point. -/
def IsOff (line : List Char) : Prop := IsPointLine line ∧ ¬ ∃ point, Holds line point

/-! ## Reading one line -/

lemma startsPoint_eq (line : List Char) :
    startsPoint line = line.head?.any fun c => c.isDigit || c == '.' || c == ' ' := by
  cases line with
  | nil => rfl
  | cons c rest =>
    have hdigit : Numeral.isDigit c = c.isDigit := rfl
    rw [startsPoint, hdigit, List.head?_cons, Option.any_some]

lemma unsigned_index {word : List Char} {n : ℕ} :
    Numeral.unsigned 10 Numeral.maxU64 word = .ok n ↔ WritesIndex word n := by
  have hbound : n ≤ Numeral.maxU64 ↔ n < 2 ^ 64 := by
    norm_num [Numeral.maxU64]
    omega
  rw [Numeral.unsigned_eq_ok, hbound, WritesIndex]

/-- Reading an index finds the index that a word writes, or that it writes none. -/
lemma index_cases (word : List Char) :
    (∃ n, Numeral.unsigned 10 Numeral.maxU64 word = .ok n ∧ WritesIndex word n) ∨
      ∃ cause, Numeral.unsigned 10 Numeral.maxU64 word = .error cause ∧
        ¬ ∃ n, WritesIndex word n := by
  cases h : Numeral.unsigned 10 Numeral.maxU64 word with
  | ok n => exact .inl ⟨n, rfl, unsigned_index.mp h⟩
  | error cause =>
    refine .inr ⟨cause, rfl, ?_⟩
    rintro ⟨n, hn⟩
    rw [unsigned_index.mpr hn] at h
    cases h

lemma real?_ofList {word : List Char} {r : Float} :
    Numeral.real? (String.ofList word) = some r ↔ Numeral.IsReal word r := by
  rw [Numeral.real?_eq_some, String.toList_ofList]

lemma WritesIndex.unique {word : List Char} {n m : ℕ} (hn : WritesIndex word n)
    (hm : WritesIndex word m) : n = m := by
  have h := unsigned_index.mpr hn
  rw [unsigned_index.mpr hm] at h
  exact (Except.ok.inj h).symm

/-- A line holds one point only. -/
lemma Holds.unique {line : List Char} {point other : SurfacePoint} (h : Holds line point)
    (hother : Holds line other) : point = other := by
  obtain ⟨x, y, z, hwords, hx, hy, hz⟩ := h
  obtain ⟨x', y', z', hwords', hx', hy', hz'⟩ := hother
  rw [hwords] at hwords'
  obtain ⟨rfl, rfl, rfl⟩ : x = x' ∧ y = y' ∧ z = z' := by simpa using hwords'
  have hsome := real?_ofList.mpr hz
  rw [real?_ofList.mpr hz'] at hsome
  cases point with | mk px py pz =>
  cases other with | mk qx qy qz =>
  obtain rfl : px = qx := hx.unique hx'
  obtain rfl : py = qy := hy.unique hy'
  obtain rfl : qz = pz := Option.some.inj hsome
  rfl

/-- A line with a fault holds no point. -/
lemma Fault.not_holds {line : List Char} {coordinate : Coordinate} {word : List Char}
    (h : Fault line coordinate word) : ¬ ∃ point, Holds line point := by
  rintro ⟨point, x', y', z', hwords', hx', hy', hz'⟩
  cases h with
  | x hwords hx =>
    obtain ⟨rfl, -, -⟩ : _ = x' ∧ _ = y' ∧ _ = z' := by simpa using hwords.symm.trans hwords'
    exact hx ⟨_, hx'⟩
  | y hwords _ hy =>
    obtain ⟨-, rfl, -⟩ : _ = x' ∧ _ = y' ∧ _ = z' := by simpa using hwords.symm.trans hwords'
    exact hy ⟨_, hy'⟩
  | z hwords _ _ hz =>
    obtain ⟨-, -, rfl⟩ : _ = x' ∧ _ = y' ∧ _ = z' := by simpa using hwords.symm.trans hwords'
    exact hz ⟨_, hz'⟩

/-- A line has one fault only. -/
lemma Fault.unique {line : List Char} {coordinate other : Coordinate} {word otherWord : List Char}
    (h : Fault line coordinate word) (hother : Fault line other otherWord) :
    coordinate = other ∧ word = otherWord := by
  cases h <;> cases hother <;> simp_all

lemma pointIn_of_not_isPointLine {line : List Char} (number : ℕ) (h : ¬ IsPointLine line) :
    pointIn number line = .ok none := by
  rw [IsPointLine, ← startsPoint_eq] at h
  rw [pointIn]
  split_ifs with hstart
  · split
    · rename_i hwords
      simp [hstart, hwords] at h
    · rfl
  · rfl

/-- Reading a point line finds its point or its fault. -/
lemma pointIn_of_isPointLine {line : List Char} (number : ℕ) (h : IsPointLine line) :
    (∃ point, Holds line point ∧ pointIn number line = .ok (some point)) ∨
      ∃ coordinate word, Fault line coordinate word ∧
        pointIn number line = .error (.invalid number coordinate (String.ofList word)) := by
  obtain ⟨hstart, hlength⟩ := h
  obtain ⟨x, y, z, rest, hwords⟩ : ∃ x y z rest, Text.words line = x :: y :: z :: rest := by
    match hwords : Text.words line with
    | x :: y :: z :: rest => exact ⟨x, y, z, rest, rfl⟩
    | [] | [_] | [_, _] => simp [hwords] at hlength
  have hpoint : pointWords line = [x, y, z] := by simp [pointWords, hwords]
  have hread : pointIn number line = (pointOf number x y z).map some := by
    rw [pointIn, startsPoint_eq, if_pos hstart, hwords]
  rw [hread, pointOf]
  rcases index_cases x with ⟨px, hxread, hx⟩ | ⟨cause, hxread, hx⟩
  · rcases index_cases y with ⟨py, hyread, hy⟩ | ⟨cause, hyread, hy⟩
    · cases hzread : Numeral.real? (String.ofList z) with
      | some pz =>
        exact .inl ⟨⟨px, py, pz⟩, ⟨x, y, z, hpoint, hx, hy, real?_ofList.mp hzread⟩, by
          simp [hxread, hyread, Except.map]⟩
      | none =>
        have hz : ¬ ∃ r, Numeral.IsReal z r := by
          rintro ⟨r, hr⟩
          rw [real?_ofList.mpr hr] at hzread
          cases hzread
        exact .inr ⟨.zValue, z, .z hpoint ⟨_, hx⟩ ⟨_, hy⟩ hz, by
          simp [hxread, hyread, Except.map]⟩
    · exact .inr ⟨.yIndex, y, .y hpoint ⟨_, hx⟩ hy, by simp [hxread, hyread, Except.map]⟩
  · exact .inr ⟨.xIndex, x, .x hpoint hx, by simp [hxread, Except.map]⟩

/-! ## Reading all lines -/

lemma pointsFrom_cons (number : ℕ) (line : List Char) (rest : List (List UInt8)) :
    pointsFrom number (Utf8.encode line :: rest) =
      match pointIn number line with
      | .error error => .error error
      | .ok found => (pointsFrom (number + 1) rest).map (found.toList ++ ·) := by
  cases hread : pointIn number line <;> simp [pointsFrom, hread]

/-- The points of some lines are found if all of them are there. -/
lemma pointsFrom_eq_ok {texts : List (List Char)} {number : ℕ} {found : List SurfacePoint} :
    pointsFrom number (texts.map Utf8.encode) = .ok found ↔
      List.Forall₂ Holds (texts.filter IsPointLine) found := by
  induction texts generalizing number found with
  | nil => simp [pointsFrom, eq_comm]
  | cons line rest ih =>
    rw [List.map_cons, pointsFrom_cons]
    by_cases hline : IsPointLine line
    · rw [List.filter_cons_of_pos (by simpa using hline), List.forall₂_cons_left_iff]
      rcases pointIn_of_isPointLine number hline with ⟨point, hholds, hread⟩ | ⟨_, _, hfault, hread⟩
      · simp only [hread, Log.map_eq_ok, ih]
        constructor
        · rintro ⟨later, hlater, rfl⟩
          exact ⟨point, later, hholds, hlater, rfl⟩
        · rintro ⟨other, later, hother, hlater, rfl⟩
          obtain rfl := hholds.unique hother
          exact ⟨later, hlater, rfl⟩
      · simp only [hread, reduceCtorEq, false_iff]
        rintro ⟨point, -, hholds, -⟩
        exact hfault.not_holds ⟨point, hholds⟩
    · have hrest : pointsFrom (number + 1) (rest.map Utf8.encode) = .ok found ↔
          List.Forall₂ Holds (rest.filter IsPointLine) found := ih
      rw [List.filter_cons_of_neg (by simpa using hline), pointIn_of_not_isPointLine number hline,
        ← hrest]
      cases pointsFrom (number + 1) (rest.map Utf8.encode) <;> simp [Except.map]

lemma isOff_of_fault {line : List Char} {coordinate : Coordinate} {word : List Char}
    (hline : IsPointLine line) (h : Fault line coordinate word) : IsOff line :=
  ⟨hline, h.not_holds⟩

/-- The first line that is off is the error. -/
lemma pointsFrom_eq_error {texts : List (List Char)} {number : ℕ} {error : PointError} :
    pointsFrom number (texts.map Utf8.encode) = .error error ↔
      ∃ before line coordinate word, FirstWith IsOff texts before line ∧ Fault line coordinate word ∧
        error = .invalid (number + before.length) coordinate (String.ofList word) := by
  induction texts generalizing number with
  | nil => simp [pointsFrom, not_firstWith_nil]
  | cons line rest ih =>
    rw [List.map_cons, pointsFrom_cons]
    by_cases hoff : IsOff line
    · rcases pointIn_of_isPointLine number hoff.1 with ⟨point, hholds, -⟩ |
        ⟨coordinate, word, h, hread⟩
      · exact absurd ⟨point, hholds⟩ hoff.2
      · simp only [hread, firstWith_cons_of_pos hoff, Except.error.injEq]
        constructor
        · rintro rfl
          exact ⟨[], line, coordinate, word, ⟨rfl, rfl⟩, h, rfl⟩
        · rintro ⟨_, _, _, _, ⟨rfl, rfl⟩, hfault, rfl⟩
          obtain ⟨rfl, rfl⟩ := h.unique hfault
          rfl
    · obtain ⟨found, hread⟩ : ∃ found, pointIn number line = .ok found := by
        by_cases hline : IsPointLine line
        · rcases pointIn_of_isPointLine number hline with ⟨point, -, hread⟩ | ⟨_, _, hfault, -⟩
          · exact ⟨_, hread⟩
          · exact absurd (isOff_of_fault hline hfault) hoff
        · exact ⟨_, pointIn_of_not_isPointLine number hline⟩
      simp only [hread, Log.map_eq_error, ih, firstWith_cons_of_neg hoff]
      constructor
      · rintro ⟨before, first, coordinate, word, hfirst, hfault, rfl⟩
        refine ⟨line :: before, first, coordinate, word, ⟨before, rfl, hfirst⟩, hfault, ?_⟩
        rw [List.length_cons, Nat.add_comm before.length, ← Nat.add_assoc]
      · rintro ⟨_, first, coordinate, word, ⟨before, rfl, hfirst⟩, hfault, rfl⟩
        refine ⟨before, first, coordinate, word, hfirst, hfault, ?_⟩
        rw [List.length_cons, Nat.add_comm before.length, ← Nat.add_assoc]

lemma outcome_readPoints (text : List Char) : (readPoints (Utf8.encode text)).outcome =
    pointsFrom 1 ((textLines text).map Utf8.encode) := by
  rw [readPoints, points, lines_encode]
  cases pointsFrom 1 ((textLines text).map Utf8.encode) <;> rfl

/-- Nothing but the words of the points matters. -/
lemma forall₂_holds_congr {lines others : List (List Char)}
    (h : others.map pointWords = lines.map pointWords) {found : List SurfacePoint} :
    List.Forall₂ Holds others found ↔ List.Forall₂ Holds lines found := by
  have hwords : ∀ texts : List (List Char), List.Forall₂ Holds texts found ↔
      List.Forall₂ (fun words point => ∃ x y z, words = [x, y, z] ∧ WritesIndex x point.x ∧
        WritesIndex y point.y ∧ Numeral.IsReal z point.z) (texts.map pointWords) found := by
    intro texts
    rw [List.forall₂_map_left_iff]
    rfl
  rw [hwords, hwords, h]

/-- **What is read as points.**  Points are found exactly if every point line holds one, and then they
are those, in the order of the lines.  Other lines have no influence on them, nor do words behind the
third.  Otherwise the first point line that does not hold one is the error, with its number among all
lines and its first word that is not the number that should stand there. -/
theorem readPoints_spec (text : List Char) :
    ((∃ found, (readPoints (Utf8.encode text)).outcome = .ok found) ↔
      ∀ line ∈ textLines text, IsPointLine line → ∃ point, Holds line point) ∧
    (∀ found, (readPoints (Utf8.encode text)).outcome = .ok found ↔
      List.Forall₂ Holds ((textLines text).filter IsPointLine) found) ∧
    (∀ other, ((textLines other).filter IsPointLine).map pointWords =
        ((textLines text).filter IsPointLine).map pointWords →
      ∀ found, (readPoints (Utf8.encode other)).outcome = .ok found ↔
        (readPoints (Utf8.encode text)).outcome = .ok found) ∧
    ∀ error, (readPoints (Utf8.encode text)).outcome = .error error ↔
      ∃ before line coordinate word, FirstWith IsOff (textLines text) before line ∧
        Fault line coordinate word ∧
        error = .invalid (before.length + 1) coordinate (String.ofList word) ∧
        error.message = "Invalid surface point on line " ++ toString (before.length + 1) ++ ": " ++
          String.ofList word ++ " is not a valid " ++ coordinate.title := by
  have hok : ∀ text found, (readPoints (Utf8.encode text)).outcome = .ok found ↔
      List.Forall₂ Holds ((textLines text).filter IsPointLine) found := by
    intro text found
    rw [outcome_readPoints, pointsFrom_eq_ok]
  refine ⟨?_, hok text, ?_, ?_⟩
  · simp only [hok, exists_forall₂_iff, List.mem_filter, decide_eq_true_eq, and_imp]
  · intro other hsame found
    rw [hok, hok, forall₂_holds_congr hsame]
  · intro error
    rw [outcome_readPoints, pointsFrom_eq_error]
    constructor
    · rintro ⟨before, line, coordinate, word, hfirst, hfault, rfl⟩
      rw [Nat.add_comm 1]
      exact ⟨before, line, coordinate, word, hfirst, hfault, rfl, rfl⟩
    · rintro ⟨before, line, coordinate, word, hfirst, hfault, rfl, -⟩
      rw [Nat.add_comm]
      exact ⟨before, line, coordinate, word, hfirst, hfault, rfl⟩

/-- Points among prose, the same points elsewhere, and a line that is off. -/
theorem readPoints_spec_prose :
    let text := "ms of 3 runs\n 1 02 .5 more\r\n3 4".toList
    let other := "x 1 2 3\n 1 02\t.5".toList
    let off := "0 0 0\nx 1 2\n7 2.0 x\n8 x 9".toList
    (readPoints (Utf8.encode text)).outcome = .ok [⟨1, 2, Numeral.scale 5 (0 - 1)⟩] ∧
      (readPoints (Utf8.encode other)).outcome = .ok [⟨1, 2, Numeral.scale 5 (0 - 1)⟩] ∧
      (readPoints (Utf8.encode off)).outcome = .error (.invalid 3 .yIndex "2.0") := by
  intro text other off
  obtain ⟨-, hok, hother, -⟩ := readPoints_spec text
  obtain ⟨-, -, -, herror⟩ := readPoints_spec off
  have hlines : (textLines text).filter IsPointLine = [" 1 02 .5 more".toList] := by decide +kernel
  have hsame : ((textLines other).filter IsPointLine).map pointWords =
      ((textLines text).filter IsPointLine).map pointWords := by decide +kernel
  have hfive : Numeral.IsDigits 10 ['5'] 5 :=
    Numeral.isDigits_ten_iff.mpr ⟨by decide, by simp [Numeral.isDigit], rfl⟩
  have hnought : Numeral.IsDigits 10 ['0'] 0 :=
    Numeral.isDigits_ten_iff.mpr ⟨by decide, by simp [Numeral.isDigit], rfl⟩
  have hhalf : Numeral.IsReal ".5".toList (Numeral.scale 5 (0 - 1)) :=
    .bare (@Numeral.IsMagnitude.decimal ['.', '5'] [] 5 1 0
      (@Numeral.IsMantissa.pointed [] ['5'] 5 hfive) .absent)
  have hpoint : (readPoints (Utf8.encode text)).outcome = .ok [⟨1, 2, Numeral.scale 5 (0 - 1)⟩] := by
    refine (hok _).mpr ?_
    rw [hlines]
    exact .cons ⟨"1".toList, "02".toList, ".5".toList, by decide +kernel, unsigned_index.mp rfl,
      unsigned_index.mp rfl, hhalf⟩ .nil
  have hzero : Holds "0 0 0".toList ⟨0, 0, _⟩ :=
    ⟨['0'], ['0'], ['0'], by decide +kernel, unsigned_index.mp rfl, unsigned_index.mp rfl,
      .bare (@Numeral.IsMagnitude.decimal ['0'] [] 0 0 0 (.whole hnought) .absent)⟩
  have hpointed : ¬ ∃ n, WritesIndex "2.0".toList n := by
    rintro ⟨n, hn⟩
    have hread : Except.error NumeralError.invalidDigit = Except.ok n := unsigned_index.mpr hn
    cases hread
  have hfault : Fault "7 2.0 x".toList .yIndex "2.0".toList :=
    @Fault.y _ "7".toList "2.0".toList "x".toList (by decide +kernel) ⟨7, unsigned_index.mp rfl⟩
      hpointed
  refine ⟨hpoint, (hother other hsame _).mpr hpoint, (herror _).mpr ?_⟩
  refine ⟨["0 0 0".toList, "x 1 2".toList], "7 2.0 x".toList, .yIndex, "2.0".toList,
    ⟨isOff_of_fault (by decide +kernel) hfault, ?_, ["8 x 9".toList], by decide +kernel⟩, hfault,
    rfl, rfl⟩
  rintro earlier hearlier ⟨hline, hno⟩
  rcases List.mem_pair.mp hearlier with rfl | rfl
  · exact hno ⟨_, hzero⟩
  · exact absurd hline (by decide +kernel)

end Surface
end BenchReport
