import Mathlib.Data.List.Basic
import Outline.Diagnostic.Report
import Outline.Proofs.Change.Rewrite
import Outline.Proofs.Text.Offsets
import Outline.Proofs.Text.Slices
import Outline.Text.Lines

/-!
# Lines that are shown and lines that are edited

Lines are shown by cutting a text at its line feeds, and found for editing by counting line feeds up
to an offset. Both number them alike: `lineOf?` takes the line of a number from the offset of its
first column on, and that is the line that is shown under this number. Only the empty line at the
very end of a text is never shown.
-/

namespace Outline

/-! ### Lines by their offsets -/

/-- The line at the front of a text: up to the next line feed without the carriage return directly
before it, or else up to the end. -/
def lineAhead (rest : List Char) : List Char :=
  if '\n' ∈ rest then
    let line := rest.takeWhile (· ≠ '\n')
    if line.getLast? = some '\r' then line.dropLast else line
  else rest

/-- The line of a number, from the offset of its first column on. A line that starts at the very end
of the text does not count. -/
def lineOf? (text : String) (k : Nat) : Option String :=
  (offset text.toList ⟨k, 0⟩).bind fun start =>
    let rest := dropBytes start text.toList
    if rest = [] then none else some (String.ofList (lineAhead rest))

/-- The lines with the numbers from `first` to `last` that there are. -/
def linesBetween (text : String) (first last : Nat) : List String :=
  (List.range' first (last + 1 - first)).filterMap (lineOf? text)

lemma lineOf?_eq (text : String) (k : Nat) :
    lineOf? text k = (afterLines k text.toList).bind fun rest =>
      if rest = [] then none else some (String.ofList (lineAhead rest)) := by
  rw [lineOf?]
  cases hback : afterLines k text.toList with
  | none => rw [offset_eq_none_iff.mpr (afterLines_eq_none_iff.mp hback), Option.bind_none,
      Option.bind_none]
  | some back =>
    obtain ⟨front, hlines⟩ := linesBefore_of_afterLines hback
    have hstart := offset_lineStart_eq_some_iff.mpr ⟨front, back, hlines, rfl⟩
    have hrest : dropBytes (utf8Length front) text.toList = back := by
      rw [hlines.append, dropBytes_append]
    rw [hstart, Option.bind_some, Option.bind_some, hrest]

/-! ### Lines as they are shown -/

lemma dropReturn_eq (line : List Char) :
    dropReturn line = if line.getLast? = some '\r' then line.dropLast else line := by
  rcases List.eq_nil_or_concat line with rfl | ⟨front, last, rfl⟩
  · rfl
  · by_cases hlast : last = '\r'
    · subst hlast
      simp [dropReturn]
    · simp [dropReturn, hlast]

lemma shownLinesFrom_nil {done : List Char} (h : done ≠ []) :
    shownLinesFrom done [] = [done.reverse] := by
  cases done with
  | nil => exact absurd rfl h
  | cons c done => rfl

lemma shownLinesFrom_cons_feed (done cs : List Char) :
    shownLinesFrom done ('\n' :: cs) = dropReturn done.reverse :: shownLinesFrom [] cs := by
  cases done with
  | nil => rfl
  | cons c done => rfl

lemma shownLinesFrom_append (done : List Char) {line : List Char} (hline : '\n' ∉ line)
    (rest : List Char) :
    shownLinesFrom done (line ++ rest) = shownLinesFrom (line.reverse ++ done) rest := by
  induction line generalizing done with
  | nil => rfl
  | cons c line ih =>
    rw [List.mem_cons, not_or] at hline
    rw [List.cons_append, shownLinesFrom, ih (c :: done) hline.2, List.reverse_cons,
      List.append_assoc, List.singleton_append]
    exact fun h => hline.1 h.symm

lemma shownLinesFrom_feed {line : List Char} (hline : '\n' ∉ line) (rest : List Char) :
    shownLinesFrom [] (line ++ '\n' :: rest) =
      lineAhead (line ++ '\n' :: rest) :: shownLinesFrom [] rest := by
  have hahead : lineAhead (line ++ '\n' :: rest) = dropReturn line := by
    simp only [lineAhead, takeWhile_append_feed hline, dropReturn_eq]
    exact if_pos (by simp)
  rw [shownLinesFrom_append [] hline, List.append_nil, shownLinesFrom_cons_feed,
    List.reverse_reverse, hahead]

lemma shownLinesFrom_last {line : List Char} (hline : '\n' ∉ line) (hne : line ≠ []) :
    shownLinesFrom [] line = [lineAhead line] := by
  have happend := shownLinesFrom_append [] hline []
  rw [List.append_nil, List.append_nil] at happend
  rw [happend, lineAhead, if_neg hline, shownLinesFrom_nil (mt List.reverse_eq_nil_iff.mp hne),
    List.reverse_reverse]

/-- Behind `k` line feeds stands the line that is shown under the number `k`. -/
lemma getElem?_shownLinesFrom (k : Nat) (cs : List Char) :
    (shownLinesFrom [] cs)[k]? = (afterLines k cs).bind fun rest =>
      if rest = [] then none else some (lineAhead rest) := by
  by_cases hfeed : '\n' ∈ cs
  · obtain ⟨line, rest, rfl, hline⟩ := List.eq_append_cons_of_mem hfeed
    rw [shownLinesFrom_feed hline]
    cases k with
    | zero => simp [afterLines]
    | succ k =>
      rw [List.getElem?_cons_succ, afterLines_append_feed hline]
      exact getElem?_shownLinesFrom k rest
  · by_cases hnil : cs = []
    · subst hnil
      cases k <;> rfl
    · rw [shownLinesFrom_last hfeed hnil]
      cases k with
      | zero => simp [afterLines, hnil]
      | succ k =>
        have hnone : afterLines (k + 1) cs = none := by
          rw [afterLines_eq_none_iff, List.count_eq_zero.mpr hfeed]
          exact Nat.succ_pos k
        simp [hnone]

lemma getElem?_shownLines (text : String) (k : Nat) : (shownLines text)[k]? = lineOf? text k := by
  rw [shownLines, List.getElem?_map, getElem?_shownLinesFrom, lineOf?_eq, Option.map_bind]
  refine Option.bind_congr fun rest _ => ?_
  rw [Function.comp_apply]
  split <;> rfl

lemma take_drop_eq_filterMap {α : Type} (as : List α) (first count : Nat) :
    (as.drop first).take count = (List.range' first count).filterMap (as[·]?) := by
  induction count generalizing first with
  | zero => rfl
  | succ count ih =>
    rw [List.range'_succ]
    by_cases hfirst : first < as.length
    · rw [List.drop_eq_getElem_cons hfirst, List.take_succ_cons, ih,
        List.filterMap_cons_some (List.getElem?_eq_getElem hfirst)]
    · have hlen : as.length ≤ first := Nat.le_of_not_lt hfirst
      rw [List.filterMap_cons_none (List.getElem?_eq_none hlen), ← ih, List.drop_eq_nil_of_le hlen,
        List.drop_eq_nil_of_le (Nat.le_succ_of_le hlen), List.take_nil, List.take_nil]

lemma lineWindow_eq (text : String) (first last : Nat) :
    lineWindow text first (last + 1 - first) = linesBetween text first last := by
  rw [lineWindow, take_drop_eq_filterMap, linesBetween]
  exact congrArg (List.filterMap · _) (funext fun k => getElem?_shownLines text k)

/-! ### Editing a line -/

/-- What columns count of a line is a part of the line that is shown. -/
lemma frontLine_isPrefix_lineAhead (rest : List Char) : frontLine rest <+: lineAhead rest := by
  obtain ⟨returns, htrim⟩ : ∃ returns, rest.takeWhile (· ≠ '\n') = frontLine rest ++ returns :=
    ⟨_, eq_trimEnd_append _ _⟩
  rw [lineAhead]
  split
  · rw [htrim]
    dsimp only
    split
    · rename_i hlast
      rcases List.eq_nil_or_concat returns with rfl | ⟨init, last, rfl⟩
      · rw [List.append_nil] at hlast
        exact absurd hlast (getLast?_trimEnd_ne _ (by simp))
      · rw [List.concat_eq_append, ← List.append_assoc, List.dropLast_concat]
        exact List.prefix_append _ _
    · exact List.prefix_append _ _
  · exact (List.prefix_append _ _).trans (htrim ▸ List.takeWhile_prefix _)

lemma lineAhead_isPrefix (rest : List Char) : lineAhead rest <+: rest := by
  rw [lineAhead]
  split
  · dsimp only
    split
    · exact (List.dropLast_prefix _).trans (List.takeWhile_prefix _)
    · exact List.takeWhile_prefix _
  · exact List.prefix_rfl

/-- `front` and `back` are what stands around the line of a number, from the offset of its first
column on. -/
structure Around (text : String) (k : Nat) (front : List Char) (line : String) (back : List Char) :
    Prop where
  append : text.toList = front ++ line.toList ++ back
  start  : offset text.toList ⟨k, 0⟩ = some (utf8Length front)

/-- An edit of a part of the line replaces just that, whatever the columns are. -/
lemma exists_applyEdits_in_line {text line : String} {k : Nat} (h : lineOf? text k = some line) :
    ∃ front back, Around text k front line back ∧ ∀ c c' newText, c ≤ c' →
      ∃ before middle after, line.toList = before ++ middle ++ after ∧
        applyEdits text [⟨⟨⟨k, c⟩, ⟨k, c'⟩⟩, newText⟩] =
          .ok (String.ofList (front ++ (before ++ newText.toList ++ after) ++ back)) := by
  rw [lineOf?_eq, Option.bind_eq_some_iff] at h
  obtain ⟨rest, hrest, h⟩ := h
  rw [Option.ite_none_left_eq_some, Option.some.injEq] at h
  obtain ⟨-, rfl⟩ := h
  obtain ⟨front, hlines⟩ := linesBefore_of_afterLines hrest
  obtain ⟨back, hback⟩ := lineAhead_isPrefix rest
  obtain ⟨tail, htail⟩ := frontLine_isPrefix_lineAhead rest
  refine ⟨front, back, ⟨?_, offset_lineStart_eq_some_iff.mpr ⟨front, rest, hlines, rfl⟩⟩, ?_⟩
  · rw [String.toList_ofList, List.append_assoc, hback, hlines.append]
  intro c c' newText hle
  obtain ⟨before, hbefore, -⟩ := exists_columnAt c (frontLine rest)
  obtain ⟨upto, hupto, -⟩ := exists_columnAt c' (frontLine rest)
  obtain ⟨middle, rfl⟩ := hbefore.isPrefix hupto hle
  obtain ⟨after, hafter⟩ := hupto.begins
  obtain ⟨_, -, hline⟩ := hlines.exists_lineAt
  have hstart : offset text.toList ⟨k, c⟩ = some (utf8Length (front ++ before)) :=
    offset_eq_some_iff.mpr ⟨_, _, _, _, hline, hbefore, utf8Length_append _ _⟩
  have hstop : offset text.toList ⟨k, c'⟩ = some (utf8Length (front ++ before ++ middle)) :=
    offset_eq_some_iff.mpr
      ⟨_, _, _, _, hline, hupto, by rw [List.append_assoc, utf8Length_append]⟩
  have htext : text.toList = front ++ before ++ middle ++ (after ++ tail ++ back) := by
    rw [hlines.append, ← hback, ← htail, ← hafter]
    simp
  refine ⟨before, middle, after ++ tail, ?_, ?_⟩
  · rw [String.toList_ofList, ← htail, ← hafter]
    simp
  · refine applyEdits_singleton_eq_ok_iff.mpr ⟨_, _, hstart, hstop, ?_, ?_⟩
    · rw [utf8Length_append (front ++ before)]
      exact Nat.le_add_right _ _
    · rw [htext, dropBytes_append, List.append_assoc (front ++ before), takeBytes_append,
        String.toList_ofList]
      simp

/-- The lines that are shown around a usage or of a diagnostic are the lines of their numbers as
offsets count them, those that there are. A line of a number is the one that an edit in the line of
this number changes, and nothing around it. -/
theorem shown_lines_are_edited_lines (text : String) :
    (∀ line, surroundingText text line =
      "\n".intercalate (linesBetween text (line - 1) (line + 1))) ∧
    (∀ (path : String) (d : Diagnostic), d.describe path (some text) = d.describe path none ++
      "".intercalate ((linesBetween text d.range.start.line
        (max d.range.start.line d.range.stop.line)).map ("\n    " ++ ·))) ∧
    ∀ k line, lineOf? text k = some line → ∃ front back, Around text k front line back ∧
      ∀ c c' newText, c ≤ c' → ∃ before middle after, line.toList = before ++ middle ++ after ∧
        applyEdits text [⟨⟨⟨k, c⟩, ⟨k, c'⟩⟩, newText⟩] =
          .ok (String.ofList (front ++ (before ++ newText.toList ++ after) ++ back)) := by
  refine ⟨fun line => ?_, fun path d => ?_, fun k line => exists_applyEdits_in_line⟩
  · rw [← lineWindow_eq]
    rfl
  · have hcount : max d.range.stop.line d.range.start.line - d.range.start.line + 1 =
        max d.range.start.line d.range.stop.line + 1 - d.range.start.line := by
      omega
    simp only [Diagnostic.describe, Diagnostic.sourceText, hcount, lineWindow_eq, Option.map_some,
      Option.getD_some, Option.map_none, Option.getD_none, String.append_empty]

/-- Line ends of both kinds, and carriage returns that are none. -/
def mixedEnds : String := "a\r\n\rb\r\r\nc\r"

/-- The carriage return that does not belong to the line end is shown, though no column counts
it. -/
theorem shown_lines_of_mixedEnds :
    lineOf? mixedEnds 1 = some "\rb\r" ∧ surroundingText mixedEnds 1 = "a\n\rb\r\nc\r" ∧ 1 ≤ 9 ∧
      ∃ front back, Around mixedEnds 1 front "\rb\r" back ∧
        ∃ before middle after, "\rb\r".toList = before ++ middle ++ after ∧
          applyEdits mixedEnds [⟨⟨⟨1, 1⟩, ⟨1, 9⟩⟩, "x"⟩] =
            .ok (String.ofList (front ++ (before ++ "x".toList ++ after) ++ back)) := by
  have hline : lineOf? mixedEnds 1 = some "\rb\r" := by decide
  have hle : 1 ≤ 9 := by decide
  obtain ⟨hshown, -, hedited⟩ := shown_lines_are_edited_lines mixedEnds
  obtain ⟨front, back, haround, hedits⟩ := hedited 1 "\rb\r" hline
  refine ⟨hline, ?_, hle, front, back, haround, hedits 1 9 "x" hle⟩
  rw [hshown]
  rfl

end Outline
