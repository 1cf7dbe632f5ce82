import Mathlib.Data.List.Basic
import Outline.Proofs.Text.Lines
import Outline.Proofs.Text.Substitution

/-!
# Positions and byte offsets

A column is counted in UTF-16 units and may fall inside a character, or behind the end of its line.
`ColumnAt` is the part of the line that counts as being in front of it. With the lines of a text this
says which byte offset a position stands for. Positions further on stand for offsets further on, so
a range that runs forwards is never taken for one that runs backwards.
-/

namespace Outline

/-! ### Columns -/

/-- `front` is the part of a line in front of a column: the shortest beginning of the line that is as
many UTF-16 units long, or the whole line when that is too short. -/
structure ColumnAt (column : Nat) (line front : List Char) : Prop where
  begins   : front <+: line
  short    : utf16Length line < column → front = line
  reaches  : column ≤ utf16Length line → column ≤ utf16Length front
  shortest : ∀ other, other <+: line → column ≤ utf16Length other → front <+: other

lemma exists_columnAt (column : Nat) (line : List Char) :
    ∃ front, ColumnAt column line front ∧ columnOffset column line = utf8Length front := by
  fun_induction columnOffset column line with
  | case1 column => exact ⟨[], ⟨List.prefix_rfl, fun _ => rfl, id, fun _ _ _ => List.nil_prefix⟩, rfl⟩
  | case2 c cs =>
    refine ⟨[], ⟨List.nil_prefix, ?_, fun _ => Nat.zero_le _, fun _ _ _ => List.nil_prefix⟩, rfl⟩
    intro hshort
    cases hshort
  | case3 n c cs ih =>
    obtain ⟨front, ⟨hbegins, hshort, hreaches, hshortest⟩, hlen⟩ := ih
    refine ⟨c :: front, ⟨?_, ?_, ?_, ?_⟩, by simp [hlen]⟩
    · simpa using hbegins
    · intro hlt
      rw [utf16Length_cons] at hlt
      rw [hshort (by omega)]
    · intro hle
      rw [utf16Length_cons] at hle ⊢
      have := hreaches (by omega)
      omega
    · intro other hother hle
      cases other with
      | nil => cases hle
      | cons d other =>
        obtain ⟨rfl, htail⟩ := List.cons_prefix_cons.mp hother
        rw [utf16Length_cons] at hle
        simpa using hshortest other htail (by omega)

namespace ColumnAt

variable {column column' : Nat} {line front front' : List Char}

/-- Further columns have at least as much in front of them. -/
lemma isPrefix (h : ColumnAt column line front) (h' : ColumnAt column' line front')
    (hle : column ≤ column') : front <+: front' := by
  by_cases hshort : utf16Length line < column'
  · rw [h'.short hshort]
    exact h.begins
  · have hreaches := h'.reaches (Nat.le_of_not_lt hshort)
    exact h.shortest front' h'.begins (Nat.le_trans hle hreaches)

lemma unique (h : ColumnAt column line front) (h' : ColumnAt column line front') :
    front = front' :=
  (h.isPrefix h' (Nat.le_refl _)).eq_of_length_le (h'.isPrefix h (Nat.le_refl _)).length_le

end ColumnAt

lemma eq_nil_of_utf16Length {cs : List Char} (h : utf16Length cs = 0) : cs = [] := by
  cases cs with
  | nil => rfl
  | cons c cs =>
    have hpos : 0 < units16 c := by
      unfold units16
      split <;> decide
    rw [utf16Length_cons] at h
    omega

/-- A beginning of a line is what stands in front of the column that its units make. -/
lemma columnAt_utf16Length {line front : List Char} (h : front <+: line) :
    ColumnAt (utf16Length front) line front where
  begins := h
  short := by
    intro hlt
    obtain ⟨back, rfl⟩ := h
    rw [utf16Length_append] at hlt
    omega
  reaches := fun _ => Nat.le_refl _
  shortest := by
    intro other hother hle
    rcases List.prefix_or_prefix_of_prefix h hother with hfront | ⟨back, rfl⟩
    · exact hfront
    · rw [utf16Length_append] at hle
      have hback : back = [] := eq_nil_of_utf16Length (by omega)
      simp [hback]

/-! ### The offset of a position -/

/-- A text has the lines from the first one to the one behind its last line feed. -/
lemma offset_eq_none_iff {text : List Char} {p : Position} :
    offset text p = none ↔ text.count '\n' < p.line := by
  rw [offset, Option.map_eq_none_iff, afterLines_eq_none_iff]

/-- A position stands for the bytes of the lines before it and of what is in front of its column. -/
lemma offset_eq_some_iff {text : List Char} {p : Position} {n : Nat} :
    offset text p = some n ↔ ∃ lines line rest front, LineAt p.line text lines line rest ∧
      ColumnAt p.character line front ∧ n = utf8Length lines + utf8Length front := by
  have hbytes {lines back : List Char} (h : LinesBefore p.line text lines back) :
      utf8Length text - utf8Length back = utf8Length lines := by
    rw [h.append, utf8Length_append, Nat.add_sub_cancel]
  rw [offset, Option.map_eq_some_iff]
  constructor
  · rintro ⟨back, hback, rfl⟩
    obtain ⟨lines, hlines⟩ := linesBefore_of_afterLines hback
    obtain ⟨rest, -, hline⟩ := hlines.exists_lineAt
    obtain ⟨front, hfront, hcolumn⟩ := exists_columnAt p.character (frontLine back)
    exact ⟨lines, frontLine back, rest, front, hline, hfront, by rw [hbytes hlines, hcolumn]⟩
  · rintro ⟨lines, line, rest, front, hline, hfront, rfl⟩
    obtain ⟨front', hfront', hcolumn⟩ := exists_columnAt p.character line
    refine ⟨line ++ rest, hline.before.afterLines_eq, ?_⟩
    rw [hbytes hline.before, hline.frontLine_eq, hcolumn, hfront.unique hfront']

lemma utf8Length_le_of_isPrefix {front text : List Char} (h : front <+: text) :
    utf8Length front ≤ utf8Length text := by
  obtain ⟨back, rfl⟩ := h
  simp

/-- Positions further on stand for offsets further on. -/
lemma offset_le_offset {text : List Char} {p q : Position} {m n : Nat} (hle : p.le q = true)
    (hp : offset text p = some m) (hq : offset text q = some n) : m ≤ n := by
  obtain ⟨lines, line, rest, front, hline, hfront, rfl⟩ := offset_eq_some_iff.mp hp
  obtain ⟨lines', line', rest', front', hline', hfront', rfl⟩ := offset_eq_some_iff.mp hq
  rcases Position.le_iff.mp hle with hlt | ⟨heq, hle⟩
  · -- the line of `p` ends before the line of `q` starts
    have hfirst := utf8Length_le_of_isPrefix (hline.append_isPrefix hline' hlt)
    have hcolumn := utf8Length_le_of_isPrefix hfront.begins
    rw [utf8Length_append] at hfirst
    omega
  · rw [← heq] at hline'
    obtain ⟨rfl, rfl⟩ := hline.unique hline'
    have hcolumn := utf8Length_le_of_isPrefix (hfront.isPrefix hfront' hle)
    omega

/-! ### Ranges that run backwards -/

lemma TextEdit.offsets_of_reversed {text : List Char} {e : TextEdit} {line : Nat}
    (h : e.resolve text = .error (.reversed line)) :
    e.range.start.line = line ∧ ∃ start stop, offset text e.range.start = some start ∧
      offset text e.range.stop = some stop ∧ stop < start := by
  unfold resolve resolvePosition at h
  cases hstart : offset text e.range.start with
  | none => simp [hstart, bind, Except.bind] at h
  | some start =>
    cases hstop : offset text e.range.stop with
    | none => simp [hstart, hstop, bind, Except.bind] at h
    | some stop =>
      by_cases hlt : stop < start
      · simp only [hstart, hstop, bind, Except.bind, if_pos hlt, throw, throwThe,
          MonadExceptOf.throw, Except.error.injEq, EditError.reversed.injEq] at h
        exact ⟨h, start, stop, rfl, rfl, hlt⟩
      · simp [hstart, hstop, hlt, bind, Except.bind, pure, Except.pure] at h

lemma Span.exists_of_splice_eq_error {cursor : Nat} {rest : List Char} {ss : List Span}
    {e : EditError} (h : splice cursor rest ss = .error e) : ∃ s ∈ ss, e = .overlap s.start := by
  induction ss generalizing cursor rest with
  | nil => cases h
  | cons s ss ih =>
    by_cases hlt : s.start < cursor
    · rw [splice_cons_of_lt hlt] at h
      cases h
      exact ⟨s, List.mem_cons_self, rfl⟩
    · rw [splice_cons_of_le (Nat.le_of_not_lt hlt), map_eq_error_iff] at h
      obtain ⟨t, ht, rfl⟩ := ih h
      exact ⟨t, List.mem_cons_of_mem s ht, rfl⟩

lemma exists_of_applyEdits_eq_reversed {text : String} {edits : List TextEdit} {line : Nat}
    (h : applyEdits text edits = .error (.reversed line)) :
    ∃ e ∈ edits, e.resolve text.toList = .error (.reversed line) := by
  rw [applyEdits, map_eq_error_iff, applyEditsTo, bind_eq_error_iff] at h
  rcases h with h | ⟨spans, -, h⟩
  · exact exists_of_mapM_eq_error h
  · obtain ⟨s, -, hoverlap⟩ := Span.exists_of_splice_eq_error h
    cases hoverlap

/-- Positions in front of one that a text has are there too and stand for smaller offsets. So edits
are only refused as running backwards for a range that ends before it starts. -/
theorem offset_monotone (text : String) :
    (∀ p q n, p.le q = true → offset text.toList q = some n →
      ∃ m, offset text.toList p = some m ∧ m ≤ n) ∧
    ∀ edits line, applyEdits text edits = .error (.reversed line) →
      ∃ e ∈ edits, e.resolve text.toList = .error (.reversed line) ∧ e.range.start.line = line ∧
        ¬ e.range.start.le e.range.stop = true := by
  constructor
  · intro p q n hle hq
    cases hp : offset text.toList p with
    | some m => exact ⟨m, rfl, offset_le_offset hle hp hq⟩
    | none =>
      -- a text that has the later line has the earlier one
      have hlines := offset_eq_none_iff.mp hp
      have hline : p.line ≤ q.line := by
        rw [Position.le_iff] at hle
        omega
      rw [offset_eq_none_iff.mpr (Nat.lt_of_lt_of_le hlines hline)] at hq
      cases hq
  · intro edits line h
    obtain ⟨e, he, hreversed⟩ := exists_of_applyEdits_eq_reversed h
    obtain ⟨hline, start, stop, hstart, hstop, hlt⟩ := TextEdit.offsets_of_reversed hreversed
    refine ⟨e, he, hreversed, hline, fun hle => ?_⟩
    have := offset_le_offset hle hstart hstop
    omega

end Outline
