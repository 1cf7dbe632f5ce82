import Mathlib.Data.List.Basic
import Outline.Proofs.Text.Cuts

/-!
# Lines of a text

The line feeds in front of a place tell on which line it is. `LinesBefore` are the whole lines in
front of a line, and `LineAt` is the line itself, up to its line feed and the carriage returns in
front of that. A text has as many further lines as it has line feeds, and a line ends before the
next one starts.
-/

namespace Outline

/-! ### Lines in front of a line -/

/-- `front` are the whole lines of a text before the line number `line`, and `back` is the rest. -/
structure LinesBefore (line : Nat) (text front back : List Char) : Prop where
  append : text = front ++ back
  count  : front.count '\n' = line
  closed : ∀ c ∈ front.getLast?, c = '\n'

lemma linesBefore_of_afterLines {line : Nat} {text back : List Char}
    (h : afterLines line text = some back) : ∃ front, LinesBefore line text front back := by
  fun_induction afterLines line text with
  | case1 cs =>
    cases h
    exact ⟨[], rfl, rfl, by simp⟩
  | case2 => cases h
  | case3 n cs ih =>
    obtain ⟨front, rfl, rfl, hclosed⟩ := ih h
    refine ⟨'\n' :: front, rfl, by simp, fun c hc => ?_⟩
    rw [List.getLast?_cons] at hc
    cases hlast : front.getLast? with
    | none => simpa [hlast, eq_comm] using hc
    | some last => exact hclosed c (by simpa [hlast] using hc)
  | case4 n c cs hc ih =>
    obtain ⟨front, rfl, hcount, hclosed⟩ := ih h
    have hne : front ≠ [] := by
      rintro rfl
      cases hcount
    refine ⟨c :: front, rfl, by simp [hc, hcount], fun last hlast => hclosed last ?_⟩
    rwa [List.getLast?_cons_of_ne_nil hne] at hlast

lemma LinesBefore.afterLines_eq {line : Nat} {text front back : List Char}
    (h : LinesBefore line text front back) : afterLines line text = some back := by
  obtain ⟨rfl, rfl, hclosed⟩ := h
  induction front with
  | nil => rw [List.count_nil, afterLines, List.nil_append]
  | cons c front ih =>
    rw [List.cons_append]
    by_cases hc : c = '\n'
    · subst hc
      rw [List.count_cons_self, afterLines, if_pos rfl]
      refine ih fun last hlast => hclosed last ?_
      rw [List.getLast?_cons]
      simp [Option.mem_def.mp hlast]
    · have hne : front ≠ [] := by
        rintro rfl
        exact hc (hclosed c (by simp))
      have hlast : ∀ last ∈ front.getLast?, last = '\n' := by
        rwa [List.getLast?_cons_of_ne_nil hne] at hclosed
      have hpos : 0 < front.count '\n' := by
        refine List.count_pos_iff.mpr ?_
        rw [← hlast _ (List.getLast?_eq_some_getLast hne)]
        exact List.getLast_mem hne
      rw [List.count_cons_of_ne hc]
      obtain ⟨n, hn⟩ := Nat.exists_eq_add_of_lt hpos
      rw [Nat.zero_add] at hn
      rw [hn, afterLines, if_neg hc, ← hn]
      exact ih hlast

lemma afterLines_eq_none_iff {n : Nat} {text : List Char} :
    afterLines n text = none ↔ text.count '\n' < n := by
  fun_induction afterLines n text with
  | case1 cs => simp
  | case2 n => simp
  | case3 n cs ih => simp [ih]
  | case4 n c cs hc ih => simp [ih, hc]

/-- Only the lines of its number stand in front of a line. -/
lemma LinesBefore.unique {line : Nat} {text front back front' back' : List Char}
    (h : LinesBefore line text front back) (h' : LinesBefore line text front' back') :
    front = front' ∧ back = back' := by
  have hback : back = back' := Option.some.inj (h.afterLines_eq.symm.trans h'.afterLines_eq)
  subst hback
  exact ⟨List.append_cancel_right (h.append.symm.trans h'.append), rfl⟩

/-- The start of a line stands behind the lines before it. -/
lemma offset_lineStart_eq_some_iff {line n : Nat} {text : List Char} :
    offset text ⟨line, 0⟩ = some n ↔
      ∃ front back, LinesBefore line text front back ∧ utf8Length front = n := by
  have hcolumn (cs : List Char) : columnOffset 0 cs = 0 := by
    cases cs <;> rfl
  simp only [offset, hcolumn, Nat.add_zero, Option.map_eq_some_iff]
  constructor
  · rintro ⟨back, hback, rfl⟩
    obtain ⟨front, hlines⟩ := linesBefore_of_afterLines hback
    refine ⟨front, back, hlines, ?_⟩
    rw [hlines.append, utf8Length_append, Nat.add_sub_cancel]
  · rintro ⟨front, back, hlines, rfl⟩
    refine ⟨back, hlines.afterLines_eq, ?_⟩
    rw [hlines.append, utf8Length_append, Nat.add_sub_cancel]

/-! ### The line itself -/

/-- `line` is the line number `n` of a text, without its line feed and the carriage returns in front
of that. The whole lines before it are `front`, and `rest` is what comes behind it. -/
structure LineAt (n : Nat) (text front line rest : List Char) : Prop where
  before   : LinesBefore n text front (line ++ rest)
  feedless : '\n' ∉ line
  trimmed  : line.getLast? ≠ some '\r'
  ended    : ∃ returns tail, rest = returns ++ tail ∧ (∀ c ∈ returns, c = '\r') ∧
    ∀ c ∈ tail.head?, c = '\n'

/-- Behind whole lines stands a line. -/
lemma LinesBefore.exists_lineAt {n : Nat} {text front back : List Char}
    (h : LinesBefore n text front back) :
    ∃ rest, back = frontLine back ++ rest ∧ LineAt n text front (frontLine back) rest := by
  obtain ⟨returns, hback, hreturns⟩ := exists_eq_frontLine_append back
  refine ⟨_, hback, ⟨?_, ?_, getLast?_trimEnd_ne _ (by simp), _, _, rfl, hreturns, ?_⟩⟩
  · rwa [← hback]
  · intro hfeed
    have hmem : '\n' ∈ back.takeWhile (· ≠ '\n') := by
      rw [eq_trimEnd_append (· = '\r') (back.takeWhile (· ≠ '\n'))]
      exact List.mem_append_left _ hfeed
    simpa using List.mem_takeWhile_imp hmem
  · intro c hc
    by_contra hne
    exact head?_dropWhile_ne (p := fun c => decide (c ≠ '\n')) back (by simpa using hne) hc

namespace LineAt

variable {n m : Nat} {text front line rest front' line' rest' : List Char}

lemma frontLine_eq (h : LineAt n text front line rest) : frontLine (line ++ rest) = line := by
  obtain ⟨returns, tail, rfl, hreturns, htail⟩ := h.ended
  have hline : ∀ c ∈ line ++ returns, decide (c ≠ '\n') = true := by
    intro c hc
    rcases List.mem_append.mp hc with hc | hc
    · have hne : c ≠ '\n' := fun heq => h.feedless (heq ▸ hc)
      simpa using hne
    · simp [hreturns c hc]
  have hend : tail.takeWhile (· ≠ '\n') = [] := by
    cases tail with
    | nil => rfl
    | cons c tail => simp [htail c (by simp)]
  rw [frontLine, ← List.append_assoc, List.takeWhile_append_of_pos hline, hend, List.append_nil]
  apply trimEnd_append
  · simpa using hreturns
  · intro c hc
    simpa [of_decide_eq_true hc] using h.trimmed

/-- A text has only one line of a number. -/
lemma unique (h : LineAt n text front line rest) (h' : LineAt n text front' line' rest') :
    front = front' ∧ line = line' := by
  obtain ⟨hfront, hback⟩ := h.before.unique h'.before
  exact ⟨hfront, by rw [← h.frontLine_eq, hback, h'.frontLine_eq]⟩

/-- A line ends before a later one starts. -/
lemma append_isPrefix (h : LineAt n text front line rest) (h' : LineAt m text front' line' rest')
    (hlt : n < m) : front ++ line <+: front' := by
  have hline : front ++ line <+: text := by
    rw [h.before.append, ← List.append_assoc]
    exact List.prefix_append _ _
  have hfront' : front' <+: text := by
    rw [h'.before.append]
    exact List.prefix_append _ _
  rcases List.prefix_or_prefix_of_prefix hline hfront' with hle | hle
  · exact hle
  · -- there are not enough line feeds up to the end of the first line
    have hcount := hle.count_le '\n'
    rw [List.count_append, h.before.count, h'.before.count,
      List.count_eq_zero.mpr h.feedless] at hcount
    omega

end LineAt

end Outline
