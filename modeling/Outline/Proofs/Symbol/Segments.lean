import Mathlib
import Outline.Proofs.Disk.Place
import Outline.Proofs.Text.Trimming
import Outline.Symbol.NamePath

/-!
# Name paths as texts

A name path is read by taking the slashes off both ends and cutting the rest at every slash. A
segment may end in a number in brackets. Here these readings are said as relations between texts:
`Trims`, `Cuts` and `Numbered`, with `ReadsAs` for the number.
-/

namespace Outline

/-! ### Cutting lists -/

section Lists

variable {α : Type} {as : List α}

lemma splitOn_eq_list_splitOn [DecidableEq α] (separator : α) (as : List α) :
    splitOn separator as = as.splitOn separator := by
  induction as with
  | nil => rfl
  | cons a as ih =>
    rw [List.splitOn_eq_splitOnP] at ih
    rw [List.splitOn_eq_splitOnP, List.splitOnP_cons_eq_if_modifyHead, ← ih]
    by_cases ha : a = separator
    · rw [ha, splitOn_cons_self, beq_self_eq_true, if_pos rfl]
    · obtain ⟨part, parts, has⟩ := List.exists_cons_of_ne_nil (splitOn_ne_nil as)
      rw [splitOn_cons_of_ne ha has, has, beq_eq_false_iff_ne.mpr ha, if_neg Bool.false_ne_true]
      rfl

/-- Cutting a list is undone by joining the parts, and by nothing else that has parts without the
separator. -/
lemma splitOn_eq_iff [DecidableEq α] {separator : α} {parts : List (List α)} :
    splitOn separator as = parts ↔
      parts ≠ [] ∧ [separator].intercalate parts = as ∧ ∀ part ∈ parts, separator ∉ part := by
  constructor
  · rintro rfl
    refine ⟨?_, ?_, fun part hpart => separator_not_mem_of_mem_splitOn hpart⟩
    · rw [splitOn_eq_list_splitOn]
      exact List.splitOn_ne_nil _ _
    · rw [splitOn_eq_list_splitOn]
      exact List.intercalate_splitOn separator
  · rintro ⟨hne, rfl, hparts⟩
    rw [splitOn_eq_list_splitOn, List.splitOn_intercalate separator hparts hne]

end Lists

namespace NamePath

/-! ### Segments -/

/-- Slashes in a row. -/
def slashes (n : Nat) : String := String.ofList (List.replicate n '/')

/-- `core` is what is left of `path` without the slashes at its front and back. -/
structure Trims (path core : String) : Prop where
  around : ∃ i j, path = slashes i ++ core ++ slashes j
  front  : core.toList.head? ≠ some '/'
  back   : core.toList.getLast? ≠ some '/'

/-- `segments` are the parts of `core` between its slashes; they may be empty. -/
structure Cuts (core : String) (segments : List String) : Prop where
  ne_nil    : segments ≠ []
  joined    : "/".intercalate segments = core
  slashless : ∀ segment ∈ segments, '/' ∉ segment.toList

variable {path core : String} {segments : List String}

lemma toList_slashes (n : Nat) : (slashes n).toList = List.replicate n '/' := String.toList_ofList

lemma exists_slashes {cs : List Char} (h : ∀ c ∈ cs, decide (c = '/') = true) :
    ∃ n, String.ofList cs = slashes n :=
  ⟨cs.length, by rw [slashes, ← List.eq_replicate_of_mem fun c hc => of_decide_eq_true (h c hc)]⟩

lemma trims_iff : Trims path core ↔ trimBy (· = '/') path.toList = core.toList := by
  constructor
  · rintro ⟨⟨i, j, rfl⟩, hfront, hback⟩
    rw [String.toList_append, String.toList_append, toList_slashes, toList_slashes]
    refine trimBy_append ?_ ?_ ?_ ?_
    · simp
    · simp
    · simpa using hfront
    · simpa using hback
  · intro h
    obtain ⟨front, back, hpath, hfront, hback⟩ := exists_of_trimBy (· = '/') path.toList
    obtain ⟨i, hi⟩ := exists_slashes hfront
    obtain ⟨j, hj⟩ := exists_slashes hback
    refine ⟨⟨i, j, ?_⟩, ?_, ?_⟩
    · rw [← hi, ← hj, ← String.toList_inj, hpath, h]
      simp
    · rw [← h]
      exact head?_trimBy_ne (decide_eq_true rfl)
    · rw [← h]
      exact getLast?_trimBy_ne (decide_eq_true rfl)

lemma cuts_iff :
    Cuts core segments ↔ (splitOn '/' core.toList).map String.ofList = segments := by
  have hmap : (splitOn '/' core.toList).map String.ofList = segments ↔
      splitOn '/' core.toList = segments.map String.toList := by
    constructor
    · rintro rfl
      simp [Function.comp_def]
    · intro h
      simp [h, Function.comp_def]
  rw [hmap, splitOn_eq_iff]
  have hjoined : "/".intercalate segments = core ↔
      ['/'].intercalate (segments.map String.toList) = core.toList := by
    rw [← String.toList_inj, String.toList_intercalate]
    rfl
  constructor
  · rintro ⟨hne, hcore, hslashless⟩
    exact ⟨by simpa using hne, hjoined.mp hcore, by simpa using hslashless⟩
  · rintro ⟨hne, hcore, hslashless⟩
    exact ⟨by simpa using hne, hjoined.mpr hcore, by simpa using hslashless⟩

/-- The segments of a name path are those of what is left of it without the slashes around. -/
lemma segments_eq_iff (hne : segments ≠ []) :
    NamePath.segments path = segments ↔
      ∃ core, Trims path core ∧ core ≠ "" ∧ Cuts core segments := by
  simp only [trims_iff, cuts_iff]
  unfold NamePath.segments
  split
  · rename_i hnil
    constructor
    · intro h
      exact absurd h.symm hne
    · rintro ⟨core, hcore, hnonempty, -⟩
      rw [hnil, eq_comm, String.toList_eq_nil_iff] at hcore
      exact absurd hcore hnonempty
  · rename_i cs hcs
    constructor
    · intro h
      refine ⟨String.ofList (trimBy (· = '/') path.toList), String.toList_ofList.symm, ?_, ?_⟩
      · intro hempty
        rw [String.ofList_eq_empty_iff] at hempty
        exact hcs hempty
      · rwa [String.toList_ofList]
    · rintro ⟨core, hcore, -, hcut⟩
      rw [hcore, hcut]

lemma Cuts.begins (h : Cuts core segments) : ∃ first ∈ segments, ∃ rest, core = first ++ rest := by
  obtain ⟨first, others, rfl⟩ := List.exists_cons_of_ne_nil h.ne_nil
  refine ⟨first, List.mem_cons_self, ?_⟩
  rw [← h.joined]
  by_cases hothers : others = []
  · exact ⟨"", by simp [hothers]⟩
  · rw [String.intercalate_cons_of_ne_nil hothers, String.append_assoc]
    exact ⟨_, rfl⟩

lemma Cuts.ends (h : Cuts core segments) : ∃ last ∈ segments, ∃ rest, core = rest ++ last := by
  obtain ⟨others, last, rfl⟩ := List.eq_nil_or_concat' segments |>.resolve_left h.ne_nil
  refine ⟨last, by simp, ?_⟩
  rw [← h.joined]
  by_cases hothers : others = []
  · exact ⟨"", by simp [hothers]⟩
  · rw [String.intercalate_append_of_ne_nil hothers (List.cons_ne_nil _ _),
      String.intercalate_singleton]
    exact ⟨_, rfl⟩

/-- Segments that are not empty, joined by slashes, have no slash at either end. -/
lemma Cuts.trims (h : Cuts core segments) (hnonempty : ∀ segment ∈ segments, segment ≠ "")
    (i j : Nat) : Trims (slashes i ++ core ++ slashes j) core ∧ core ≠ "" := by
  have hchars (segment : String) (hsegment : segment ∈ segments) : segment.toList ≠ [] :=
    fun hnil => hnonempty segment hsegment (String.toList_eq_nil_iff.mp hnil)
  obtain ⟨first, hfirst, rest, hbegins⟩ := h.begins
  obtain ⟨last, hlast, rest', hends⟩ := h.ends
  refine ⟨⟨⟨i, j, rfl⟩, ?_, ?_⟩, ?_⟩
  · rw [hbegins, String.toList_append, List.head?_append_of_ne_nil _ (hchars first hfirst)]
    exact fun hslash => h.slashless first hfirst (List.mem_of_mem_head? hslash)
  · rw [hends, String.toList_append, List.getLast?_append_of_ne_nil _ (hchars last hlast)]
    exact fun hslash => h.slashless last hlast (List.mem_of_getLast? hslash)
  · rintro rfl
    refine hchars first hfirst ?_
    have hempty := congrArg String.toList hbegins
    simp only [String.toList_append, String.toList_empty] at hempty
    exact (List.append_eq_nil_iff.mp hempty.symm).1

/-! ### Numbers in brackets -/

/-- `text` is a number of 64 bits in decimal digits, perhaps with a plus sign. -/
structure ReadsAs (text : String) (n : Nat) : Prop where
  written : ∃ digits : List Char, digits ≠ [] ∧ (∀ c ∈ digits, c.isDigit = true) ∧
    (text = String.ofList digits ∨ text = "+" ++ String.ofList digits) ∧
    Nat.ofDigitChars 10 digits 0 = n
  bound   : n < 2 ^ 64

/-- `segment` is `name` with the number `n` in brackets behind it. -/
def Numbered (segment name : String) (n : Nat) : Prop :=
  ∃ number, segment = name ++ "[" ++ number ++ "]" ∧ '[' ∉ number.toList ∧ ReadsAs number n

/-- The digits behind the plus sign, if there is one. -/
def unsigned : List Char → List Char
  | '+' :: cs => cs
  | cs        => cs

lemma unsigned_eq_iff {cs digits : List Char} (hdigits : ∀ c ∈ digits, c.isDigit = true) :
    unsigned cs = digits ↔ cs = digits ∨ cs = '+' :: digits := by
  have hplus (rest : List Char) : digits ≠ '+' :: rest := by
    rintro rfl
    exact absurd (hdigits '+' List.mem_cons_self) (by decide)
  unfold unsigned
  split
  · rename_i rest
    simp [eq_comm (b := digits), hplus rest]
  · rename_i hnot
    exact (or_iff_left (hnot digits)).symm

lemma guard_bind_eq_some_iff {α : Type} {p : Prop} [Decidable p] {x : Option α} {a : α} :
    (do guard p; x) = some a ↔ p ∧ x = some a := by
  by_cases hp : p
  · simp [hp, guard]
  · simp [hp, guard]

lemma number64?_eq_some_iff {cs : List Char} {n : Nat} :
    number64? cs = some n ↔ unsigned cs ≠ [] ∧ (∀ c ∈ unsigned cs, c.isDigit = true) ∧
      Nat.ofDigitChars 10 (unsigned cs) 0 = n ∧ n < 2 ^ 64 := by
  have hvalue : (unsigned cs).foldl (fun n c => n * 10 + (c.toNat - 0x30)) 0 =
      Nat.ofDigitChars 10 (unsigned cs) 0 := by
    rw [Nat.ofDigitChars_eq_foldl]
    simp only [Nat.mul_comm 10]
    rfl
  change (do
    guard (!(unsigned cs).isEmpty && (unsigned cs).all Char.isDigit)
    guard ((unsigned cs).foldl (fun n c => n * 10 + (c.toNat - 0x30)) 0 < UInt64.size)
    return (unsigned cs).foldl (fun n c => n * 10 + (c.toNat - 0x30)) 0) = some n ↔ _
  rw [hvalue]
  rw [guard_bind_eq_some_iff, guard_bind_eq_some_iff, Bool.and_eq_true, List.all_eq_true]
  constructor
  · rintro ⟨⟨hne, hdigits⟩, hbound, h⟩
    cases h
    exact ⟨by simpa using hne, hdigits, rfl, hbound⟩
  · rintro ⟨hne, hdigits, rfl, hbound⟩
    exact ⟨⟨by simpa using hne, hdigits⟩, hbound, rfl⟩

lemma readsAs_iff {text : String} {n : Nat} : ReadsAs text n ↔ number64? text.toList = some n := by
  rw [number64?_eq_some_iff]
  constructor
  · rintro ⟨⟨digits, hne, hdigits, htext, hvalue⟩, hbound⟩
    have hunsigned : unsigned text.toList = digits := by
      rw [unsigned_eq_iff hdigits]
      exact htext.imp (by rintro rfl; simp) (by rintro rfl; simp)
    rw [hunsigned]
    exact ⟨hne, hdigits, hvalue, hbound⟩
  · rintro ⟨hne, hdigits, hvalue, hbound⟩
    refine ⟨⟨unsigned text.toList, hne, hdigits, ?_, hvalue⟩, hbound⟩
    simp only [← String.toList_inj, String.toList_append, String.toList_ofList]
    exact (unsigned_eq_iff hdigits).mp rfl

lemma splitOrdinal?_append {name number : String} (hplain : '[' ∉ number.toList) :
    splitOrdinal? (name ++ "[" ++ number ++ "]") =
      (number64? number.toList).map fun n => (name, n) := by
  have hfree : ∀ c ∈ number.toList.reverse, decide (c ≠ '[') = true := by
    intro c hc
    refine decide_eq_true fun heq => hplain ?_
    rwa [heq, List.mem_reverse] at hc
  have hreverse : (name ++ "[" ++ number ++ "]").toList.reverse =
      ']' :: (number.toList.reverse ++ '[' :: name.toList.reverse) := by simp
  rw [splitOrdinal?, hreverse]
  simp only [List.takeWhile_append_of_pos hfree, List.dropWhile_append_of_pos hfree]
  cases hnumber : number64? number.toList <;> simp [hnumber]

lemma exists_of_splitOrdinal? {segment name : String} {n : Nat}
    (h : splitOrdinal? segment = some (name, n)) :
    ∃ number, segment = name ++ "[" ++ number ++ "]" ∧ '[' ∉ number.toList ∧
      number64? number.toList = some n := by
  unfold splitOrdinal? at h
  split at h
  · rename_i body hbody
    split at h
    · rename_i bracket rest hrest
      obtain ⟨k, hk, h⟩ := Option.bind_eq_some_iff.mp h
      cases h
      -- the last opening bracket is the first one from the back, where the digits end
      have hbracket : bracket = '[' := by
        have hfirst := List.head?_dropWhile_not (· ≠ '[') body
        rw [hrest] at hfirst
        simpa using hfirst
      have hsplit : body.takeWhile (· ≠ '[') ++ bracket :: rest = body := by
        rw [← hrest, List.takeWhile_append_dropWhile]
      rw [hbracket] at hsplit
      refine ⟨String.ofList (body.takeWhile (· ≠ '[')).reverse, ?_, ?_, ?_⟩
      · rw [← String.toList_inj, ← List.reverse_inj, hbody]
        simp only [String.toList_append, String.toList_ofList, List.reverse_append,
          List.reverse_reverse]
        exact congrArg _ hsplit.symm
      · intro hmem
        rw [String.toList_ofList, List.mem_reverse] at hmem
        simpa using List.mem_takeWhile_imp hmem
      · rwa [String.toList_ofList]
    · cases h
  · cases h

lemma splitOrdinal?_eq_some_iff {segment name : String} {n : Nat} :
    splitOrdinal? segment = some (name, n) ↔ Numbered segment name n := by
  constructor
  · intro h
    obtain ⟨number, hsegment, hplain, hreads⟩ := exists_of_splitOrdinal? h
    exact ⟨number, hsegment, hplain, readsAs_iff.mpr hreads⟩
  · rintro ⟨number, rfl, hplain, hreads⟩
    rw [splitOrdinal?_append hplain, readsAs_iff.mp hreads]
    rfl

lemma readsAs_toString {n : Nat} (h : n < 2 ^ 64) : ReadsAs (toString n) n where
  written := ⟨Nat.toDigits 10 n, Nat.toDigits_ne_nil,
    fun c hc => Nat.isDigit_of_mem_toDigits (by decide) (by decide) hc,
    .inl Nat.toString_eq_ofList_toDigits, Nat.ofDigitChars_ten_toDigits⟩
  bound := h

lemma numbered_toString (name : String) {n : Nat} (h : n < 2 ^ 64) :
    Numbered (name ++ "[" ++ toString n ++ "]") name n := by
  refine ⟨toString n, rfl, fun hmem => ?_, readsAs_toString h⟩
  rw [Nat.toString_eq_ofList_toDigits, String.toList_ofList] at hmem
  exact absurd (Nat.isDigit_of_mem_toDigits (by decide) (by decide) hmem) (by decide)

end NamePath

end Outline
