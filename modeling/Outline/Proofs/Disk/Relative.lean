import Mathlib.Data.List.Basic
import Outline.Proofs.Disk.Inside
import Outline.Proofs.Text.Trimming
import Outline.Proofs.Text.Utf8

/-!
# Paths seen from a directory

A path that goes into a directory name by name can be shown relative to it: the parts behind the
directory, without those at both ends that do not move. Joined to the directory again it makes the
same steps but for some that do not move, so it leads to the same place. Of a text, the relative path
is a text.
-/

namespace Outline

namespace Path

variable {base : Place} {p rel : Path} {part : Name} {parts front core back : List Name}

/-! ### Joining to a directory -/

lemma bytes_ofParts_cons (part : Name) (parts : List Name) :
    (ofParts (part :: parts)).bytes = part ++ parts.flatMap (slash :: ·) := by
  induction parts generalizing part with
  | nil => simp [ofParts]
  | cons next parts ih =>
    have hbytes : (ofParts (part :: next :: parts)).bytes =
        part ++ slash :: (ofParts (next :: parts)).bytes := by
      simp [ofParts, List.intercalate_cons_cons]
    rw [hbytes, ih, List.flatMap_cons, List.cons_append]

lemma isAbsolute_ofParts_cons (hne : part ≠ []) (hslash : slash ∉ part) :
    (ofParts (part :: parts)).isAbsolute = false := by
  obtain ⟨b, rest, rfl⟩ := List.exists_cons_of_ne_nil hne
  have hb : b ≠ slash := fun heq => hslash (heq ▸ List.mem_cons_self)
  rw [isAbsolute, bytes_ofParts_cons, List.cons_append, List.head?_cons]
  simpa using hb

/-- Parts that are joined to a place follow its names. -/
lemma join_ofParts_cons (hbase : ∀ n ∈ base, Proper n) (hne : part ≠ []) (hslash : slash ∉ part) :
    (ofNames base).join (ofParts (part :: parts)) = ofNames (base ++ part :: parts) := by
  rw [join, if_neg (by rw [isAbsolute_ofParts_cons hne hslash]; exact Bool.false_ne_true)]
  rcases List.eq_nil_or_concat base with rfl | ⟨front, n, rfl⟩
  · simp [ofNames, endsInSlash, bytes_ofParts_cons]
  · rw [List.concat_eq_append] at hbase ⊢
    have hn := hbase n (by simp)
    have hslashless := endsInSlash_ofNames_concat front hn.ne_nil hn.slashless
    have hbytes : ((ofNames (front ++ [n])).bytes.isEmpty || (ofNames (front ++ [n])).endsInSlash) =
        false := by
      rw [hslashless, bytes_ofNames_concat]
      simp
    rw [hbytes, if_neg Bool.false_ne_true, bytes_ofNames_concat, bytes_ofParts_cons]
    simp [ofNames]

/-! ### The relative path -/

lemma exists_of_dropNames {pieces : List Piece} {rest : List Name}
    (h : dropNames pieces parts = some rest) :
    ∃ front, parts = front ++ rest ∧ (front.filter (!isIdle ·)).map pieceOf = pieces := by
  induction parts generalizing pieces with
  | nil =>
    cases pieces with
    | nil =>
      cases h
      exact ⟨[], rfl, rfl⟩
    | cons b pieces => cases h
  | cons part parts ih =>
    cases pieces with
    | nil =>
      cases h
      exact ⟨[], rfl, rfl⟩
    | cons b pieces =>
      rw [dropNames] at h
      split at h
      · rename_i hidle
        obtain ⟨front, rfl, hfront⟩ := ih h
        refine ⟨part :: front, rfl, ?_⟩
        rw [List.filter_cons_of_neg (by simp [hidle]), hfront]
      · rename_i hmoves
        split at h
        · rename_i hb
          obtain ⟨front, rfl, rfl⟩ := ih h
          refine ⟨part :: front, rfl, ?_⟩
          rw [List.filter_cons_of_pos (by simp [hmoves]), List.map_cons, hb]
        · cases h

/-- Seen from a place, a path that leads into it has some of its parts: in front of them are the
names of the place and parts that do not move, and behind them there are only such parts. -/
structure SeenFrom (base : Place) (p : Path) (front core back : List Name) : Prop where
  parts_eq : p.parts = front ++ core ++ back
  front_eq : (front.filter (!isIdle ·)).map pieceOf = base.map .name
  idle     : ∀ part ∈ back, isIdle part = true
  first    : ∀ part, isIdle part = true → core.head? ≠ some part
  last     : ∀ part, isIdle part = true → core.getLast? ≠ some part

lemma SeenFrom.mem_parts (h : SeenFrom base p front core back) (hpart : part ∈ core) :
    part ∈ p.parts := by
  simp [h.parts_eq, hpart]

lemma exists_seenFrom (hbase : ∀ n ∈ base, Proper n) (h : p.relativeTo? (ofNames base) = some rel) :
    ∃ front core back, SeenFrom base p front core back ∧ rel = ofParts core := by
  rw [relativeTo?, if_pos (isAbsolute_ofNames base), Option.map_eq_some_iff] at h
  obtain ⟨rest, hrest, rfl⟩ := h
  obtain ⟨front, hparts, hfront⟩ := exists_of_dropNames hrest
  obtain ⟨lead, back, htrim, hlead, hback⟩ := exists_of_trimBy isIdle rest
  refine ⟨front ++ lead, trimIdle rest, back, ⟨?_, ?_, hback, fun part hidle => ?_,
    fun part hidle => ?_⟩, rfl⟩
  · rw [hparts, List.append_assoc, List.append_assoc, ← List.append_assoc lead]
    exact congrArg (front ++ ·) htrim
  · have hnone : lead.filter (!isIdle ·) = [] := List.filter_eq_nil_iff.mpr (by simpa using hlead)
    rw [List.filter_append, hnone, List.append_nil, hfront, names_ofNames hbase]
  · exact head?_trimBy_ne hidle
  · exact getLast?_trimBy_ne hidle

/-! ### Relative paths of texts -/

/-- No other character has the byte of a slash in it. -/
lemma slash_not_mem_utf8EncodeChar {c : Char} (hc : c ≠ '/') : slash ∉ String.utf8EncodeChar c := by
  have hother {n : Nat} (hne : n ≠ 0x2F) (hlt : n < 256) : slash ≠ UInt8.ofNat n := by
    intro heq
    have hvalue : 0x2F = n % 256 := by simpa [slash] using congrArg UInt8.toNat heq
    omega
  have hplain : c.val.toNat ≠ 0x2F := by
    intro heq
    apply hc
    rw [← Char.ofNat_toNat c, Char.toNat, heq]
  -- of a character with more bytes, every byte is 0x80 or above
  unfold String.utf8EncodeChar
  generalize c.val.toNat = n at hplain
  dsimp only
  split
  · exact mt List.mem_singleton.mp (hother hplain (by omega))
  split
  · simp only [List.mem_cons, List.not_mem_nil, or_false, not_or]
    exact ⟨hother (by omega) (by omega), hother (by omega) (by omega)⟩
  split
  · simp only [List.mem_cons, List.not_mem_nil, or_false, not_or]
    exact ⟨hother (by omega) (by omega), hother (by omega) (by omega),
      hother (by omega) (by omega)⟩
  · simp only [List.mem_cons, List.not_mem_nil, or_false, not_or]
    exact ⟨hother (by omega) (by omega), hother (by omega) (by omega),
      hother (by omega) (by omega), hother (by omega) (by omega)⟩

/-- The parts of a text are texts. -/
lemma exists_text_of_mem_parts {text : String} (h : part ∈ (ofText text).parts) :
    ∃ s, part = utf8Bytes s := by
  rw [parts, ofText, utf8Bytes] at h
  generalize text.toList = cs at h
  -- a part ends at a slash, and so never within the bytes of a character
  induction cs generalizing part with
  | nil =>
    rw [List.mem_singleton.mp h]
    exact ⟨"", rfl⟩
  | cons c cs ih =>
    rw [List.flatMap_cons] at h
    by_cases hc : c = '/'
    · subst hc
      rw [show String.utf8EncodeChar '/' = [slash] by decide, List.singleton_append,
        splitOn_cons_self] at h
      rcases List.mem_cons.mp h with rfl | h
      · exact ⟨"", rfl⟩
      · exact ih h
    · obtain ⟨first, rest, hcut⟩ : ∃ first rest,
          splitOn slash (cs.flatMap String.utf8EncodeChar) = first :: rest :=
        List.exists_cons_of_ne_nil (splitOn_ne_nil _)
      rw [splitOn_append_left (slash_not_mem_utf8EncodeChar hc) hcut] at h
      rw [hcut] at ih
      rcases List.mem_cons.mp h with rfl | h
      · obtain ⟨s, rfl⟩ := ih List.mem_cons_self
        exact ⟨String.singleton c ++ s, by simp [utf8Bytes]⟩
      · exact ih (List.mem_cons_of_mem first h)

lemma exists_text_ofParts (h : ∀ part ∈ parts, ∃ s, part = utf8Bytes s) :
    ∃ s, ofParts parts = ofText s := by
  have hslash : utf8Bytes "/" = [slash] := by decide
  induction parts with
  | nil => exact ⟨"", rfl⟩
  | cons part parts ih =>
    obtain ⟨⟨s, rfl⟩, hparts⟩ := List.forall_mem_cons.mp h
    cases parts with
    | nil => exact ⟨s, by simp [ofParts, ofText]⟩
    | cons next parts =>
      obtain ⟨t, ht⟩ := ih hparts
      have hbytes : (ofParts (next :: parts)).bytes = utf8Bytes t := congrArg Path.bytes ht
      refine ⟨s ++ "/" ++ t, ?_⟩
      rw [ofText, utf8Bytes_append, utf8Bytes_append, hslash, ← hbytes]
      simp [ofParts, List.intercalate_cons_cons]

/-- What is shown of a text is a text. -/
lemma SeenFrom.exists_text {text : String} (h : SeenFrom base (ofText text) front core back) :
    ∃ s, ofParts core = ofText s :=
  exists_text_ofParts fun _ hpart => exists_text_of_mem_parts (h.mem_parts hpart)

/-- A text is shown as it is. -/
lemma display_ofText (text : String) : (ofText text).display = text := lossyText_utf8Bytes text

/-! ### The steps that are left -/

/-- Steps from which some that do not move are left out. -/
inductive Thinned : List Piece → List Piece → Prop where
  | nil : Thinned [] []
  | keep {pieces kept : List Piece} (piece : Piece) (further : Thinned pieces kept) :
      Thinned (piece :: pieces) (piece :: kept)
  | skip {pieces kept : List Piece} {piece : Piece} (idle : piece = .current ∨ piece = .closing)
      (further : Thinned pieces kept) : Thinned (piece :: pieces) kept

namespace Thinned

variable {pieces kept pieces' kept' : List Piece}

lemma refl (pieces : List Piece) : Thinned pieces pieces := by
  induction pieces with
  | nil => exact .nil
  | cons piece pieces ih => exact .keep piece ih

lemma append (h : Thinned pieces kept) (h' : Thinned pieces' kept') :
    Thinned (pieces ++ pieces') (kept ++ kept') := by
  induction h with
  | nil => exact h'
  | keep piece _ ih => exact .keep piece ih
  | skip idle _ ih => exact .skip idle ih

/-- The idle parts can be left out. -/
lemma of_parts (parts : List Name) :
    Thinned ((parts.filter (· ≠ [])).map pieceOf) ((parts.filter (!isIdle ·)).map pieceOf) := by
  induction parts with
  | nil => exact .nil
  | cons part parts ih =>
    by_cases hnil : part = []
    · subst hnil
      simpa [isIdle] using ih
    · rw [List.filter_cons_of_pos (by simp [hnil]), List.map_cons]
      by_cases hdot : part = [dot]
      · subst hdot
        rw [List.filter_cons_of_neg (by simp [isIdle])]
        exact .skip (.inl (by decide)) ih
      · rw [List.filter_cons_of_pos (by simp [isIdle, hnil, hdot]), List.map_cons]
        exact .keep _ ih

/-- The slash at the end can be left out. -/
lemma of_closing (p : Path) : Thinned (if p.endsInSlash then [.closing] else []) [] := by
  split
  · exact .skip (.inr rfl) .nil
  · exact .nil

/-- The steps of a path that move are enough. -/
lemma of_names (p : Path) : Thinned p.pieces p.names := by
  have hall := (of_parts p.parts).append (of_closing p)
  rwa [List.append_nil] at hall

end Thinned

/-- Without idle steps at both ends, the steps of a path are those of the place it is seen from and
those of the parts that are shown. -/
lemma SeenFrom.thinned (h : SeenFrom base p front core back) :
    Thinned p.pieces (base.map .name ++ (core.filter (· ≠ [])).map pieceOf) := by
  have hback : back.filter (!isIdle ·) = [] := List.filter_eq_nil_iff.mpr (by simpa using h.idle)
  have hcore := Thinned.refl ((core.filter (· ≠ [])).map pieceOf)
  have hends := (Thinned.of_parts back).append (Thinned.of_closing p)
  rw [hback] at hends
  have hall := (Thinned.of_parts front).append (hcore.append hends)
  rw [h.front_eq] at hall
  simpa [pieces, h.parts_eq] using hall

/-- The steps of a path that goes on behind a place. -/
lemma pieces_ofNames_append (hbase : ∀ n ∈ base, Proper n) (hcore : ∀ part ∈ core, slash ∉ part)
    (hne : core ≠ []) (hlast : core.getLast? ≠ some []) :
    (ofNames (base ++ core)).pieces = base.map .name ++ (core.filter (· ≠ [])).map pieceOf := by
  have hslash : ∀ n ∈ base ++ core, slash ∉ n :=
    List.forall_mem_append.mpr ⟨fun n hn => (hbase n hn).slashless, hcore⟩
  have hkept : base.filter (· ≠ []) = base :=
    List.filter_eq_self.mpr fun n hn => decide_eq_true (hbase n hn).ne_nil
  have hends : (ofNames (base ++ core)).endsInSlash = false := by
    obtain ⟨init, last, rfl⟩ := List.eq_nil_or_concat core |>.resolve_left hne
    rw [List.concat_eq_append] at hcore hlast ⊢
    rw [← List.append_assoc]
    refine endsInSlash_ofNames_concat _ ?_ (hcore last (by simp))
    rintro rfl
    simp at hlast
  rw [pieces_eq, hends, place, parts_ofNames hslash (by simp [hne]), List.filter_cons_of_neg (by simp),
    List.filter_append, hkept, List.map_append,
    List.map_congr_left fun n hn => (hbase n hn).pieceOf_eq]
  simp

end Path

namespace Disk

variable {d : Disk} {links : Nat} {root place goal : Place} {pieces kept : List Piece}

/-- Steps that do not move are not needed. -/
lemma Leads.thinned (h : d.Leads links place pieces goal) (hkept : Path.Thinned pieces kept) :
    d.Leads links place kept goal := by
  induction h generalizing kept with
  | arrived links place =>
    cases hkept
    exact .arrived links place
  | stay hidle hdir _ ih =>
    cases hkept with
    | keep _ further => exact .stay hidle hdir (ih further)
    | skip _ further => exact ih further
  | leave hdir _ ih =>
    cases hkept with
    | keep _ further => exact .leave hdir (ih further)
    | skip hidle _ => simp at hidle
  | enter hdir hshort hnoLink _ ih =>
    cases hkept with
    | keep _ further => exact .enter hdir hshort hnoLink (ih further)
    | skip hidle _ => simp at hidle
  | follow hdir hshort hlink _ ih =>
    cases hkept with
    | keep _ further =>
      -- the steps of the target all stay, in front of those that are thinned
      exact .follow hdir hshort hlink (ih ((Path.Thinned.refl _).append further))
    | skip hidle _ => simp at hidle

variable {p : Path} {front core back : List Name}

/-- Of a path to a file, something is left to be shown. -/
lemma LeadsTo.core_ne_nil (h : d.LeadsTo p place) (hroot : d.LeadsTo (.ofNames root) root)
    (hdir : d.lookup root = some .directory) (hfile : d.lookup place ≠ some .directory)
    (hseen : Path.SeenFrom root p front core back) : core ≠ [] := by
  rintro rfl
  have hleads := hroot.solid.leads_of_names [] (h.leads.thinned hseen.thinned)
  cases hleads
  exact hfile hdir

/-- What is shown of a path to a file leads to that file from the directory. -/
lemma LeadsTo.join (h : d.LeadsTo p place) (hroot : d.LeadsTo (.ofNames root) root)
    (hdir : d.lookup root = some .directory) (hfile : d.lookup place ≠ some .directory)
    (hseen : Path.SeenFrom root p front core back) :
    (Path.ofParts core).isAbsolute = false ∧
      d.LeadsTo ((Path.ofNames root).join (.ofParts core)) place := by
  have hproper := hroot.solid.proper
  have hslash (part : Name) (hpart : part ∈ core) : Path.slash ∉ part :=
    separator_not_mem_of_mem_splitOn (hseen.mem_parts hpart)
  have hne := h.core_ne_nil hroot hdir hfile hseen
  have hpieces := Path.pieces_ofNames_append hproper hslash hne (hseen.last [] rfl)
  obtain ⟨part, parts, rfl⟩ := List.exists_cons_of_ne_nil hne
  have hpart : part ≠ [] := fun hnil => hseen.first [] rfl (by rw [hnil, List.head?_cons])
  refine ⟨Path.isAbsolute_ofParts_cons hpart (hslash part List.mem_cons_self), ?_⟩
  rw [Path.join_ofParts_cons hproper hpart (hslash part List.mem_cons_self)]
  refine ⟨Path.bytes_ofNames_ne_nil _, Path.noNul_ofNames_iff.mpr (List.forall_mem_append.mpr
    ⟨Path.noNul_ofNames_iff.mp hroot.noNul, fun n hn hnul => ?_⟩), ?_, h.present⟩
  · exact h.noNul (mem_of_mem_splitOn (hseen.mem_parts hn) hnul)
  · rw [hpieces]
    exact h.leads.thinned hseen.thinned

end Disk

/-! ### Files under their own URIs -/

namespace Path

variable {names : Place}

end Path

namespace Disk

/-- A file that stands below the root of the workspace, under the URI of its place. From the root its
path is this text. -/
structure FileBelow (d : Disk) (root names : Place) (uri : Uri) (path : String) : Prop where
  below     : names ≠ []
  canonical : d.canonicalize (.ofNames (root ++ names)) = .ok (root ++ names)
  isFile    : ∃ content, d.lookup (root ++ names) = some (.file content)
  uri_eq    : uri = .ofNames (root ++ names)
  path_eq   : Path.ofText path = .ofParts names

namespace FileBelow

variable {d : Disk} {root names : Place} {uri : Uri} {path : String}

lemma proper (h : d.FileBelow root names uri path) : ∀ n ∈ root ++ names, Proper n :=
  (solid_of_canonicalize h.canonical).proper

end FileBelow

end Disk

end Outline
