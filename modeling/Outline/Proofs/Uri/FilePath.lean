import Mathlib.Data.List.Basic
import Outline.Proofs.Disk.Place
import Outline.Workspace

/-!
# The URI of a file and its path

The URI of a file leads back to the path of the file, since reading what was percent-encoded gives
the bytes it was made from. A path that ends in a drive gets a slash behind it on the way.
-/

namespace Outline

/-! ### Percent-encoding read back -/

namespace Percent

variable {set : CharSet}

lemma utf8EncodeChar_ofNat {n : Nat} (hn : n < 0x80) :
    String.utf8EncodeChar (Char.ofNat n) = [UInt8.ofNat n] := by
  have hvalid : n.isValidChar := .inl (by omega)
  have hval : (Char.ofNat n).val.toNat = n := by
    rw [Char.ofNat, dif_pos hvalid]
    rfl
  simp [String.utf8EncodeChar, hval, show n ≤ 0x7F by omega]

/-- A digit is one byte, which is read as the digit. -/
lemma utf8EncodeChar_upperHexDigit (n : Nat) :
    ∃ a, String.utf8EncodeChar (upperHexDigit n) = [a] ∧ digitOf? a = some (n % 16) := by
  have hdigits : ∀ d < 16, ∃ a ∈ String.utf8EncodeChar (Nat.digitChar d).toUpper,
      String.utf8EncodeChar (Nat.digitChar d).toUpper = [a] ∧ digitOf? a = some d := by
    decide
  obtain ⟨a, -, ha⟩ := hdigits (n % 16) (Nat.mod_lt n (by decide))
  exact ⟨a, ha⟩

lemma decode_nil : decode [] = [] := rfl

lemma decode_cons_of_ne {b : UInt8} (hb : b ≠ 0x25) (rest : List UInt8) :
    decode (b :: rest) = b :: decode rest := by
  rw [decode.eq_def]
  split <;> simp_all

lemma decode_escape {a b : UInt8} {x y : Nat} (ha : digitOf? a = some x) (hb : digitOf? b = some y)
    (rest : List UInt8) :
    decode (0x25 :: a :: b :: rest) = UInt8.ofNat (x * 16 + y) :: decode rest := by
  rw [decode, ha, hb]

/-- A byte is read back, whichever way it was written. -/
lemma decode_encodeByte (hset : set '%' = true) (b : UInt8) (rest : List UInt8) :
    decode ((encodeByte set b).flatMap String.utf8EncodeChar ++ rest) = b :: decode rest := by
  by_cases hplain : (decide (b < 0x80) && !set (Char.ofNat b.toNat)) = true
  · rw [encodeByte, if_pos hplain]
    simp only [Bool.and_eq_true, Bool.not_eq_true', decide_eq_true_eq] at hplain
    have hlt : b.toNat < 0x80 := UInt8.lt_iff_toNat_lt.mp hplain.1
    have hne : b ≠ 0x25 := by
      rintro rfl
      have : set '%' = false := hplain.2
      simp [hset] at this
    simp only [List.flatMap_cons, List.flatMap_nil, utf8EncodeChar_ofNat hlt, List.append_nil,
      UInt8.ofNat_toNat, List.singleton_append, decode_cons_of_ne hne]
  · rw [encodeByte, if_neg hplain]
    obtain ⟨high, hhigh, hdigit⟩ := utf8EncodeChar_upperHexDigit (b.toNat / 16)
    obtain ⟨low, hlow, hdigit'⟩ := utf8EncodeChar_upperHexDigit b.toNat
    have hpercent : String.utf8EncodeChar '%' = [0x25] := by decide
    have hbyte : b.toNat / 16 % 16 * 16 + b.toNat % 16 = b.toNat := by
      have := b.toNat_lt
      omega
    simp only [escapeByte, List.flatMap_cons, List.flatMap_nil, hpercent, hhigh, hlow,
      List.append_nil, List.cons_append, List.nil_append,
      decode_escape hdigit hdigit', hbyte, UInt8.ofNat_toNat]

/-- Bytes that were percent-encoded are read back, whatever follows them. -/
lemma decode_encodeBytes_append (hset : set '%' = true) (bytes rest : List UInt8) :
    decode (utf8Bytes (encodeBytes set bytes) ++ rest) = bytes ++ decode rest := by
  rw [utf8Bytes, encodeBytes, String.toList_ofList, List.flatMap_assoc]
  induction bytes with
  | nil => rw [List.flatMap_nil, List.nil_append, List.nil_append]
  | cons b bytes ih =>
    rw [List.flatMap_cons, List.append_assoc, decode_encodeByte hset, ih, List.cons_append]

lemma decode_encodeBytes (hset : set '%' = true) (bytes : List UInt8) :
    decode (utf8Bytes (encodeBytes set bytes)) = bytes := by
  have hdecode := decode_encodeBytes_append hset bytes []
  rwa [List.append_nil, decode_nil, List.append_nil] at hdecode

end Percent

/-! ### Back to the path -/

namespace Uri

/-- The path that the URI of the file with these names leads to. -/
def pathOf (names : List Name) : Path :=
  ⟨(Path.ofNames names).bytes ++
    if endsInDrive (Path.ofNames names).bytes then [Path.slash] else []⟩

lemma path?_ofNames (names : List Name) : (ofNames names).path? = some (pathOf names) := by
  have hdecode : ∀ n, Percent.decode (utf8Bytes (Percent.encodeBytes Percent.segmentSet n)) = n :=
    Percent.decode_encodeBytes rfl
  cases names with
  | nil => rfl
  | cons n ns =>
    have hpath : (((n :: ns).map (Percent.encodeBytes Percent.segmentSet)).flatMap fun s =>
        0x2F :: Percent.decode (utf8Bytes s)) = (Path.ofNames (n :: ns)).bytes := by
      simp only [List.flatMap_map, hdecode]
      rfl
    simp only [path?, toPath?, ofNames, List.isEmpty_cons, Bool.false_eq_true, if_false,
      List.map_cons, isLocal] at hpath ⊢
    rw [hpath, pathOf]
    cases endsInDrive (Path.ofNames (n :: ns)).bytes <;> simp [Path.slash]

/-- The path of a URI starts at the root. -/
lemma join_pathOf (cwd : Path) (names : List Name) : cwd.join (pathOf names) = pathOf names := by
  have habsolute : (pathOf names).isAbsolute = true := by
    cases names with
    | nil => rfl
    | cons n names => rfl
  rw [Path.join, if_pos habsolute]

variable {names : List Name}

/-- The path of a URI is the literal path of its place, or ends in a slash. -/
lemma pathOf_cases (names : List Name) :
    (pathOf names).bytes = names.flatMap (Path.slash :: ·) ++ [Path.slash] ∨
      ∃ front n, names = front ++ [n] ∧ pathOf names = Path.ofNames names := by
  rcases List.eq_nil_or_concat names with rfl | ⟨front, n, rfl⟩
  · exact .inl rfl
  · rw [List.concat_eq_append, pathOf]
    by_cases hdrive : endsInDrive (Path.ofNames (front ++ [n])).bytes = true
    · left
      rw [if_pos hdrive, Path.bytes_ofNames_concat]
      simp
    · right
      rw [if_neg hdrive, List.append_nil]
      exact ⟨front, n, rfl, rfl⟩

/-- The path of a URI has the names of its place for parts, and perhaps an empty one behind them. -/
lemma exists_parts_pathOf (h : ∀ n ∈ names, Proper n) :
    ∃ back, (pathOf names).parts = [] :: (names ++ back) ∧ ∀ part ∈ back, part = [] := by
  rcases pathOf_cases names with hclosed | ⟨front, n, rfl, hliteral⟩
  · have hbytes : (pathOf names).bytes = [] ++ (names ++ [[]]).flatMap (Path.slash :: ·) := by
      simp [hclosed]
    have hslashless : ∀ part ∈ names ++ [[]], Path.slash ∉ part := by
      intro part hpart
      rcases List.mem_append.mp hpart with hpart | hpart
      · exact (h part hpart).slashless
      · simp [List.mem_singleton.mp hpart]
    refine ⟨[[]], ?_, by simp⟩
    rw [Path.parts, hbytes, splitOn_flatMap_cons hslashless List.not_mem_nil]
  · refine ⟨[], ?_, by simp⟩
    rw [hliteral, Path.parts_ofNames (fun n hn => (h n hn).slashless) (by simp), List.append_nil]

lemma place_pathOf (h : ∀ n ∈ names, Proper n) : (pathOf names).place = names := by
  obtain ⟨back, hparts, hback⟩ := exists_parts_pathOf h
  have hkept : names.filter (· ≠ []) = names :=
    List.filter_eq_self.mpr fun n hn => decide_eq_true (h n hn).ne_nil
  have hdropped : back.filter (· ≠ []) = [] :=
    List.filter_eq_nil_iff.mpr fun part hpart => by simp [hback part hpart]
  rw [Path.place, hparts, List.filter_cons_of_neg (by simp), List.filter_append, hkept, hdropped,
    List.append_nil]

/-! ### One URI for each place -/

lemma utf8Bytes_text_rooted (segments : List String) :
    utf8Bytes (UriPath.rooted segments).text = segments.flatMap fun s => 0x2F :: utf8Bytes s := by
  have hslash : String.utf8EncodeChar '/' = [0x2F] := by decide
  have hjoin : ("".intercalate (segments.map ("/" ++ ·))).toList =
      segments.flatMap fun s => '/' :: s.toList := by
    induction segments with
    | nil => rfl
    | cons s segments ih =>
      cases segments with
      | nil => simp
      | cons s' segments =>
        rw [List.map_cons, List.map_cons, String.intercalate_cons_cons, ← List.map_cons,
          String.toList_append, ih]
        simp
  rw [utf8Bytes, UriPath.text, hjoin, List.flatMap_assoc]
  simp [utf8Bytes, hslash]

/-- The written path of the URI of a place stands for the literal path of the place. -/
lemma decode_path_ofNames (names : List Name) :
    Percent.decode (utf8Bytes (ofNames names).path.text) = (Path.ofNames names).bytes := by
  have hsegments (names : List Name) :
      Percent.decode ((names.map (Percent.encodeBytes Percent.segmentSet)).flatMap
        fun s => 0x2F :: utf8Bytes s) = names.flatMap (Path.slash :: ·) := by
    induction names with
    | nil => rw [List.map_nil, List.flatMap_nil, Percent.decode_nil, List.flatMap_nil]
    | cons n names ih =>
      rw [List.map_cons, List.flatMap_cons, List.cons_append,
        Percent.decode_cons_of_ne (by decide), Percent.decode_encodeBytes_append rfl, ih,
        List.flatMap_cons, List.cons_append]
      rfl
  cases names with
  | nil => rfl
  | cons n names =>
    rw [show (ofNames (n :: names)).path =
      .rooted ((n :: names).map (Percent.encodeBytes Percent.segmentSet)) from rfl,
      utf8Bytes_text_rooted, hsegments]
    rfl

lemma text_ofNames (names : List Name) :
    (ofNames names).text = "file://" ++ (ofNames names).path.text := by
  simp [text, ofNames, pathGuard, Authority.text]

/-- Places whose URIs are written the same are the same. -/
lemma eq_of_text_ofNames_eq {names' : List Name} (h : ∀ n ∈ names, Proper n)
    (h' : ∀ n ∈ names', Proper n) (htext : (ofNames names).text = (ofNames names').text) :
    names = names' := by
  rw [text_ofNames, text_ofNames] at htext
  have hbytes : (Path.ofNames names).bytes = (Path.ofNames names').bytes := by
    rw [← decode_path_ofNames, ← decode_path_ofNames, String.append_right_inj _ |>.mp htext]
  rw [← Path.place_ofNames h, ← Path.place_ofNames h', Path.place, Path.place, Path.parts,
    Path.parts, hbytes]

/-- The URI of a place other than the root is that of no other list of names, be they proper or
not. -/
lemma eq_of_ofNames_eq {names' : List Name} (h : ∀ n ∈ names, Proper n) (hne : names ≠ [])
    (heq : ofNames names = ofNames names') : names = names' := by
  have hinjective : Function.Injective (Percent.encodeBytes Percent.segmentSet) :=
    Function.LeftInverse.injective (g := fun s => Percent.decode (utf8Bytes s))
      (Percent.decode_encodeBytes rfl)
  have hsegments : names.map (Percent.encodeBytes Percent.segmentSet) =
      if names'.isEmpty then [Percent.encodeBytes Percent.segmentSet []]
      else names'.map (Percent.encodeBytes Percent.segmentSet) := by
    have hpath := congrArg Uri.path heq
    rw [ofNames, ofNames, if_neg (by simpa using hne)] at hpath
    exact UriPath.rooted.inj hpath
  cases names' with
  | nil =>
    -- the root is written as one segment without a name
    have hnames : names = [[]] := List.map_injective_iff.mpr hinjective hsegments
    exact absurd rfl (h [] (by simp [hnames])).ne_nil
  | cons n names' => exact List.map_injective_iff.mpr hinjective hsegments

end Uri

end Outline
