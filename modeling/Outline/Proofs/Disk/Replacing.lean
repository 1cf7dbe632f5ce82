import Outline.Proofs.Disk.Drift
import Outline.Proofs.Text.Utf8

/-!
# Files that are replaced

A file is replaced by writing a temporary file beside it and renaming this one over it. When the
name of the temporary file belongs to a link, it is the link that is renamed, and what was written
is found through it. This works as long as the write does not go by way of the file that is
replaced.
-/

namespace Outline.Disk

variable {d d' : Disk} {links links' : Nat} {place goal : Place} {pieces rest : List Piece}

/-! ### Steps -/

lemma Leads.mono (h : d.Leads links place pieces goal) (hle : links ≤ links') :
    d.Leads links' place pieces goal := by
  induction h generalizing links' with
  | arrived => exact .arrived links' _
  | stay hidle hdir _ ih => exact .stay hidle hdir (ih hle)
  | leave hdir _ ih => exact .leave hdir (ih hle)
  | enter hdir hshort hnoLink _ ih => exact .enter hdir hshort hnoLink (ih hle)
  | follow hdir hshort hlink _ ih =>
    cases links' with
    | zero => cases hle
    | succ links' => exact .follow hdir hshort hlink (ih (Nat.le_of_succ_le_succ hle))

/-- Behind steps that do not lead to a directory there are no others. -/
lemma Leads.eq_nil_of_append {goal' : Place} (h : d.Leads links place pieces goal)
    (hdir : d.lookup goal ≠ some .directory) (h' : d.Leads links' place (pieces ++ rest) goal') :
    rest = [] := by
  induction h generalizing links' with
  | arrived => exact (h'.eq_of_not_directory hdir).1
  | stay hidle _ _ ih =>
    rcases hidle with rfl | rfl
    · cases h' with
      | stay _ _ further => exact ih hdir further
    · cases h' with
      | stay _ _ further => exact ih hdir further
  | leave _ _ ih =>
    cases h' with
    | stay hidle _ _ => simp at hidle
    | leave _ further => exact ih hdir further
  | enter _ _ hnoLink _ ih =>
    obtain ⟨-, -, ⟨-, further⟩ | ⟨_, target, -, hlink, -⟩⟩ := leads_name_iff.mp h'
    · exact ih hdir further
    · exact absurd hlink (hnoLink target)
  | @follow _ _ _ _ _ target _ _ hlink _ ih =>
    rw [List.cons_append] at h'
    obtain ⟨-, -, ⟨hnoLink, -⟩ | ⟨_, target', -, hlink', further⟩⟩ := leads_name_iff.mp h'
    · exact absurd hlink (hnoLink target)
    · rw [hlink, Option.some.injEq, Entry.link.injEq] at hlink'
      subst hlink'
      rw [← List.append_assoc] at further
      exact ih hdir further

/-- Steps go on from a place that names lead to. -/
lemma Solid.leads_names_append (front : Place) {names : Place} (hsolid : d.Solid (front ++ names))
    (h : d.Leads links (front ++ names) rest goal) :
    d.Leads links front (names.map .name ++ rest) goal := by
  induction names generalizing front with
  | nil => rwa [List.append_nil] at h
  | cons n names ih =>
    rw [List.append_cons] at h
    have hnext : d.Solid (front ++ [n] ++ names) := by rwa [List.append_cons] at hsolid
    refine .enter (hsolid.above front (List.prefix_append _ _) (by simp)) (hsolid.short n (by simp))
      ?_ (ih _ hnext h)
    rcases names with _ | ⟨m, names⟩
    · rw [List.append_nil] at hnext
      exact hnext.settled
    · rw [hnext.above (front ++ [n]) (List.prefix_append _ _) (by simp)]
      simp

lemma find_of_leads {path : Path} {entry : Entry} (hcheck : checkPath path = .ok ())
    (h : d.Leads linkLimit [] path.pieces goal) (hentry : d.lookup goal = some entry) :
    d.find path = .ok (goal, entry) := by
  unfold find resolve
  rw [bind_eq_ok_iff]
  exact ⟨_, checkPath_bind_eq_ok_iff.mpr ⟨hcheck, h.walk_eq⟩, need_eq_ok_iff.mpr ⟨rfl, hentry⟩⟩

lemma read_of_leads {path : Path} {content : ByteArray} (hcheck : checkPath path = .ok ())
    (h : d.Leads linkLimit [] path.pieces goal) (hfile : d.lookup goal = some (.file content)) :
    d.read path = .ok content := by
  unfold read
  rw [find_of_leads hcheck h hfile]
  rfl

section Named

variable {root : Place} {m : Name} {content : ByteArray} (hsolid : d.Solid root)
  (hrootDir : d.lookup root = some .directory) (hm : Proper m) (hshort : m.length ≤ nameLimit)
  (hcheck : checkPath (Path.ofNames (root ++ [m])) = .ok ())
include hsolid hrootDir hm hshort hcheck

/-- What stands under a name in a solid place is found by that name, unless it is a link. -/
lemma Solid.find_name {entry : Entry} (hentry : d.lookup (root ++ [m]) = some entry)
    (hlink : ∀ target, entry ≠ .link target) :
    d.find (Path.ofNames (root ++ [m])) = .ok (root ++ [m], entry) := by
  have hthere := hsolid.concat hrootDir hm hshort (by simpa [hentry] using hlink)
  have hpieces := Path.pieces_ofNames_concat hthere.proper
  exact find_of_leads hcheck (hpieces ▸ hthere.leads linkLimit) hentry

lemma Solid.read_name (hfile : d.lookup (root ++ [m]) = some (.file content)) :
    d.read (Path.ofNames (root ++ [m])) = .ok content := by
  unfold read
  rw [hsolid.find_name hrootDir hm hshort hcheck hfile (by simp)]
  rfl

/-- What a link leads to is read by the name of the link. -/
lemma Solid.read_link {target : Path} (hlink : d.lookup (root ++ [m]) = some (.link target))
    (hleads : d.Leads links (if target.isAbsolute then [] else root) target.pieces goal)
    (hlinks : links + 1 = linkLimit) (hfile : d.lookup goal = some (.file content)) :
    d.read (Path.ofNames (root ++ [m])) = .ok content := by
  have hthere : d.Leads linkLimit root [.name m] goal :=
    hlinks ▸ .follow hrootDir hshort hlink (by rwa [List.append_nil])
  refine read_of_leads hcheck ?_ hfile
  rw [Path.pieces_ofNames_concat (hsolid.proper_concat hm), List.map_append, List.map_singleton]
  exact hsolid.leads_names_append [] hthere

end Named

lemma read_of_checkPath {path : Path} {e : IoError} (h : checkPath path = .error e) :
    d.read path = .error e := by
  unfold read find resolve
  rw [h]
  rfl

lemma readText_of_read {path : Path} {text : String} (h : d.read path = .ok text.toUTF8) :
    d.readText path = .ok text := by
  unfold readText
  rw [h]
  exact bind_eq_ok_iff.mpr ⟨_, rfl, by rw [fromUTF8?_toUTF8]; rfl⟩

/-! ### Links that are moved -/

/-- The link of the name `n` in `root` is moved to the place `x`, where there was nothing. Other
links and the directories stay. -/
structure LinkMoved (d d' : Disk) (root : Place) (n : Name) (x : Place) (target : Path) : Prop where
  link        : d.lookup (root ++ [n]) = some (.link target)
  free        : d.lookup x = none
  directories : ∀ p, d.lookup p = some .directory → d'.lookup p = some .directory
  links       : ∀ p, p ≠ root ++ [n] → ∀ path, d.lookup p = some (.link path) →
    d'.lookup p = some (.link path)
  noOther     : ∀ p, p ≠ x → ∀ path, d'.lookup p = some (.link path) →
    d.lookup p = some (.link path)

namespace LinkMoved

variable {root x : Place} {n : Name} {target : Path}

/-- Steps lead where they led, unless they go along the link that was moved. Then there are fewer
links left for the steps from there on. -/
lemma leads_or_follows (h : LinkMoved d d' root n x target) (hgoal : goal ≠ x)
    (hleads : d.Leads links place pieces goal) :
    d'.Leads links place pieces goal ∨ ∃ links' < links, ∃ rest,
      d.Leads links' (if target.isAbsolute then [] else root) (target.pieces ++ rest) goal := by
  induction hleads with
  | arrived links place => exact .inl (.arrived links place)
  | stay hidle hdir _ ih =>
    exact (ih hgoal).imp_left fun further => .stay hidle (h.directories _ hdir) further
  | leave hdir _ ih =>
    exact (ih hgoal).imp_left fun further => .leave (h.directories _ hdir) further
  | @enter links place goal n' rest hdir hshort hnoLink further ih =>
    refine (ih hgoal).imp_left fun further' => ?_
    refine .enter (h.directories _ hdir) hshort (fun path hlink => ?_) further'
    by_cases hx : place ++ [n'] = x
    · -- nothing stands there, so it could only be the goal
      have hnone : d.lookup (place ++ [n']) ≠ some .directory := by simp [hx, h.free]
      exact hgoal ((further.eq_of_not_directory hnone).2.trans hx)
    · exact hnoLink path (h.noOther _ hx path hlink)
  | @follow links place goal n' rest path hdir hshort hlink further ih =>
    by_cases hmoved : place ++ [n'] = root ++ [n]
    · obtain ⟨rfl, hn⟩ := List.append_inj' hmoved rfl
      obtain rfl := List.singleton_inj.mp hn
      rw [h.link, Option.some.injEq, Entry.link.injEq] at hlink
      subst hlink
      exact .inr ⟨links, Nat.lt_succ_self links, rest, further⟩
    · rcases ih hgoal with further' | ⟨links', hlt, hfollows⟩
      · exact .inl (.follow (h.directories _ hdir) hshort (h.links _ hmoved path hlink) further')
      · exact .inr ⟨links', Nat.lt_succ_of_lt hlt, hfollows⟩

/-- The link leads from its new place where it led from the old one. -/
lemma leads (h : LinkMoved d d' root n x target) (hgoal : goal ≠ x)
    (hdir : d.lookup goal ≠ some .directory)
    (hleads : d.Leads links (if target.isAbsolute then [] else root) target.pieces goal) :
    d'.Leads links (if target.isAbsolute then [] else root) target.pieces goal := by
  induction links using Nat.strongRecOn with
  | _ links ih =>
    rcases h.leads_or_follows hgoal hleads with hnow | ⟨links', hlt, rest, hagain⟩
    · exact hnow
    · obtain rfl := hleads.eq_nil_of_append hdir hagain
      rw [List.append_nil] at hagain
      exact (ih links' hlt hagain).mono (Nat.le_of_lt hlt)

end LinkMoved

/-! ### Replacing a file -/

/-- What is written to the path does not go to `x`, and would go to the same place without `x`. -/
def WritesBeside (d : Disk) (path : Path) (x : Place) : Prop :=
  ∀ goal, d.writePlace path = .ok goal → goal ≠ x ∧ (d.erase x).writePlace path = .ok goal

lemma Solid.of_directories {root : Place} (hsolid : d.Solid root)
    (hdir : d.lookup root = some .directory)
    (h : ∀ p, d.lookup p = some .directory → d'.lookup p = some .directory) : d'.Solid root where
  proper  := hsolid.proper
  short   := hsolid.short
  above   := fun front hfront hne => h front (hsolid.above front hfront hne)
  settled := by simp [h root hdir]

/-- A place does not depend on what is in it. -/
lemma Solid.erase_concat {root : Place} (hsolid : d.Solid root) (m : Name) :
    (d.erase (root ++ [m])).Solid root where
  proper  := hsolid.proper
  short   := hsolid.short
  above   := by
    intro front hfront hne
    rw [lookup_erase_of_ne, hsolid.above front hfront hne]
    rintro rfl
    exact absurd hfront.length_le (by simp)
  settled := by
    rw [lookup_erase_of_ne (by simp)]
    exact hsolid.settled

lemma lookup_erase_eq_some_iff {x p : Place} {entry : Entry} (hx : x ≠ []) :
    (d.erase x).lookup p = some entry ↔ x ≠ p ∧ d.lookup p = some entry := by
  by_cases hp : x = p
  · subst hp
    simp [lookup_erase_self hx]
  · simp [lookup_erase_of_ne hp, hp]

/-- The disk after something was written to `goal` and the entry of `old` was moved to `new`. -/
def replaced (d : Disk) (old new goal : Place) (content : ByteArray) (entry : Entry) : Disk :=
  ((d.set goal (.file content)).erase old).set new entry

section Replaced

variable {old new p : Place} {content : ByteArray} {entry : Entry}

lemma lookup_replaced_new (hnew : new ≠ []) :
    (d.replaced old new goal content entry).lookup new = some entry :=
  lookup_set_self hnew entry

lemma lookup_replaced_old (hold : old ≠ []) (hne : new ≠ old) :
    (d.replaced old new goal content entry).lookup old = none := by
  rw [replaced, lookup_set_of_ne hne, lookup_erase_self hold]

lemma lookup_replaced_goal (hgoal : goal ≠ []) (hold : old ≠ goal) (hnew : new ≠ goal) :
    (d.replaced old new goal content entry).lookup goal = some (.file content) := by
  rw [replaced, lookup_set_of_ne hnew, lookup_erase_of_ne hold, lookup_set_self hgoal]

lemma lookup_replaced_of_ne (hold : old ≠ p) (hnew : new ≠ p) (hgoal : goal ≠ p) :
    (d.replaced old new goal content entry).lookup p = d.lookup p := by
  rw [replaced, lookup_set_of_ne hnew, lookup_erase_of_ne hold, lookup_set_of_ne hgoal]

/-- The directories stay. -/
lemma directory_replaced (hold : d.lookup old ≠ some .directory)
    (hnew : d.lookup new ≠ some .directory) (hgoal : d.lookup goal ≠ some .directory)
    (hp : d.lookup p = some .directory) :
    (d.replaced old new goal content entry).lookup p = some .directory := by
  rw [lookup_replaced_of_ne, hp]
  all_goals
    rintro rfl
    contradiction

/-- Without `new`, the disk differs from the one after the replacement in a link that was moved. -/
lemma linkMoved_replaced {root : Place} {n : Name} {target : Path} (hold : old = root ++ [n])
    (hlink : d.lookup old = some (.link target)) (hne : new ≠ old) (hnew : new ≠ [])
    (hgoalDir : d.lookup goal ≠ some .directory)
    (hgoalLink : ∀ path, d.lookup goal ≠ some (.link path)) :
    LinkMoved (d.erase new) (d.replaced old new goal content (.link target)) root n new target where
  link := by rw [← hold, lookup_erase_of_ne hne, hlink]
  free := lookup_erase_self hnew
  directories := by
    intro p hp
    obtain ⟨hnewp, hp⟩ := (lookup_erase_eq_some_iff hnew).mp hp
    rw [lookup_replaced_of_ne ?_ hnewp ?_, hp]
    · rintro rfl
      rw [hlink] at hp
      cases hp
    · rintro rfl
      exact hgoalDir hp
  links := by
    intro p hoff path hp
    obtain ⟨hnewp, hp⟩ := (lookup_erase_eq_some_iff hnew).mp hp
    rw [lookup_replaced_of_ne ?_ hnewp ?_, hp]
    · exact fun heq => hoff (heq ▸ hold)
    · rintro rfl
      exact hgoalLink path hp
  noOther := by
    intro p hoff path hp
    have hp' : old ≠ p := by
      rintro rfl
      rw [lookup_replaced_old (by simp [hold]) hne] at hp
      cases hp
    have hgoal : goal ≠ p := by
      rintro rfl
      rw [lookup_replaced_goal (ne_nil_of_not_directory hgoalDir) hp' (Ne.symm hoff)] at hp
      cases hp
    rw [lookup_replaced_of_ne hp' (Ne.symm hoff) hgoal] at hp
    exact (lookup_erase_eq_some_iff hnew).mpr ⟨Ne.symm hoff, hp⟩

end Replaced

lemma sameTree_of_writePlace {path : Path} (h : d.writePlace path = .ok goal)
    (content : ByteArray) : SameTree d (d.set goal (.file content)) := by
  obtain ⟨-, hdir, hlink⟩ := writePlace_eq_ok_iff.mp h
  exact (SameTree.refl d).set_file hdir hlink content

/-- There is room for what is written to a name in a solid place. -/
lemma Solid.open_of_writePlace {root : Place} {n : Name} (hsolid : d.Solid root) (hn : Proper n)
    (h : d.writePlace (Path.ofNames (root ++ [n])) = .ok goal) :
    Open d (Path.ofNames (root ++ [n])) := by
  have hproper := hsolid.proper_concat hn
  have hleads := leads_of_writePlace h
  have hfound := (writePlace_eq_ok_iff.mp h).1
  unfold resolve at hfound
  rw [Path.pieces_ofNames_concat hproper, List.map_append, List.map_singleton] at hleads
  obtain ⟨hdir, hshort, -⟩ := leads_name_iff.mp (hsolid.leads_of_names [] hleads)
  exact (open_iff (Path.place_ofNames hproper)).mpr
    ⟨(checkPath_bind_eq_ok_iff.mp hfound).1, hdir, hshort⟩

section Renaming

variable {root : Place} {n m : Name} (hsolid : d.Solid root) (hn : Proper n) (hm : Proper m)
  (hne : n ≠ m)
include hsolid hn hm hne

lemma Solid.rename_eq_ok_iff :
    d.rename (Path.ofNames (root ++ [n])) (Path.ofNames (root ++ [m])) = .ok d' ↔
      Open d (Path.ofNames (root ++ [n])) ∧ Open d (Path.ofNames (root ++ [m])) ∧
        d.lookup (root ++ [m]) ≠ some .directory ∧
        ∃ entry, d.lookup (root ++ [n]) = some entry ∧
          d' = (d.erase (root ++ [n])).set (root ++ [m]) entry := by
  have hold := Path.place_ofNames (hsolid.proper_concat hn)
  have hnew := Path.place_ofNames (hsolid.proper_concat hm)
  have hapart : root ++ [n] ≠ root ++ [m] := by simpa using hne
  unfold rename
  simp only [bind_eq_ok_iff, hsolid.leaf_eq_ok_iff hold (hsolid.proper_concat hn),
    hsolid.leaf_eq_ok_iff hnew (hsolid.proper_concat hm),
    Path.endsInSlash_ofNames_concat root hm.ne_nil hm.slashless, hold, hnew]
  constructor
  · rintro ⟨_, ⟨hopen, rfl⟩, _, ⟨hopen', rfl⟩, hd'⟩
    cases hentry : d.lookup (root ++ [n]) with
    | none =>
      rw [hentry] at hd'
      cases hd'
    | some entry =>
      simp only [hentry, Bool.false_eq_true, if_false, ite_throw_bind_eq_ok_iff, hapart,
        pure_eq_ok_iff] at hd'
      exact ⟨hopen, hopen', hd'.1, entry, rfl, hd'.2⟩
  · rintro ⟨hopen, hopen', hdir, entry, hentry, hd'⟩
    refine ⟨_, ⟨hopen, rfl⟩, _, ⟨hopen', rfl⟩, ?_⟩
    simp only [hentry, Bool.false_eq_true, if_false, ite_throw_bind_eq_ok_iff, hapart,
      pure_eq_ok_iff]
    exact ⟨hdir, hd'⟩

omit hm in
/-- A name that does not belong to a link is written beside every other name. -/
lemma Solid.writesBeside (hlink : ∀ target, d.lookup (root ++ [n]) ≠ some (.link target)) :
    d.WritesBeside (Path.ofNames (root ++ [n])) (root ++ [m]) := by
  have hapart : root ++ [m] ≠ root ++ [n] := by simpa using hne.symm
  have hplace := Path.place_ofNames (hsolid.proper_concat hn)
  have hwithout := hsolid.erase_concat m
  have hlocated : Located (d.erase (root ++ [m])) (Path.ofNames (root ++ [n])) :=
    hwithout.located hn fun _ => by rwa [lookup_erase_of_ne hapart]
  intro goal hgoal
  rcases hsolid.eq_or_leads_of_writePlace hn hgoal with rfl | ⟨_, target, -, htarget, -⟩
  · refine ⟨hapart.symm, hlocated.writePlace_eq_ok_iff.mpr ⟨?_, ?_, hplace.symm⟩⟩
    · have hopen := hsolid.open_of_writePlace hn hgoal
      rw [open_iff hplace] at hopen ⊢
      rwa [lookup_erase_of_ne (by simp)]
    · rw [hplace, lookup_erase_of_ne hapart]
      exact (writePlace_eq_ok_iff.mp hgoal).2.1
  · exact absurd htarget (hlink target)

variable {written : Disk} {content : ByteArray}
  (hbeside : d.WritesBeside (Path.ofNames (root ++ [n])) (root ++ [m]))
  (hwrite : d.write (Path.ofNames (root ++ [n])) content = .ok written)
include hbeside hwrite

omit hsolid hn hm hne in
/-- Writing the temporary file leaves the file alone. -/
lemma lookup_of_write : written.lookup (root ++ [m]) = d.lookup (root ++ [m]) := by
  obtain ⟨goal, hgoal, rfl⟩ := write_eq_ok_iff.mp hwrite
  exact lookup_set_of_ne (hbeside goal hgoal).1 _

/-- The file that was replaced has the new content. -/
lemma Solid.read_of_rename
    (hrename : written.rename (Path.ofNames (root ++ [n])) (Path.ofNames (root ++ [m])) = .ok d') :
    d'.read (Path.ofNames (root ++ [m])) = .ok content := by
  obtain ⟨goal, hgoal, rfl⟩ := write_eq_ok_iff.mp hwrite
  obtain ⟨hoff, haround⟩ := hbeside goal hgoal
  obtain ⟨-, hgoalDir, hgoalLink⟩ := writePlace_eq_ok_iff.mp hgoal
  have htree := sameTree_of_writePlace hgoal content
  obtain ⟨-, hopen, hnewDir, entry, hentry, rfl⟩ :=
    ((htree.solid hsolid).rename_eq_ok_iff hn hm hne).mp hrename
  obtain ⟨hcheck, hrootDir, hshort⟩ :=
    (open_iff (Path.place_ofNames (hsolid.proper_concat hm))).mp hopen
  rw [← htree.directory_iff] at hrootDir
  rw [ne_eq, ← htree.directory_iff] at hnewDir
  have hnil : root ++ [m] ≠ [] := by simp
  have hdirs : ∀ p, d.lookup p = some .directory →
      (d.replaced (root ++ [n]) (root ++ [m]) goal content entry).lookup p = some .directory :=
    fun p hp => directory_replaced (hsolid.writePlace_cases hn hgoal).1 hnewDir hgoalDir hp
  have hsolid' := hsolid.of_directories hrootDir hdirs
  have hnew : (d.replaced (root ++ [n]) (root ++ [m]) goal content entry).lookup (root ++ [m]) =
      some entry := lookup_replaced_new hnil
  change (d.replaced (root ++ [n]) (root ++ [m]) goal content entry).read _ = _
  rcases (hsolid.erase_concat m).eq_or_leads_of_writePlace hn haround with
    rfl | ⟨links, target, hlinks, hlink, hleads⟩
  · -- the file that was written is moved itself
    rw [lookup_set_self (by simp), Option.some.injEq] at hentry
    subst hentry
    exact hsolid'.read_name (hdirs root hrootDir) hm hshort hcheck hnew
  · -- a link to it is moved
    have hold := ((lookup_erase_eq_some_iff hnil).mp hlink).2
    have hgoal' : goal ≠ root ++ [n] := fun heq => hgoalLink target (heq ▸ hold)
    rw [lookup_set_of_ne hgoal', hold, Option.some.injEq] at hentry
    subst hentry
    have hmoved : LinkMoved _ (d.replaced (root ++ [n]) (root ++ [m]) goal content _) _ _ _ _ :=
      linkMoved_replaced rfl hold (by simpa using hne.symm) hnil hgoalDir hgoalLink
    have hfar := hmoved.leads hoff (by rwa [lookup_erase_of_ne hoff.symm]) hleads
    exact hsolid'.read_link (hdirs root hrootDir) hm hshort hcheck hnew hfar hlinks
      (lookup_replaced_goal (ne_nil_of_not_directory hgoalDir) hgoal'.symm hoff.symm)

omit hbeside in
/-- A file that was written can be renamed to any other name that is not of a directory. -/
lemma Solid.exists_rename_eq_ok (hcheck : checkPath (Path.ofNames (root ++ [m])) = .ok ())
    (hshort : m.length ≤ nameLimit) (hdir : d.lookup (root ++ [m]) ≠ some .directory) :
    ∃ d', written.rename (Path.ofNames (root ++ [n])) (Path.ofNames (root ++ [m])) = .ok d' := by
  obtain ⟨goal, hgoal, rfl⟩ := write_eq_ok_iff.mp hwrite
  have htree := sameTree_of_writePlace hgoal content
  have hopen := htree.open_iff.mp (hsolid.open_of_writePlace hn hgoal)
  have hrootDir := ((open_iff (Path.place_ofNames (hsolid.proper_concat hn))).mp hopen).2.1
  have hopen' := (open_iff (Path.place_ofNames (hsolid.proper_concat hm))).mpr
    ⟨hcheck, hrootDir, hshort⟩
  have hentry : ∃ entry, (d.set goal (.file content)).lookup (root ++ [n]) = some entry := by
    rcases hsolid.eq_or_leads_of_writePlace hn hgoal with rfl | ⟨_, target, -, hlink, -⟩
    · exact ⟨_, lookup_set_self (by simp) _⟩
    · exact ⟨_, (htree.link_iff _ target).mp hlink⟩
  obtain ⟨entry, hentry⟩ := hentry
  exact ⟨_, ((htree.solid hsolid).rename_eq_ok_iff hn hm hne).mpr
    ⟨hopen, hopen', mt (htree.directory_iff _).mpr hdir, entry, hentry, rfl⟩⟩

end Renaming

end Outline.Disk
