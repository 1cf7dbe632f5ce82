import Outline.Proofs.Disk.Relative
import Outline.Proofs.Disk.Replacing
import Outline.Proofs.Registration.Configuration

/-!
# Registering in a workspace

A registration that fails leaves the configuration of the workspace alone. One that succeeds adds
one entry to it, and there is no second one. Both take it that the temporary file is not written by
way of the configuration.
-/

namespace Outline

open Disk

namespace Registration

variable {disk after : Disk} {file : Path} {root : Place} {config : Json}
  {languageServer text : String} {serverArgs : List String}

/-! ### The configuration -/

/-- The file is missing and `config` is empty, or the file holds `config`. -/
def Holds (disk : Disk) (file : Path) (config : Json) : Prop :=
  disk.exists? file = false ∧ config = .obj [] ∨
    ∃ text, disk.readText file = .ok text ∧ Json.parse text = some config

lemma exists?_of_readText (h : disk.readText file = .ok text) : disk.exists? file = true := by
  unfold readText Disk.read at h
  obtain ⟨content, hread, -⟩ := bind_eq_ok_iff.mp h
  obtain ⟨found, hfound, -⟩ := bind_eq_ok_iff.mp hread
  rw [exists?, hfound]
  rfl

lemma current_eq_ok_iff : current disk file = .ok config ↔ Holds disk file config := by
  unfold current Holds
  cases hexists : disk.exists? file with
  | false =>
    have hnone : ∀ text, disk.readText file ≠ .ok text := by
      intro text htext
      rw [exists?_of_readText htext] at hexists
      cases hexists
    simp [pure_eq_ok_iff, hnone]
  | true =>
    cases hread : disk.readText file with
    | error e => simp [throw, throwThe, MonadExceptOf.throw]
    | ok text =>
      cases hparse : Json.parse text with
      | none => simp [hparse, throw, throwThe, MonadExceptOf.throw]
      | some old => simpa [hparse, eq_comm (a := old)] using pure_eq_ok_iff

lemma updatedText_eq_ok_iff :
    updatedText disk file languageServer serverArgs = .ok text ↔
      ∃ config written, Holds disk file config ∧
        addTo config (entry languageServer serverArgs) = some written ∧ text = written.pretty := by
  unfold updatedText
  simp only [bind_eq_ok_iff, current_eq_ok_iff]
  constructor
  · rintro ⟨config, hconfig, h⟩
    split at h
    · rename_i written hwritten
      exact ⟨config, written, hconfig, hwritten, pure_eq_ok_iff.mp h⟩
    · cases h
  · rintro ⟨config, written, hconfig, hwritten, rfl⟩
    refine ⟨config, hconfig, ?_⟩
    rw [hwritten]
    rfl

/-- A file that holds a configuration holds no other one. -/
lemma Holds.unique {other : Json} (h : Holds disk file config) (h' : Holds disk file other) :
    config = other := by
  rw [← current_eq_ok_iff] at h h'
  exact Except.ok.inj (h.symm.trans h')

lemma Holds.tidy (h : Holds disk file config) : config.Tidy Json.IsRead 127 := by
  rcases h with ⟨-, rfl⟩ | ⟨text, -, hparse⟩
  · exact .obj .nil (List.forall_mem_nil _)
  · exact Json.tidy_of_parse hparse

/-! ### Paths in a workspace -/

/-- The place of the configuration of a workspace. -/
def configPlace (root : Place) : Place := root ++ [utf8Bytes ".mcp.json"]

/-- The place of the temporary file. -/
def temporaryPlace (root : Place) : Place := root ++ [utf8Bytes ".mcp.tmp"]

lemma proper_configName : Proper (utf8Bytes ".mcp.json") := by
  constructor <;> decide

lemma proper_temporaryName : Proper (utf8Bytes ".mcp.tmp") := by
  constructor <;> decide

lemma join_ofText (hroot : ∀ n ∈ root, Proper n) {name : String} (hname : Proper (utf8Bytes name)) :
    (Path.ofNames root).join (.ofText name) = .ofNames (root ++ [utf8Bytes name]) := by
  have hparts : Path.ofText name = Path.ofParts [utf8Bytes name] := by
    simp [Path.ofText, Path.ofParts]
  rw [hparts, Path.join_ofParts_cons hroot hname.ne_nil hname.slashless]

/-! ### Registrations -/

/-- The ways a registration can go: there is nothing to write, the temporary file cannot be written,
it cannot be renamed, or it is renamed. -/
inductive Course (disk : Disk) (temporary file : Path) (languageServer : String)
    (serverArgs : List String) : Disk → Except RegistrationError Path → Prop where
  | refused {e : RegistrationError}
      (hrefused : updatedText disk file languageServer serverArgs = .error e) :
      Course disk temporary file languageServer serverArgs disk (.error e)
  | unwritten {text : String} {e : IoError}
      (htext : updatedText disk file languageServer serverArgs = .ok text)
      (hwrite : disk.writeText temporary text = .error e) :
      Course disk temporary file languageServer serverArgs disk (.error (.unwritable e))
  | unmoved {text : String} {written : Disk} {e : IoError}
      (htext : updatedText disk file languageServer serverArgs = .ok text)
      (hwrite : disk.writeText temporary text = .ok written)
      (hrename : written.rename temporary file = .error e) :
      Course disk temporary file languageServer serverArgs written (.error (.notMoved e))
  | done {text : String} {written after : Disk}
      (htext : updatedText disk file languageServer serverArgs = .ok text)
      (hwrite : disk.writeText temporary text = .ok written)
      (hrename : written.rename temporary file = .ok after) :
      Course disk temporary file languageServer serverArgs after (.ok file)

variable {result : Except RegistrationError Path}

lemma course_of_register (hroot : ∀ n ∈ root, Proper n)
    (h : register disk (.ofNames root) languageServer serverArgs = (after, result)) :
    Course disk (.ofNames (temporaryPlace root)) (.ofNames (configPlace root)) languageServer
      serverArgs after result := by
  unfold register at h
  rw [join_ofText hroot proper_configName, join_ofText hroot proper_temporaryName] at h
  dsimp only at h
  split at h
  · cases h
    exact .refused (by assumption)
  · split at h
    · cases h
      exact .unwritten (by assumption) (by assumption)
    · split at h
      · cases h
        exact .unmoved (by assumption) (by assumption) (by assumption)
      · cases h
        exact .done (by assumption) (by assumption) (by assumption)

/-- Where the server is registered, it is not registered again. -/
lemma register_eq_of_adds {old newEntry new : Json} (hroot : ∀ n ∈ root, Proper n)
    (hholds : Holds disk (.ofNames (configPlace root)) new) (hadds : Adds old newEntry new)
    (languageServer : String) (serverArgs : List String) :
    register disk (.ofNames root) languageServer serverArgs =
      (disk, .error .alreadyRegistered) := by
  have hrefused : updatedText disk (.ofNames (configPlace root)) languageServer serverArgs =
      .error .alreadyRegistered := by
    refine bind_eq_error_iff.mpr (.inr ⟨new, current_eq_ok_iff.mpr hholds, ?_⟩)
    rw [hadds.addTo_eq_none]
    rfl
  have hfile := join_ofText hroot proper_configName
  unfold register
  simp only [hfile]
  rw [configPlace] at hrefused
  rw [hrefused]

section Workspace

variable (hsolid : disk.Solid root)
include hsolid

/-- A directory holds no configuration. -/
lemma Holds.lookup_ne_directory (hconfig : Holds disk (.ofNames (configPlace root)) config)
    (hrootDir : disk.lookup root = some .directory)
    (hcheck : checkPath (.ofNames (configPlace root)) = .ok ()) :
    disk.lookup (configPlace root) ≠ some .directory := by
  intro hdir
  have hfind :=
    hsolid.find_name hrootDir proper_configName (by decide) hcheck hdir (by simp)
  rw [← configPlace] at hfind
  rcases hconfig with ⟨hnone, -⟩ | ⟨text, htext, -⟩
  · rw [exists?, hfind] at hnone
    cases hnone
  · unfold readText Disk.read at htext
    rw [hfind] at htext
    cases htext

variable (hbeside : disk.WritesBeside (.ofNames (temporaryPlace root)) (configPlace root))
include hbeside

lemma kept_of_error {e : RegistrationError}
    (h : register disk (.ofNames root) languageServer serverArgs = (after, .error e)) :
    after.lookup (configPlace root) = disk.lookup (configPlace root) ∧
      after.read (.ofNames (configPlace root)) = disk.read (.ofNames (configPlace root)) := by
  cases course_of_register hsolid.proper h with
  | refused => exact ⟨rfl, rfl⟩
  | unwritten => exact ⟨rfl, rfl⟩
  | unmoved htext hwrite hrename =>
    refine ⟨lookup_of_write hbeside hwrite, ?_⟩
    obtain ⟨config, -, hconfig, -, -⟩ := updatedText_eq_ok_iff.mp htext
    cases hcheck : checkPath (.ofNames (configPlace root)) with
    | error e => rw [read_of_checkPath hcheck, read_of_checkPath hcheck]
    | ok =>
      obtain ⟨goal, hgoal, -⟩ := write_eq_ok_iff.mp hwrite
      have hopen := hsolid.open_of_writePlace proper_temporaryName hgoal
      have hrootDir := ((open_iff (Path.place_ofNames
        (hsolid.proper_concat proper_temporaryName))).mp hopen).2.1
      obtain ⟨after, hafter⟩ := hsolid.exists_rename_eq_ok proper_temporaryName proper_configName
        (by decide) hwrite hcheck (by decide)
        (hconfig.lookup_ne_directory hsolid hrootDir hcheck)
      rw [temporaryPlace, configPlace, hafter] at hrename
      cases hrename

lemma holds_of_ok {path : Path} (hconfig : Holds disk (.ofNames (configPlace root)) config)
    (hwhole : config.Whole)
    (h : register disk (.ofNames root) languageServer serverArgs = (after, .ok path)) :
    ∃ text new, after.readText (.ofNames (configPlace root)) = .ok text ∧
      Json.parse text = some new ∧ Adds config (entry languageServer serverArgs) new := by
  cases course_of_register hsolid.proper h with
  | done htext hwrite hrename =>
    obtain ⟨config', new, hconfig', hadd, rfl⟩ := updatedText_eq_ok_iff.mp htext
    obtain rfl := hconfig'.unique hconfig
    have hread := hsolid.read_of_rename proper_temporaryName proper_configName (by decide)
      hbeside hwrite hrename
    exact ⟨new.pretty, new, readText_of_read hread,
      parse_pretty_of_addTo hconfig.tidy hwhole hadd, adds_of_addTo hadd⟩

end Workspace

/-- A registration that fails leaves the configuration as it was. One that succeeds in a workspace
without a configuration, or with one of integers, adds one entry to it, and is the last one. -/
theorem registration_keeps_configuration {workspace : Path}
    (hroot : disk.canonicalize workspace = .ok root)
    (hbeside : disk.WritesBeside (.ofNames (temporaryPlace root)) (configPlace root))
    (h : register disk (.ofNames root) languageServer serverArgs = (after, result)) :
    (∀ e, result = .error e →
      after.lookup (configPlace root) = disk.lookup (configPlace root) ∧
        after.read (.ofNames (configPlace root)) = disk.read (.ofNames (configPlace root))) ∧
    ∀ path, result = .ok path → path = .ofNames (configPlace root) ∧
      ∀ old, Holds disk path old → old.Whole → ∃ text new,
        after.readText path = .ok text ∧ Json.parse text = some new ∧
        Adds old (entry languageServer serverArgs) new ∧
        ∀ languageServer' serverArgs',
          register after (.ofNames root) languageServer' serverArgs' =
            (after, .error .alreadyRegistered) := by
  have hsolid := solid_of_canonicalize hroot
  constructor
  · rintro e rfl
    exact kept_of_error hsolid hbeside h
  · rintro path rfl
    have hpath : path = .ofNames (configPlace root) := by
      cases course_of_register hsolid.proper h
      rfl
    subst hpath
    refine ⟨rfl, fun old hold hwhole => ?_⟩
    obtain ⟨text, new, htext, hparse, hadds⟩ := holds_of_ok hsolid hbeside hold hwhole h
    exact ⟨text, new, htext, hparse, hadds, fun languageServer' serverArgs' =>
      register_eq_of_adds hsolid.proper (.inr ⟨text, htext, hparse⟩) hadds _ _⟩

/-- The directory `d` with an empty configuration, where the name of the temporary file belongs to a
link. -/
def linkedDisk (target : String) : Disk :=
  ⟨[([[0x64]], .directory), (configPlace [[0x64]], .file "{}".toUTF8),
    (temporaryPlace [[0x64]], .link (.ofText target))]⟩

lemma canonicalize_linkedDisk (target : String) :
    (linkedDisk target).canonicalize (.ofNames [[0x64]]) = .ok [[0x64]] := by
  rfl

lemma holds_linkedDisk (target : String) :
    Holds (linkedDisk target) (.ofNames (configPlace [[0x64]])) (.obj []) := by
  exact .inr ⟨"{}", readText_of_read rfl, rfl⟩

/-- A link to another file is not in the way. -/
lemma writesBeside_linkedDisk :
    (linkedDisk "k").WritesBeside (.ofNames (temporaryPlace [[0x64]])) (configPlace [[0x64]]) := by
  have hplace : (linkedDisk "k").writePlace (.ofNames (temporaryPlace [[0x64]])) =
      .ok [[0x64], [0x6B]] := by
    rfl
  intro goal hgoal
  rw [hplace, Except.ok.injEq] at hgoal
  subst hgoal
  exact ⟨by decide, rfl⟩

theorem registration_keeps_linkedDisk :
    (linkedDisk "k").WritesBeside (.ofNames (temporaryPlace [[0x64]])) (configPlace [[0x64]]) ∧
      ∃ after path text new,
        register (linkedDisk "k") (.ofNames [[0x64]]) "ls" ["--stdio"] = (after, .ok path) ∧
        after.readText path = .ok text ∧ Json.parse text = some new ∧
        Adds (.obj []) (entry "ls" ["--stdio"]) new ∧
        register after (.ofNames [[0x64]]) "other" [] = (after, .error .alreadyRegistered) := by
  have hrun : ∃ after, register (linkedDisk "k") (.ofNames [[0x64]]) "ls" ["--stdio"] =
      (after, .ok (.ofNames (configPlace [[0x64]]))) := ⟨_, rfl⟩
  obtain ⟨after, hafter⟩ := hrun
  obtain ⟨-, hdone⟩ := registration_keeps_configuration (canonicalize_linkedDisk "k")
    writesBeside_linkedDisk hafter
  obtain ⟨-, hkept⟩ := hdone _ rfl
  obtain ⟨text, new, htext, hparse, hadds, hagain⟩ :=
    hkept (.obj []) (holds_linkedDisk "k") (.obj (List.forall_mem_nil _))
  exact ⟨writesBeside_linkedDisk, after, _, text, new, hafter, htext, hparse, hadds,
    hagain "other" []⟩

/-- The configuration is lost when the temporary file is a link to it. -/
theorem register_loses_configuration :
    (linkedDisk ".mcp.json").canonicalize (.ofNames [[0x64]]) = .ok [[0x64]] ∧
      Holds (linkedDisk ".mcp.json") (.ofNames (configPlace [[0x64]])) (.obj []) ∧
      (Json.obj []).Whole ∧
      ∃ after, register (linkedDisk ".mcp.json") (.ofNames [[0x64]]) "ls" [] =
          (after, .ok (.ofNames (configPlace [[0x64]]))) ∧
        after.readText (.ofNames (configPlace [[0x64]])) = .error .tooManyLinks := by
  refine ⟨canonicalize_linkedDisk _, holds_linkedDisk _, .obj (List.forall_mem_nil _), _, rfl, ?_⟩
  rfl

end Registration

end Outline
