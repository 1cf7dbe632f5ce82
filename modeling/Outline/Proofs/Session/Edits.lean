import Mathlib
import Outline.Proofs.Buffer.InLine
import Outline.Proofs.Session.Sending

/-!
# Edits of a session

A session applies an edit set to all files or to none, whatever its server does. It fails before the
files are touched, when a document cannot be opened with the server or an edit is not valid. But it
also fails after all files are changed, when the server cannot be told of that any more.
-/

namespace Outline.Session

open Outline.Action

variable {s s' : Session} {disk : Disk} {buffers : Buffers} {changes : EditSet}

/-! ### Opening the documents of an edit set -/

lemma keeps_send_files (m : ClientMessage) :
    Keeps (fun s => s.disk = disk ∧ s.buffers = buffers) (send m) :=
  keeps_send (fun _ hs => hs) fun _ hs => hs

lemma keeps_tellAll_files (told : List BufferChange) :
    Keeps (fun s => s.disk = disk ∧ s.buffers = buffers) (tellAll told) :=
  keeps_tellAll fun _ _ => keeps_tell (keeps_send_files _)

lemma keeps_ensureAllOpen_disk (uris : List Uri) :
    Keeps (Session.disk · = disk) (ensureAllOpen uris) := by
  refine keeps_ensureAllOpen (fun uri => ?_) uris
  refine keeps_ensureOpenUri (fun _ _ hs => hs) (fun change => ?_) uri
  exact keeps_tell (keeps_send (fun _ hs => hs) fun _ hs => hs)

lemma buffers_of_ensureOpenUri {uri file : Uri} (h : exec (ensureOpenUri uri) s = (.ok file, s')) :
    ∃ path text, uri.path? = some path ∧ s.disk.uriOf ⟨[Path.slash]⟩ path = .ok file ∧
      s.disk.readText path = .ok text ∧ s'.disk = s.disk ∧
      s'.buffers = (s.buffers.sync file text).1 := by
  rcases ensureOpenUri_cases uri s with
    ⟨e, hfails⟩ | ⟨path, _, text, hpath, hfile, htext, hopens⟩
  · cases hfails.symm.trans h
  · obtain ⟨_, between, htold, hend⟩ := exec_bind_eq_ok_iff.mp (hopens.symm.trans h)
    cases hend
    have hkept := keeps_tellAll_files (s.buffers.sync file text).2.toList
      { s with buffers := (s.buffers.sync file text).1 } ⟨rfl, rfl⟩
    rw [htold] at hkept
    exact ⟨path, text, hpath, hfile, htext, hkept⟩

/-- Opening documents one after the other puts all their buffers in line and leaves all other
buffers as they were. -/
lemma inLine_of_ensureAllOpen
    (hapart : changes.Pairwise fun x y => x.1.text ≠ y.1.text)
    (hcanonical : ∀ c ∈ changes, ∃ cwd path, s.disk.uriOf cwd path = .ok c.1)
    (h : exec (ensureAllOpen (changes.map Prod.fst)) s = (.ok (), s')) :
    s'.buffers.InLine s.disk changes ∧
      ∀ uri : Uri, (∀ c ∈ changes, uri.text ≠ c.1.text) →
        Keyed.get? uri s'.buffers = Keyed.get? uri s.buffers := by
  induction changes generalizing s with
  | nil =>
    cases h
    exact ⟨by simp [Buffers.InLine], fun _ _ => rfl⟩
  | cons c changes ih =>
    obtain ⟨hc, hapart⟩ := List.pairwise_cons.mp hapart
    obtain ⟨⟨cwd, path₀, huri⟩, hcanonical⟩ := List.forall_mem_cons.mp hcanonical
    rw [List.map_cons, ensureAllOpen] at h
    obtain ⟨file, between, hopen, hrest⟩ := exec_bind_eq_ok_iff.mp h
    obtain ⟨path, text, hpath, hfile, htext, hdisk, hbuffers⟩ := buffers_of_ensureOpenUri hopen
    obtain rfl := Disk.eq_of_uriOf_path? huri hpath hfile
    rw [← hdisk] at hcanonical htext ⊢
    obtain ⟨hinLine, hkept⟩ := ih hapart hcanonical hrest
    constructor
    · obtain ⟨version, hbuffer⟩ := Buffers.get?_sync_self s.buffers c.1 text
      rw [← hbuffers] at hbuffer
      exact hinLine.cons hc hkept hpath hbuffer htext
    · intro uri huri
      rw [List.forall_mem_cons] at huri
      rw [hkept uri huri.2, hbuffers, Buffers.get?_sync_of_ne huri.1]

/-! ### Applying edits -/

/-- What applying edits comes to: a document has no file, or it cannot be opened, or the edit set is
applied to buffers in line with the disk, and the server is told if that succeeds. -/
lemma applyEdits_cases (changes : EditSet) (s : Session) :
    (∃ e, exec (applyEdits changes) s = (.error e, s)) ∨
    ∃ files, s.disk.canonicalChanges changes = .ok files ∧
      ((∃ e s', exec (ensureAllOpen (files.map Prod.fst)) s = (.error e, s') ∧
        exec (applyEdits changes) s = (.error e, s')) ∨
      ∃ between, exec (ensureAllOpen (files.map Prod.fst)) s = (.ok (), between) ∧
        between.disk = s.disk ∧ between.buffers.InLine s.disk files ∧
        exec (applyEdits changes) s =
          match between.buffers.apply s.disk files with
          | (disk', b, .error e) => (.error e, { between with disk := disk', buffers := b })
          | (disk', b, .ok told) =>
            exec (tellAll told) { between with disk := disk', buffers := b }) := by
  rw [applyEdits, exec_get_bind, exec_liftM_bind]
  cases hfiles : s.disk.canonicalChanges changes with
  | error e => exact .inl ⟨e, rfl⟩
  | ok files =>
    refine .inr ⟨files, rfl, ?_⟩
    have hdisk := keeps_ensureAllOpen_disk (files.map Prod.fst) s rfl
    rcases hopen : exec (ensureAllOpen (files.map Prod.fst)) s with ⟨e | _, between⟩
    · exact .inl ⟨e, between, rfl, exec_bind_of_error hopen⟩
    · rw [hopen] at hdisk
      have hinLine := (inLine_of_ensureAllOpen (Disk.apart_of_canonicalChanges hfiles)
        (Disk.ascending_and_canonical_of_canonicalChanges hfiles).2 hopen).1
      refine .inr ⟨between, rfl, hdisk, hinLine, ?_⟩
      simp only [exec_bind_of_ok hopen, exec_get_bind, show between.disk = s.disk from hdisk]
      rcases between.buffers.apply s.disk files with ⟨disk', b, e | told⟩
      · rfl
      · rfl

/-- A session changes all files of an edit set or none, whatever its server does. It can report a
failure although all files are changed, but only when the connection has ended. -/
theorem applyEdits_one_unit (changes : EditSet) (s : Session) (hfree : s.disk.Unclaimed) :
    match exec (applyEdits changes) s with
    | (.ok _, s') => ∃ files b told, s.disk.canonicalChanges changes = .ok files ∧
        Buffers.Applied b s.disk files s'.buffers s'.disk told
    | (.error _, s') => (∀ place, s'.disk.lookup place = s.disk.lookup place) ∨
        s'.connected = false ∧ ∃ files b told, s.disk.canonicalChanges changes = .ok files ∧
          Buffers.Applied b s.disk files s'.buffers s'.disk told := by
  rcases applyEdits_cases changes s with
    ⟨e, hfails⟩ | ⟨files, hfiles, ⟨e, s', hopen, hfails⟩ | ⟨between, -, -, hinLine, happlied⟩⟩
  · rw [hfails]
    exact .inl fun _ => rfl
  · have hdisk := keeps_ensureAllOpen_disk (files.map Prod.fst) s rfl
    rw [hopen] at hdisk
    rw [hfails]
    exact .inl fun place => by rw [show s'.disk = s.disk from hdisk]
  · have hready := hinLine.ready hfiles hfree
    rw [happlied]
    rcases happly : between.buffers.apply s.disk files with ⟨disk', b, e | told⟩
    · exact .inl (hready.of_apply_eq_error happly).2
    · have happlied := hready.of_apply_eq_ok happly
      have hkept := keeps_tellAll_files told { between with disk := disk', buffers := b } ⟨rfl, rfl⟩
      rcases htold : exec (tellAll told) { between with disk := disk', buffers := b } with
        ⟨e | _, s'⟩
      · simp only [htold] at hkept ⊢
        rw [hkept.1, hkept.2]
        exact .inr ⟨connected_of_tellAll_eq_error htold, files, between.buffers, told, hfiles,
          happlied⟩
      · simp only [htold] at hkept ⊢
        rw [hkept.1, hkept.2]
        exact ⟨files, between.buffers, told, hfiles, happlied⟩

/-- A session with the file `a`, whose server takes one message and no more. -/
def deafSession : Session where
  server := ⟨fun received => received.isEmpty, fun _ => ⟨[], .silent⟩⟩
  disk   := ⟨[([[0x61]], .file "old".toUTF8)]⟩
  limit  := .ofSeconds 30

/-- A new text for `a`. -/
def deafChanges : EditSet := [(.ofNames [[0x61]], [⟨⟨⟨0, 0⟩, ⟨0, 3⟩⟩, "new"⟩])]

/-- The server can be told that the document is open, but not that it has changed. -/
theorem applied_deafSession :
    deafSession.disk.Unclaimed ∧ (exec (applyEdits deafChanges) deafSession).2.connected = false ∧
      ∃ files b told, deafSession.disk.canonicalChanges deafChanges = .ok files ∧
        Buffers.Applied b deafSession.disk files (exec (applyEdits deafChanges) deafSession).2.buffers
          (exec (applyEdits deafChanges) deafSession).2.disk told := by
  have hfree : deafSession.disk.Unclaimed :=
    (Disk.noTemporaries_of_entries (by decide)).unclaimed
  have hfails : (exec (applyEdits deafChanges) deafSession).1.isOk = false := by decide +kernel
  have hchanged : (exec (applyEdits deafChanges) deafSession).2.disk.lookup [[0x61]] ≠
      deafSession.disk.lookup [[0x61]] := by decide +kernel
  have hunit := applyEdits_one_unit deafChanges deafSession hfree
  rcases hexec : exec (applyEdits deafChanges) deafSession with ⟨e | _, s'⟩
  · rw [hexec] at hunit hchanged
    rcases hunit with hsame | happlied
    · exact absurd (hsame [[0x61]]) hchanged
    · exact ⟨hfree, happlied⟩
  · rw [hexec] at hfails
    cases hfails

/-- The edit is reported as failed, and the file has its new text. -/
theorem changed_of_failed_applyEdits :
    (exec (applyEdits deafChanges) deafSession).1 =
        .error (.requestFailed "didChange notification failed: ServiceStopped") ∧
      deafSession.disk.lookup [[0x61]] = some (.file "old".toUTF8) ∧
      (exec (applyEdits deafChanges) deafSession).2.disk.lookup [[0x61]] =
        some (.file "new".toUTF8) := by
  decide +kernel

end Outline.Session
