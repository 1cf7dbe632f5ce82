import Mathlib
import Outline.Proofs.Host.OneFile
import Outline.Proofs.Session.Edits

/-!
# Texts of documents and how their URIs are written

A session that is asked for the text of a document opens the document under the URI of its file and
then looks for a buffer under the URI it was asked with. So it knows the text of a file that can be
read only when the file is named by its own URI. Under any other way of writing it, the text is
reported missing, or an older buffer answers.
-/

namespace Outline

lemma Disk.exists_uriOf_of_readText {d : Disk} {uri : Uri} {path : Path} {text : String}
    (hpath : uri.path? = some path) (hread : d.readText path = .ok text) (cwd : Path) :
    ∃ file, d.uriOf cwd path = .ok file := by
  obtain ⟨place, hfind⟩ := file_of_readText hread
  refine ⟨_, uriOf_eq_ok_iff.mpr ⟨place, ?_, rfl⟩⟩
  rw [join_of_path? hpath]
  exact canonicalize_of_find hfind

namespace Session

open Outline.Action

variable {s : Session} {uri file : Uri} {path : Path} {text : String}

/-- A session as it is when the document of a file has been opened. -/
def opened (s : Session) (file : Uri) (text : String) : Session :=
  { s with
    buffers := (s.buffers.sync file text).1
    sent    := report (s.buffers.sync file text).2.toList s.sent }

/-- A file that can be read is opened when the server takes messages. -/
lemma Heard.exec_ensureOpenUri (h : s.Heard) (hpath : uri.path? = some path)
    (hfile : s.disk.uriOf ⟨[Path.slash]⟩ path = .ok file) (hread : s.disk.readText path = .ok text) :
    exec (ensureOpenUri uri) s = (.ok file, s.opened file text) := by
  have hheard : Heard { s with buffers := (s.buffers.sync file text).1 } := ⟨h.connected, h.accepts⟩
  rw [ensureOpenUri, exec_liftM_bind, Disk.filePath_eq_ok_iff.mpr hpath]
  dsimp only
  rw [exec_ensureOpen_of_ok hfile hread, exec_bind_of_ok (hheard.exec_tellAll _), exec_pure]
  rfl

/-- The text that is given is that of the buffer under the URI asked with. -/
lemma Heard.exec_documentText (h : s.Heard) (hpath : uri.path? = some path)
    (hfile : s.disk.uriOf ⟨[Path.slash]⟩ path = .ok file) (hread : s.disk.readText path = .ok text) :
    exec (documentText uri) s =
      (match Keyed.get? uri (s.buffers.sync file text).1 with
        | some buffer => .ok buffer.text
        | none        => .error (.documentNotFound ("document not open: " ++ uri.text)),
        s.opened file text) := by
  rw [documentText, exec_bind_of_ok (h.exec_ensureOpenUri hpath hfile hread), exec_get_bind]
  change exec (match Keyed.get? uri (s.buffers.sync file text).1 with
    | some buffer => pure buffer.text
    | none        => throw _) _ = _
  cases Keyed.get? uri (s.buffers.sync file text).1 with
  | none => rfl
  | some buffer => rfl

/-- Asked for the text of a file that can be read, a session whose server takes messages has the text
in the buffer of the file from then on. It gives that text when the URI is written as the URI of the
file. Otherwise it gives what it had under that URI before, and fails when it had nothing. -/
theorem documentText_by_spelling (s : Session) (uri : Uri) (path : Path) (text : String)
    (hheard : s.Heard) (hpath : uri.path? = some path) (hread : s.disk.readText path = .ok text) :
    ∃ file, s.disk.uriOf ⟨[Path.slash]⟩ path = .ok file ∧
      (∃ version, Keyed.get? file (exec (documentText uri) s).2.buffers = some ⟨version, text⟩) ∧
      (uri.text = file.text → (exec (documentText uri) s).1 = .ok text) ∧
      (uri.text ≠ file.text → (exec (documentText uri) s).1 =
        match Keyed.get? uri s.buffers with
        | some buffer => .ok buffer.text
        | none        => .error (.documentNotFound ("document not open: " ++ uri.text))) := by
  obtain ⟨file, hfile⟩ := Disk.exists_uriOf_of_readText hpath hread ⟨[Path.slash]⟩
  obtain ⟨version, hbuffer⟩ := Buffers.get?_sync_self s.buffers file text
  refine ⟨file, hfile, ⟨version, ?_⟩, fun hsame => ?_, fun hother => ?_⟩
  · rw [hheard.exec_documentText hpath hfile hread]
    exact hbuffer
  · rw [hheard.exec_documentText hpath hfile hread, Keyed.get?_congr (Uri.compare_eq_iff.mpr hsame),
      hbuffer]
  · rw [hheard.exec_documentText hpath hfile hread, Buffers.get?_sync_of_ne hother]

/-- A session with the file `a` and a link `l` to it, which has opened nothing yet. -/
def linkedSession : Session where
  server := ⟨fun _ => true, fun _ => ⟨[], .silent⟩⟩
  disk   := ⟨[([[0x61]], .file "old".toUTF8), ([[0x6C]], .link ⟨[0x61]⟩)]⟩
  limit  := .ofSeconds 30

/-- Under its own URI the file is known. -/
theorem documentText_linkedSession :
    linkedSession.Heard ∧ (Uri.ofNames [[0x61]]).path? = some ⟨[0x2F, 0x61]⟩ ∧
      linkedSession.disk.readText ⟨[0x2F, 0x61]⟩ = .ok "old" ∧
      (exec (documentText (.ofNames [[0x61]])) linkedSession).1 = .ok "old" := by
  have hheard : linkedSession.Heard := ⟨rfl, fun _ => rfl⟩
  have hpath : (Uri.ofNames [[0x61]]).path? = some ⟨[0x2F, 0x61]⟩ := by decide
  have hread : linkedSession.disk.readText ⟨[0x2F, 0x61]⟩ = .ok "old" := by decide
  obtain ⟨file, hfile, -, hsame, -⟩ :=
    documentText_by_spelling linkedSession _ _ _ hheard hpath hread
  have huri : linkedSession.disk.uriOf ⟨[Path.slash]⟩ ⟨[0x2F, 0x61]⟩ = .ok (.ofNames [[0x61]]) := by
    decide
  obtain rfl := Except.ok.inj (hfile.symm.trans huri)
  exact ⟨hheard, hpath, hread, hsame rfl⟩

/-- The link leads to the file, but under the URI of the link its text is reported missing. -/
theorem documentText_fails_by_link :
    linkedSession.Heard ∧ (Uri.ofNames [[0x6C]]).path? = some ⟨[0x2F, 0x6C]⟩ ∧
      linkedSession.disk.readText ⟨[0x2F, 0x6C]⟩ = .ok "old" ∧
      (exec (documentText (.ofNames [[0x6C]])) linkedSession).1 =
        .error (.documentNotFound "document not open: file:///l") := by
  refine ⟨⟨rfl, fun _ => rfl⟩, ?_, ?_, ?_⟩
  · decide
  · decide
  · decide

end Session

end Outline
