import Mathlib
import Outline.Proofs.Host.Lawful
import Outline.Proofs.Session.Edits

/-!
# The files of a session

A session is a host of files: what it asks its server leaves the disk alone, and edits reach the disk
by way of buffers that were brought in line with the files before. It is not a lawful host, since it
can fail after the files are changed.
-/

namespace Outline.Session

open Outline.Action

variable {disk : Disk}

lemma keeps_ensureOpenUri_disk (uri : Uri) : Keeps (Session.disk · = disk) (ensureOpenUri uri) :=
  keeps_ensureOpenUri (fun _ _ hs => hs)
    (fun _ => keeps_tell (keeps_send (fun _ hs => hs) fun _ hs => hs)) uri

lemma keeps_request_disk {α : Type} (name : String) (m : ClientMessage) (decode : Json → Option α) :
    Keeps (Session.disk · = disk) (request name m decode) := by
  have hsend (m : ClientMessage) : Keeps (Session.disk · = disk) (send m) :=
    keeps_send (fun _ hs => hs) fun _ hs => hs
  refine Keeps.get_bind fun s hs => ?_
  exact ask_leads (fun method => hsend (.refusal method)) (fun _ _ hs => hs) (fun _ hs => hs)
    (hsend m) s hs

/-- Edits fail before the files are touched, or they are applied to the files, and then the server
may be gone. -/
lemma editsReach_applyEdits (changes : EditSet) (s : Session) :
    EditsReach s.disk changes (exec (applyEdits changes) s).1
      (exec (applyEdits changes) s).2.disk := by
  rcases applyEdits_cases changes s with
    ⟨e, hfails⟩ | ⟨files, hfiles, ⟨e, s', hopen, hfails⟩ | ⟨between, -, -, hinLine, happlied⟩⟩
  · rw [hfails]
    exact .taken (.refused e)
  · have hdisk := keeps_ensureAllOpen_disk (files.map Prod.fst) s rfl
    rw [hopen] at hdisk
    rw [hfails, show s'.disk = s.disk from hdisk]
    exact .taken (.refused e)
  · rw [happlied]
    rcases happly : between.buffers.apply s.disk files with ⟨disk', b, e | told⟩
    · exact .taken (.applied (.changed hfiles hinLine happly))
    · have hchanged : AppliedToFiles s.disk changes (.ok ()) disk' :=
        .changed hfiles hinLine happly
      have hkept := keeps_tellAll_files told { between with disk := disk', buffers := b } ⟨rfl, rfl⟩
      rcases htold : exec (tellAll told) { between with disk := disk', buffers := b } with
        ⟨e | _, s'⟩
      · simp only [htold] at hkept ⊢
        rw [hkept.1]
        exact .late e hchanged
      · simp only [htold] at hkept ⊢
        rw [hkept.1]
        exact .taken (.applied hchanged)

instance : FileHost Session where
  documentSymbols uri disk :=
    (keeps_ensureOpenUri_disk uri).bind fun _ =>
      (keeps_request_disk _ _ _).bind fun _ => keeps_pure _
  rename uri position newName disk := by
    refine (keeps_ensureOpenUri_disk uri).bind fun _ => Keeps.get_bind fun s hs => ?_
    split
    · exact hs
    · exact keeps_request_disk _ _ _ s hs
  applyEdits := editsReach_applyEdits

end Outline.Session
