import Mathlib.Data.List.Basic
import Outline.Proofs.Host.Step
import Outline.Session.Requests

/-!
# What a session sends

A session reaches its server by single messages, and everything else is made of these. So what
sending one message keeps of a session, telling of changes, opening documents and asking keep as
well, as long as it does not depend on the other parts that they write: the buffers, the board and
whether the connection stands.
-/

namespace Outline.Session

open Outline.Action

variable {P Q : Session → Prop} {s : Session}

/-! ### Messages -/

lemma exec_send (m : ClientMessage) (s : Session) :
    exec (send m) s =
      if s.connected && s.server.accepts s.sent then (.ok (), { s with sent := m :: s.sent })
      else (.error .stopped, { s with connected := false }) := by
  rw [send, exec_get_bind]
  split
  · rfl
  · rfl

/-- A session whose connection stands, with a server that takes every message. -/
structure Heard (s : Session) : Prop where
  connected : s.connected = true
  accepts   : ∀ received, s.server.accepts received = true

/-- A message is put on top of those that were sent, or the connection ends. -/
lemma keeps_send {m : ClientMessage} (hsent : ∀ s, P s → P { s with sent := m :: s.sent })
    (hends : ∀ s, P s → P { s with connected := false }) : Keeps P (send m) := by
  intro s hs
  rw [exec_send]
  split
  · exact hsent s hs
  · exact hends s hs

/-- Nothing reaches the server once the connection has ended. -/
lemma keeps_send_of_ended (sent : List ClientMessage) (server : Server) (m : ClientMessage) :
    Keeps (fun s => s.connected = false ∧ s.sent = sent ∧ s.server = server) (send m) := by
  rintro s ⟨hended, hrest⟩
  rw [exec_send, hended]
  exact ⟨rfl, hrest⟩

/-! ### Changes of buffers -/

lemma keeps_tell {change : BufferChange} (h : Keeps P (send (changeMessage change).1)) :
    Keeps P (tell change) :=
  h.adapt

lemma keeps_tellAll {changes : List BufferChange}
    (h : ∀ change ∈ changes, Keeps P (tell change)) : Keeps P (tellAll changes) := by
  induction changes with
  | nil => exact keeps_pure ()
  | cons change changes ih =>
    rw [List.forall_mem_cons] at h
    exact h.1.bind fun _ => ih h.2

/-- The messages that tell of changes, on top of those sent before. -/
def report (changes : List BufferChange) (sent : List ClientMessage) : List ClientMessage :=
  changes.foldl (fun sent change => (changeMessage change).1 :: sent) sent

lemma exec_tell (change : BufferChange) (s : Session) :
    exec (tell change) s =
      if s.connected && s.server.accepts s.sent then
        (.ok (), { s with sent := (changeMessage change).1 :: s.sent })
      else
        (.error (.requestFailed ((changeMessage change).2 ++ " notification failed: " ++
          TransportError.stopped.text)), { s with connected := false }) := by
  rw [tell, exec_adapt, exec_send]
  split
  · rfl
  · rfl

lemma Heard.exec_tellAll (h : s.Heard) (changes : List BufferChange) :
    exec (tellAll changes) s = (.ok (), { s with sent := report changes s.sent }) := by
  induction changes generalizing s with
  | nil => rfl
  | cons change changes ih =>
    have hfirst := (exec_tell change s).trans (if_pos (by simp [h.connected, h.accepts]))
    rw [tellAll, exec_bind_of_ok hfirst]
    exact ih ⟨h.connected, h.accepts⟩

/-- Telling fails only where the connection has ended. -/
lemma connected_of_tellAll_eq_error {changes : List BufferChange} {e : HostError} {s' : Session}
    (h : exec (tellAll changes) s = (.error e, s')) : s'.connected = false := by
  induction changes generalizing s with
  | nil => cases h
  | cons change changes ih =>
    rcases hfirst : exec (tell change) s with ⟨e' | _, between⟩
    · rw [tellAll, exec_bind_of_error hfirst] at h
      cases h
      rw [exec_tell] at hfirst
      split at hfirst
      · cases hfirst
      · cases hfirst
        rfl
    · rw [tellAll, exec_bind_of_ok hfirst] at h
      exact ih h

/-! ### Documents -/

/-- A file that can be read is opened: its buffer is brought in line with its text, and the server is
told. -/
lemma exec_ensureOpen_of_ok {path : Path} {uri : Uri} {text : String}
    (huri : s.disk.uriOf ⟨[Path.slash]⟩ path = .ok uri) (htext : s.disk.readText path = .ok text) :
    exec (ensureOpen path) s =
      exec (tellAll (s.buffers.sync uri text).2.toList >>= fun _ => pure uri)
        { s with buffers := (s.buffers.sync uri text).1 } := by
  rw [ensureOpen, exec_get_bind, exec_liftM_bind, huri]
  simp only [htext, exec_get_bind, exec_set_bind]
  rcases s.buffers.sync uri text with ⟨buffers, _ | change⟩
  · rfl
  · simp only [Option.toList_some, tellAll, bind_assoc, pure_bind]

/-- What opening a file comes to: it fails and nothing changes, or the buffer of the file is brought
in line with its text and the server is told. -/
lemma ensureOpen_cases (path : Path) (s : Session) :
    (∃ e, exec (ensureOpen path) s = (.error e, s)) ∨
    ∃ uri text, s.disk.uriOf ⟨[Path.slash]⟩ path = .ok uri ∧ s.disk.readText path = .ok text ∧
      exec (ensureOpen path) s =
        exec (tellAll (s.buffers.sync uri text).2.toList >>= fun _ => pure uri)
          { s with buffers := (s.buffers.sync uri text).1 } := by
  cases huri : s.disk.uriOf ⟨[Path.slash]⟩ path with
  | error e =>
    rw [ensureOpen, exec_get_bind, exec_liftM_bind, huri]
    exact .inl ⟨e, rfl⟩
  | ok uri =>
    cases htext : s.disk.readText path with
    | error e =>
      rw [ensureOpen, exec_get_bind, exec_liftM_bind, huri]
      simp only [htext]
      exact .inl ⟨_, rfl⟩
    | ok text => exact .inr ⟨uri, text, rfl, rfl, exec_ensureOpen_of_ok huri htext⟩

lemma ensureOpenUri_cases (uri : Uri) (s : Session) :
    (∃ e, exec (ensureOpenUri uri) s = (.error e, s)) ∨
    ∃ path file text, uri.path? = some path ∧ s.disk.uriOf ⟨[Path.slash]⟩ path = .ok file ∧
      s.disk.readText path = .ok text ∧
      exec (ensureOpenUri uri) s =
        exec (tellAll (s.buffers.sync file text).2.toList >>= fun _ => pure file)
          { s with buffers := (s.buffers.sync file text).1 } := by
  rw [ensureOpenUri, exec_liftM_bind, Uri.filePath]
  cases hpath : uri.path? with
  | none => exact .inl ⟨_, rfl⟩
  | some path =>
    exact (ensureOpen_cases path s).imp_right fun ⟨file, text, hopens⟩ =>
      ⟨path, file, text, rfl, hopens⟩

lemma keeps_ensureOpenUri (hbuffers : ∀ s buffers, P s → P { s with buffers := buffers })
    (htell : ∀ change, Keeps P (tell change)) (uri : Uri) : Keeps P (ensureOpenUri uri) := by
  intro s hs
  rcases ensureOpenUri_cases uri s with ⟨e, hfails⟩ | ⟨-, file, text, -, -, -, hopens⟩
  · rwa [hfails]
  · rw [hopens]
    exact (keeps_tellAll fun change _ => htell change).bind (fun _ => keeps_pure file) _
      (hbuffers s _ hs)

lemma keeps_ensureAllOpen (h : ∀ uri, Keeps P (ensureOpenUri uri)) (uris : List Uri) :
    Keeps P (ensureAllOpen uris) := by
  induction uris with
  | nil => exact keeps_pure ()
  | cons uri uris ih => exact (h uri).bind fun _ => ih

/-! ### Requests -/

section Ask

variable {α : Type} {m : ClientMessage} {decode : Json → Option α}
  (hrefuse : ∀ method, Keeps Q (send (.refusal method)))
  (hboard : ∀ s board, Q s → Q { s with board := board })
  (hends : ∀ s, Q s → Q { s with connected := false })

include hrefuse in
lemma keeps_refuse (methods : List String) : Keeps Q (refuse methods) := by
  induction methods with
  | nil => exact keeps_pure ()
  | cons method methods ih => exact (hrefuse method).bind fun _ => ih

include hends in
lemma keeps_answered (outcome : ReplyOutcome) : Keeps Q (answered decode outcome) := by
  cases outcome with
  | ends =>
    intro s hs
    exact hends s hs
  | silent => exact keeps_throw _
  | failure e => exact keeps_throw _
  | result v =>
    rw [answered]
    split
    · exact keeps_pure _
    · exact keeps_throw _

include hrefuse hboard hends in
/-- After the request itself is sent, what follows sends refusals, writes the board and may end the
connection. -/
lemma ask_leads (hsend : ∀ s, P s → Q (exec (send m) s).2) (s : Session) (hs : P s) :
    Q (exec (ask m decode) s).2 := by
  have hsent := hsend s hs
  rw [ask, exec_get_bind]
  rcases hexec : exec (send m) s with ⟨e | _, between⟩
  · rw [exec_bind_of_error hexec]
    rwa [hexec] at hsent
  · rw [exec_bind_of_ok hexec, exec_get_bind, exec_set_bind]
    rw [hexec] at hsent
    refine (keeps_refuse hrefuse _).bind (fun _ => ?_) _ (hboard between _ hsent)
    generalize ServerNote.takeAll _ _ _ = digest
    obtain ⟨board, questions, answer, understood⟩ := digest
    cases understood with
    | true =>
      cases answer with
      | some outcome => exact keeps_answered hends outcome
      | none => exact keeps_answered hends _
    | false =>
      refine Keeps.bind (fun s hs => hends s hs) fun _ => ?_
      cases answer with
      | some outcome => exact keeps_answered hends outcome
      | none => exact keeps_throw _

end Ask

end Outline.Session
