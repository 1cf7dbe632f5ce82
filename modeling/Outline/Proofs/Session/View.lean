import Mathlib
import Outline.Host.Canned
import Outline.Proofs.Session.Edits

/-!
# The server's view of the documents

A server knows a document by the notices it was sent: that the document is open, and then every
change of its text, counted up from one. Whatever a session does, and whatever happens to the files
in between, its buffers hold what the server was told last. And a server that is asked about the
document of a file was told the text that the file has at that moment.
-/

namespace Outline

open Outline.Action

/-! ### Notices -/

/-- What a server is told of a document. -/
inductive Notice where
  /-- The document is open, at version 0. -/
  | opened (text : String)
  /-- The document has a new text. -/
  | changed (version : Nat) (text : String)
  deriving DecidableEq, Repr

namespace Notice

/-- The text of the document from then on. -/
def text : Notice → String
  | opened text    => text
  | changed _ text => text

/-- The notice number `n` of a document, counted from zero. -/
def nth : (n : Nat) → String → Notice
  | 0,     text => opened text
  | n + 1, text => changed (n + 1) text

/-- All notices of a document that had these texts, one after the other. -/
def history (texts : List String) : List Notice := texts.mapIdx nth

@[simp] lemma text_nth (n : Nat) (text : String) : (nth n text).text = text := by
  cases n <;> rfl

@[simp] lemma length_history (texts : List String) : (history texts).length = texts.length :=
  List.length_mapIdx

lemma history_concat (texts : List String) (text : String) :
    history (texts ++ [text]) = history texts ++ [nth texts.length text] := by
  rw [history, List.mapIdx_concat, history]

lemma map_text_getLast?_history (texts : List String) :
    (history texts).getLast?.map Notice.text = texts.getLast? := by
  rcases List.eq_nil_or_concat texts with rfl | ⟨front, last, rfl⟩
  · rfl
  · rw [List.concat_eq_append, history_concat, List.getLast?_concat, List.getLast?_concat,
      Option.map_some, text_nth]

end Notice

/-- What a message tells of the document with a URI. -/
def ClientMessage.notice? (uri : Uri) : ClientMessage → Option Notice
  | didOpen u _ text         => if u.text = uri.text then some (.opened text) else none
  | didChange u version text => if u.text = uri.text then some (.changed version text) else none
  | _                        => none

/-- All that was told of a document, in the order in which it was sent. -/
def noticesOf (uri : Uri) (sent : List ClientMessage) : List Notice :=
  (sent.filterMap (·.notice? uri)).reverse

lemma noticesOf_cons (uri : Uri) (m : ClientMessage) (sent : List ClientMessage) :
    noticesOf uri (m :: sent) = noticesOf uri sent ++ (m.notice? uri).toList := by
  rw [noticesOf, List.filterMap_cons, noticesOf]
  cases m.notice? uri with
  | none => exact (List.append_nil _).symm
  | some notice => exact List.reverse_cons

/-- A request tells nothing. -/
lemma ClientMessage.notice?_eq_none {m : ClientMessage} (hm : m.isRequest = true) (uri : Uri) :
    m.notice? uri = none := by
  cases m with
  | didOpen => cases hm
  | didChange => cases hm
  | _ => rfl

lemma ClientMessage.isRequest_of_document? {m : ClientMessage} {uri : Uri}
    (h : m.document? = some uri) : m.isRequest = true := by
  cases m with
  | documentSymbols => rfl
  | references => rfl
  | rename => rfl
  | _ => cases h

/-! ### Buffers as the server was told -/

namespace Buffers

variable {b : Buffers} {sent : List ClientMessage}

/-- The notices of every document are a full history of its texts, and its buffer has the last of
these, with the number of the last notice. -/
def Mirrored (b : Buffers) (sent : List ClientMessage) : Prop :=
  ∀ uri, ∃ texts, noticesOf uri sent = Notice.history texts ∧
    Keyed.get? uri b = texts.getLast?.map fun text => ⟨texts.length - 1, text⟩

lemma mirrored_nil : Mirrored [] [] := fun _ => ⟨[], rfl, rfl⟩

namespace Mirrored

lemma send (h : b.Mirrored sent) {m : ClientMessage} (hm : ∀ uri, m.notice? uri = none) :
    b.Mirrored (m :: sent) := by
  intro uri
  rw [noticesOf_cons, hm uri, Option.toList_none, List.append_nil]
  exact h uri

/-- The next version of a document is the number of its notices. -/
lemma nextVersion_eq (h : b.Mirrored sent) {uri : Uri} {texts : List String}
    (htexts : noticesOf uri sent = Notice.history texts) : b.nextVersion uri = texts.length := by
  obtain ⟨texts', hnotices, hbuffer⟩ := h uri
  have hlength : texts'.length = texts.length := by
    rw [← Notice.length_history, ← hnotices, htexts, Notice.length_history]
  rw [nextVersion, hbuffer, ← hlength]
  rcases List.eq_nil_or_concat texts' with rfl | ⟨front, last, rfl⟩
  · rfl
  · simp

/-- The last notice of a document has the text of its buffer. -/
lemma text_getLast? (h : b.Mirrored sent) {uri : Uri} {buffer : Buffer}
    (hbuffer : Keyed.get? uri b = some buffer) :
    (noticesOf uri sent).getLast?.map Notice.text = some buffer.text := by
  obtain ⟨texts, hnotices, hget⟩ := h uri
  rw [hnotices, Notice.map_text_getLast?_history]
  obtain ⟨text, htext, rfl⟩ := Option.map_eq_some_iff.mp (hget.symm.trans hbuffer)
  exact htext

/-- A buffer that takes the next version when the server gets the next notice. -/
lemma tell (h : b.Mirrored sent) {m : ClientMessage} {uri : Uri} {text : String}
    (hm : ∀ uri', m.notice? uri' =
      if uri.text = uri'.text then some (.nth (b.nextVersion uri) text) else none) :
    (b.update uri text).Mirrored (m :: sent) := by
  intro uri'
  obtain ⟨texts, hnotices, hbuffer⟩ := h uri'
  rw [noticesOf_cons, hm uri', hnotices]
  by_cases hsame : uri.text = uri'.text
  · have hcompare := Uri.compare_eq_iff.mpr hsame
    have hversion : b.nextVersion uri = texts.length := by
      rw [← h.nextVersion_eq hnotices, nextVersion, nextVersion, Keyed.get?_congr hcompare]
    refine ⟨texts ++ [text], ?_, ?_⟩
    · rw [if_pos hsame, hversion, Notice.history_concat, Option.toList_some]
    · rw [← Keyed.get?_congr hcompare, get?_update_self, hversion]
      simp
  · refine ⟨texts, ?_, ?_⟩
    · rw [if_neg hsame, Option.toList_none, List.append_nil]
    · rw [get?_update_of_ne (Ne.symm hsame), hbuffer]

lemma changed (h : b.Mirrored sent) {uri : Uri} {buffer : Buffer}
    (hopen : Keyed.get? uri b = some buffer) (text : String) :
    (b.update uri text).Mirrored (.didChange uri (b.nextVersion uri) text :: sent) := by
  refine h.tell fun uri' => ?_
  rw [show b.nextVersion uri = buffer.version + 1 by rw [nextVersion, hopen]]
  rfl

lemma sync (h : b.Mirrored sent) (uri : Uri) (text : String) :
    (b.sync uri text).1.Mirrored (Session.report (b.sync uri text).2.toList sent) := by
  unfold Buffers.sync
  split
  · rename_i hnone
    have hversion : b.nextVersion uri = 0 := by rw [nextVersion, hnone]
    rw [openDocument, ← hversion]
    exact h.tell fun uri' => by rw [hversion]; rfl
  · rename_i buffer hopen
    split
    · exact h
    · exact h.changed hopen text

/-- Taking over new texts of open documents. -/
lemma accept {docs : List PendingDocument} (h : b.Mirrored sent)
    (hopen : ∀ doc ∈ docs, (Keyed.get? doc.uri b).isSome) :
    (b.accept docs).1.Mirrored (Session.report (b.accept docs).2 sent) := by
  induction docs generalizing b sent with
  | nil => exact h
  | cons doc docs ih =>
    obtain ⟨hfirst, hopen⟩ := List.forall_mem_cons.mp hopen
    obtain ⟨buffer, hbuffer⟩ := Option.isSome_iff_exists.mp hfirst
    rw [accept_cons]
    refine ih (h.changed hbuffer doc.text) fun other hother => ?_
    by_cases hsame : other.uri.text = doc.uri.text
    · rw [Keyed.get?_congr (Uri.compare_eq_iff.mpr hsame), get?_update_self]
      rfl
    · rw [get?_update_of_ne hsame]
      exact hopen other hother

end Mirrored

end Buffers

/-! ### What calls of a session do -/

/-- The state of a host after a call, whatever its outcome. -/
def HostCall.after {σ : Type} [Host σ] : HostCall → σ → σ
  | documentSymbols uri, s => (exec (Host.documentSymbols uri) s).2
  | references uri position includeDeclaration, s =>
    (exec (Host.references uri position includeDeclaration) s).2
  | rename uri position newName, s => (exec (Host.rename uri position newName) s).2
  | applyEdits changes, s => (exec (Host.applyEdits changes) s).2
  | documentText uri, s => (exec (Host.documentText uri) s).2
  | diagnostics uri, s => ((Host.diagnostics uri).run s).2
  | allDiagnostics, s => (Host.allDiagnostics.run s).2
  | workspaceSymbols query, s => (exec (Host.workspaceSymbols query) s).2

namespace Session

variable {P : Session → Prop} {server : Server} {s : Session}

/-- What a call can do to a session. -/
inductive Does (s : Session) : Session → Prop where
  /-- It only looks at the session. -/
  | looks : Does s s
  /-- It opens a document, or fails to. -/
  | opens (uri : Uri) : Does s (exec (ensureOpenUri uri) s).2
  /-- It asks the server about a document that it has opened. -/
  | asksAbout {uri file : Uri} {between : Session} {m : ClientMessage} {α : Type}
      (opened : exec (ensureOpenUri uri) s = (.ok file, between)) (document : m.document? = some uri)
      (decode : Json → Option α) : Does s (exec (ask m decode) between).2
  /-- It asks the server about no document. -/
  | asks {m : ClientMessage} {α : Type} (request : m.isRequest = true) (document : m.document? = none)
      (decode : Json → Option α) : Does s (exec (ask m decode) s).2
  | applies (changes : EditSet) : Does s (exec (applyEdits changes) s).2

lemma does_of_opened {uri : Uri} {α : Type} {next : Action Session HostError α}
    (h : ∀ file between, exec (ensureOpenUri uri) s = (.ok file, between) →
      Does s (exec next between).2) :
    Does s (exec (ensureOpenUri uri >>= fun _ => next) s).2 := by
  rcases hopen : exec (ensureOpenUri uri) s with ⟨e | file, between⟩
  · have hopens := Does.opens uri (s := s)
    rw [hopen] at hopens
    rwa [exec_bind_of_error hopen]
  · rw [exec_bind_of_ok hopen]
    exact h file between hopen

lemma does_after (call : HostCall) (s : Session) : Does s (call.after s) := by
  cases call with
  | documentSymbols uri =>
    refine does_of_opened fun file between hopen => ?_
    rw [documentSymbols, exec_bind_pure_snd]
    exact .asksAbout hopen rfl _
  | references uri position includeDeclaration =>
    refine does_of_opened fun file between hopen => ?_
    rw [references, exec_bind_pure_snd]
    exact .asksAbout hopen rfl _
  | rename uri position newName =>
    refine does_of_opened fun file between hopen => ?_
    rw [rename, exec_get_bind]
    split
    · have hopens := Does.opens uri (s := s)
      rwa [hopen] at hopens
    · exact .asksAbout hopen rfl _
  | applyEdits changes => exact .applies changes
  | documentText uri =>
    refine does_of_opened fun file between hopen => ?_
    have hopens := Does.opens uri (s := s)
    rw [hopen] at hopens
    rw [exec_get_bind]
    split
    · exact hopens
    · exact hopens
  | diagnostics uri => exact .opens uri
  | allDiagnostics => exact .looks
  | workspaceSymbols query =>
    change Does s (exec (workspaceSymbols query) s).2
    rw [workspaceSymbols, exec_bind_pure_snd]
    exact .asks rfl rfl _

/-! ### Messages about no document -/

/-- `P` is about what was sent only, and lasts whatever is sent that asks about no document. -/
structure Lasting (P : Session → Prop) : Prop where
  parts : ∀ s disk buffers board, P s → P { s with disk, buffers, board }
  ends  : ∀ s, P s → P { s with connected := false }
  send  : ∀ m : ClientMessage, m.document? = none → Keeps P (send m)

namespace Lasting

variable (hP : Lasting P)
include hP

lemma tell (change : BufferChange) : Keeps P (tell change) := by
  refine keeps_tell (hP.send _ ?_)
  cases change with
  | opened uri text => rfl
  | changed uri version text => rfl

lemma ensureOpenUri (uri : Uri) : Keeps P (ensureOpenUri uri) :=
  keeps_ensureOpenUri (fun s buffers hs => hP.parts s s.disk buffers s.board hs) hP.tell uri

lemma applyEdits (changes : EditSet) : Keeps P (applyEdits changes) := by
  intro s hs
  have hopened (uris : List Uri) := keeps_ensureAllOpen hP.ensureOpenUri uris s hs
  rcases applyEdits_cases changes s with
    ⟨e, hfails⟩ | ⟨files, -, ⟨e, s', hopen, hfails⟩ | ⟨between, hopen, -, -, happlied⟩⟩
  · rwa [hfails]
  · have hs' := hopened (files.map Prod.fst)
    rw [hopen] at hs'
    rwa [hfails]
  · have hbetween := hopened (files.map Prod.fst)
    rw [hopen] at hbetween
    rw [happlied]
    rcases between.buffers.apply s.disk files with ⟨disk', b, e | told⟩
    · exact hP.parts between disk' b between.board hbetween
    · exact keeps_tellAll (fun change _ => hP.tell change) _
        (hP.parts between disk' b between.board hbetween)

lemma ask {α : Type} {m : ClientMessage} (hm : Keeps P (Session.send m))
    (decode : Json → Option α) : Keeps P (ask m decode) :=
  ask_leads (fun method => hP.send (.refusal method) rfl)
    (fun s board hs => hP.parts s s.disk s.buffers board hs) hP.ends hm

end Lasting

lemma lasting_ended (sent : List ClientMessage) (server : Server) :
    Lasting fun s => s.connected = false ∧ s.sent = sent ∧ s.server = server where
  parts _ _ _ _ hs := hs
  ends _ hs := ⟨rfl, hs.2⟩
  send m _ := keeps_send_of_ended sent server m

/-- After the connection has ended, no call sends anything. -/
lemma Does.of_ended {s' : Session} (h : Does s s') (hended : s.connected = false) :
    s'.sent = s.sent ∧ s'.server = s.server := by
  have hlasting := lasting_ended s.sent s.server
  have hs : s.connected = false ∧ s.sent = s.sent ∧ s.server = s.server := ⟨hended, rfl, rfl⟩
  cases h with
  | looks => exact hs.2
  | opens uri => exact (hlasting.ensureOpenUri uri s hs).2
  | asksAbout opened document decode =>
    rename_i uri _ between m _
    have hbetween := hlasting.ensureOpenUri uri s hs
    rw [opened] at hbetween
    exact (hlasting.ask (keeps_send_of_ended s.sent s.server m) decode between hbetween).2
  | asks request document decode =>
    exact (hlasting.ask (hlasting.send _ document) decode s hs).2
  | applies changes => exact (hlasting.applyEdits changes s hs).2

/-- Only messages about no document were sent on top of others. -/
def SentMore (sent : List ClientMessage) (s : Session) : Prop :=
  ∃ added, s.sent = added ++ sent ∧ ∀ m ∈ added, m.document? = none

lemma lasting_sentMore (sent : List ClientMessage) : Lasting (SentMore sent) where
  parts _ _ _ _ hs := hs
  ends _ hs := hs
  send := by
    intro m hm
    refine keeps_send ?_ fun _ hs => hs
    rintro s ⟨added, hsent, hadded⟩
    exact ⟨m :: added, by rw [hsent, List.cons_append], List.forall_mem_cons.mpr ⟨hm, hadded⟩⟩

/-- When a server is asked, the request may reach it, and nothing else about a document does. -/
lemma sent_ask {α : Type} (m : ClientMessage) (decode : Json → Option α) (s : Session) :
    (exec (ask m decode) s).2.disk = s.disk ∧
      (SentMore s.sent (exec (ask m decode) s).2 ∨
        SentMore (m :: s.sent) (exec (ask m decode) s).2) := by
  refine ask_leads (P := (· = s)) (Q := fun s' => s'.disk = s.disk ∧
    (SentMore s.sent s' ∨ SentMore (m :: s.sent) s')) ?_ (fun _ _ hs => hs) (fun _ hs => hs) ?_ s rfl
  · intro method s' ⟨hdisk, hsent⟩
    constructor
    · exact (keeps_send_files (.refusal method) s' ⟨hdisk, rfl⟩).1
    · exact hsent.imp ((lasting_sentMore _).send _ rfl s') ((lasting_sentMore _).send _ rfl s')
  · rintro _ rfl
    rw [exec_send]
    split
    · exact ⟨rfl, .inr ⟨[], rfl, by simp⟩⟩
    · exact ⟨rfl, .inl ⟨[], rfl, by simp⟩⟩

/-! ### The view after a call -/

/-- The buffers of a session hold what its server was told last. -/
def InView (server : Server) (s : Session) : Prop :=
  s.server = server ∧ s.buffers.Mirrored s.sent

lemma keeps_send_inView {m : ClientMessage} (hm : ∀ uri, m.notice? uri = none) :
    Keeps (InView server) (send m) :=
  keeps_send (fun _ hs => ⟨hs.1, hs.2.send hm⟩) fun _ hs => hs

lemma keeps_ask_inView {α : Type} {m : ClientMessage} (hm : m.isRequest = true)
    (decode : Json → Option α) : Keeps (InView server) (ask m decode) :=
  ask_leads (fun _ => keeps_send_inView fun _ => rfl) (fun _ _ hs => hs) (fun _ hs => hs)
    (keeps_send_inView (ClientMessage.notice?_eq_none hm))

section Accepting

variable (haccepts : ∀ received, server.accepts received = true)
include haccepts

lemma keeps_ensureOpenUri_inView (uri : Uri) :
    Keeps (fun s => s.connected = true ∧ InView server s) (ensureOpenUri uri) := by
  rintro s ⟨hconnected, rfl, hview⟩
  rcases ensureOpenUri_cases uri s with ⟨e, hfails⟩ | ⟨-, file, text, -, -, -, hopens⟩
  · rw [hfails]
    exact ⟨hconnected, rfl, hview⟩
  · have hheard : Heard { s with buffers := (s.buffers.sync file text).1 } :=
      ⟨hconnected, haccepts⟩
    rw [hopens, exec_bind_of_ok (hheard.exec_tellAll _)]
    exact ⟨hconnected, rfl, hview.sync file text⟩

lemma applyEdits_inView (changes : EditSet) (hconnected : s.connected = true)
    (hview : s.InView server) : (exec (applyEdits changes) s).2.InView server := by
  have hopened (uris : List Uri) :=
    keeps_ensureAllOpen (keeps_ensureOpenUri_inView haccepts) uris s ⟨hconnected, hview⟩
  rcases applyEdits_cases changes s with
    ⟨e, hfails⟩ | ⟨files, -, ⟨e, s', hopen, hfails⟩ | ⟨between, hopen, -, -, happlied⟩⟩
  · rwa [hfails]
  · have hs' := hopened (files.map Prod.fst)
    rw [hopen] at hs'
    rw [hfails]
    exact hs'.2
  · have hbetween := hopened (files.map Prod.fst)
    rw [hopen] at hbetween
    obtain ⟨hconnected', hserver, hview'⟩ := hbetween
    rw [happlied]
    rcases between.buffers.apply_cases s.disk files with
      ⟨e, heq⟩ | ⟨docs, disk', hprepare, ⟨e, -, heq⟩ | ⟨-, heq⟩⟩
    · rw [heq]
      exact ⟨hserver, hview'⟩
    · rw [heq]
      exact ⟨hserver, hview'⟩
    · have hheard : Heard { between with disk := disk', buffers := (between.buffers.accept docs).1 } :=
        ⟨hconnected', hserver ▸ haccepts⟩
      rw [heq]
      simp only [hheard.exec_tellAll]
      refine ⟨hserver, hview'.accept fun doc hdoc => ?_⟩
      obtain ⟨c, -, hprepared⟩ := Buffers.exists_change hprepare hdoc
      obtain ⟨version, hbuffer⟩ := hprepared.buffer
      rw [hprepared.uri, hbuffer]
      rfl

lemma Does.inView {s' : Session} (h : Does s s') (hconnected : s.connected = true)
    (hview : s.InView server) : s'.InView server := by
  cases h with
  | looks => exact hview
  | opens uri => exact (keeps_ensureOpenUri_inView haccepts uri s ⟨hconnected, hview⟩).2
  | asksAbout opened document decode =>
    rename_i uri _ between m _
    have hbetween := keeps_ensureOpenUri_inView haccepts uri s ⟨hconnected, hview⟩
    rw [opened] at hbetween
    exact keeps_ask_inView (ClientMessage.isRequest_of_document? document) decode between hbetween.2
  | asks request document decode => exact keeps_ask_inView request decode s hview
  | applies changes => exact applyEdits_inView haccepts changes hconnected hview

end Accepting

/-! ### Whole runs -/

/-- States that a session with a server comes to. A buffer that changes after the connection has
ended is a notice that the server does not take, so that does not happen here. -/
inductive Reached (server : Server) : Session → Prop where
  /-- The first exchange with the server has succeeded. -/
  | started {disk : Disk} {limit timeout : Duration} {root : Place} {s : Session}
      (h : exec (start root timeout) { server, disk, limit } = (.ok (), s)) : Reached server s
  | called {s : Session} (h : Reached server s) (call : HostCall)
      (taken : s.connected = true ∨ (call.after s).buffers = s.buffers) :
      Reached server (call.after s)
  /-- The files change from outside. -/
  | disturbed {s : Session} (h : Reached server s) (disk : Disk) : Reached server { s with disk }

lemma start_inView {root : Place} {timeout : Duration} {disk : Disk} {limit : Duration}
    (h : exec (start root timeout) { server, disk, limit } = (.ok (), s)) : s.InView server := by
  have hkeeps : Keeps (InView server) (start root timeout) :=
    (keeps_ask_inView rfl _).adapt.bind fun _ =>
      (keeps_send_inView fun _ => rfl).adapt.bind fun _ => fun _ hs => hs
  have hstart := hkeeps { server, disk, limit } ⟨rfl, Buffers.mirrored_nil⟩
  rwa [h] at hstart

lemma Reached.inView (haccepts : ∀ received, server.accepts received = true)
    (h : Reached server s) : s.InView server := by
  induction h with
  | started h => exact start_inView h
  | disturbed _ disk ih => exact ih
  | @called s _ call taken ih =>
    cases hconnected : s.connected with
    | true => exact (does_after call s).inView haccepts hconnected ih
    | false =>
      obtain ⟨hsent, hserver⟩ := (does_after call s).of_ended hconnected
      refine ⟨hserver.trans ih.1, ?_⟩
      rw [taken.resolve_left (by simp [hconnected]), hsent]
      exact ih.2

/-! ### The text a server is asked about -/

/-- Of two splits of a list, one at the only element with a property and one at an element with that
property, both are the same. -/
lemma eq_of_append_cons_eq {α : Type} {p : α → Prop} {xs ys xs' ys' : List α} {a b : α}
    (h : xs ++ a :: ys = xs' ++ b :: ys') (hxs : ∀ x ∈ xs, ¬ p x) (hys : ∀ y ∈ ys, ¬ p y)
    (hb : p b) : a = b ∧ ys = ys' := by
  rcases List.append_eq_append_iff.mp h with ⟨between, hxs', hrest⟩ | ⟨between, rfl, hrest⟩
  · cases between with
    | nil => exact List.cons_eq_cons.mp hrest
    | cons x between =>
      obtain ⟨-, rfl⟩ := List.cons_eq_cons.mp hrest
      exact absurd hb (hys b (by simp))
  · cases between with
    | nil =>
      obtain ⟨rfl, rfl⟩ := List.cons_eq_cons.mp hrest
      exact ⟨rfl, rfl⟩
    | cons x between =>
      obtain ⟨rfl, -⟩ := List.cons_eq_cons.mp hrest
      exact absurd hb (hxs b (by simp))

/-- A request about a document is not among the messages about none. -/
lemma SentMore.elim {sent newer older : List ClientMessage} {request : ClientMessage} {uri : Uri}
    (h : SentMore sent s) (hsent : s.sent = newer ++ request :: older) (holder : sent <:+ older)
    (hdocument : request.document? = some uri) : False := by
  obtain ⟨added, hadded, hnone⟩ := h
  obtain ⟨earlier, rfl⟩ := holder
  rw [hsent, ← List.cons_append, ← List.append_assoc] at hadded
  have hrequest := hnone request (by rw [← List.append_cancel_right hadded]; simp)
  rw [hrequest] at hdocument
  cases hdocument

/-- A request about a document is sent only by a call that has opened it. -/
lemma Does.asked {s' : Session} (h : Does s s') {newer older : List ClientMessage}
    {request : ClientMessage} {uri : Uri} (hsent : s'.sent = newer ++ request :: older)
    (holder : s.sent <:+ older) (hdocument : request.document? = some uri) :
    s'.disk = s.disk ∧
      ∃ file between, exec (ensureOpenUri uri) s = (.ok file, between) ∧ older = between.sent := by
  have hmore : SentMore s.sent s := ⟨[], rfl, by simp⟩
  have hlasting := lasting_sentMore s.sent
  cases h with
  | looks => exact (hmore.elim hsent holder hdocument).elim
  | opens u => exact ((hlasting.ensureOpenUri u s hmore).elim hsent holder hdocument).elim
  | asks _ document decode =>
    have hask := hlasting.ask (hlasting.send _ document) decode s hmore
    exact (hask.elim hsent holder hdocument).elim
  | applies changes => exact ((hlasting.applyEdits changes s hmore).elim hsent holder hdocument).elim
  | asksAbout opened document decode =>
    rename_i u file between m _
    have hbetween := hlasting.ensureOpenUri u s hmore
    have hfiles := buffers_of_ensureOpenUri opened
    rw [opened] at hbetween
    obtain ⟨added, hadded, hnone⟩ := hbetween
    obtain ⟨hdisk, ⟨refusals, hall, hrefusals⟩ | ⟨refusals, hall, hrefusals⟩⟩ :=
      sent_ask m decode between
    · refine (SentMore.elim ⟨refusals ++ added, ?_, ?_⟩ hsent holder hdocument).elim
      · rw [hall, hadded, List.append_assoc]
      · exact fun m hm => (List.mem_append.mp hm).elim (hrefusals m) (hnone m)
    · obtain ⟨earlier, rfl⟩ := holder
      rw [hall, hadded, ← List.cons_append, ← List.append_assoc, ← List.cons_append,
        ← List.append_assoc] at hsent
      obtain ⟨rfl, rfl⟩ := eq_of_append_cons_eq (p := fun m : ClientMessage => m.document? ≠ none)
        (List.append_cancel_right hsent) (by simpa using hrefusals) (by simpa using hnone)
        (by simp [hdocument])
      obtain rfl := Option.some.inj (document.symm.trans hdocument)
      obtain ⟨-, -, -, -, -, hkept, -⟩ := hfiles
      exact ⟨hdisk.trans hkept, file, between, opened, hadded.symm⟩

/-- The view of a server that takes all it is sent never drifts from the buffers, and it is asked
about the document of a file only when it knows the text of that file. -/
theorem view_never_drifts (haccepts : ∀ received, server.accepts received = true)
    (h : Reached server s) :
    s.buffers.Mirrored s.sent ∧
      ∀ (call : HostCall) (newer older : List ClientMessage) (request : ClientMessage) (uri : Uri)
        (cwd path : Path),
        (call.after s).sent = newer ++ request :: older → s.sent <:+ older →
        request.document? = some uri → s.disk.uriOf cwd path = .ok uri →
        (call.after s).disk = s.disk ∧
          ∃ place text, uri = .ofNames place ∧
            s.disk.lookup place = some (.file text.toUTF8) ∧
            (noticesOf uri older).getLast?.map Notice.text = some text := by
  have hview := h.inView haccepts
  refine ⟨hview.2, fun call newer older request uri cwd path hsent holder hdocument huri => ?_⟩
  have hdoes := does_after call s
  obtain ⟨hdisk, file, between, hopen, rfl⟩ := hdoes.asked hsent holder hdocument
  refine ⟨hdisk, ?_⟩
  obtain ⟨path', text, hpath, hfile, htext, -, hbuffers⟩ := buffers_of_ensureOpenUri hopen
  obtain rfl := Disk.eq_of_uriOf_path? huri hpath hfile
  obtain ⟨place, rfl, hsolid⟩ := Disk.exists_place_of_uriOf huri
  obtain rfl := Option.some.inj ((Uri.path?_ofNames place).symm.trans hpath)
  refine ⟨place, text, rfl, (hsolid.readText_pathOf_eq_ok_iff.mp htext).2.2, ?_⟩
  have hconnected : s.connected = true := by
    by_contra hended
    have hsame := (hdoes.of_ended (by simpa using hended)).1
    exact SentMore.elim ⟨[], hsame, by simp⟩ hsent holder hdocument
  have hbetween := keeps_ensureOpenUri_inView haccepts (.ofNames place) s ⟨hconnected, hview⟩
  obtain ⟨version, hbuffer⟩ := Buffers.get?_sync_self s.buffers (.ofNames place) text
  rw [hopen] at hbetween
  rw [← hbuffers] at hbuffer
  exact hbetween.2.2.text_getLast? hbuffer

/-- A server that has nothing to say. -/
def plainServer : Server := Script.server ⟨.obj [], []⟩

/-- A session with the file `a` that was just started. -/
def startedSession : Session :=
  (exec (start [] (.ofSeconds 60))
    { server := plainServer, disk := ⟨[([[0x61]], .file "old".toUTF8)]⟩, limit := .ofSeconds 30 }).2

/-- The same session after it has asked about the file, which then got a new text. -/
def outdatedSession : Session :=
  { (HostCall.documentSymbols (.ofNames [[0x61]])).after startedSession with
    disk := ⟨[([[0x61]], .file "new".toUTF8)]⟩ }

lemma reached_outdatedSession : Reached plainServer outdatedSession := by
  have hstart : exec (start [] (.ofSeconds 60))
      { server := plainServer, disk := ⟨[([[0x61]], .file "old".toUTF8)]⟩,
        limit := .ofSeconds 30 } = (.ok (), startedSession) :=
    Prod.ext (by decide) rfl
  have hstarted : Reached plainServer startedSession := .started hstart
  exact .disturbed (.called hstarted (.documentSymbols (.ofNames [[0x61]]))
    (.inl (by decide))) _

/-- Asked again, the server gets the new text first. -/
theorem view_of_outdatedSession :
    Reached plainServer outdatedSession ∧ outdatedSession.buffers.Mirrored outdatedSession.sent ∧
      ((HostCall.documentSymbols (.ofNames [[0x61]])).after outdatedSession).sent =
        [] ++ .documentSymbols (.ofNames [[0x61]]) ::
          .didChange (.ofNames [[0x61]]) 1 "new" :: outdatedSession.sent ∧
      ∃ place text, Uri.ofNames [[0x61]] = .ofNames place ∧
        outdatedSession.disk.lookup place = some (.file text.toUTF8) ∧
        (noticesOf (.ofNames [[0x61]]) (.didChange (.ofNames [[0x61]]) 1 "new" ::
          outdatedSession.sent)).getLast?.map Notice.text = some text := by
  have hview := view_never_drifts (fun _ => rfl) reached_outdatedSession
  have hsent : ((HostCall.documentSymbols (.ofNames [[0x61]])).after outdatedSession).sent =
      [] ++ .documentSymbols (.ofNames [[0x61]]) ::
        .didChange (.ofNames [[0x61]]) 1 "new" :: outdatedSession.sent := by
    decide
  refine ⟨reached_outdatedSession, hview.1, hsent, ?_⟩
  exact (hview.2 (.documentSymbols (.ofNames [[0x61]])) _ _ _ _ ⟨[]⟩ ⟨[0x2F, 0x61]⟩ hsent
    (List.suffix_cons _ _) rfl rfl).2

end Session

end Outline
