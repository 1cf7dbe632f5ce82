import Mathlib
import Outline.Host.Canned
import Outline.Proofs.Disk.Inside
import Outline.Proofs.Engine.BodyEdits
import Outline.Tool.Answer

/-!
# Calls that stay in the workspace

Every tool that takes a path looks first where the path leads. When that is no file inside the
workspace, the call fails, and the host is not asked anything: this shows on a host that is watched,
whatever it would have answered.
-/

namespace Outline

open Outline.Action

/-! ### Watching a host -/

/-- A host, and the calls that were made of it, the last one first. -/
structure Watched (σ : Type) where
  host  : σ
  calls : List HostCall

namespace Watched

variable {σ α : Type}

/-- Takes a step of the host and notes the call. -/
def noting (call : HostCall) (step : StateM σ α) : StateM (Watched σ) α := fun w =>
  let (a, host) := step.run w.host
  (a, ⟨host, call :: w.calls⟩)

instance [Host σ] : Host (Watched σ) where
  disk w := Host.disk w.host
  documentSymbols uri := .mk (noting (.documentSymbols uri) (Host.documentSymbols uri).run)
  references uri position includeDeclaration :=
    .mk (noting (.references uri position includeDeclaration)
      (Host.references uri position includeDeclaration).run)
  rename uri position newName :=
    .mk (noting (.rename uri position newName) (Host.rename uri position newName).run)
  applyEdits changes := .mk (noting (.applyEdits changes) (Host.applyEdits changes).run)
  documentText uri := .mk (noting (.documentText uri) (Host.documentText uri).run)
  diagnostics uri := noting (.diagnostics uri) (Host.diagnostics uri)
  allDiagnostics := noting .allDiagnostics Host.allDiagnostics
  workspaceSymbols query := .mk (noting (.workspaceSymbols query) (Host.workspaceSymbols query).run)

end Watched

/-! ### Operations whose path is refused -/

namespace Engine

variable {σ α : Type} [Host σ] {s : σ} {root : Path} {path : String} {e : ToolError}

lemma exec_locate_bind_of_error (h : (Host.disk s).locate root path = .error e)
    (next : Uri → Action σ ToolError α) : exec (locate root path >>= next) s = (.error e, s) :=
  exec_bind_of_error (by rw [exec_locate, h])

lemma exec_resolveSymbol_of_error (h : (Host.disk s).locate root path = .error e)
    (namePath : String) : exec (resolveSymbol root namePath path) s = (.error e, s) :=
  exec_locate_bind_of_error h _

/-- A new name that is blank is refused before the path is looked at. -/
lemma exec_renameSymbol_of_error (h : (Host.disk s).locate root path = .error e)
    (namePath newName : String) :
    ∃ e', exec (renameSymbol root namePath path newName) s = (.error e', s) := by
  unfold renameSymbol
  split
  · exact ⟨_, rfl⟩
  · exact ⟨e, exec_bind_of_error (exec_resolveSymbol_of_error h namePath)⟩

end Engine

namespace ToolCall

/-- The path that a call is given. -/
def path? : ToolCall → Option String
  | symbolsOverview path _ | findSymbol _ path _ => some path
  | findUsages a | replaceBody a _ | insertAfter a _ | insertBefore a _ | renameSymbol a _ =>
    some a.path
  | diagnostics path _ => path
  | workspaceSymbols _ _ _ => none

/-- A call with a path that is refused ends there, on every host. -/
lemma exec_run_of_error {σ : Type} [Host σ] {s : σ} {root : Path} {path : String} {e : ToolError}
    {call : ToolCall} (hpath : call.path? = some path)
    (h : (Host.disk s).locate root path = .error e) :
    ∃ e', exec (call.run root) s = (.error e', s) := by
  cases call with
  | symbolsOverview p depth | findSymbol pattern p depth =>
    cases hpath
    exact ⟨e, exec_bind_of_error (Engine.exec_locate_bind_of_error h _)⟩
  | findUsages a | replaceBody a body | insertAfter a body | insertBefore a body =>
    cases hpath
    exact ⟨e, exec_bind_of_error
      (exec_bind_of_error (Engine.exec_resolveSymbol_of_error h a.namePath))⟩
  | renameSymbol a newName =>
    cases hpath
    obtain ⟨e', he'⟩ := Engine.exec_renameSymbol_of_error h a.namePath newName
    exact ⟨e', exec_bind_of_error he'⟩
  | diagnostics p includeSource =>
    cases hpath
    exact ⟨e, exec_bind_of_error (Engine.exec_locate_bind_of_error h _)⟩
  | workspaceSymbols query includeExternal maxResults => cases hpath

/-- A path is accepted exactly when it leads to a file inside the workspace, and stands for the URI
of that file. A call with any other path fails without a single call of the host. -/
theorem run_confined (disk : Disk) (root : Place) (path : String)
    (hroot : disk.canonicalize (.ofNames root) = .ok root) :
    (∀ uri, disk.locate (.ofNames root) path = .ok uri ↔
      ∃ place, disk.LeadsInside root path place ∧ uri = .ofNames place) ∧
    ((∀ place, ¬ disk.LeadsInside root path place) →
      ∀ call : ToolCall, call.path? = some path →
      ∀ (σ : Type) [Host σ] (s : σ), Host.disk s = disk → ∀ calls : List HostCall,
        ∃ e, exec (call.run (.ofNames root)) (Watched.mk s calls) = (.error e, ⟨s, calls⟩)) := by
  refine ⟨fun uri => Disk.locate_ofNames_eq_ok_iff hroot, ?_⟩
  intro hnowhere call hpath σ _ s hdisk calls
  cases hlocate : disk.locate (.ofNames root) path with
  | ok uri =>
    obtain ⟨place, hplace, -⟩ := (Disk.locate_ofNames_eq_ok_iff hroot).mp hlocate
    exact absurd hplace (hnowhere place)
  | error e =>
    have hlocate' : (Host.disk (Watched.mk s calls)).locate (.ofNames root) path = .error e := by
      rw [← hlocate, ← hdisk]
      rfl
    exact exec_run_of_error hpath hlocate'

/-- A disk with the directories `d` and `do`, which hold a file `a` each. The link `l` in `d` leads
to `do`, and the link `k` in `do` leads back. -/
def linkedDisk : Disk :=
  ⟨[([[0x64]], .directory), ([[0x64], [0x61]], .file "f".toUTF8),
    ([[0x64], [0x6C]], .link ⟨[0x2E, 0x2E, 0x2F, 0x64, 0x6F]⟩), ([[0x64, 0x6F]], .directory),
    ([[0x64, 0x6F], [0x61]], .file "f".toUTF8), ([[0x64, 0x6F], [0x6B]], .link ⟨[0x2F, 0x64]⟩)]⟩

/-- A path may leave the workspace when it comes back, and the name of a directory that only begins
like the root is no way in. -/
theorem run_confined_linkedDisk :
    linkedDisk.canonicalize (.ofNames [[0x64]]) = .ok [[0x64]] ∧
      (∃ place, linkedDisk.LeadsInside [[0x64]] "l/k/a" place ∧
        Uri.ofNames [[0x64], [0x61]] = .ofNames place) ∧
      ∃ e, exec ((replaceBody ⟨"f", "l/a"⟩ "g").run (.ofNames [[0x64]]))
        (Watched.mk (CannedHost.mk linkedDisk [] [] none [] [] (fun _ => none) []) []) =
          (.error e, ⟨⟨linkedDisk, [], [], none, [], [], fun _ => none, []⟩, []⟩) := by
  have hroot : linkedDisk.canonicalize (.ofNames [[0x64]]) = .ok [[0x64]] := by decide
  have hback : linkedDisk.locate (.ofNames [[0x64]]) "l/k/a" = .ok (.ofNames [[0x64], [0x61]]) := by
    decide
  have hout : (linkedDisk.locate (.ofNames [[0x64]]) "l/a").isOk = false := by decide
  have hnowhere (place : Place) : ¬ linkedDisk.LeadsInside [[0x64]] "l/a" place := by
    intro hplace
    have hok := ((run_confined linkedDisk [[0x64]] "l/a" hroot).1 _).mpr ⟨place, hplace, rfl⟩
    rw [hok] at hout
    cases hout
  exact ⟨hroot, ((run_confined linkedDisk [[0x64]] "l/k/a" hroot).1 _).mp hback,
    (run_confined linkedDisk [[0x64]] "l/a" hroot).2 hnowhere _ rfl CannedHost _ rfl []⟩

end ToolCall

end Outline
