import Outline.Proofs.Json.Rereading
import Outline.Proofs.Registration.Adding

/-!
# Configurations that are written

A configuration of integers stays one when the entry of the server is added, so it is read back as
it was written. There is no room for a second entry.
-/

namespace Outline

open Json

namespace Registration

variable {P : Number → Prop} {room : Nat} {config newEntry written v : Json}
  {fields : Keyed String Json}

lemma tidy_entry (P : Number → Prop) (room : Nat) (languageServer : String)
    (serverArgs : List String) : Tidy P (room + 2) (entry languageServer serverArgs) := by
  have horder : compare "args" "command" = .lt := by decide
  refine .obj (List.pairwise_pair.mpr horder) ?_
  refine List.forall_mem_cons.mpr ⟨.arr ?_, List.forall_mem_singleton.mpr (.str _ _)⟩
  intro v hv
  obtain ⟨arg, -, rfl⟩ := List.mem_map.mp hv
  exact .str room arg

lemma tidy_fieldsOf (h : Tidy P (room + 1) v) : Tidy P (room + 1) (.obj (fieldsOf v)) := by
  cases h with
  | obj hnames hvalues => exact .obj hnames hvalues
  | _ => exact .obj .nil (List.forall_mem_nil _)

lemma tidy_tableOf (h : Tidy P (room + 2) (.obj fields)) :
    Tidy P (room + 1) (.obj (tableOf fields)) := by
  cases h with | obj hnames hvalues =>
  unfold tableOf
  cases htable : Keyed.get? tableKey fields with
  | none => exact .obj .nil (List.forall_mem_nil _)
  | some v =>
    obtain ⟨f, hf, -, rfl⟩ := Keyed.exists_of_get?_eq_some htable
    exact tidy_fieldsOf (hvalues f hf)

lemma tidy_insert (name : String) (h : Tidy P (room + 1) (.obj fields)) (hv : Tidy P room v) :
    Tidy P (room + 1) (.obj (Keyed.insert name v fields)) := by
  cases h with | obj hnames hvalues =>
  exact .obj (Keyed.ascending_upsert name _ hnames)
    (Keyed.forall_mem_upsert hv (fun _ _ => hv) hvalues name)

lemma tidy_of_addTo (hconfig : Tidy P (room + 2) config) (hentry : Tidy P room newEntry)
    (h : addTo config newEntry = some written) : Tidy P (room + 2) written := by
  obtain ⟨-, rfl⟩ := addTo_eq_some_iff.mp h
  have hfields := tidy_fieldsOf hconfig
  exact tidy_insert tableKey hfields (tidy_insert serverName (tidy_tableOf hfields) hentry)

/-- A second entry is refused. -/
lemma Adds.addTo_eq_none (h : Adds config newEntry written) (another : Json) :
    addTo written another = none := by
  rw [Option.eq_none_iff_forall_ne_some]
  intro twice htwice
  rw [addTo_eq_some_iff, h.added] at htwice
  cases htwice.1

/-- What is written for a configuration of integers is read back. -/
lemma parse_pretty_of_addTo {languageServer : String} {serverArgs : List String}
    (hread : Tidy IsRead 127 config) (hwhole : Whole config)
    (h : addTo config (entry languageServer serverArgs) = some written) :
    parse written.pretty = some written :=
  parse_pretty (tidy_of_addTo (tidy_isWhole hread hwhole) (tidy_entry IsWhole 123 _ _) h)

end Registration

end Outline
