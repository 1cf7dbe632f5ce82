import Outline.Proofs.Keyed
import Outline.Registration

/-!
# Adding an entry to a configuration

Adding an entry puts it into the table of servers and leaves everything else as it was. A
configuration or a table that is no object counts as an empty one. `Adds` says so field by field.
-/

namespace Outline

namespace Json

variable {key name : String}

lemma find?_eq_get? (name : String) (fields : List (String × Json)) :
    find? name fields = Keyed.get? name fields := by
  induction fields with
  | nil => rfl
  | cons f fields ih => simp [find?, Keyed.get?, ih]

lemma get?_obj_insert_self (name : String) (v : Json) (fields : Keyed String Json) :
    (Json.obj (Keyed.insert name v fields)).get? name = some v := by
  rw [get?, find?_eq_get?, Keyed.get?_insert_self]

lemma get?_obj_insert_of_ne (h : key ≠ name) (v : Json) (fields : Keyed String Json) :
    (Json.obj (Keyed.insert name v fields)).get? key = (Json.obj fields).get? key := by
  have hcompare : compare key name ≠ .eq := fun heq => h (Std.compare_eq_iff_eq.mp heq)
  rw [get?, get?, find?_eq_get?, find?_eq_get?, Keyed.get?_insert_of_ne hcompare]

end Json

namespace Registration

variable {config newEntry written : Json}

/-- The entry of a server in the table of a configuration. -/
def server? (config : Json) (name : String) : Option Json :=
  (config.get? tableKey).bind (·.get? name)

/-- `written` is the configuration with one entry more in its table of servers. -/
structure Adds (config newEntry written : Json) : Prop where
  isObject : ∃ fields, written = .obj fields
  hasTable : ∃ table, written.get? tableKey = some (.obj table)
  vacant   : server? config serverName = none
  added    : server? written serverName = some newEntry
  servers  : ∀ name, name ≠ serverName → server? written name = server? config name
  others   : ∀ key, key ≠ tableKey → written.get? key = config.get? key

lemma get?_obj_fieldsOf (config : Json) (key : String) :
    (Json.obj (fieldsOf config)).get? key = config.get? key := by
  cases config <;> rfl

lemma get?_obj_tableOf (config : Json) (name : String) :
    (Json.obj (tableOf (fieldsOf config))).get? name = server? config name := by
  have htable : Keyed.get? tableKey (fieldsOf config) = config.get? tableKey := by
    rw [← Json.find?_eq_get?, ← get?_obj_fieldsOf]
    rfl
  rw [tableOf, htable, server?]
  cases config.get? tableKey with
  | none => rfl
  | some table => exact get?_obj_fieldsOf table name

lemma addTo_eq_some_iff :
    addTo config newEntry = some written ↔ server? config serverName = none ∧
      written = .obj (Keyed.insert tableKey
        (.obj (Keyed.insert serverName newEntry (tableOf (fieldsOf config))))
        (fieldsOf config)) := by
  have hvacant : Keyed.get? serverName (tableOf (fieldsOf config)) = server? config serverName := by
    rw [← Json.find?_eq_get?, ← get?_obj_tableOf]
    rfl
  unfold addTo
  simp only [hvacant]
  cases server? config serverName with
  | none => simp [eq_comm]
  | some old => simp

lemma adds_of_addTo (h : addTo config newEntry = some written) : Adds config newEntry written := by
  obtain ⟨hvacant, rfl⟩ := addTo_eq_some_iff.mp h
  refine ⟨⟨_, rfl⟩, ⟨_, Json.get?_obj_insert_self ..⟩, hvacant, ?_, fun name hname => ?_,
    fun key hkey => ?_⟩
  · rw [server?, Json.get?_obj_insert_self, Option.bind_some, Json.get?_obj_insert_self]
  · rw [server?, Json.get?_obj_insert_self, Option.bind_some, Json.get?_obj_insert_of_ne hname,
      get?_obj_tableOf]
  · rw [Json.get?_obj_insert_of_ne hkey, get?_obj_fieldsOf]

end Registration

end Outline
