import CrwShield.Base.Str

/-!
# TOML values

The tree of `toml::Value`. A float and a date are their printed text, and a table keeps its members
in the key order of the backing tree map. Parsing belongs to the third-party crate and is a
parameter where it occurs.
-/

namespace CrwShield.Base

/-- `toml::Value`. -/
inductive Toml where
  | string (s : Str)
  | integer (n : Int)
  | float (literal : Str)
  | boolean (b : Bool)
  | datetime (literal : Str)
  | array (items : List Toml)
  | table (members : List (Str × Toml))

namespace Toml

/-- `Value::as_str`. -/
def asStr : Toml → Option Str
  | string s => some s
  | _ => none

/-- `Value::as_array`. -/
def asArray : Toml → Option (List Toml)
  | array items => some items
  | _ => none

/-- `Value::as_table`. -/
def asTable : Toml → Option (List (Str × Toml))
  | table members => some members
  | _ => none

/-- `Map::get`. -/
def get? (key : Str) (members : List (Str × Toml)) : Option Toml :=
  (members.find? fun m ↦ m.1 = key).map Prod.snd

theorem asTable_eq_some {v : Toml} {members : List (Str × Toml)} (h : v.asTable = some members) :
    v = table members := by
  cases v with
  | table ms => rw [asTable, Option.some.injEq] at h; rw [h]
  | _ => exact absurd h (by simp [asTable])

/-- Every table of a value has each key once, in order. -/
inductive Ordered : Toml → Prop
  | string {s : Str} : Ordered (string s)
  | integer {n : Int} : Ordered (integer n)
  | float {literal : Str} : Ordered (float literal)
  | boolean {b : Bool} : Ordered (boolean b)
  | datetime {literal : Str} : Ordered (datetime literal)
  | array {items : List Toml} (hitems : ∀ v ∈ items, Ordered v) : Ordered (array items)
  | table {members : List (Str × Toml)} (hkeys : (members.map Prod.fst).Pairwise (· < ·))
      (hmembers : ∀ m ∈ members, Ordered m.2) : Ordered (table members)

/-- A table within an ordered table is ordered. -/
theorem Ordered.of_get? {key : Str} {members : List (Str × Toml)} {v : Toml}
    (h : Ordered (.table members)) (hget : get? key members = some v) : Ordered v := by
  obtain ⟨m, hfind, rfl⟩ := Option.map_eq_some_iff.mp hget
  cases h with
  | table _ hmembers => exact hmembers m (List.mem_of_find?_eq_some hfind)

theorem Ordered.keys {members : List (Str × Toml)} (h : Ordered (.table members)) :
    (members.map Prod.fst).Pairwise (· < ·) := by
  cases h with
  | table hkeys _ => exact hkeys

end Toml
end CrwShield.Base
