import CrwShield.Base.Str

/-!
# JSON values

The tree of `serde_json::Value`. A number is its printed text, and an object keeps its members in
the key order of the backing tree map. Parsing and printing belong to the third-party crate and
are parameters where they occur.
-/

namespace CrwShield.Base

/-- `serde_json::Value`. -/
inductive Json where
  | null
  | bool (b : Bool)
  | num (literal : Str)
  | str (s : Str)
  | arr (items : List Json)
  | obj (members : List (Str × Json))

namespace Json

mutual

/-- Whether two values are equal. -/
def decEq : (a b : Json) → Decidable (a = b)
  | .null, .null => .isTrue rfl
  | .bool a, .bool b => decidable_of_iff (a = b) (by simp)
  | .num a, .num b => decidable_of_iff (a = b) (by simp)
  | .str a, .str b => decidable_of_iff (a = b) (by simp)
  | .arr a, .arr b => @decidable_of_iff _ (a = b) (by simp) (decEqItems a b)
  | .obj a, .obj b => @decidable_of_iff _ (a = b) (by simp) (decEqMembers a b)
  | .null, .bool _ | .null, .num _ | .null, .str _ | .null, .arr _ | .null, .obj _
  | .bool _, .null | .bool _, .num _ | .bool _, .str _ | .bool _, .arr _ | .bool _, .obj _
  | .num _, .null | .num _, .bool _ | .num _, .str _ | .num _, .arr _ | .num _, .obj _
  | .str _, .null | .str _, .bool _ | .str _, .num _ | .str _, .arr _ | .str _, .obj _
  | .arr _, .null | .arr _, .bool _ | .arr _, .num _ | .arr _, .str _ | .arr _, .obj _
  | .obj _, .null | .obj _, .bool _ | .obj _, .num _ | .obj _, .str _ | .obj _, .arr _ =>
    .isFalse (by simp)

/-- Whether two lists of values are equal. -/
def decEqItems : (a b : List Json) → Decidable (a = b)
  | [], [] => .isTrue rfl
  | [], _ :: _ => .isFalse (by simp)
  | _ :: _, [] => .isFalse (by simp)
  | a :: as, b :: bs =>
    @decidable_of_iff _ (a = b ∧ as = bs) (by simp)
      (@instDecidableAnd _ _ (decEq a b) (decEqItems as bs))

/-- Whether two lists of members are equal. -/
def decEqMembers : (a b : List (Str × Json)) → Decidable (a = b)
  | [], [] => .isTrue rfl
  | [], _ :: _ => .isFalse (by simp)
  | _ :: _, [] => .isFalse (by simp)
  | (k, a) :: as, (l, b) :: bs =>
    @decidable_of_iff _ (k = l ∧ a = b ∧ as = bs) (by simp [and_assoc])
      (@instDecidableAnd _ _ _ (@instDecidableAnd _ _ (decEq a b) (decEqMembers as bs)))

end

instance : DecidableEq Json := decEq
/-- `Value::get` of an object member. -/
def get? (key : Str) : Json → Option Json
  | obj members => (members.find? fun m ↦ m.1 = key).map Prod.snd
  | _ => none

/-- `Value::as_str`. -/
def asStr : Json → Option Str
  | str s => some s
  | _ => none

/-- `Map::insert` into members sorted by key. -/
def insert (key : Str) (value : Json) : List (Str × Json) → List (Str × Json)
  | [] => [(key, value)]
  | m :: ms =>
    if key = m.1 then (key, value) :: ms
    else if key < m.1 then (key, value) :: m :: ms
    else m :: insert key value ms

/-- The `json!` literal of an object. -/
def ofMembers (members : List (Str × Json)) : Json :=
  obj (members.foldl (fun acc m ↦ insert m.1 m.2 acc) [])

/-- An inserted member is found under its key, the others as before. -/
theorem find?_insert (key : Str) (value : Json) (members : List (Str × Json)) (k : Str) :
    (insert key value members).find? (fun m ↦ m.1 = k) =
      if key = k then some (key, value) else members.find? fun m ↦ m.1 = k := by
  induction members with
  | nil => by_cases hk : key = k <;> simp [insert, hk]
  | cons m ms ih =>
    unfold insert
    split
    · next heq =>
      by_cases hk : key = k
      · simp [hk]
      · simp [hk, ← heq]
    · next hne =>
      split
      · by_cases hk : key = k <;> simp [hk]
      · rw [List.find?_cons, ih, List.find?_cons]
        by_cases hk : key = k
        · have hm : ¬ m.1 = k := fun h ↦ hne (hk.trans h.symm)
          simp [hk, hm]
        · simp [hk]

/-- An inserted member is read back, the others as before. -/
theorem get?_insert (key : Str) (value : Json) (members : List (Str × Json)) (k : Str) :
    (obj (insert key value members)).get? k =
      if key = k then some value else (obj members).get? k := by
  simp only [get?, find?_insert]
  split
  · rfl
  · rfl

end Json
end CrwShield.Base
