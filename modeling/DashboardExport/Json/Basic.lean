import DashboardExport.Binary64.Basic

/-!
# JSON values

The value type of response bodies.  Integers and floating-point numbers are kept
apart, integers have any size, and an object keeps its members in order with
distinct keys: `putMember` replaces the value of a key in place.
-/

set_option autoImplicit false

namespace DashboardExport

/-- A JSON value. -/
inductive Json where
  | null
  | bool (value : Bool)
  | int (value : Int)
  | float (value : Binary64)
  | str (value : String)
  | arr (items : List Json)
  | obj (members : List (String × Json))

namespace Json

/-! ## Equality is decidable -/

mutual
/-- Whether two values are the same. -/
def same : Json → Json → Bool
  | .null, .null => true
  | .bool a, .bool b => a == b
  | .int a, .int b => a == b
  | .float a, .float b => decide (a = b)
  | .str a, .str b => a == b
  | .arr xs, .arr ys => sameItems xs ys
  | .obj xs, .obj ys => sameMembers xs ys
  | _, _ => false

def sameItems : List Json → List Json → Bool
  | [], [] => true
  | x :: xs, y :: ys => same x y && sameItems xs ys
  | _, _ => false

def sameMembers : List (String × Json) → List (String × Json) → Bool
  | [], [] => true
  | (k, x) :: xs, (l, y) :: ys => k == l && same x y && sameMembers xs ys
  | _, _ => false
end

mutual
theorem same_refl : ∀ value : Json, same value value = true
  | .null => rfl
  | .bool _ => by simp [same]
  | .int _ => by simp [same]
  | .float _ => by simp [same]
  | .str _ => by simp [same]
  | .arr items => by rw [same]; exact sameItems_refl items
  | .obj members => by rw [same]; exact sameMembers_refl members

theorem sameItems_refl : ∀ items : List Json, sameItems items items = true
  | [] => rfl
  | x :: xs => by rw [sameItems, same_refl x, sameItems_refl xs]; rfl

theorem sameMembers_refl : ∀ members : List (String × Json), sameMembers members members = true
  | [] => rfl
  | (k, x) :: xs => by rw [sameMembers, same_refl x, sameMembers_refl xs]; simp
end

mutual
theorem eq_of_same : ∀ a b : Json, same a b = true → a = b
  | .null, b, h => by cases b <;> simp [same] at h ⊢
  | .bool _, b, h => by cases b <;> simp [same] at h ⊢; exact h
  | .int _, b, h => by cases b <;> simp [same] at h ⊢; exact h
  | .float _, b, h => by cases b <;> simp [same] at h ⊢; exact h
  | .str _, b, h => by cases b <;> simp [same] at h ⊢; exact h
  | .arr xs, b, h => by
      cases b with
      | arr ys => rw [same] at h; rw [eq_of_sameItems xs ys h]
      | _ => simp [same] at h
  | .obj xs, b, h => by
      cases b with
      | obj ys => rw [same] at h; rw [eq_of_sameMembers xs ys h]
      | _ => simp [same] at h

theorem eq_of_sameItems : ∀ xs ys : List Json, sameItems xs ys = true → xs = ys
  | [], ys, h => by cases ys <;> simp [sameItems] at h ⊢
  | x :: xs, ys, h => by
      cases ys with
      | nil => simp [sameItems] at h
      | cons y ys =>
          simp only [sameItems, Bool.and_eq_true] at h
          rw [eq_of_same x y h.1, eq_of_sameItems xs ys h.2]

theorem eq_of_sameMembers : ∀ xs ys : List (String × Json), sameMembers xs ys = true → xs = ys
  | [], ys, h => by cases ys <;> simp [sameMembers] at h ⊢
  | (k, x) :: xs, ys, h => by
      cases ys with
      | nil => simp [sameMembers] at h
      | cons entry ys =>
          obtain ⟨l, y⟩ := entry
          simp only [sameMembers, Bool.and_eq_true, beq_iff_eq] at h
          rw [h.1.1, eq_of_same x y h.1.2, eq_of_sameMembers xs ys h.2]
end

theorem same_eq_true_iff {a b : Json} : same a b = true ↔ a = b :=
  ⟨eq_of_same a b, fun h => h ▸ same_refl a⟩

instance : DecidableEq Json := fun _ _ => decidable_of_iff _ same_eq_true_iff

instance : Inhabited Json := ⟨.null⟩

/-! ## Members -/

/-- Sets the value of a key: in place if the key is present, at the end otherwise. -/
def putMember (key : String) (value : Json) : List (String × Json) → List (String × Json)
  | [] => [(key, value)]
  | (k, v) :: rest => if k == key then (k, value) :: rest else (k, v) :: putMember key value rest

/-- The object with the given members; of a repeated key the last value counts, at the place of the
first. -/
def ofMembers (members : List (String × Json)) : Json :=
  .obj (members.foldl (fun built member => putMember member.1 member.2 built) [])

/-- What messages call the kind of a value. -/
def kindName : Json → String
  | .null => "NoneType"
  | .bool _ => "bool"
  | .int _ => "int"
  | .float _ => "float"
  | .str _ => "str"
  | .arr _ => "list"
  | .obj _ => "dict"

end Json

end DashboardExport
