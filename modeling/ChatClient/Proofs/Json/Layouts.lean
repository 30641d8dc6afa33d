import ChatClient.Proofs.Json.Records
import ChatClient.Proofs.Json.Storing

/-! The two layouts of a record in memory. An object holds its fields by key, an array holds them in
the order of declaration and may end early. Either way the record is built from what it holds for
each field; any other value is no record. -/
namespace ChatClient.Layouts
open Json Records Storing

/-- What an array holds for a field: the item in its place. -/
def placed (slots : List Slot) (name : String) (items : List Value) : Option Value :=
  ((slots.map (·.name)).zip items).lookup name

/-- What a value holds for a field of a record. -/
def part (slots : List Slot) (name : String) : Value → Option Value
  | .object fields => given slots name fields
  | .array items => placed slots name items
  | _ => none

/-- The value is laid out as a record: an object that names no field twice, or an array with no more
items than there are fields. -/
def LaidOut (slots : List Slot) : Value → Prop
  | .object fields => (named slots fields).Nodup
  | .array items => items.length ≤ slots.length
  | _ => False

section Arrays
variable {slots : List Slot}

/-- A pass over the items is whole if there is a field for each of them. -/
theorem items_unbroken_iff (expected : String) (all names : List String) (items : List Value)
    (total order : Nat) (found : List (String × Found)) :
    ((Items.ofValues total items).parts expected all order found names).broken = none ↔
      items.length ≤ names.length := by
  induction items generalizing names order found with
  | nil => cases names <;> simp [Items.ofValues, Items.parts]
  | cons item rest ih => cases names <;> simp [Items.ofValues, Items.parts, ih]

/-- After a pass every field has the item in its place, unless it was found before. -/
theorem items_found (expected : String) (all names : List String) (items : List Value)
    (total order : Nat) (found : List (String × Found)) (name : String) :
    (((Items.ofValues total items).parts expected all order found names).found.lookup name).map
        (·.node) =
      ((found.lookup name).map (·.node)).or (((names.zip items).lookup name).map Node.ofValue) := by
  induction items generalizing names order found with
  | nil => cases names <;> simp [Items.ofValues, Items.parts]
  | cons item rest ih =>
    cases names with
    | nil => simp [Items.ofValues, Items.parts]
    | cons first names =>
      rw [Items.ofValues, Items.parts, ih, List.lookup_append, List.zip_cons_cons, List.lookup_cons,
        List.lookup_cons, List.lookup_nil]
      cases found.lookup name <;> cases name == first <;> simp

theorem mem_of_placed {items : List Value} {name : String} {value : Value}
    (held : placed slots name items = some value) : value ∈ items := by
  obtain ⟨before, behind, whole, -⟩ := List.lookup_eq_some_iff.mp held
  have paired : (name, value) ∈ (slots.map (·.name)).zip items := by simp [whole]
  exact (List.of_mem_zip paired).2

/-- A record has found just the items that an array holds. -/
theorem holds_array (expected : String) (all : List String) (items : List Value) (total : Nat)
    (name : String) :
    Holds ((Items.ofValues total items).parts expected all 0 [] (slots.map (·.name))) name
      (placed slots name items) :=
  items_found expected all _ items total 0 [] name

end Arrays

section Records
variable {α : Type} {slots : List Slot} {value : Value}

theorem record_array_ok_iff (label : String) (build : Parts → Draft α) (items : List Value)
    (a : α) :
    let names := slots.map (·.name)
    let expected := "struct " ++ label ++ " with " ++ toString names.length ++ " elements"
    record label slots build (Node.ofValue (.array items)) = .ok a ↔ items.length ≤ slots.length ∧
      build ((Items.ofValues items.length items).parts expected names 0 [] names) = .done a := by
  simp only [record, Node.ofValue, Bool.false_eq_true, ↓reduceIte, finish_ok_iff,
    items_unbroken_iff, List.length_map]

/-- The parts of a stored value are stored. -/
theorem stored_of_part {name : String} {held : Value} (stored : Stored value)
    (holds : part slots name value = some held) : Stored held := by
  cases stored with
  | null | bool | int | float | string => cases holds
  | array stored => exact stored held (mem_of_placed holds)
  | object _ stored =>
    obtain ⟨key, among⟩ := mem_of_given holds
    exact stored _ among

/-- A record comes out of nothing but a value that is laid out as one, and is then built from what
the value holds for its fields. -/
theorem record_ok_iff {label : String} {build : Parts → Draft α} {a : α} {made : Prop}
    (built : ∀ parts, (∀ name, Holds parts name (part slots name value)) →
      (build parts = .done a ↔ made)) :
    record label slots build (Node.ofValue value) = .ok a ↔ LaidOut slots value ∧ made := by
  cases value with
  | object fields =>
    refine (record_object_ok_iff label build fields a).trans (and_congr_right fun once => ?_)
    exact built _ (holds_object once)
  | array items =>
    refine (record_array_ok_iff label build items a).trans (and_congr_right fun _ => ?_)
    exact built _ (holds_array _ _ items items.length)
  | null | bool | number | string => exact iff_of_false (by rintro ⟨⟩) (by rintro ⟨⟨⟩, -⟩)

end Records

end ChatClient.Layouts
