import Mathlib.Data.List.Nodup
import Mathlib.Data.String.Basic
import ChatClient.Json.Decoder

/-! Values as memory holds them. An object keeps its fields by name, each name once, so two objects
that answer alike for every name are one. Storing a stored value or reading it as a value changes
nothing; what storing does to any other object is to put its fields in order. -/
namespace ChatClient.Storing
open Json

/-- The names of the fields stand in order, each of them once. -/
def InOrder (fields : List (String × Value)) : Prop :=
  fields.Pairwise fun first second => first.1 < second.1

/-- A value that memory can hold: integers of 64 bits, with a sign or without one, finite floating
point numbers, and objects whose fields are in order. -/
inductive Stored : Value → Prop
  | null : Stored .null
  | bool (b : Bool) : Stored (.bool b)
  | int {n : Int} : Int64.minValue.toInt ≤ n → n < UInt64.size → Stored (.number (.int n))
  | float {x : Binary64} : x.isFinite = true → Stored (.number (.float x))
  | string (text : String) : Stored (.string text)
  | array {items : List Value} : (∀ item ∈ items, Stored item) → Stored (.array items)
  | object {fields : List (String × Value)} : InOrder fields →
      (∀ field ∈ fields, Stored field.2) → Stored (.object fields)

theorem stored_array_iff {items : List Value} :
    Stored (.array items) ↔ ∀ item ∈ items, Stored item :=
  ⟨fun | .array held => held, .array⟩

theorem stored_object_iff {fields : List (String × Value)} :
    Stored (.object fields) ↔ InOrder fields ∧ ∀ field ∈ fields, Stored field.2 :=
  ⟨fun | .object ordered held => ⟨ordered, held⟩, fun ⟨ordered, held⟩ => .object ordered held⟩

section Fields
variable {fields other : List (String × Value)} {name : String} {value : Value}

theorem InOrder.nodup (ordered : InOrder fields) : (fields.map Prod.fst).Nodup := by
  rw [List.nodup_iff_pairwise_ne, List.pairwise_map]
  exact ordered.imp fun before => before.ne

theorem InOrder.filter (ordered : InOrder fields) (keep : String × Value → Bool) :
    InOrder (fields.filter keep) :=
  List.Pairwise.filter keep ordered

/-- Fields with distinct names are found by their names, and nothing else is. -/
theorem lookup_eq_some_iff (distinct : (fields.map Prod.fst).Nodup) :
    fields.lookup name = some value ↔ (name, value) ∈ fields := by
  induction fields with
  | nil => simp
  | cons field rest ih =>
    obtain ⟨key, held⟩ := field
    obtain ⟨fresh, behind⟩ := List.nodup_cons.mp distinct
    rw [List.lookup_cons, List.mem_cons, Prod.mk.injEq]
    by_cases same : name = key
    · subst same
      have elsewhere : (name, value) ∉ rest := fun among =>
        fresh (List.mem_map.mpr ⟨_, among, rfl⟩)
      simp [elsewhere, eq_comm]
    · simp [beq_false_of_ne same, same, ih behind]

theorem lookup_isSome_iff (distinct : (fields.map Prod.fst).Nodup) :
    (fields.lookup name).isSome ↔ ∃ value, (name, value) ∈ fields := by
  simp only [Option.isSome_iff_exists, lookup_eq_some_iff distinct]

/-- Objects in order that answer alike for every name are the same. -/
theorem InOrder.ext (ordered : InOrder fields) (too : InOrder other)
    (alike : ∀ name, fields.lookup name = other.lookup name) : fields = other := by
  have members : ∀ field, field ∈ fields ↔ field ∈ other := by
    intro field
    rw [← lookup_eq_some_iff ordered.nodup, alike, lookup_eq_some_iff too.nodup]
  have shuffled : fields.Perm other :=
    (List.perm_ext_iff_of_nodup (List.Nodup.of_map _ ordered.nodup)
      (List.Nodup.of_map _ too.nodup)).mpr members
  exact shuffled.eq_of_pairwise
    (fun _ _ _ _ before after => absurd (before.trans after) (lt_irrefl _)) ordered too

theorem insertField_perm (fresh : name ∉ fields.map Prod.fst) :
    (Value.insertField name value fields).Perm ((name, value) :: fields) := by
  induction fields with
  | nil => exact .refl _
  | cons field rest ih =>
    obtain ⟨key, held⟩ := field
    obtain ⟨other, behind⟩ : name ≠ key ∧ name ∉ rest.map Prod.fst := by simpa using fresh
    rw [Value.insertField, if_neg other]
    split
    · exact .refl _
    · exact ((ih behind).cons _).trans (.swap _ _ _)

theorem insertField_inOrder (ordered : InOrder fields) (fresh : name ∉ fields.map Prod.fst) :
    InOrder (Value.insertField name value fields) := by
  induction fields with
  | nil => exact List.pairwise_singleton _ _
  | cons field rest ih =>
    obtain ⟨key, held⟩ := field
    obtain ⟨other, behind⟩ : name ≠ key ∧ name ∉ rest.map Prod.fst := by simpa using fresh
    obtain ⟨first, after⟩ := List.pairwise_cons.mp ordered
    rw [Value.insertField, if_neg other]
    split
    · rename_i before
      refine List.pairwise_cons.mpr ⟨?_, ordered⟩
      intro later among
      rcases List.mem_cons.mp among with rfl | among
      · exact before
      · exact before.trans (first later among)
    · rename_i notBefore
      refine List.pairwise_cons.mpr ⟨?_, ih after behind⟩
      intro later among
      rcases List.mem_cons.mp ((insertField_perm behind).mem_iff.mp among) with rfl | among
      · exact lt_of_le_of_ne (not_lt.mp notBefore) (Ne.symm other)
      · exact first later among

/-- Putting fields in place one by one leaves the names in order, and loses no field if the names
are distinct. -/
theorem foldl_insertField (rest : List (String × Value)) {sorted : List (String × Value)}
    (ordered : InOrder sorted) (distinct : ((sorted ++ rest).map Prod.fst).Nodup) :
    InOrder (rest.foldl (fun sorted field => Value.insertField field.1 field.2 sorted) sorted) ∧
      (rest.foldl (fun sorted field => Value.insertField field.1 field.2 sorted) sorted).Perm
        (sorted ++ rest) := by
  induction rest generalizing sorted with
  | nil => simpa using ordered
  | cons field rest ih =>
    have first : (sorted ++ field :: rest).Perm (field :: (sorted ++ rest)) := List.perm_middle
    have apart := (first.map Prod.fst).nodup_iff.mp distinct
    have fresh : field.1 ∉ sorted.map Prod.fst := fun inside =>
      (List.nodup_cons.mp apart).1 (List.map_append ▸ List.mem_append_left _ inside)
    have inserted : (Value.insertField field.1 field.2 sorted).Perm (field :: sorted) :=
      insertField_perm fresh
    have placed := inserted.append_right rest
    obtain ⟨inOrder, shuffled⟩ := ih (insertField_inOrder ordered fresh)
      ((placed.map Prod.fst).nodup_iff.mpr apart)
    exact ⟨inOrder, shuffled.trans (placed.trans first.symm)⟩

/-- An object whose names are distinct is stored by putting its fields in order. -/
theorem sortedObject_fields (distinct : (fields.map Prod.fst).Nodup) :
    ∃ sorted, Value.sortedObject fields = .object sorted ∧ InOrder sorted ∧ sorted.Perm fields :=
  ⟨_, rfl, foldl_insertField fields List.Pairwise.nil distinct⟩

theorem sortedObject_of_inOrder (ordered : InOrder fields) :
    Value.sortedObject fields = .object fields := by
  obtain ⟨sorted, stored, also, shuffled⟩ := sortedObject_fields ordered.nodup
  have same : sorted = fields := shuffled.eq_of_pairwise
    (fun _ _ _ _ before after => absurd (before.trans after) (lt_irrefl _)) also ordered
  rw [stored, same]

end Fields

theorem storedItems_eq_map (items : List Value) : Value.storedItems items = items.map Value.stored := by
  induction items with
  | nil => rfl
  | cons item rest ih => rw [Value.storedItems, ih, List.map_cons]

theorem storedFields_eq_map (fields : List (String × Value)) :
    Value.storedFields fields = fields.map fun field => (field.1, field.2.stored) := by
  induction fields with
  | nil => rfl
  | cons field rest ih => rw [Value.storedFields, ih, List.map_cons]

/-- What is stored of an object answers for every name with what is stored of its value. -/
theorem stored_object {fields : List (String × Value)} (distinct : (fields.map Prod.fst).Nodup) :
    ∃ sorted, (Value.object fields).stored = .object sorted ∧ InOrder sorted ∧
      ∀ name, sorted.lookup name = (fields.lookup name).map Value.stored := by
  have names : (Value.storedFields fields).map Prod.fst = fields.map Prod.fst := by
    rw [storedFields_eq_map, List.map_map]
    rfl
  obtain ⟨sorted, same, ordered, shuffled⟩ := sortedObject_fields (names ▸ distinct)
  refine ⟨sorted, same, ordered, fun name => ?_⟩
  ext value
  rw [lookup_eq_some_iff ordered.nodup, shuffled.mem_iff, storedFields_eq_map, List.mem_map,
    Option.map_eq_some_iff]
  simp only [lookup_eq_some_iff distinct, Prod.exists, Prod.mk.injEq]
  constructor
  · rintro ⟨name, held, among, rfl, rfl⟩
    exact ⟨held, among, rfl⟩
  · rintro ⟨held, among, rfl⟩
    exact ⟨name, held, among, rfl, rfl⟩

/-- Storing a stored value again changes nothing. -/
theorem Stored.stored_eq {value : Value} (held : Stored value) : value.stored = value := by
  induction held with
  | null | bool | int | string => rfl
  | float finite => rw [Value.stored, if_pos finite]
  | @array items _ ih =>
    rw [Value.stored, storedItems_eq_map, List.map_congr_left ih, List.map_id']
  | @object fields ordered _ ih =>
    have same : ∀ field ∈ fields, (field.1, field.2.stored) = field := fun field among =>
      Prod.ext rfl (ih field among)
    rw [Value.stored, storedFields_eq_map, List.map_congr_left same, List.map_id',
      sortedObject_of_inOrder ordered]

theorem valueItems_of_read {items : List Value}
    (read : ∀ item ∈ items, Decode.value (Node.ofValue item) = .ok item) (total : Nat) :
    Decode.valueItems (Items.ofValues total items) = .ok items := by
  induction items with
  | nil => rfl
  | cons item rest ih =>
    have others := ih fun later among => read later (.tail _ among)
    simp [Items.ofValues, Decode.valueItems, read item List.mem_cons_self, others, Except.map]

theorem valueFields_of_read {fields : List (String × Value)}
    (read : ∀ field ∈ fields, Decode.value (Node.ofValue field.2) = .ok field.2) :
    Decode.valueFields (Fields.ofFields fields) = .ok fields := by
  induction fields with
  | nil => rfl
  | cons field rest ih =>
    have others := ih fun later among => read later (.tail _ among)
    simp [Fields.ofFields, Decode.valueFields, read field List.mem_cons_self, others, Except.map]

/-- A stored value is read as itself. -/
theorem Stored.read_eq {value : Value} (held : Stored value) :
    Decode.value (Node.ofValue value) = .ok value := by
  induction held with
  | null | bool | int | float | string => rfl
  | array _ ih => simp [Node.ofValue, Decode.value, valueItems_of_read ih, Except.map]
  | object ordered _ ih =>
    simp [Node.ofValue, Decode.value, valueFields_of_read ih, Except.map,
      sortedObject_of_inOrder ordered]

/-- An object of stored values is stored by putting it in order. -/
theorem ordered_object {fields : List (String × Value)} (distinct : (fields.map Prod.fst).Nodup)
    (held : ∀ field ∈ fields, Stored field.2) :
    ∃ sorted, (Value.object fields).stored = .object sorted ∧ Stored (.object sorted) ∧
      ∀ name, sorted.lookup name = fields.lookup name := by
  obtain ⟨sorted, same, ordered, found⟩ := stored_object distinct
  have alike : ∀ name, sorted.lookup name = fields.lookup name := by
    intro name
    rw [found]
    cases there : fields.lookup name with
    | none => rfl
    | some value =>
      rw [Option.map_some, (held _ ((lookup_eq_some_iff distinct).mp there)).stored_eq]
  refine ⟨sorted, same, .object ordered fun field among => ?_, alike⟩
  rw [← lookup_eq_some_iff ordered.nodup, alike, lookup_eq_some_iff distinct] at among
  exact held field among

end ChatClient.Storing
