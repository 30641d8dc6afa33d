import Mathlib.Data.List.Nodup
import ChatClient.Json.Record

/-! What a record reads from an object in memory. Every key stands for at most one field of the
record. Two keys that stand for one field are a fault; otherwise the record is built from the values
of its fields, wherever among the others they are. -/

namespace ChatClient.Records
open Json

section Drafts
variable {α β : Type}

theorem map_done_iff (g : α → β) (x : Draft α) (b : β) :
    g <$> x = .done b ↔ ∃ a, x = .done a ∧ g a = b := by
  cases x <;> simp [Functor.map, Draft.join]

theorem seq_done_iff (f : Draft (α → β)) (x : Draft α) (b : β) :
    f <*> x = .done b ↔ ∃ g, f = .done g ∧ ∃ a, x = .done a ∧ g a = b := by
  cases f <;> cases x <;> simp [Seq.seq, Draft.join]
  split <;> simp

theorem finish_ok_iff (parts : Parts) (draft : Draft α) (a : α) :
    parts.finish draft = .ok a ↔ parts.broken = none ∧ draft = .done a := by
  unfold Parts.finish
  cases parts.broken <;> cases draft <;> simp
  split <;> simp

end Drafts

/-- The fields of a record that the keys of an object stand for, in the order of the keys. -/
def named (slots : List Slot) (fields : List (String × Value)) : List String :=
  fields.filterMap fun field => fieldOf? slots field.1

/-- The value that an object holds for a field of a record. -/
def given (slots : List Slot) (name : String) (fields : List (String × Value)) : Option Value :=
  (fields.find? fun field => fieldOf? slots field.1 = some name).map Prod.snd

/-- What a field comes to: its value decoded, or a value of its own when it is left out. -/
def readOr {α : Type} (decoder : Decoder α) (default : α) : Option Value → Except Fault α
  | some value => decoder (Node.ofValue value)
  | none => .ok default

theorem stop_ofValue (value : Value) : (Node.ofValue value).stop = .ok none := by
  cases value <;> rfl

theorem optional_of_not_null {α : Type} (decoder : Decoder α) {value : Value}
    (something : value ≠ .null) :
    Decode.optional decoder (Node.ofValue value) =
      (decoder (Node.ofValue value)).map some := by
  cases value with
  | null => exact absurd rfl something
  | bool | number | string | array | object => rfl

theorem optional_ok_iff {α : Type} (decoder : Decoder α) (value : Value) (found : Option α) :
    Decode.optional decoder (Node.ofValue value) = .ok found ↔
      (value = .null ∧ found = none) ∨
        value ≠ .null ∧ ∃ a, decoder (Node.ofValue value) = .ok a ∧ found = some a := by
  by_cases nothing : value = .null
  · subst nothing
    simp [Node.ofValue, Decode.optional, eq_comm]
  · rw [optional_of_not_null decoder nothing]
    cases decoder (Node.ofValue value) <;> simp [Except.map, nothing, eq_comm]

theorem decodeValue_ok_iff {α : Type} (decoder : Decoder α) (value : Value) (a : α) :
    decodeValue decoder value = .ok a ↔ decoder (Node.ofValue value) = .ok a := by
  unfold decodeValue
  cases decoder (Node.ofValue value) <;> simp

theorem items_ok_iff {α : Type} (decoder : Decoder α) (total : Nat) (items : List Value)
    (list : List α) :
    Decode.items decoder (Items.ofValues total items) = .ok list ↔
      List.Forall₂ (fun item a => decoder (Node.ofValue item) = .ok a) items list := by
  induction items generalizing list with
  | nil => simp [Items.ofValues, Decode.items, eq_comm]
  | cons item rest ih =>
    rw [Items.ofValues, Decode.items, List.forall₂_cons_left_iff]
    cases first : decoder (Node.ofValue item) with
    | error fault => simp
    | ok a =>
      simp only [← ih, Except.ok.injEq]
      cases Decode.items decoder (Items.ofValues total rest) <;> simp [Except.map, eq_comm]

/-- A list is read from an array alone, item by item. -/
theorem list_ok_iff {α : Type} (decoder : Decoder α) (value : Value) (list : List α) :
    Decode.list decoder (Node.ofValue value) = .ok list ↔ ∃ items, value = .array items ∧
      List.Forall₂ (fun item a => decoder (Node.ofValue item) = .ok a) items list := by
  cases value with
  | array items =>
    refine (items_ok_iff decoder items.length items list).trans ?_
    simp
  | null | bool | number | string | object =>
    refine iff_of_false (by rintro ⟨⟩) ?_
    rintro ⟨_, is, -⟩
    cases is

section Parts
variable {parts : Parts} {name : String} {held : Option Value} {α : Type}

/-- What the parts of a record hold for one of its fields: this value, or none. -/
def Holds (parts : Parts) (name : String) (held : Option Value) : Prop :=
  (parts.found.lookup name).map (·.node) = held.map Node.ofValue

theorem decode_done_iff (decoder : Decoder α) (place : Found) (a : α) :
    Parts.decode decoder place = .done a ↔ decoder place.node = .ok a := by
  unfold Parts.decode
  cases decoder place.node <;> simp

theorem required_done_iff (holds : Holds parts name held) (decoder : Decoder α) (a : α) :
    parts.required name decoder = .done a ↔
      ∃ value, held = some value ∧ decoder (Node.ofValue value) = .ok a := by
  unfold Parts.required
  cases held with
  | none => simp [Option.map_eq_none_iff.mp holds]
  | some value =>
    obtain ⟨place, there, same⟩ := Option.map_eq_some_iff.mp holds
    simp [there, decode_done_iff, same]

theorem withDefault_done_iff (holds : Holds parts name held) (default : α) (decoder : Decoder α)
    (a : α) :
    parts.withDefault name default decoder = .done a ↔ readOr decoder default held = .ok a := by
  unfold Parts.withDefault
  cases held with
  | none => simp [Option.map_eq_none_iff.mp holds, readOr]
  | some value =>
    obtain ⟨place, there, same⟩ := Option.map_eq_some_iff.mp holds
    simp [there, decode_done_iff, same, readOr]

/-- Where a field that may hold null may be left out, it has the default null. -/
theorem nullable_eq_withDefault (mayMiss : parts.nullMayMiss = true) (name : String)
    (decoder : Decoder α) :
    parts.nullable name decoder = parts.withDefault name none (Decode.optional decoder) := by
  unfold Parts.nullable Parts.withDefault
  rw [if_pos mayMiss]

end Parts

section Objects
variable {slots : List Slot} {name key : String} {held : Value} {rest : List (String × Value)}

theorem given_of_stands (stands : fieldOf? slots key = some name) :
    given slots name ((key, held) :: rest) = some held := by
  simp [given, stands]

theorem given_of_not_stands (other : fieldOf? slots key ≠ some name) :
    given slots name ((key, held) :: rest) = given slots name rest := by
  simp [given, other]

theorem mem_of_given {fields : List (String × Value)} (holds : given slots name fields = some held) :
    ∃ key, (key, held) ∈ fields := by
  obtain ⟨⟨key, value⟩, found, rfl⟩ := Option.map_eq_some_iff.mp holds
  exact ⟨key, List.mem_of_find?_eq_some found⟩

/-- What an object holds for a field, it holds under a key that stands for it. -/
theorem given_eq_some_iff {fields : List (String × Value)} (once : (named slots fields).Nodup) :
    given slots name fields = some held ↔
      ∃ key, fieldOf? slots key = some name ∧ (key, held) ∈ fields := by
  induction fields with
  | nil => simp [given]
  | cons first rest ih =>
    obtain ⟨key, value⟩ := first
    cases stands : fieldOf? slots key with
    | none =>
      have passed : named slots ((key, value) :: rest) = named slots rest := by
        simp [named, stands]
      rw [given_of_not_stands (by simp [stands]), ih (passed ▸ once)]
      refine exists_congr fun other => and_congr_right fun also => ?_
      have apart : other ≠ key := by
        rintro rfl
        rw [stands] at also
        cases also
      simp [apart]
    | some met =>
      have first : named slots ((key, value) :: rest) = met :: named slots rest := by
        simp [named, stands]
      rw [first, List.nodup_cons] at once
      by_cases same : met = name
      · subst same
        have alone : ∀ other, fieldOf? slots other = some met → (other, held) ∉ rest :=
          fun other also among => once.1 (List.mem_filterMap.mpr ⟨_, among, also⟩)
        rw [given_of_stands stands, Option.some.injEq]
        constructor
        · rintro rfl
          exact ⟨key, stands, List.mem_cons_self⟩
        · rintro ⟨other, also, among⟩
          rcases List.mem_cons.mp among with here | there
          · exact (Prod.ext_iff.mp here).2.symm
          · exact absurd there (alone other also)
      · rw [given_of_not_stands (by simpa [stands] using same), ih once.2]
        refine exists_congr fun other => and_congr_right fun also => ?_
        have apart : other ≠ key := by
          rintro rfl
          exact same (Option.some.inj (stands.symm.trans also))
        simp [apart]

/-- A pass over the fields is whole if no field of the record is met again. -/
theorem parts_unbroken_iff (fields : List (String × Value)) (order : Nat)
    (found : List (String × Found)) :
    ((Fields.ofFields fields).parts slots order found).broken = none ↔
      (named slots fields).Nodup ∧ ∀ name ∈ named slots fields, found.lookup name = none := by
  induction fields generalizing order found with
  | nil => simp [Fields.ofFields, Fields.parts, named]
  | cons first rest ih =>
    obtain ⟨key, value⟩ := first
    cases stands : fieldOf? slots key with
    | none =>
      have passed : named slots ((key, value) :: rest) = named slots rest := by
        simp [named, stands]
      simp only [Fields.ofFields, Fields.parts, stands, stop_ofValue, passed]
      exact ih (order + 1) found
    | some name =>
      have met : named slots ((key, value) :: rest) = name :: named slots rest := by
        simp [named, stands]
      simp only [Fields.ofFields, Fields.parts, stands, met]
      cases before : found.lookup name with
      | some earlier => simp [before, -List.lookup_eq_none_iff]
      | none =>
        simp only [Option.isSome_none, Bool.false_eq_true, ↓reduceIte, ih]
        simp only [List.nodup_cons, List.mem_cons, forall_eq_or_imp, before, true_and,
          List.lookup_append, Option.or_eq_none_iff, List.lookup_cons, List.lookup_nil]
        grind

/-- After a whole pass every field of the record has its value in the object, unless it was found
before. -/
theorem parts_found (fields : List (String × Value)) (order : Nat) (found : List (String × Found))
    (whole : ((Fields.ofFields fields).parts slots order found).broken = none) (name : String) :
    (((Fields.ofFields fields).parts slots order found).found.lookup name).map (·.node) =
      ((found.lookup name).map (·.node)).or ((given slots name fields).map Node.ofValue) := by
  induction fields generalizing order found with
  | nil => simp [Fields.ofFields, Fields.parts, given]
  | cons first rest ih =>
    obtain ⟨key, value⟩ := first
    cases stands : fieldOf? slots key with
    | none =>
      have passed : fieldOf? slots key ≠ some name := by simp [stands]
      rw [given_of_not_stands passed]
      simp only [Fields.ofFields, Fields.parts, stands, stop_ofValue] at whole ⊢
      exact ih (order + 1) found whole
    | some other =>
      simp only [Fields.ofFields, Fields.parts, stands] at whole ⊢
      cases before : found.lookup other with
      | some earlier => simp [before] at whole
      | none =>
        simp only [before, Option.isSome_none, Bool.false_eq_true, ↓reduceIte] at whole ⊢
        rw [ih (order + 1) _ whole, List.lookup_append]
        by_cases same : other = name
        · subst same
          simp [before, given_of_stands stands]
        · have elsewhere : fieldOf? slots key ≠ some name := by simp [stands, same]
          simp [List.lookup_cons, beq_false_of_ne (Ne.symm same), given_of_not_stands elsewhere]

variable {α : Type}

theorem record_object_ok_iff (name : String) (build : Parts → Draft α)
    (fields : List (String × Value)) (a : α) :
    record name slots build (Node.ofValue (.object fields)) = .ok a ↔
      (named slots fields).Nodup ∧ build ((Fields.ofFields fields).parts slots 0 []) = .done a := by
  simp [record, Node.ofValue, finish_ok_iff, parts_unbroken_iff]

/-- A field that may hold null may be left out of an object. -/
theorem parts_null_may_miss (fields : List (String × Value)) (order : Nat)
    (found : List (String × Found)) :
    ((Fields.ofFields fields).parts slots order found).nullMayMiss = true := by
  induction fields generalizing order found with
  | nil => rfl
  | cons first rest ih =>
    simp only [Fields.ofFields, Fields.parts, stop_ofValue]
    split
    · exact ih ..
    · split
      · rfl
      · exact ih ..

section Fields
variable {fields : List (String × Value)} (once : (named slots fields).Nodup)
include once

/-- A record has found just the fields that an object holds. -/
theorem holds_object (name : String) :
    Holds ((Fields.ofFields fields).parts slots 0 []) name (given slots name fields) :=
  parts_found fields 0 [] ((parts_unbroken_iff fields 0 []).mpr ⟨once, fun _ _ => rfl⟩) name

theorem required_object_done_iff (name : String) (decoder : Decoder α) (a : α) :
    ((Fields.ofFields fields).parts slots 0 []).required name decoder = .done a ↔
      ∃ value, given slots name fields = some value ∧ decoder (Node.ofValue value) = .ok a :=
  required_done_iff (holds_object once name) decoder a

theorem nullable_object_done_iff (name : String) (decoder : Decoder α) (found : Option α) :
    ((Fields.ofFields fields).parts slots 0 []).nullable name decoder = .done found ↔
      readOr (Decode.optional decoder) none (given slots name fields) = .ok found := by
  rw [nullable_eq_withDefault (parts_null_may_miss fields 0 [])]
  exact withDefault_done_iff (holds_object once name) none _ found

theorem withDefault_object_done_iff (name : String) (default : α) (decoder : Decoder α) (a : α) :
    ((Fields.ofFields fields).parts slots 0 []).withDefault name default decoder = .done a ↔
      readOr decoder default (given slots name fields) = .ok a :=
  withDefault_done_iff (holds_object once name) default decoder a

end Fields

end Objects

/-- An object with another value under a key. -/
def withValue (key : String) (value : Value) (fields : List (String × Value)) :
    List (String × Value) :=
  fields.map fun field => (field.1, if field.1 = key then value else field.2)

section Keys
variable {slots : List Slot} {name key : String} {held : Value} {fields : List (String × Value)}

/-- A field without other names is read under its own name only. -/
theorem own_of_stands (alone : ∀ s ∈ slots, s.name = name → s.aliases = [])
    (stands : fieldOf? slots key = some name) : key = name := by
  obtain ⟨field, met, same⟩ := Option.map_eq_some_iff.mp stands
  have read := List.find?_some met
  simpa [same, alone field (List.mem_of_find?_eq_some met) same] using read

theorem own_key_iff (alone : ∀ s ∈ slots, s.name = name → s.aliases = [])
    (known : fieldOf? slots name = some name) (key : String) :
    fieldOf? slots key = some name ↔ key = name := by
  refine ⟨own_of_stands alone, ?_⟩
  rintro rfl
  exact known

theorem given_own (own : ∀ key, fieldOf? slots key = some name ↔ key = name)
    (fields : List (String × Value)) : given slots name fields = fields.lookup name := by
  induction fields with
  | nil => rfl
  | cons first rest ih =>
    obtain ⟨key, held⟩ := first
    by_cases same : key = name
    · rw [given_of_stands ((own key).mpr same), same, List.lookup_cons_self]
    · rw [given_of_not_stands ((own key).not.mpr same), ih, List.lookup_cons,
        beq_false_of_ne (Ne.symm same)]

theorem named_withValue (key : String) (value : Value) (fields : List (String × Value)) :
    named slots (withValue key value fields) = named slots fields := by
  simp only [named, withValue, List.filterMap_map, Function.comp_def]

theorem given_withValue (other : fieldOf? slots key ≠ some name) (value : Value)
    (fields : List (String × Value)) :
    given slots name (withValue key value fields) = given slots name fields := by
  induction fields with
  | nil => rfl
  | cons first rest ih =>
    obtain ⟨label, held⟩ := first
    rw [withValue, List.map_cons, ← withValue]
    by_cases stands : fieldOf? slots label = some name
    · have different : label ≠ key := by
        rintro rfl
        exact other stands
      rw [given_of_stands stands, given_of_stands stands, if_neg different]
    · rw [given_of_not_stands stands, given_of_not_stands stands, ih]

theorem lookup_withValue (there : fields.lookup key = some held) (value : Value) :
    (withValue key value fields).lookup key = some value := by
  induction fields with
  | nil => cases there
  | cons first rest ih =>
    obtain ⟨label, found⟩ := first
    rw [withValue, List.map_cons, ← withValue, List.lookup_cons]
    by_cases same : key = label
    · simp [same]
    · rw [List.lookup_cons, beq_false_of_ne same] at there
      rw [beq_false_of_ne same, ih there]

end Keys

end ChatClient.Records
