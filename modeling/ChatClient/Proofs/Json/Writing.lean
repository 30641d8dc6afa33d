import ChatClient.Proofs.Json.Records

/-! Reading back what was written. A record is written as a table of columns, each with a name and
perhaps a value; an empty column is left out. A decoder for the same names finds every value in its
column again, and takes a column that was left out for one without a value. -/
namespace ChatClient.Writing
open Json Records

/-- Decoding what encoding makes of a value gives the value back. -/
def Restores {α : Type} (decode : Decoder α) (encode : α → Value) : Prop :=
  ∀ a, decode (Node.ofValue (encode a)) = .ok a

/-- The fields that a table is written as. -/
def written (columns : List (String × Option Value)) : List (String × Value) :=
  columns.flatMap fun column => field? column.1 column.2

/-- The columns of a table stand for the fields of a record, in their order and under their own
names. -/
structure Table (slots : List Slot) (columns : List (String × Option Value)) : Prop where
  slots : slots = columns.map fun column => slot column.1
  apart : (columns.map Prod.fst).Nodup

section Values
variable {α : Type} {decode : Decoder α} {encode : α → Value}

theorem decode_value_of_restores (restores : Restores decode encode) (a : α) :
    decodeValue decode (encode a) = .ok a := by
  rw [decodeValue, restores a]

theorem string_restores : Restores Decode.string Value.string :=
  fun _ => rfl

/-- A whole number within bounds is read as it is. -/
theorem integer_within {low high n : Int} (name : String) (inside : low ≤ n ∧ n < high) :
    Decode.integerWithin low high name (Node.ofValue (.int n)) = .ok n :=
  if_pos inside

theorem uint32_restores : Restores Decode.uint32 fun n => .nat n.toNat := by
  intro n
  have inside : (0 : Int) ≤ n.toNat ∧ (n.toNat : Int) < UInt32.size :=
    ⟨Int.natCast_nonneg _, Int.ofNat_lt.mpr n.toNat_lt_size⟩
  have read := congrArg (Except.map fun n => UInt32.ofNat n.toNat) (integer_within "u32" inside)
  exact read.trans (congrArg Except.ok UInt32.ofNat_toNat)

theorem uint64_restores : Restores Decode.uint64 fun n => .nat n.toNat := by
  intro n
  have inside : (0 : Int) ≤ n.toNat ∧ (n.toNat : Int) < UInt64.size :=
    ⟨Int.natCast_nonneg _, Int.ofNat_lt.mpr n.toNat_lt_size⟩
  have read := congrArg (Except.map fun n => UInt64.ofNat n.toNat) (integer_within "u64" inside)
  exact read.trans (congrArg Except.ok UInt64.ofNat_toNat)

theorem list_restores (restores : Restores decode encode) :
    Restores (Decode.list decode) fun list => .array (list.map encode) := by
  have items : ∀ (total : Nat) (list : List α),
      Decode.items decode (Items.ofValues total (list.map encode)) = .ok list := by
    intro total list
    induction list with
    | nil => rfl
    | cons a rest ih => simp [Items.ofValues, Decode.items, restores a, ih, Except.map]
  exact fun list => items _ list

/-- An optional value that is shown as null where it is absent. -/
theorem optional_restores (restores : Restores decode encode) (something : ∀ a, encode a ≠ .null) :
    Restores (Decode.optional decode) (Value.ofOption encode) := by
  intro value
  cases value with
  | none => rfl
  | some a =>
    rw [Value.ofOption, optional_of_not_null decode (something a), restores a]
    rfl

/-- An optional value that is left out where it is absent. -/
theorem omitted_restores (restores : Restores decode encode) (something : ∀ a, encode a ≠ .null)
    (value : Option α) :
    readOr (Decode.optional decode) none (value.map encode) = .ok value := by
  cases value with
  | none => rfl
  | some a => exact optional_restores restores something (some a)

end Values

section Drafts
variable {α β : Type} {f : Draft (α → β)} {x : Draft α} {g : α → β} {a : α}

theorem map_done (g : α → β) (done : x = .done a) : g <$> x = .done (g a) :=
  (map_done_iff g x _).mpr ⟨a, done, rfl⟩

theorem seq_done (function : f = .done g) (argument : x = .done a) : f <*> x = .done (g a) :=
  (seq_done_iff f x _).mpr ⟨g, function, a, argument, rfl⟩

end Drafts

section Columns
variable {columns : List (String × Option Value)} {slots : List Slot} {name : String}

/-- What is written has the names of the columns, in their order. -/
theorem written_keys (columns : List (String × Option Value)) :
    ((written columns).map Prod.fst).Sublist (columns.map Prod.fst) := by
  induction columns with
  | nil => exact .refl _
  | cons column rest ih =>
    obtain ⟨key, value⟩ := column
    cases value with
    | none => exact ih.cons key
    | some value => exact ih.cons_cons key

theorem mem_written {held : Value} :
    (name, held) ∈ written columns ↔ (name, some held) ∈ columns := by
  refine List.mem_flatMap.trans ⟨?_, ?_⟩
  · rintro ⟨⟨key, _ | value⟩, among, shown⟩
    · cases shown
    · cases List.mem_singleton.mp shown
      exact among
  · exact fun among => ⟨_, among, List.mem_singleton_self _⟩

/-- A column is found again with its value, and without one if it was left out. -/
theorem lookup_written (apart : (columns.map Prod.fst).Nodup) (name : String) :
    (written columns).lookup name = (columns.lookup name).join := by
  induction columns with
  | nil => rfl
  | cons column rest ih =>
    obtain ⟨key, value⟩ := column
    obtain ⟨fresh, behind⟩ := List.nodup_cons.mp apart
    have found := ih behind
    cases value with
    | some value =>
      change ((key, value) :: written rest).lookup name = _
      rw [List.lookup_cons, List.lookup_cons, found]
      cases name == key <;> rfl
    | none =>
      change (written rest).lookup name = _
      rw [List.lookup_cons, found]
      by_cases same : name = key
      · subst same
        have missing : rest.lookup name = none := by
          rw [List.lookup_eq_none_iff]
          intro column among
          have other : name ≠ column.1 := fun own =>
            fresh (List.mem_map.mpr ⟨column, among, own.symm⟩)
          simp [other]
        simp [missing]
      · rw [beq_false_of_ne same]

end Columns

namespace Table

variable {columns : List (String × Option Value)} {slots : List Slot} {name : String}
  {value : Option Value} {α : Type} {decoder : Decoder α} {a : α}

/-- Columns have no other names. -/
theorem alone (table : Table slots columns) (name : String) :
    ∀ s ∈ slots, s.name = name → s.aliases = [] := by
  rw [table.slots]
  intro field among same
  obtain ⟨column, -, rfl⟩ := List.mem_map.mp among
  rfl

/-- A key stands for a column of its own name only. -/
theorem own_name (table : Table slots columns) {key : String}
    (stands : fieldOf? slots key = some name) : key = name :=
  own_of_stands (table.alone name) stands

theorem own_key (table : Table slots columns) (held : columns.lookup name = some value) :
    ∀ key, fieldOf? slots key = some name ↔ key = name := by
  obtain ⟨before, after, split, -⟩ := List.lookup_eq_some_iff.mp held
  have met : (slots.find? fun s => name = s.name || s.aliases.contains name).isSome := by
    rw [List.find?_isSome]
    exact ⟨slot name, by simp [table.slots, split], by simp [slot]⟩
  obtain ⟨found, first⟩ := Option.isSome_iff_exists.mp met
  have stands : fieldOf? slots name = some found.name := by rw [fieldOf?, first, Option.map_some]
  exact own_key_iff (table.alone name) (stands.trans (congrArg some (table.own_name stands).symm))

theorem named_keys (table : Table slots columns) (fields : List (String × Value)) :
    (named slots fields).Sublist (fields.map Prod.fst) := by
  induction fields with
  | nil => exact .refl _
  | cons first rest ih =>
    obtain ⟨key, held⟩ := first
    cases stands : fieldOf? slots key with
    | none =>
      have passed : named slots ((key, held) :: rest) = named slots rest := by
        simp [named, stands]
      exact passed ▸ ih.cons key
    | some name =>
      have met : named slots ((key, held) :: rest) = name :: named slots rest := by
        simp [named, stands]
      rw [met, List.map_cons, ← table.own_name stands]
      exact ih.cons_cons key

/-- No column is written twice. -/
theorem named_written (table : Table slots columns) : (named slots (written columns)).Nodup :=
  table.apart.sublist ((table.named_keys _).trans (written_keys columns))

/-- A record finds each of its fields in the column of that name. -/
theorem given_written (table : Table slots columns) (held : columns.lookup name = some value) :
    given slots name (written columns) = value := by
  rw [given_own (table.own_key held), lookup_written table.apart, held, Option.join_some]

/-- A record is built from the columns that it was written in. -/
theorem record_ok (table : Table slots columns) {build : Parts → Draft α} (name : String)
    (done : build ((Fields.ofFields (written columns)).parts slots 0 []) = .done a) :
    record name slots build (Node.ofValue (.object (written columns))) = .ok a :=
  (record_object_ok_iff name build _ a).mpr ⟨table.named_written, done⟩

theorem required_ok (table : Table slots columns) (name : String) {held : Value}
    (here : columns.lookup name = some (some held))
    (decoded : decoder (Node.ofValue held) = .ok a) :
    ((Fields.ofFields (written columns)).parts slots 0 []).required name decoder = .done a :=
  (required_object_done_iff table.named_written name decoder a).mpr
    ⟨held, table.given_written here, decoded⟩

theorem nullable_ok (table : Table slots columns) (name : String) {found : Option α}
    (here : columns.lookup name = some value)
    (decoded : readOr (Decode.optional decoder) none value = .ok found) :
    ((Fields.ofFields (written columns)).parts slots 0 []).nullable name decoder = .done found :=
  (nullable_object_done_iff table.named_written name decoder found).mpr
    (table.given_written here ▸ decoded)

theorem default_ok (table : Table slots columns) (name : String) {default : α}
    (here : columns.lookup name = some value) (decoded : readOr decoder default value = .ok a) :
    ((Fields.ofFields (written columns)).parts slots 0 []).withDefault name default decoder =
      .done a :=
  (withDefault_object_done_iff table.named_written name default decoder a).mpr
    (table.given_written here ▸ decoded)

/-- A default does not matter where there is a value. -/
theorem present_ok (table : Table slots columns) (name : String) (default : α) {held : Value}
    (here : columns.lookup name = some (some held))
    (decoded : decoder (Node.ofValue held) = .ok a) :
    ((Fields.ofFields (written columns)).parts slots 0 []).withDefault name default decoder =
      .done a :=
  table.default_ok name here decoded

end Table

/-- A record is restored if each of its columns is. -/
theorem record_restores {α : Type} {name : String} {slots : List Slot} {build : Parts → Draft α}
    {encode : α → Value} {columns : α → List (String × Option Value)}
    (table : ∀ a, Table slots (columns a)) (shown : ∀ a, encode a = .object (written (columns a)))
    (done : ∀ a, build ((Fields.ofFields (written (columns a))).parts slots 0 []) = .done a) :
    Restores (record name slots build) encode := by
  intro a
  rw [shown a]
  exact (table a).record_ok name (done a)

end ChatClient.Writing
