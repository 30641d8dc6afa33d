import Mathlib.Order.Basic
import ChatClient.Proofs.Json.Records
import ChatClient.Proofs.Json.Storing

/-! Keys that a record does not know. They are passed over without a trace: the record comes out the
same, and if it does not come out, the same fault is reported. A key in between moves the places of
later fields, but not the order of any two of them, and only this order decides between faults. -/
namespace ChatClient.PassingOver
open Json Records Storing

section Places

/-- A place in the order of reading, when one more field is read at the place `extra`. -/
def moved (extra order : Nat) : Nat :=
  if order < extra then order else order + 1

theorem moved_lt_moved_iff (extra first second : Nat) :
    moved extra first < moved extra second ↔ first < second := by
  unfold moved
  split <;> split <;> omega

theorem moved_of_le {extra order : Nat} (behind : extra ≤ order) :
    moved extra order = order + 1 :=
  if_neg (Nat.not_lt.mpr behind)

def movedDraft {α : Type} (extra : Nat) : Draft α → Draft α
  | .done a => .done a
  | .failed order fault => .failed (moved extra order) fault

def movedFound (extra : Nat) (found : List (String × Found)) : List (String × Found) :=
  found.map fun entry => (entry.1, { entry.2 with order := moved extra entry.2.order })

def movedParts (extra : Nat) (parts : Parts) : Parts :=
  { parts with
    found := movedFound extra parts.found
    broken := parts.broken.map fun broken => (moved extra broken.1, broken.2)
    atEnd := moved extra parts.atEnd }

/-- What is built does not depend on the places of the parts, only on their order. -/
def Placeless {α : Type} (build : Parts → Draft α) : Prop :=
  ∀ extra parts, build (movedParts extra parts) = movedDraft extra (build parts)

end Places

section Building
variable {α β : Type} {f : Parts → Draft (α → β)} {x : Parts → Draft α}

theorem lookup_moved (extra : Nat) (found : List (String × Found)) (name : String) :
    (movedFound extra found).lookup name =
      (found.lookup name).map fun place => { place with order := moved extra place.order } := by
  induction found with
  | nil => rfl
  | cons entry rest ih =>
    obtain ⟨key, place⟩ := entry
    rw [movedFound, List.map_cons, ← movedFound, List.lookup_cons, List.lookup_cons, ih]
    cases name == key <;> rfl

theorem placeless_map (g : α → β) (placeless : Placeless x) : Placeless fun parts => g <$> x parts := by
  intro extra parts
  simp only [placeless extra parts]
  cases x parts <;> rfl

theorem placeless_seq (function : Placeless f) (argument : Placeless x) :
    Placeless fun parts => f parts <*> x parts := by
  intro extra parts
  simp only [function extra parts, argument extra parts]
  cases f parts <;> cases x parts <;> simp only [movedDraft, Seq.seq, Draft.join]
  rename_i order _ order' _
  simp only [moved_lt_moved_iff]
  split <;> rfl

theorem placeless_default (name : String) (default : α) (decoder : Decoder α) :
    Placeless fun parts => parts.withDefault name default decoder := by
  intro extra parts
  simp only [Parts.withDefault, movedParts, lookup_moved]
  cases parts.found.lookup name with
  | none => rfl
  | some place =>
    simp only [Option.map_some, Parts.decode]
    cases decoder place.node <;> rfl

theorem finish_moved (extra : Nat) (parts : Parts) (draft : Draft α) :
    (movedParts extra parts).finish (movedDraft extra draft) = parts.finish draft := by
  simp only [Parts.finish, movedParts]
  cases parts.broken <;> cases draft <;> simp only [movedDraft, Option.map_none, Option.map_some,
    moved_lt_moved_iff]

end Building

section Objects
variable {slots : List Slot}

theorem parts_behind (fields : List (String × Value)) {extra order : Nat} (behind : extra ≤ order)
    (found : List (String × Found)) :
    (Fields.ofFields fields).parts slots (order + 1) (movedFound extra found) =
      movedParts extra ((Fields.ofFields fields).parts slots order found) := by
  induction fields generalizing order found with
  | nil => simp [Fields.ofFields, Fields.parts, movedParts, moved_of_le behind]
  | cons field rest ih =>
    obtain ⟨key, value⟩ := field
    cases stands : fieldOf? slots key with
    | none =>
      simp only [Fields.ofFields, Fields.parts, stands, stop_ofValue]
      exact ih (Nat.le_succ_of_le behind) found
    | some name =>
      simp only [Fields.ofFields, Fields.parts, stands, lookup_moved, Option.isSome_map]
      split
      · simp [movedParts, moved_of_le behind]
      · have next := ih (Nat.le_succ_of_le behind)
          (found ++ [(name, ⟨order, Node.ofValue value, none⟩)])
        rw [← next, movedFound, movedFound, List.map_append, List.map_singleton,
          moved_of_le behind]

/-- A key that is not known moves the places behind it, and does nothing else. -/
theorem parts_between (before behind : List (String × Value)) {key : String} (value : Value)
    (unknown : fieldOf? slots key = none) (order : Nat) (found : List (String × Found)) :
    (Fields.ofFields (before ++ (key, value) :: behind)).parts slots order
        (movedFound (order + before.length) found) =
      movedParts (order + before.length)
        ((Fields.ofFields (before ++ behind)).parts slots order found) := by
  induction before generalizing order found with
  | nil =>
    simp only [List.nil_append, List.length_nil, Nat.add_zero, Fields.ofFields, Fields.parts,
      unknown, stop_ofValue]
    exact parts_behind behind (Nat.le_refl order) found
  | cons field rest ih =>
    obtain ⟨own, held⟩ := field
    have here : order < order + (rest.length + 1) := by omega
    have later : order + (rest.length + 1) = order + 1 + rest.length := by omega
    have stays : moved (order + (rest.length + 1)) order = order := if_pos here
    simp only [List.cons_append, List.length_cons, Fields.ofFields, Fields.parts]
    cases stands : fieldOf? slots own with
    | none =>
      simp only [stop_ofValue, later]
      exact ih (order + 1) found
    | some name =>
      simp only [lookup_moved, Option.isSome_map]
      split
      · simp [movedParts, stays]
      · have next := ih (order + 1) (found ++ [(name, ⟨order, Node.ofValue held, none⟩)])
        rw [← later] at next
        rw [← next, movedFound, movedFound, List.map_append, List.map_singleton, stays]

variable {α : Type} {name : String} {build : Parts → Draft α} (placeless : Placeless build)
include placeless

theorem record_between (before behind : List (String × Value)) {key : String} (value : Value)
    (unknown : fieldOf? slots key = none) :
    record name slots build (Node.ofValue (.object (before ++ (key, value) :: behind))) =
      record name slots build (Node.ofValue (.object (before ++ behind))) := by
  have parts := parts_between before behind value unknown 0 []
  simp only [movedFound, List.map_nil] at parts
  simp only [record, Node.ofValue, Bool.false_eq_true, ↓reduceIte, parts, placeless _ _,
    finish_moved]

/-- A record is read from an object as from the fields of it that the record knows. -/
theorem record_known (fields : List (String × Value)) :
    record name slots build (Node.ofValue (.object fields)) = record name slots build
      (Node.ofValue (.object (fields.filter fun field => (fieldOf? slots field.1).isSome))) := by
  have behind : ∀ before, record name slots build (Node.ofValue (.object (before ++ fields))) =
      record name slots build (Node.ofValue (.object
        (before ++ fields.filter fun field => (fieldOf? slots field.1).isSome))) := by
    induction fields with
    | nil => exact fun _ => rfl
    | cons field rest ih =>
      obtain ⟨key, value⟩ := field
      intro before
      cases stands : fieldOf? slots key with
      | none =>
        rw [record_between placeless before rest value stands, ih before]
        simp [stands]
      | some other =>
        have next := ih (before ++ [(key, value)])
        simpa [stands] using next
  exact behind []

/-- A record is read alike from objects that hold the same under the keys it knows. -/
theorem record_alike {fields other : List (String × Value)} (ordered : InOrder fields)
    (too : InOrder other)
    (alike : ∀ key, (fieldOf? slots key).isSome → fields.lookup key = other.lookup key) :
    record name slots build (Node.ofValue (.object fields)) =
      record name slots build (Node.ofValue (.object other)) := by
  have known : ∀ fields : List (String × Value), InOrder fields → ∀ key,
      (fields.filter fun field => (fieldOf? slots field.1).isSome).lookup key =
        if (fieldOf? slots key).isSome then fields.lookup key else none := by
    intro fields ordered key
    ext value
    rw [lookup_eq_some_iff (ordered.filter _).nodup, List.mem_filter]
    split
    · rename_i stands
      simp [stands, lookup_eq_some_iff ordered.nodup]
    · rename_i stands
      simp [stands]
  rw [record_known placeless fields, record_known placeless other]
  congr 3
  refine (ordered.filter _).ext (too.filter _) fun key => ?_
  rw [known fields ordered, known other too]
  split
  · rename_i stands
    exact alike key stands
  · rfl

end Objects

end ChatClient.PassingOver
