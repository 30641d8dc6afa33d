import Mathlib.Data.List.Pairwise
import ChatClient.Proofs.Json.PassingOver
import ChatClient.Proofs.Settings.Conversion

/-! Bags of settings. An object is read by seven keys, two of them for one setting; the settings come
out if every value under these keys is of the kind that is needed, and nothing that is held under
other keys makes any difference, not even to the fault that is reported. An array is read as well, as
the settings in their places. -/
namespace ChatClient.SettingKeys
open Json Records Bag Storing PassingOver Conversion Seed

/-- The keys that a bag of settings is read by. -/
def keys : List String :=
  ["temperature", "top_p", "max_tokens", "random_seed", "safe_prompt", "safe_mode", "tools"]

/-- What an object holds for a setting. The safety prompt has two keys. -/
def underKey (fields : List (String × Value)) (name : String) : Option Value :=
  if name = "safe_prompt" then (fields.lookup "safe_prompt").or (fields.lookup "safe_mode")
  else fields.lookup name

/-- The safety prompt is given under both of its keys. -/
def GivenTwice (fields : List (String × Value)) : Prop :=
  (fields.lookup "safe_prompt").isSome ∧ (fields.lookup "safe_mode").isSome

section Slots

theorem known_iff (key : String) : (fieldOf? slots key).isSome ↔ key ∈ keys := by
  rw [fieldOf?, Option.isSome_map, List.find?_isSome]
  simp [slots, slot, keys, or_assoc]

theorem alone_of_ne {name : String} (other : name ≠ "safe_prompt") :
    ∀ s ∈ slots, s.name = name → s.aliases = [] := by
  simpa [slots, slot] using other.symm

theorem safe_key_iff (key : String) :
    fieldOf? slots key = some "safe_prompt" ↔ key = "safe_prompt" ∨ key = "safe_mode" := by
  constructor
  · intro stands
    obtain ⟨field, met, same⟩ := Option.map_eq_some_iff.mp stands
    have read := List.find?_some met
    have among := List.mem_of_find?_eq_some met
    simp only [slots, List.mem_cons, List.not_mem_nil, or_false] at among
    rcases among with rfl | rfl | rfl | rfl | rfl | rfl <;> simp [slot] at same read
    exact read
  · rintro (rfl | rfl) <;> decide

end Slots

section Objects
variable {fields other : List (String × Value)} {settings : Settings}
/-- An object names no setting twice unless it gives the safety prompt under both of its keys. -/
theorem once_iff (ordered : InOrder fields) :
    (named slots fields).Nodup ↔ ¬GivenTwice fields := by
  rw [GivenTwice, lookup_isSome_iff ordered.nodup, lookup_isSome_iff ordered.nodup, named,
    List.nodup_iff_pairwise_ne, List.pairwise_filterMap]
  constructor
  · rintro apart ⟨⟨value, prompt⟩, held, mode⟩
    have symmetric : Std.Symm fun first second : String × Value =>
        ∀ name, fieldOf? slots first.1 = some name →
          ∀ again, fieldOf? slots second.1 = some again → name ≠ again :=
      ⟨fun _ _ apart name stands again also => (apart again also name stands).symm⟩
    exact apart.forall prompt mode (by simp) "safe_prompt"
      ((safe_key_iff _).mpr (.inl rfl)) "safe_prompt" ((safe_key_iff _).mpr (.inr rfl)) rfl
  · intro notTwice
    refine ordered.imp_of_mem ?_
    rintro ⟨key, value⟩ ⟨later, held⟩ here there before name stands _ also rfl
    by_cases safe : name = "safe_prompt"
    · subst safe
      rcases (safe_key_iff key).mp stands with rfl | rfl <;>
        rcases (safe_key_iff later).mp also with rfl | rfl
      · exact lt_irrefl _ before
      · exact notTwice ⟨⟨_, here⟩, _, there⟩
      · exact notTwice ⟨⟨_, there⟩, _, here⟩
      · exact lt_irrefl _ before
    · have same := own_of_stands (alone_of_ne safe) stands
      rw [← own_of_stands (alone_of_ne safe) also] at same
      exact before.ne same

/-- For each setting the object holds what is under its key. -/
theorem given_eq_underKey (ordered : InOrder fields) (notTwice : ¬GivenTwice fields)
    {name : String} (known : fieldOf? slots name = some name) :
    given slots name fields = underKey fields name := by
  by_cases safe : name = "safe_prompt"
  · subst safe
    ext value
    rw [given_eq_some_iff ((once_iff ordered).mpr notTwice), underKey, if_pos rfl]
    simp only [safe_key_iff, or_and_right, exists_or, exists_eq_left, Option.or_eq_some_iff,
      lookup_eq_some_iff ordered.nodup]
    refine or_congr_right ⟨fun mode => ⟨?_, mode⟩, And.right⟩
    rw [← Option.not_isSome_iff_eq_none]
    intro prompt
    exact notTwice ⟨prompt, (lookup_isSome_iff ordered.nodup).mpr ⟨value, mode⟩⟩
  · rw [given_own (own_key_iff (alone_of_ne safe) known), underKey, if_neg safe]

theorem makes_of_alike {held wanted : String → Option Value}
    (alike : ∀ name, fieldOf? slots name = some name → held name = wanted name)
    (makes : Makes held settings) : Makes wanted settings where
  temperature := alike "temperature" (by decide) ▸ makes.temperature
  topP := alike "top_p" (by decide) ▸ makes.topP
  maxTokens := alike "max_tokens" (by decide) ▸ makes.maxTokens
  seed := alike "random_seed" (by decide) ▸ makes.seed
  safePrompt := alike "safe_prompt" (by decide) ▸ makes.safePrompt
  tools := alike "tools" (by decide) ▸ makes.tools

theorem ofBag_keys_iff (ordered : InOrder fields) (settings : Settings) :
    Settings.ofBag (.object fields) = .ok settings ↔
      ¬GivenTwice fields ∧ Makes (underKey fields) settings := by
  rw [ofBag_ok_iff _ rfl, Bag.decode_ok_iff, show Layouts.LaidOut slots (.object fields) ↔ _ from
    once_iff ordered]
  refine and_congr_right fun notTwice => ?_
  have alike : ∀ name, fieldOf? slots name = some name →
      given slots name fields = underKey fields name :=
    fun _ => given_eq_underKey ordered notTwice
  exact ⟨makes_of_alike alike, makes_of_alike fun name known => (alike name known).symm⟩

/-- Objects that hold the same under the keys are read alike, down to the fault. -/
theorem decode_alike (ordered : InOrder fields) (too : InOrder other)
    (alike : ∀ key ∈ keys, fields.lookup key = other.lookup key) :
    Settings.decode (Node.ofValue (.object fields)) =
      Settings.decode (Node.ofValue (.object other)) := by
  refine record_alike ?_ ordered too fun key known => alike key ((known_iff key).mp known)
  refine placeless_seq (placeless_seq (placeless_seq (placeless_seq (placeless_seq (placeless_map _
    ?_) ?_) ?_) ?_) ?_) ?_ <;> exact placeless_default _ _ _

/-- Settings come out of an object exactly if no setting is given twice and what is under each key is
of the kind that is needed; otherwise the failure says that the settings are invalid. The token limit
is the integer that was given, what is missing has its default, and no other key has any effect. -/
theorem bag_read_iff_keys_convert (fields : List (String × Value))
    (stored : Stored (.object fields)) :
    ((∃ settings, Settings.ofBag (.object fields) = .ok settings) ↔
      ¬GivenTwice fields ∧ Convertible (underKey fields)) ∧
    (¬(¬GivenTwice fields ∧ Convertible (underKey fields)) →
      ∃ error, Settings.ofBag (.object fields) = .error (.invalidSettings error)) ∧
    (∀ settings, Settings.ofBag (.object fields) = .ok settings →
      Exact (underKey fields) settings) ∧
    ∀ other, Stored (.object other) →
      (∀ key ∈ keys, fields.lookup key = other.lookup key) →
      Settings.ofBag (.object fields) = Settings.ofBag (.object other) := by
  obtain ⟨ordered, held⟩ := stored_object_iff.mp stored
  have readable : (∃ settings, Settings.ofBag (.object fields) = .ok settings) ↔
      ¬GivenTwice fields ∧ Convertible (underKey fields) := by
    simp only [ofBag_keys_iff ordered, exists_and_left]
    refine and_congr_right fun _ => makes_iff_convertible fun value given => ?_
    exact held_of_stored (held _ ((lookup_eq_some_iff ordered.nodup).mp given))
  refine ⟨readable, fun not => ?_, fun settings read => ?_, ?_⟩
  · exact ofBag_refused _ fun settings read => not (readable.mp ⟨settings, read⟩)
  · exact exact_of_makes ((ofBag_keys_iff ordered settings).mp read).2
  · intro other also alike
    obtain ⟨too, -⟩ := stored_object_iff.mp also
    simp only [Settings.ofBag, Value.isNull, Bool.false_eq_true, ↓reduceIte, decodeValue,
      decode_alike ordered too alike]

/-- A limit may come as a text, and beside a key that no setting has. -/
theorem limit_read_from_text :
    let fields := [("host", Value.bool true), ("max_tokens", .string " 128 ")]
    ∃ settings, Settings.ofBag (.object fields) = .ok settings ∧ settings.maxTokens = some 128 ∧
      Settings.ofBag (.object [("max_tokens", .string " 128 ")]) = .ok settings := by
  intro fields
  have digits : Numerals.Digits "128".toList := ⟨by simp, by simp⟩
  have limit : Denotes (.string " 128 ") (128 : UInt32).toNat :=
    .text ⟨_, .plain digits, [' '], [' '], by simp [Text.isBlank], by simp [Text.isBlank], rfl⟩
  have once : ¬GivenTwice fields := by simp [GivenTwice, fields, List.lookup_cons]
  have convertible : Convertible (underKey fields) := by
    constructor <;> simp [underKey, fields, List.lookup_cons]
    exact ⟨_, limit⟩
  have ordered : InOrder fields := List.pairwise_pair.mpr (by decide)
  obtain ⟨readable, -, exact, alike⟩ := bag_read_iff_keys_convert fields
    (stored_object_iff.mpr ⟨ordered, by simp [fields, Stored.bool, Stored.string]⟩)
  obtain ⟨settings, read⟩ := readable.mpr ⟨once, convertible⟩
  refine ⟨settings, read, ?_, ?_⟩
  · obtain ⟨null, -⟩ | ⟨n, is, denotes⟩ := (exact settings read).limit _ rfl
    · cases null
    · have same : n.toNat = (128 : UInt32).toNat := by exact_mod_cast denotes.unique limit
      rw [is, UInt32.toNat_inj.mp same]
  · rw [← read]
    refine (alike [("max_tokens", .string " 128 ")] ?_ ?_).symm
    · exact stored_object_iff.mpr ⟨List.pairwise_singleton _ _, by simp [Stored.string]⟩
    · simp [keys, fields, List.lookup_cons]

end Objects

section Arrays

/-- The settings in the order of their places. -/
def places : List String :=
  ["temperature", "top_p", "max_tokens", "random_seed", "safe_prompt", "tools"]

/-- What an array holds for a setting: the item in its place. -/
def inPlace (items : List Value) (name : String) : Option Value :=
  (places.zip items).lookup name

/-- The value is an array of settings: each item has a place, and is of the kind that is needed in
it. -/
def Positional (bag : Value) : Prop :=
  ∃ items, bag = .array items ∧ items.length ≤ places.length ∧ Convertible (inPlace items)

/-- A value that is no object is read as settings by their places, if at all. -/
theorem ofBag_places_iff {bag : Value} (present : bag ≠ .null) (unkeyed : ∀ fields, bag ≠ .object fields)
    (settings : Settings) :
    Settings.ofBag bag = .ok settings ↔
      ∃ items, bag = .array items ∧ items.length ≤ places.length ∧
        Makes (inPlace items) settings := by
  cases bag with
  | null => exact absurd rfl present
  | object fields => exact absurd rfl (unkeyed fields)
  | bool | number | string =>
    rw [ofBag_ok_iff _ rfl, Bag.decode_ok_iff]
    simp [Layouts.LaidOut]
  | array items =>
    rw [ofBag_ok_iff _ rfl, Bag.decode_ok_iff]
    simp only [Value.array.injEq, exists_eq_left']
    exact Iff.rfl

/-- A value that is neither null nor an object is refused as settings unless it is an array of
settings in their places. Then the settings are the items: nothing of them is read by key. -/
theorem unkeyed_refused_iff_not_positional (bag : Value) (stored : Stored bag)
    (present : bag ≠ .null) (unkeyed : ∀ fields, bag ≠ .object fields) :
    ((∃ error, Settings.ofBag bag = .error (.invalidSettings error)) ↔ ¬Positional bag) ∧
    ∀ settings, Settings.ofBag bag = .ok settings →
      ∃ items, bag = .array items ∧ Exact (inPlace items) settings := by
  have read : (∃ settings, Settings.ofBag bag = .ok settings) ↔ Positional bag := by
    simp only [ofBag_places_iff present unkeyed]
    rw [exists_comm]
    refine exists_congr fun items => ?_
    simp only [exists_and_left]
    refine and_congr_right fun is => and_congr_right fun _ => makes_iff_convertible ?_
    subst is
    intro value (held : Layouts.placed slots _ items = some value)
    exact held_of_stored (stored_array_iff.mp stored value (Layouts.mem_of_placed held))
  constructor
  · rw [← read]
    constructor
    · rintro ⟨error, refused⟩ ⟨settings, ok⟩
      cases refused.symm.trans ok
    · exact fun never => ofBag_refused bag fun settings ok => never ⟨settings, ok⟩
  · intro settings ok
    obtain ⟨items, is, -, makes⟩ := (ofBag_places_iff present unkeyed settings).mp ok
    exact ⟨items, is, exact_of_makes makes⟩

theorem surplus_item_refused :
    ∃ error, Settings.ofBag (.array (List.replicate 7 .null)) = .error (.invalidSettings error) := by
  refine (unkeyed_refused_iff_not_positional _ ?_ (by simp) (by simp)).1.mpr ?_
  · exact stored_array_iff.mpr fun item among => List.eq_of_mem_replicate among ▸ .null
  · rintro ⟨items, is, room, -⟩
    cases is
    exact absurd room (by decide)

/-- The empty array comes out as the default settings, and a limit is found in its place. -/
theorem array_read_as_settings :
    (¬∃ error, Settings.ofBag (.array []) = .error (.invalidSettings error)) ∧
      Settings.ofBag (.array []) = .ok .default ∧
      (Settings.ofBag (.array [.number (.int 1), .number (.int 1), .string "12"])).toOption.map
        (·.maxTokens) = some (some 12) := by
  have empty : Settings.ofBag (.array []) = .ok .default := rfl
  refine ⟨?_, empty, by decide +kernel⟩
  rintro ⟨error, refused⟩
  cases refused.symm.trans empty

end Arrays

end ChatClient.SettingKeys
