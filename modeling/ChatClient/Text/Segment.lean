/-! Cutting a text into segments at the characters that separate them. -/

namespace ChatClient.Text

/-- The segments between separators. A text without a separator is one segment, so there is always
at least one. -/
def segments (separates : Char → Bool) : List Char → List (List Char)
  | [] => [[]]
  | c :: rest =>
    if separates c then [] :: segments separates rest
    else
      match segments separates rest with
      | [] => [[c]]
      | segment :: others => (c :: segment) :: others

/-- Puts segments together again with one separator between them. -/
def joinSegments (separator : Char) : List (List Char) → List Char
  | [] => []
  | [segment] => segment
  | segment :: next :: others => segment ++ separator :: joinSegments separator (next :: others)

theorem segments_ne_nil (separates : Char → Bool) (chars : List Char) :
    segments separates chars ≠ [] := by
  cases chars with
  | nil => simp [segments]
  | cons c rest =>
    simp only [segments]
    split
    · simp
    · split <;> simp

/-- Nothing is lost by cutting a text at one character. -/
theorem joinSegments_segments (separator : Char) (chars : List Char) :
    joinSegments separator (segments (· = separator) chars) = chars := by
  induction chars with
  | nil => rfl
  | cons c rest ih =>
    simp only [segments]
    generalize found : segments (fun x => decide (x = separator)) rest = pieces at ih
    cases pieces with
    | nil => exact absurd found (segments_ne_nil _ rest)
    | cons segment others =>
      by_cases same : c = separator
      · simp [same, joinSegments, ih]
      · cases others <;> simp_all [joinSegments]

end ChatClient.Text
