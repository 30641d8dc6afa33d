import Mathlib.Data.List.DropRight
import ChatClient.Text.Blank

/-! What trimming leaves: the part of a text between its blanks, the only part with no blank at
either end that blanks alone surround. -/

namespace ChatClient.Trimming
open Text

/-- No blank stands at either end. -/
structure Tight (core : List Char) : Prop where
  first : ∀ c, core.head? = some c → isBlank c = false
  last : ∀ c, core.getLast? = some c → isBlank c = false

theorem tight_of_solid {core : List Char} (solid : ∀ c ∈ core, isBlank c = false) : Tight core where
  first c starts := solid c (List.mem_of_head? starts)
  last c ends := solid c (List.mem_of_getLast? ends)

/-- Blanks, and nothing else, stand around the core. -/
def Surrounded (chars core : List Char) : Prop :=
  ∃ before after, (∀ c ∈ before, isBlank c) ∧ (∀ c ∈ after, isBlank c) ∧
    chars = before ++ core ++ after

theorem trimChars_eq (chars : List Char) :
    trimChars chars = (chars.dropWhile isBlank).rdropWhile isBlank :=
  rfl

theorem trimChars_surrounded (chars : List Char) : Surrounded chars (trimChars chars) := by
  refine ⟨chars.takeWhile isBlank, (chars.dropWhile isBlank).rtakeWhile isBlank,
    fun c => List.mem_takeWhile_imp, fun c => List.mem_rtakeWhile_imp, ?_⟩
  rw [trimChars_eq, List.append_assoc, List.rdropWhile_append_rtakeWhile,
    List.takeWhile_append_dropWhile]

theorem trimChars_tight (chars : List Char) : Tight (trimChars chars) := by
  constructor
  · intro c starts
    obtain ⟨rest, whole⟩ := List.rdropWhile_prefix isBlank (chars.dropWhile isBlank)
    rw [← trimChars_eq] at whole
    have kept : (chars.dropWhile isBlank).head? = some c := by
      rw [← whole, List.head?_append, starts, Option.some_or]
    simpa [kept] using List.head?_dropWhile_not isBlank chars
  · intro c ends
    have some : trimChars chars ≠ [] := by
      rintro empty
      simp [empty] at ends
    have same : (trimChars chars).getLast some = c := by
      simpa [List.getLast?_eq_getLast_of_ne_nil some] using ends
    have last := List.rdropWhile_last_not isBlank (chars.dropWhile isBlank) some
    change ¬isBlank ((trimChars chars).getLast some) at last
    simpa [same] using last

theorem trimChars_of_surrounded {chars core : List Char} (tight : Tight core)
    (around : Surrounded chars core) : trimChars chars = core := by
  obtain ⟨before, after, blankBefore, blankAfter, rfl⟩ := around
  have left : (before ++ core ++ after).dropWhile isBlank = (core ++ after).dropWhile isBlank := by
    rw [List.append_assoc, List.dropWhile_append_of_pos blankBefore]
  rw [trimChars_eq, left]
  cases core with
  | nil =>
    have gone : after.dropWhile isBlank = [] := List.dropWhile_eq_nil_iff.mpr blankAfter
    simp [gone]
  | cons c rest =>
    have stays : (c :: rest ++ after).dropWhile isBlank = c :: rest ++ after := by
      simp [tight.first c rfl]
    have right : (c :: rest ++ after).rdropWhile isBlank = (c :: rest).rdropWhile isBlank := by
      simp only [List.rdropWhile, List.reverse_append]
      rw [List.dropWhile_append_of_pos fun c inside => blankAfter c (List.mem_reverse.mp inside)]
    rw [stays, right, List.rdropWhile_eq_self_iff]
    intro nonempty
    simpa using tight.last _ (List.getLast?_eq_getLast_of_ne_nil nonempty)

theorem trimChars_eq_iff (chars core : List Char) :
    trimChars chars = core ↔ Tight core ∧ Surrounded chars core := by
  constructor
  · rintro rfl
    exact ⟨trimChars_tight chars, trimChars_surrounded chars⟩
  · rintro ⟨tight, around⟩
    exact trimChars_of_surrounded tight around

end ChatClient.Trimming
