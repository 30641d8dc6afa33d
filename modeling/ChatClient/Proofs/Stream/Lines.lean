import Mathlib.Data.List.Basic
import Mathlib.Data.List.TakeWhile
import ChatClient.Stream.LineReader

/-! The lines of a byte stream, found in all of its bytes at once. Nothing here reads: a script is
taken as the bytes that it brings and the way it ends, and the bytes are cut by the library's own
splitting at line feeds. What a reader hands out piece by piece is compared with this. -/
namespace ChatClient.StreamLines

/-- How a script ends, once all its bytes have come. -/
inductive Close where
  | clean
  | failing (error : CallError)
  /-- Nothing more comes until the caller cancels. -/
  | stalled
  deriving DecidableEq

/-- The bytes that a script brings before it ends, without regard to their chunks. -/
def bytesOf : List Read → List UInt8
  | .bytes chunk :: rest => chunk ++ bytesOf rest
  | _ => []

/-- The first read that is no chunk decides how a script ends. -/
def closeOf : List Read → Close
  | [] => .clean
  | .bytes _ :: rest => closeOf rest
  | .failure error :: _ => .failing error
  | .stall :: _ => .stalled

/-- A line without the one carriage return that may stand directly before its line feed. -/
def unreturned (line : List UInt8) : List UInt8 :=
  (line.dropSuffix? [13]).getD line

/-- The lines that a line feed ends. -/
def terminated (bytes : List UInt8) : List (List UInt8) :=
  (bytes.splitOn 10).dropLast.map unreturned

/-- What stands behind the last line feed. -/
def openTail (bytes : List UInt8) : List UInt8 :=
  (bytes.splitOn 10).getLast (List.splitOn_ne_nil 10 bytes)

/-- The lines of a stream. A tail without a line feed is a line only where the stream ends cleanly,
and only if it is not empty. -/
def lines (bytes : List UInt8) (close : Close) : List (List UInt8) :=
  terminated bytes ++ if close = .clean ∧ openTail bytes ≠ [] then [openTail bytes] else []

/-- What stands at one place of a stream: a line of text, or the failure that ends reading. -/
abbrev Line := Except CallError String

def Line.isFailure : Line → Bool
  | .ok _ => false
  | .error _ => true

/-- What is found behind the last line. -/
def closing : Close → List Line
  | .clean => []
  | .failing error => [.error error]
  | .stalled => [.error .cancelled]

/-- A list up to its first element of a kind, which still belongs to it. -/
def through {α : Type} (last : α → Bool) : List α → List α
  | [] => []
  | a :: rest => if last a then [a] else a :: through last rest

/-- All there is to find on a stream: its lines as texts and then the failure that it ends with, up
to the first failure. A line that is not UTF-8 is one. -/
def findings (bytes : List UInt8) (close : Close) : List Line :=
  through Line.isFailure ((lines bytes close).map lineText ++ closing close)

section Through
variable {α : Type} {last : α → Bool} {a : α} {rest : List α}

@[simp] theorem through_nil : through last [] = [] := rfl

theorem through_last (ends : last a = true) : through last (a :: rest) = [a] := by
  simp [through, ends]

theorem through_more (more : last a = false) :
    through last (a :: rest) = a :: through last rest := by
  simp [through, more]

/-- A front part that holds no last element stays whole. -/
theorem through_append {front : List α} (more : ∀ a ∈ front, last a = false) (rest : List α) :
    through last (front ++ rest) = front ++ through last rest := by
  induction front with
  | nil => rfl
  | cons a front ih =>
    have going : ∀ b ∈ front, last b = false := fun b member => more b (List.mem_cons_of_mem a member)
    rw [List.cons_append, through_more (more a List.mem_cons_self), ih going, List.cons_append]

/-- Cutting a list that has been cut already changes nothing. -/
theorem through_through (last : α → Bool) (list : List α) :
    through last (through last list) = through last list := by
  induction list with
  | nil => rfl
  | cons a rest ih =>
    by_cases ends : last a = true
    · simp only [through_last ends]
    · have more : last a = false := by simpa using ends
      simp only [through_more more, ih]

/-- What stands behind a front part may be cut before or after the whole is. -/
theorem through_append_through (front rest : List α) :
    through last (front ++ through last rest) = through last (front ++ rest) := by
  induction front with
  | nil => exact through_through last rest
  | cons a front ih =>
    by_cases ends : last a = true
    · simp only [List.cons_append, through_last ends]
    · have more : last a = false := by simpa using ends
      simp only [List.cons_append, through_more more, ih]

/-- Cutting a list brings nothing into it. -/
theorem mem_of_mem_through {list : List α} (kept : a ∈ through last list) : a ∈ list := by
  induction list with
  | nil => cases kept
  | cons b rest ih =>
    by_cases ends : last b = true
    · rw [through_last ends, List.mem_singleton] at kept
      exact kept ▸ List.mem_cons_self
    · rw [through_more (by simpa using ends), List.mem_cons] at kept
      exact List.mem_cons.mpr (kept.imp_right ih)

/-- A list is not kept beyond a front part that holds a last element. -/
theorem mem_front_of_through {front : List α} (stops : ∃ b ∈ front, last b = true)
    (kept : a ∈ through last (front ++ rest)) : a ∈ front := by
  induction front with
  | nil => simp at stops
  | cons b front ih =>
    rw [List.cons_append] at kept
    by_cases ends : last b = true
    · rw [through_last ends, List.mem_singleton] at kept
      exact kept ▸ List.mem_cons_self
    · rw [through_more (by simpa using ends), List.mem_cons] at kept
      have behind : ∃ c ∈ front, last c = true := by simpa [ends] using stops
      exact List.mem_cons.mpr (kept.imp_right (ih behind))

/-- Nothing follows the element that ends the list. -/
theorem tail_of_last (cut : through last list = a :: rest) (ends : last a = true) : rest = [] := by
  cases list with
  | nil => simp at cut
  | cons b after =>
    by_cases first : last b = true
    · simp only [through_last first, List.cons.injEq] at cut
      exact cut.2.symm
    · have more : last b = false := by simpa using first
      simp only [through_more more, List.cons.injEq] at cut
      rw [← cut.1, more] at ends
      contradiction

end Through

section Splitting
variable {bytes line rest : List UInt8}

theorem split_line_some (split : splitLine? bytes = some (line, rest)) :
    bytes = line ++ 10 :: rest ∧ (10 : UInt8) ∉ line := by
  have whole := List.takeWhile_append_dropWhile (p := fun b : UInt8 => decide (b ≠ 10)) (l := bytes)
  unfold splitLine? at split
  split at split
  · cases split
  · rename_i feed after found
    have stop := List.head?_dropWhile_not (fun b : UInt8 => decide (b ≠ 10)) bytes
    rw [found] at stop
    have isFeed : feed = 10 := by simpa using stop
    subst isFeed
    simp only [Option.some.injEq, Prod.mk.injEq] at split
    obtain ⟨rfl, rfl⟩ := split
    refine ⟨by rw [← found, whole], ?_⟩
    intro member
    simpa using List.mem_takeWhile_imp member

theorem split_line_none (split : splitLine? bytes = none) : (10 : UInt8) ∉ bytes := by
  unfold splitLine? at split
  split at split
  · rename_i found
    intro member
    simpa using List.dropWhile_eq_nil_iff.mp found 10 member
  · cases split

/-- Dropping a carriage return from a line that was read is the reference's rule. -/
theorem drop_return_eq (line : List UInt8) : dropReturn line = unreturned line := by
  rcases List.eq_nil_or_concat line with rfl | ⟨front, last, rfl⟩
  · rfl
  · by_cases isReturn : last = 13
    · subst last
      have dropped : (front ++ [13]).dropSuffix? [13] = some front :=
        List.dropSuffix?_eq_some_iff.mpr ⟨[13], rfl, by simp⟩
      simp [dropReturn, unreturned, dropped]
    · have kept : (front ++ [last]).dropSuffix? [13] = none := by
        cases found : (front ++ [last]).dropSuffix? [13] with
        | none => rfl
        | some other =>
          obtain ⟨suffix, whole, same⟩ := List.dropSuffix?_eq_some_iff.mp found
          simp only [beq_iff_eq] at same
          subst same
          have ends := (List.append_inj' whole rfl).2
          simp only [List.cons.injEq, and_true] at ends
          contradiction
      simp [dropReturn, unreturned, kept, isReturn]

theorem terminated_cut (noFeed : (10 : UInt8) ∉ line) :
    terminated (line ++ 10 :: rest) = unreturned line :: terminated rest := by
  simp only [terminated, List.splitOn_append_cons_self_of_not_mem noFeed,
    List.dropLast_cons_of_ne_nil (List.splitOn_ne_nil 10 rest), List.map_cons]

theorem open_tail_cut (noFeed : (10 : UInt8) ∉ line) :
    openTail (line ++ 10 :: rest) = openTail rest := by
  simp only [openTail, List.splitOn_append_cons_self_of_not_mem noFeed,
    List.getLast_cons (List.splitOn_ne_nil 10 rest)]

theorem terminated_uncut (noFeed : (10 : UInt8) ∉ bytes) : terminated bytes = [] := by
  simp [terminated, List.splitOn_eq_singleton noFeed]

theorem open_tail_uncut (noFeed : (10 : UInt8) ∉ bytes) : openTail bytes = bytes := by
  simp [openTail, List.splitOn_eq_singleton noFeed]

end Splitting

section Findings
variable {bytes line rest : List UInt8} {close : Close}

/-- Behind its first line a stream is the stream of the bytes left; a line that is not UTF-8 is the
last thing found. -/
theorem findings_cut (noFeed : (10 : UInt8) ∉ line) :
    findings (line ++ 10 :: rest) close =
      through Line.isFailure (lineText (unreturned line) :: findings rest close) := by
  simp only [findings, lines, terminated_cut noFeed, open_tail_cut noFeed, List.cons_append,
    List.map_cons]
  cases lineText (unreturned line) with
  | ok text => rw [through_more rfl, through_more rfl, through_through]
  | error error => rw [through_last rfl, through_last rfl]

/-- Without a line feed there is at most the tail to find, and how the stream ends. -/
theorem findings_uncut (noFeed : (10 : UInt8) ∉ bytes) :
    findings bytes close =
      if close = .clean ∧ bytes ≠ [] then [lineText bytes] else closing close := by
  simp only [findings, lines, terminated_uncut noFeed, open_tail_uncut noFeed, List.nil_append]
  by_cases whole : close = .clean ∧ bytes ≠ []
  · obtain ⟨rfl, filled⟩ := whole
    cases found : lineText bytes <;> simp [filled, closing, through, found]
  · simp only [whole, ↓reduceIte, List.map_nil, List.nil_append]
    cases close <;> rfl

/-- A failure is the last thing that is found. -/
theorem findings_through (bytes : List UInt8) (close : Close) :
    through Line.isFailure (findings bytes close) = findings bytes close :=
  through_through _ _

end Findings

end ChatClient.StreamLines
