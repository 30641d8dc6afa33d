import ChatClient.Number.Binary

/-! Closed intervals of floating point numbers, and forcing a number into one. -/

namespace ChatClient

/-- An interval whose ends are numbers in order. -/
structure Bounds where
  low : Binary64
  high : Binary64
  low_le_high : low.le high

namespace Bounds

/-- The interval between two numbers, if they are in order. -/
def between? (low high : Binary64) : Option Bounds :=
  if ordered : low.le high then some ⟨low, high, ordered⟩ else none

/-- The number of the interval nearest to a number. A NaN gives the lower end. -/
def clamp (bounds : Bounds) (x : Binary64) : Binary64 :=
  if x.isNaN then bounds.low
  else if x.lt bounds.low then bounds.low
  else if bounds.high.lt x then bounds.high
  else x

end Bounds

/-- Forces a number between two ends. A NaN gives the lower end whatever the ends are; any other
number needs ends in order. -/
def clamp? (x low high : Binary64) : Option Binary64 :=
  if x.isNaN then some low else (Bounds.between? low high).map (·.clamp x)

/-- The range of sampling values that the server accepts: one tenth to one. -/
def samplingBounds : Bounds where
  low := Binary.ofRatio .double false 1 10
  high := Binary.ofInt .double 1
  low_le_high := by decide +kernel

end ChatClient
