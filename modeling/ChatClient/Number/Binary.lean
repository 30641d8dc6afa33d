/-! Binary floating point with exact rounding. A number is a sign and a magnitude, the bit pattern
without its sign bit, so order on finite numbers is order on magnitudes. All arithmetic goes through
one function that rounds an exact ratio to the nearest number, ties to even. -/

namespace ChatClient

-- Powers are those of the core library, whichever others are in scope.
attribute [local instance (high)] instPowNat

/-- An interchange format with one sign bit. -/
structure Format where
  fractionBits : Nat
  exponentBits : Nat

namespace Format

def double : Format := ⟨52, 11⟩

def single : Format := ⟨23, 8⟩

/-- The first bit pattern with the sign set; magnitudes lie below it. -/
def signBit (f : Format) : Nat :=
  2 ^ (f.fractionBits + f.exponentBits)

/-- The magnitude of infinity: finite numbers lie below, NaNs above. -/
def infinity (f : Format) : Nat :=
  (2 ^ f.exponentBits - 1) * 2 ^ f.fractionBits

theorem infinity_lt_signBit (f : Format) : f.infinity < f.signBit := by
  have high : 0 < 2 ^ f.exponentBits := Nat.two_pow_pos _
  have low : 0 < 2 ^ f.fractionBits := Nat.two_pow_pos _
  rw [infinity, signBit, Nat.pow_add, Nat.mul_comm (2 ^ f.fractionBits)]
  exact Nat.mul_lt_mul_of_pos_right (by omega) low

/-- The power of two that is the least positive number. -/
def lowest (f : Format) : Int :=
  2 - 2 ^ (f.exponentBits - 1) - f.fractionBits

end Format

/-- A floating point number of a format. -/
structure Binary (f : Format) where
  negative : Bool
  magnitude : Nat
  magnitude_lt : magnitude < f.signBit
  deriving DecidableEq

abbrev Binary64 := Binary .double

abbrev Binary32 := Binary .single

namespace Binary

variable {f : Format}

/-- The number with the given bit pattern; bits beyond the format are dropped. -/
def ofBits (f : Format) (bits : Nat) : Binary f where
  negative := bits / f.signBit % 2 = 1
  magnitude := bits % f.signBit
  magnitude_lt := Nat.mod_lt _ (Nat.two_pow_pos _)

/-- The bit pattern of a number. -/
def toBits (x : Binary f) : Nat :=
  if x.negative then f.signBit + x.magnitude else x.magnitude

def isNaN (x : Binary f) : Bool :=
  f.infinity < x.magnitude

def isFinite (x : Binary f) : Bool :=
  x.magnitude < f.infinity

def isZero (x : Binary f) : Bool :=
  x.magnitude == 0

/-- The place of a number in the order of its format. The two zeros share one place. -/
def key (x : Binary f) : Int :=
  if x.negative then -(x.magnitude : Int) else x.magnitude

/-- The order of numbers: a NaN is neither below nor above anything. -/
def lt (x y : Binary f) : Bool :=
  !x.isNaN && !y.isNaN && x.key < y.key

def le (x y : Binary f) : Bool :=
  !x.isNaN && !y.isNaN && x.key ≤ y.key

def neg (x : Binary f) : Binary f :=
  { x with negative := !x.negative }

def zero (f : Format) (negative : Bool) : Binary f :=
  ⟨negative, 0, Nat.two_pow_pos _⟩

def infinite (f : Format) (negative : Bool) : Binary f :=
  ⟨negative, f.infinity, f.infinity_lt_signBit⟩

theorem infinity_succ_lt (f : Format) (room : 0 < f.fractionBits) :
    f.infinity + 2 ^ (f.fractionBits - 1) < f.signBit := by
  have high : 0 < 2 ^ f.exponentBits := Nat.two_pow_pos _
  have half : 2 ^ (f.fractionBits - 1) < 2 ^ f.fractionBits :=
    Nat.pow_lt_pow_right (by omega) (by omega)
  have whole : f.signBit = f.infinity + 2 ^ f.fractionBits := by
    rw [Format.infinity, Format.signBit, Nat.pow_add, Nat.mul_comm (2 ^ f.fractionBits)]
    rw [← Nat.succ_mul]
    congr 1
    omega
  omega

/-- The quiet NaN with an empty payload. -/
def nan : Binary64 :=
  ⟨false, Format.infinity .double + 2 ^ (51 : Nat), infinity_succ_lt .double (by decide)⟩

/-- The integer that a finite number multiplies its unit by. -/
def significand (x : Binary f) : Nat :=
  let fraction := x.magnitude % 2 ^ f.fractionBits
  if x.magnitude / 2 ^ f.fractionBits = 0 then fraction else 2 ^ f.fractionBits + fraction

/-- The power of two that is the unit in the last place of a finite number. -/
def unit (x : Binary f) : Int :=
  f.lowest + ((x.magnitude / 2 ^ f.fractionBits - 1 : Nat) : Int)

/-- The size of a finite number as an exact ratio of natural numbers. -/
def ratio (x : Binary f) : Nat × Nat :=
  (x.significand * 2 ^ x.unit.toNat, 2 ^ (-x.unit).toNat)

/-- A quotient rounded to the nearest natural number, ties to even. -/
def divNearest (num den : Nat) : Nat :=
  let below := num / den
  let twice := 2 * (num % den)
  if twice < den then below
  else if den < twice then below + 1
  else if below % 2 = 0 then below
  else below + 1

/-- The exponent of the greatest power of two that is not above a positive ratio. -/
def ratioLog2 (num den : Nat) : Int :=
  let guess : Int := (num.log2 : Int) - den.log2
  if num * 2 ^ (-guess).toNat < den * 2 ^ guess.toNat then guess - 1 else guess

/-- The magnitude nearest to a ratio. Counting in units of the last place, a carry into the next
power of two is the carry into the exponent field; what lies past the greatest finite number is
infinity. -/
def nearestMagnitude (f : Format) (num den : Nat) : Nat :=
  if num = 0 then 0
  else
    let place : Int := max (ratioLog2 num den - f.fractionBits) f.lowest
    let scaled := divNearest (num * 2 ^ (-place).toNat) (den * 2 ^ place.toNat)
    min ((place - f.lowest).toNat * 2 ^ f.fractionBits + scaled) f.infinity

/-- The number nearest to a ratio with the given sign. -/
def ofRatio (f : Format) (negative : Bool) (num den : Nat) : Binary f where
  negative := negative
  magnitude := nearestMagnitude f num den
  magnitude_lt := by
    rw [nearestMagnitude]
    split
    · exact Nat.two_pow_pos _
    · exact Nat.lt_of_le_of_lt (Nat.min_le_right _ _) f.infinity_lt_signBit

/-- The number nearest to an integer. -/
def ofInt (f : Format) (n : Int) : Binary f :=
  ofRatio f (n < 0) n.natAbs 1

/-- The product of two finite numbers, rounded once. -/
def mul (x y : Binary f) : Binary f :=
  ofRatio f (x.negative != y.negative) (x.ratio.1 * y.ratio.1) (x.ratio.2 * y.ratio.2)

/-- The quotient of two finite numbers, the second of them not zero, rounded once. -/
def div (x y : Binary f) : Binary f :=
  ofRatio f (x.negative != y.negative) (x.ratio.1 * y.ratio.2) (x.ratio.2 * y.ratio.1)

/-- The number of another format nearest to a finite one; anything else becomes infinite. -/
def convert (g : Format) (x : Binary f) : Binary g :=
  if x.isFinite then ofRatio g x.negative x.ratio.1 x.ratio.2
  else infinite g x.negative

/-- Whether a number is an integer. -/
def isIntegral (x : Binary f) : Bool :=
  x.isFinite && x.ratio.1 % x.ratio.2 == 0

/-- The integer part of a finite number. -/
def truncate (x : Binary f) : Int :=
  let whole : Int := (x.ratio.1 / x.ratio.2 : Nat)
  if x.negative then -whole else whole

/-- The integer part of a number, kept within bounds. A NaN gives zero. -/
def truncateWithin (low high : Int) (x : Binary f) : Int :=
  if x.isNaN then 0
  else if x.isFinite then max low (min high x.truncate)
  else if x.negative then low
  else high

end Binary

end ChatClient
