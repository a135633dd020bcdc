/-!
Binary floating-point numbers of 64 bits, and the rational number that each finite one stands for.
-/

namespace RpcSchema.Decimal

/-- A floating-point number of 64 bits; two are equal when their bits are. -/
structure Binary64 where
  bits : UInt64
deriving DecidableEq

namespace Binary64

def ofFloat (number : Float) : Binary64 := ⟨number.toBits⟩

def toFloat (number : Binary64) : Float := Float.ofBits number.bits

def isNegative (number : Binary64) : Bool := number.bits >>> 63 == 1

/-- The eleven exponent bits. -/
def exponentBits (number : Binary64) : Nat := ((number.bits >>> 52) &&& 0x7ff).toNat

/-- The fifty-two fraction bits. -/
def fractionBits (number : Binary64) : Nat := (number.bits &&& 0xfffffffffffff).toNat

def isFinite (number : Binary64) : Bool := number.exponentBits != 0x7ff

/-- Whether this is a zero of either sign. -/
def isZero (number : Binary64) : Bool := number.exponentBits == 0 && number.fractionBits == 0

/-- The significand `m` of the magnitude `m * 2 ^ q`. -/
def significand (number : Binary64) : Nat :=
  if number.exponentBits = 0 then number.fractionBits else number.fractionBits + 0x10000000000000

/-- The exponent `q` of the magnitude `m * 2 ^ q`. -/
def exponent (number : Binary64) : Int :=
  if number.exponentBits = 0 then -1074 else (number.exponentBits : Int) - 1075

/-- Whether the next smaller magnitude is only half as far as the next larger one. -/
def hasNarrowGapBelow (number : Binary64) : Bool :=
  number.fractionBits == 0 && 1 < number.exponentBits

end Binary64

end RpcSchema.Decimal
