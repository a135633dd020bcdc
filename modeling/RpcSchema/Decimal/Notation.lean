import RpcSchema.Decimal.Shortest

/-!
Written forms of floating-point numbers.
-/

namespace RpcSchema.Decimal

/-- How a floating-point number is written. -/
structure Notation where
  /-- Powers of ten from here on are written positionally. -/
  lowest : Int
  /-- Powers of ten from here on are written with an exponent. -/
  highest : Int
  /-- Whether a positive exponent has a sign. -/
  plus : Bool
  /-- Whether a whole number with an exponent-free form ends in `.0`. -/
  point : Bool
  tie : Tie

/-- JSON text: positional from 0.00001 up to 10^16, a signed exponent elsewhere. -/
def Notation.json : Notation := ⟨-5, 16, true, true, .even⟩

/-- Source text: positional from 0.0001 up to 10^16, an unsigned exponent elsewhere. -/
def Notation.source : Notation := ⟨-4, 16, false, true, .away⟩

/-- Digits with a point after the first `whole` of them, filled up with zeros. -/
def placePoint (point : Bool) (digits : List Char) (whole : Nat) : List Char :=
  let fraction := digits.drop whole
  let head := digits.take whole ++ List.replicate (whole - digits.length) '0'
  if fraction.isEmpty then if point then head ++ ['.', '0'] else head
  else head ++ '.' :: fraction

/-- A positive decimal in a notation. -/
def Notation.write (style : Notation) (d : Digits) : List Char :=
  if style.lowest ≤ d.exponent && d.exponent < style.highest then
    if 0 ≤ d.exponent then placePoint style.point d.digits (d.exponent.toNat + 1)
    else '0' :: '.' :: List.replicate (-d.exponent - 1).toNat '0' ++ d.digits
  else
    let power := Nat.toDigits 10 d.exponent.natAbs
    let sign := if d.exponent < 0 then ['-'] else if style.plus then ['+'] else []
    placePoint false d.digits 1 ++ 'e' :: sign ++ power

/-- A number in a notation. -/
def Notation.text (style : Notation) (number : Binary64) : String :=
  let sign := if number.isNegative then "-" else ""
  if !number.isFinite then
    if number.fractionBits = 0 then sign ++ "inf" else "NaN"
  else if number.isZero then
    sign ++ if style.point then "0.0" else "0"
  else sign ++ String.ofList (style.write (shortest style.tie number))

end RpcSchema.Decimal
