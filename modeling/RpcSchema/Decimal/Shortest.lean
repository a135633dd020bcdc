import RpcSchema.Decimal.Binary

/-!
The shortest decimal that reads back as a given binary number.

A decimal reads back as a number when it lies in the interval of reals that round to it. The
interval's ends belong to it when the significand is even.
-/

namespace RpcSchema.Decimal

/-- Which of two equally near decimals is taken. -/
inductive Tie
  | even
  | away
deriving DecidableEq

/-- A positive decimal: its digits, first one not zero, and the power of ten of the first. -/
structure Digits where
  digits : List Char
  exponent : Int
deriving DecidableEq

/-- How many decimal digits a number has; zero has one. -/
def digitCount (n : Nat) : Nat := (Nat.toDigits 10 n).length

/-- A positive fraction as numerator and denominator. -/
structure Ratio where
  num : Nat
  den : Nat

/-- `n * 2 ^ q`. -/
def Ratio.scaled (n : Nat) (q : Int) : Ratio :=
  if 0 ≤ q then ⟨n * Nat.pow 2 q.toNat, 1⟩ else ⟨n, Nat.pow 2 (-q).toNat⟩

/-- The power of ten of the first digit. -/
def Ratio.decimalExponent (r : Ratio) : Int :=
  if r.den ≤ r.num then (digitCount (r.num / r.den) : Int) - 1
  else -(digitCount ((r.den - 1) / r.num) : Int)

def Ratio.le (a b : Ratio) : Bool := a.num * b.den ≤ b.num * a.den

def Ratio.lt (a b : Ratio) : Bool := a.num * b.den < b.num * a.den

/-- `n * 10 ^ k`. -/
def Ratio.decimal (n : Nat) (k : Int) : Ratio :=
  if 0 ≤ k then ⟨n * Nat.pow 10 k.toNat, 1⟩ else ⟨n, Nat.pow 10 (-k).toNat⟩

/-- The whole part of `r / 10 ^ k`. -/
def Ratio.floorAt (r : Ratio) (k : Int) : Nat :=
  if 0 ≤ k then r.num / (r.den * Nat.pow 10 k.toNat)
  else r.num * Nat.pow 10 (-k).toNat / r.den

/-- An interval of positive reals, with or without its ends. -/
structure Interval where
  low : Ratio
  high : Ratio
  closed : Bool

def Interval.holds (interval : Interval) (r : Ratio) : Bool :=
  if interval.closed then interval.low.le r && r.le interval.high
  else interval.low.lt r && r.lt interval.high

/-- The reals that round to a positive finite number. -/
def Binary64.rounding (number : Binary64) : Interval :=
  let m := number.significand
  let q := number.exponent
  { low :=
      if number.hasNarrowGapBelow then Ratio.scaled (4 * m - 1) (q - 2)
      else Ratio.scaled (2 * m - 1) (q - 1)
    high := Ratio.scaled (2 * m + 1) (q - 1)
    closed := m % 2 == 0 }

/-- Of `n` and `n + 1` on the grid `10 ^ k`, with `r` between them, the nearer to `r`. -/
def nearer (tie : Tie) (r : Ratio) (k : Int) (n : Nat) : Nat :=
  let middle := Ratio.decimal (10 * n + 5) (k - 1)
  if r.lt middle then n
  else if middle.lt r then n + 1
  else match tie with
    | .even => if n % 2 = 0 then n else n + 1
    | .away => n + 1

/-- The point of the grid `10 ^ k` that reads back, when there is one. -/
def onGrid? (tie : Tie) (interval : Interval) (r : Ratio) (k : Int) : Option Nat :=
  let n := r.floorAt k
  let below := interval.holds (Ratio.decimal n k)
  let above := interval.holds (Ratio.decimal (n + 1) k)
  if below && above then some (nearer tie r k n)
  else if below then some n
  else if above then some (n + 1)
  else none

/-- Decimal digits without the zeros at their end. -/
def significantDigits (n : Nat) : List Char :=
  ((Nat.toDigits 10 n).reverse.dropWhile (· == '0')).reverse

/-- The shortest decimal that reads back as a positive finite number, and of those the nearest. -/
def shortest (tie : Tie) (number : Binary64) : Digits :=
  let r := Ratio.scaled number.significand number.exponent
  let first := r.decimalExponent
  let hit := (List.range 17).findSome? fun (count : Nat) =>
    let k := first - count
    (onGrid? tie number.rounding r k).map fun n => (n, k)
  match hit with
  | some (n, k) => ⟨significantDigits n, k + digitCount n - 1⟩
  | none => ⟨['0'], 0⟩

end RpcSchema.Decimal
