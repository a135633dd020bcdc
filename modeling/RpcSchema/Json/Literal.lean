import RpcSchema.Json.Fault

/-!
Reading the leaves of a JSON text: words, strings and numbers.
-/

namespace RpcSchema.Json

open Decimal

/-- Reads the letters of a word. -/
def readWord : List Char → Cursor → Except Fault Cursor
  | [], cursor => .ok cursor
  | letter :: word, ⟨rest, position⟩ =>
    match rest with
    | [] => .error (.stop .endInValue position)
    | c :: rest =>
      if c = letter then readWord word ⟨rest, position.next c⟩
      else .error (.stop .expectedWord (position.nextByte c))

/-! ## Strings -/

/-- The character that an escape of one letter stands for. -/
def letterEscape : Char → Option Char
  | '"' => some '"'
  | '\\' => some '\\'
  | '/' => some '/'
  | 'b' => some '\x08'
  | 'f' => some '\x0c'
  | 'n' => some '\n'
  | 'r' => some '\r'
  | 't' => some '\t'
  | _ => none

/-- The value of a hexadecimal digit. -/
def hexValue (c : Char) : Option Nat :=
  if '0' ≤ c && c ≤ '9' then some (c.toNat - 48)
  else if 'a' ≤ c && c ≤ 'f' then some (c.toNat - 87)
  else if 'A' ≤ c && c ≤ 'F' then some (c.toNat - 55)
  else none

/-- The code unit that four hexadecimal digits stand for. -/
def hexUnit (a b c d : Char) : Option Nat := do
  let a ← hexValue a
  let b ← hexValue b
  let c ← hexValue c
  let d ← hexValue d
  pure (((a * 16 + b) * 16 + c) * 16 + d)

def isLeadingSurrogate (unit : Nat) : Bool := 0xd800 ≤ unit && unit ≤ 0xdbff

def isTrailingSurrogate (unit : Nat) : Bool := 0xdc00 ≤ unit && unit ≤ 0xdfff

/-- The character of a pair of surrogates. -/
def surrogatePair (leading trailing : Nat) : Char :=
  Char.ofNat ((leading - 0xd800) * 0x400 + (trailing - 0xdc00) + 0x10000)

/-- The position a number of bytes further into a text, if the text has that many. -/
def bytesOn : Nat → List Char → Position → Option Position
  | 0, _, position => some position
  | _ + 1, [], _ => none
  | count + 1, c :: rest, position =>
    if c.utf8Size ≤ count + 1 then bytesOn (count + 1 - c.utf8Size) rest (position.next c)
    else some (position.right (count + 1))
termination_by _ chars _ => chars.length

/-- The fault of a `\u` that four hexadecimal digits do not follow: fewer than four bytes are left,
or the four that are do not make a unit. -/
def unitFault (rest : List Char) (position : Position) : Fault :=
  match bytesOn 4 rest position with
  | some stop => .stop .invalidEscape stop
  | none => .stop .endInString (position.after rest)

/-- The fault of a leading surrogate that no second escape follows. -/
def unpairedFault (rest : List Char) (position : Position) : Fault :=
  match rest with
  | [] => .stop .endInString position
  | '\\' :: 'u' :: tail => unitFault tail (position.right 2)
  | '\\' :: c :: _ => .stop .unfinishedEscape ((position.right 1).nextByte c)
  | '\\' :: [] => .stop .endInString (position.right 1)
  | c :: _ => .stop .unfinishedEscape (position.nextByte c)

/-- Reads a string behind its opening quote; the characters read so far are kept backwards. -/
def takeString : List Char → Position → List Char → Except Fault (String × Cursor)
  | [], position, _ => .error (.stop .endInString position)
  | '"' :: rest, position, read =>
    .ok (String.ofList read.reverse, ⟨rest, position.right 1⟩)
  | '\\' :: 'u' :: a :: b :: c :: d :: rest, position, read =>
    match hexUnit a b c d with
    | none => .error (unitFault (a :: b :: c :: d :: rest) (position.right 2))
    | some unit =>
      if isTrailingSurrogate unit then .error (.stop .loneSurrogate (position.right 6))
      else if isLeadingSurrogate unit then
        match rest with
        | '\\' :: 'u' :: e :: f :: g :: h :: rest =>
          match hexUnit e f g h with
          | none => .error (unitFault (e :: f :: g :: h :: rest) (position.right 8))
          | some second =>
            if isTrailingSurrogate second then
              takeString rest (position.right 12) (surrogatePair unit second :: read)
            else .error (.stop .loneSurrogate (position.right 12))
        | rest => .error (unpairedFault rest (position.right 6))
      else takeString rest (position.right 6) (Char.ofNat unit :: read)
  | '\\' :: rest, position, read =>
    match rest with
    | [] => .error (.stop .endInString (position.right 1))
    | 'u' :: rest => .error (unitFault rest (position.right 2))
    | c :: rest =>
      match letterEscape c with
      | some meant => takeString rest (position.right 2) (meant :: read)
      | none => .error (.stop .invalidEscape ((position.right 1).nextByte c))
  | c :: rest, position, read =>
    if c.val < 0x20 then .error (.stop .controlCharacter (position.nextByte c))
    else takeString rest (position.next c) (c :: read)

/-- Passes over a string behind its opening quote: surrogates need no partner here. -/
def passString : List Char → Position → Except Fault Cursor
  | [], position => .error (.stop .endInString position)
  | '"' :: rest, position => .ok ⟨rest, position.right 1⟩
  | '\\' :: 'u' :: a :: b :: c :: d :: rest, position =>
    match hexUnit a b c d with
    | none => .error (unitFault (a :: b :: c :: d :: rest) (position.right 2))
    | some _ => passString rest (position.right 6)
  | '\\' :: rest, position =>
    match rest with
    | [] => .error (.stop .endInString (position.right 1))
    | 'u' :: rest => .error (unitFault rest (position.right 2))
    | c :: rest =>
      match letterEscape c with
      | some _ => passString rest (position.right 2)
      | none => .error (.stop .invalidEscape ((position.right 1).nextByte c))
  | c :: rest, position =>
    if c.val < 0x20 then .error (.stop .controlCharacter position)
    else passString rest (position.next c)

/-- A string read behind its opening quote. -/
inductive StringReading
  /-- It is closed; taken as a text it may still be at fault. -/
  | closed (text : Except Fault String) (after : Cursor)
  | open (taken passed : Fault)

def readString (cursor : Cursor) : StringReading :=
  match takeString cursor.rest cursor.position [] with
  | .ok (text, after) => .closed (.ok text) after
  | .error taken =>
    match passString cursor.rest cursor.position with
    | .ok after => .closed (.error taken) after
    | .error passed => .open taken passed

/-! ## Numbers -/

/-- A number as it is spelled. -/
structure Numeral where
  negative : Bool
  /-- The digits before the point. -/
  whole : List Nat
  /-- The digits behind the point, when there is one. -/
  fraction : Option (List Nat)
  /-- Whether the exponent is negative, and its digits. -/
  power : Option (Bool × List Nat)

def digitValue (c : Char) : Option Nat :=
  if '0' ≤ c && c ≤ '9' then some (c.toNat - 48) else none

def takeDigits : List Char → List Nat × List Char
  | [] => ([], [])
  | c :: rest =>
    match digitValue c with
    | some digit =>
      let (digits, rest) := takeDigits rest
      (digit :: digits, rest)
    | none => ([], c :: rest)

/-- The largest unsigned integer of 64 bits. -/
def wordMax : Nat := 0xffffffffffffffff

/-- Digits added to a significand while it fits a word; the rest of the digits remain. -/
def growSignificand : Nat → List Nat → Nat × List Nat
  | significand, [] => (significand, [])
  | significand, digit :: rest =>
    if significand * 10 + digit ≤ wordMax then growSignificand (significand * 10 + digit) rest
    else (significand, digit :: rest)

/-- The largest exponent that is still counted. -/
def powerMax : Nat := 0x7fffffff

/-- The exponent its digits spell, or how many digits there are when it passes the largest. -/
def readPower : Nat → Nat → List Nat → Except Nat Nat
  | value, _, [] => .ok value
  | value, count, digit :: rest =>
    if value * 10 + digit ≤ powerMax then readPower (value * 10 + digit) (count + 1) rest
    else .error (count + 1)

/-- `10 ^ n` as a floating-point number. -/
def floatPower (n : Nat) : Float := Float.ofScientific 1 false n

/-- `number * 10 ^ power`, rounded at each step; none beyond the finite numbers. -/
def scaleFloat (number : Float) (power : Int) : Option Float :=
  if power < -308 then
    if number == 0 then some number else scaleFloat (number / floatPower 308) (power + 308)
  else if power < 0 then some (number / floatPower power.natAbs)
  else if 308 < power then if number == 0 then some number else none
  else
    let scaled := number * floatPower power.natAbs
    if scaled.isInf then none else some scaled
termination_by power.natAbs
decreasing_by omega

namespace Numeral

/-- The number of characters up to the digits of the exponent. -/
def lengthBeforePower (numeral : Numeral) (signed : Bool) : Nat :=
  (if numeral.negative then 1 else 0) + numeral.whole.length +
    (match numeral.fraction with
      | some digits => digits.length + 1
      | none => 0) + if signed then 2 else 1

/-- A magnitude with the numeral's sign. -/
def signed (numeral : Numeral) (magnitude : Float) : Number :=
  .floating (.ofFloat (if numeral.negative then -magnitude else magnitude))

/-- The value of a numeral, or the number of characters read when it turns out too large. -/
def value (numeral : Numeral) (signedPower : Bool) : Except Nat Number :=
  let (significand, spare) := growSignificand 0 numeral.whole
  match numeral.fraction, numeral.power, spare with
  | none, none, [] =>
    if !numeral.negative then .ok (.integer significand)
    else if significand = 0 || 0x8000000000000000 < significand then
      .ok (numeral.signed (UInt64.ofNat significand).toFloat)
    else .ok (.integer (-significand))
  | fraction, power, spare =>
    let (significand, dropped) := growSignificand significand (fraction.getD [])
    let shift : Int := (spare.length : Int) - (fraction.getD []).length + dropped.length
    let total := numeral.lengthBeforePower signedPower
    match power with
    | none =>
      match scaleFloat (UInt64.ofNat significand).toFloat shift with
      | some magnitude => .ok (numeral.signed magnitude)
      | none => .error (total - if signedPower then 2 else 1)
    | some (negative, digits) =>
      match readPower 0 0 digits with
      | .error count =>
        if significand ≠ 0 && !negative then .error (total + count)
        else .ok (numeral.signed 0)
      | .ok power =>
        let shift := if negative then shift - power else shift + power
        match scaleFloat (UInt64.ofNat significand).toFloat shift with
        | some magnitude => .ok (numeral.signed magnitude)
        | none => .error (total + digits.length)

end Numeral

/-- A number read from its first character on. -/
inductive NumberReading
  | closed (value : Except Fault Number) (after : Cursor)
  | open (taken passed : Fault)

/-- The same fault whether the number is taken or passed over. -/
def NumberReading.fault (cause : Cause) (position : Position) : NumberReading :=
  .open (.stop cause position) (.stop cause position)

/-- The end of the text where a number must go on. -/
def NumberReading.ended (position : Position) : NumberReading :=
  .open (.stop .endInValue position) (.stop .invalidNumber position)

/-- A numeral read to its end. -/
def NumberReading.whole (numeral : Numeral) (signedPower : Bool) (start : Position)
    (rest : List Char) (length : Nat) : NumberReading :=
  let value := match numeral.value signedPower with
    | .ok value => .ok value
    | .error read => .error (.stop .numberOutOfRange (start.right read))
  .closed value ⟨rest, start.right length⟩

/-- Reads the exponent behind its letter. -/
def readExponent (numeral : Numeral) (start : Position) (chars : List Char) (length : Nat) :
    NumberReading :=
  let (negative, signed, chars) := match chars with
    | '+' :: rest => (false, true, rest)
    | '-' :: rest => (true, true, rest)
    | rest => (false, false, rest)
  let length := if signed then length + 1 else length
  match takeDigits chars with
  | ([], []) => .ended (start.right length)
  | ([], c :: _) => .fault .invalidNumber ((start.right length).nextByte c)
  | (digits, rest) =>
    .whole { numeral with power := some (negative, digits) } signed start rest
      (length + digits.length)

/-- Reads what may follow the digits of a number: an exponent, or nothing. -/
def readTail (numeral : Numeral) (start : Position) (chars : List Char) (length : Nat) :
    NumberReading :=
  match chars with
  | 'e' :: rest => readExponent numeral start rest (length + 1)
  | 'E' :: rest => readExponent numeral start rest (length + 1)
  | rest => .whole numeral false start rest length

/-- Reads what may follow the whole digits of a number. -/
def readFraction (numeral : Numeral) (start : Position) (chars : List Char) (length : Nat) :
    NumberReading :=
  match chars with
  | '.' :: rest =>
    match takeDigits rest with
    | ([], []) => .ended (start.right (length + 1))
    | ([], c :: _) => .fault .invalidNumber ((start.right (length + 1)).nextByte c)
    | (digits, rest) =>
      readTail { numeral with fraction := some digits } start rest (length + 1 + digits.length)
  | rest => readTail numeral start rest length

/-- Reads a number behind its sign: a single zero, or digits that do not start with one. -/
def readUnsigned (negative : Bool) (start : Position) (chars : List Char) : NumberReading :=
  let length := if negative then 1 else 0
  match takeDigits chars with
  | ([], []) => .ended (start.right length)
  | ([], c :: _) => .fault .invalidNumber ((start.right length).nextByte c)
  | (0 :: _ :: _, _) => .fault .invalidNumber (start.right (length + 2))
  | (digits, rest) =>
    readFraction ⟨negative, digits, none, none⟩ start rest (length + digits.length)

def readNumber (cursor : Cursor) : NumberReading :=
  match cursor.rest with
  | '-' :: rest => readUnsigned true cursor.position rest
  | rest => readUnsigned false cursor.position rest

end RpcSchema.Json
