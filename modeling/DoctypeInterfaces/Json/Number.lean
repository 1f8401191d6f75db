import DoctypeInterfaces.Json.Scan

namespace DoctypeInterfaces.Json

inductive Number where
  /-- A whole number, zero or above. -/
  | natural (n : Nat)
  /-- A whole number below zero. -/
  | negative (n : Int)
  /-- Any other number, negative zero among them. -/
  | float (f : Float)

/-- A number as a found value. -/
def Number.found : Number → Found
  | .natural n => .integer n
  | .negative n => .integer n
  | .float f => .float f

def Number.isNonzero : Number → Bool
  | .natural n => n != 0
  | .negative n => n != 0
  | .float f => f != 0.0

def maxWord : Nat := 0xFFFFFFFFFFFFFFFF

/-- The greatest whole number whose negative fits 64 bits with a sign. -/
def maxNegated : Nat := 0x8000000000000000

/-- Appends digits to a significand as long as it fits 64 bits; gives it with the digits that are
left. -/
def absorb (n : Nat) : List Char → Nat × List Char
  | [] => (n, [])
  | d :: ds =>
    let next := n * 10 + (d.toNat - '0'.toNat)
    if next ≤ maxWord then absorb next ds else (n, d :: ds)

def floatPower (e : Nat) : Float :=
  Float.ofScientific 1 false e

/-- Multiplies or divides a float by a power of ten; nothing when the result is out of range. -/
def scaleFloat (f : Float) (exponent : Int) : Option Float :=
  if exponent.natAbs ≤ 308 then
    if 0 ≤ exponent then
      let scaled := f * floatPower exponent.natAbs
      if scaled.isInf then none else some scaled
    else
      some (f / floatPower exponent.natAbs)
  else if f == 0.0 then
    some f
  else if 0 ≤ exponent then
    none
  else
    scaleFloat (f / floatPower 308) (exponent + 308)
termination_by exponent.natAbs
decreasing_by omega

/-- The float of a significand, a power of ten and a sign; a number out of range is refused. -/
def floatNumber (isNegative : Bool) (significand : Nat) (exponent : Int) : Except Error Number :=
  match scaleFloat significand.toUInt64.toFloat exponent with
  | none => .error .malformed
  | some f => .ok (.float (if isNegative then -f else f))

def spanDigits (s : List Char) : List Char × List Char :=
  (s.takeWhile Char.isDigit, s.dropWhile Char.isDigit)

/-- Reads the digits of a whole number, which has no zero in front unless it is zero. -/
def wholeDigits : Scan (List Char) := fun _ s =>
  match s with
  | [] => .error .truncated
  | '0' :: rest =>
    match rest with
    | d :: _ => if d.isDigit then .error .malformed else .ok (['0'], rest)
    | [] => .ok (['0'], rest)
  | d :: _ => if d.isDigit then .ok (spanDigits s) else .error .malformed

def someDigits : Scan (List Char) := fun _ s =>
  match s with
  | [] => .error .truncated
  | d :: _ => if d.isDigit then .ok (spanDigits s) else .error .malformed

/-- Reads the digits after a decimal point, if there is one. -/
def fraction? : Scan (Option (List Char)) := fun bound s =>
  match s with
  | '.' :: rest =>
    match someDigits bound rest with
    | .ok (ds, rest) => .ok (some ds, rest)
    | .error e => .error e
  | _ => .ok (none, s)

def exponentSign : Scan Bool := fun _ s =>
  match s with
  | '+' :: rest => .ok (false, rest)
  | '-' :: rest => .ok (true, rest)
  | _ => .ok (false, s)

def exponent? : Scan (Option (Bool × List Char)) := fun bound s =>
  match s with
  | c :: rest =>
    if c == 'e' || c == 'E' then
      match exponentSign bound rest with
      | .error e => .error e
      | .ok (isNegative, rest) =>
        match someDigits bound rest with
        | .error e => .error e
        | .ok (ds, rest) => .ok (some (isNegative, ds), rest)
    else
      .ok (none, s)
  | [] => .ok (none, s)

structure NumberParts where
  whole : List Char
  fraction : Option (List Char)
  exponent : Option (Bool × List Char)

def numberParts : Scan NumberParts := do
  let whole ← wholeDigits
  let fraction ← fraction?
  let exponent ← exponent?
  return ⟨whole, fraction, exponent⟩

def digitsValue (ds : List Char) : Nat :=
  ds.foldl (fun n d => n * 10 + (d.toNat - '0'.toNat)) 0

/-- A number that is written as whole and fits 64 bits, or else its float. -/
def wholeNumber (isNegative : Bool) (significand : Nat) (dropped : Nat) : Except Error Number :=
  if dropped != 0 then
    floatNumber isNegative significand dropped
  else if !isNegative then
    .ok (.natural significand)
  else if significand == 0 || maxNegated < significand then
    .ok (.float (-significand.toUInt64.toFloat))
  else
    .ok (.negative (-significand))

/-- The greatest exponent that is not refused or rounded away at once. -/
def maxExponent : Nat := 0x7FFFFFFF

def NumberParts.value (parts : NumberParts) (isNegative : Bool) : Except Error Number :=
  let (significand, unread) := absorb 0 parts.whole
  match parts.fraction, parts.exponent with
  | none, none => wholeNumber isNegative significand unread.length
  | fraction, exponent =>
    let digits := fraction.getD []
    let (significand, dropped) := absorb significand digits
    let shift : Int := (unread.length : Int) - (digits.length - dropped.length : Nat)
    match exponent with
    | none => floatNumber isNegative significand shift
    | some (down, ds) =>
      let e := digitsValue ds
      if maxExponent < e then
        if significand != 0 && !down then
          .error .malformed
        else
          .ok (.float (if isNegative then -0.0 else 0.0))
      else
        floatNumber isNegative significand (if down then shift - e else shift + e)

/-- Reads a number for its value. -/
def number : Scan Number := fun bound s =>
  match s with
  | '-' :: rest =>
    match numberParts bound rest with
    | .error e => .error e
    | .ok (parts, rest) => (parts.value true).map fun n => (n, rest)
  | _ =>
    match numberParts bound s with
    | .error e => .error e
    | .ok (parts, rest) => (parts.value false).map fun n => (n, rest)

/-- Passes over a number, which must be whole even at the end of the text. -/
def skipNumber : Scan Unit := fun bound s =>
  let digits := if s.head? == some '-' then s.drop 1 else s
  match numberParts bound digits with
  | .error _ => .error .malformed
  | .ok (_, rest) => .ok ((), rest)

end DoctypeInterfaces.Json
