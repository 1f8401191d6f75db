namespace DoctypeInterfaces.Decimal

structure Quotient where
  num : Nat
  den : Nat
  deriving DecidableEq, Repr

def Quotient.le (x y : Quotient) : Bool :=
  x.num * y.den ≤ y.num * x.den

def Quotient.scaled (m b : Nat) (e : Int) : Quotient :=
  if 0 ≤ e then ⟨m * Nat.pow b e.toNat, 1⟩ else ⟨m, Nat.pow b (-e).toNat⟩

/-- A positive binary number `mantissa * 2 ^ exponent` and the quarters of its last place that
separate it from the reals that round to its lower neighbour. -/
structure Binary where
  mantissa : Nat
  exponent : Int
  quartersBelow : Nat := 2
  deriving DecidableEq, Repr

def Binary.value (x : Binary) : Quotient :=
  .scaled x.mantissa 2 x.exponent

/-- Whether a positive real rounds to the number; an even mantissa also takes the two ends. -/
def Binary.rounds (x : Binary) (y : Quotient) : Bool :=
  let low := Quotient.scaled (4 * x.mantissa - x.quartersBelow) 2 (x.exponent - 2)
  let high := Quotient.scaled (4 * x.mantissa + 2) 2 (x.exponent - 2)
  if x.mantissa % 2 == 0 then
    low.le y && y.le high
  else
    !y.le low && !high.le y

structure Digits where
  digits : Nat
  exponent : Int
  deriving DecidableEq, Repr

def Digits.value (d : Digits) : Quotient :=
  .scaled d.digits 10 d.exponent

/-- The exponent of the greatest power of ten that is not above the number, which must lie within
the range of double precision. -/
def Binary.magnitude (x : Binary) : Int :=
  let exponents := (List.range 640).map fun (i : Nat) => (308 : Int) - i
  (exponents.find? fun e => (Quotient.scaled 1 10 e).le x.value).getD (-332)

/-- The nearer of the decimals `n * 10 ^ e` and `(n + 1) * 10 ^ e` around the number, among those
that round to it; of two at equal distance the even one. -/
def Binary.nearestOnGrid (x : Binary) (e : Int) : Option Digits :=
  let v := x.value
  let grid := Quotient.scaled 1 10 e
  let n := v.num * grid.den / (v.den * grid.num)
  let below : Digits := ⟨n, e⟩
  let above : Digits := ⟨n + 1, e⟩
  let twice : Quotient := ⟨2 * v.num, v.den⟩
  let middle := Quotient.scaled (2 * n + 1) 10 e
  match x.rounds below.value && n != 0, x.rounds above.value with
  | true, false => some below
  | false, true => some above
  | false, false => none
  | true, true =>
    if !middle.le twice then some below
    else if !twice.le middle then some above
    else if n % 2 == 0 then some below
    else some above

/-- The decimal with the fewest digits that rounds to the number. -/
def Binary.shortest (x : Binary) : Digits :=
  let top := x.magnitude
  ((List.range 17).findSome? fun (n : Nat) => x.nearestOnGrid (top - n)).getD ⟨0, 0⟩

/-- The value of the lowest bit above the fraction of a double. -/
def fractionLimit : Nat := 0x10000000000000

/-- A finite double as its sign and, unless it is zero, its magnitude. -/
def ofFloat (f : Float) : Bool × Option Binary :=
  let bits : Nat := f.toBits.toNat
  let isNegative := 0x8000000000000000 ≤ bits
  let field : Nat := bits / fractionLimit % 0x800
  let fraction : Nat := bits % fractionLimit
  if field == 0 then
    (isNegative, if fraction == 0 then none else some ⟨fraction, -1074, 2⟩)
  else
    let quarters := if fraction == 0 && field != 1 then 1 else 2
    (isNegative, some ⟨fractionLimit + fraction, (field : Int) - 1075, quarters⟩)

end DoctypeInterfaces.Decimal
