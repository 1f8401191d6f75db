import DoctypeInterfaces.Decimal.Shortest

namespace DoctypeInterfaces.Decimal

/-- How decimals are written: the least and the greatest power of ten that is written positionally.
-/
structure Style where
  positionalFrom : Int
  positionalTo : Int

def style : Style :=
  ⟨-5, 15⟩

/-- The digits `s` before and after the point, when the first of them stands for `10 ^ power`. -/
def positional (s : List Char) (power : Int) : String :=
  if power < 0 then
    "0." ++ String.ofList (List.replicate (-power - 1).toNat '0' ++ s)
  else
    let whole := power.toNat + 1
    let front := s.take whole ++ List.replicate (whole - s.length) '0'
    let back := s.drop whole
    String.ofList front ++ "." ++ (if back.isEmpty then "0" else String.ofList back)

/-- The digits `s` with an exponent and its sign, when the first of them stands for `10 ^ power`. -/
def scientific (s : List Char) (power : Int) : String :=
  let front := s.take 1
  let back := s.drop 1
  let point := if back.isEmpty then "" else "." ++ String.ofList back
  let sign := if power < 0 then "-" else "+"
  String.ofList front ++ point ++ "e" ++ sign ++ toString power.natAbs

def Digits.text (st : Style) (d : Digits) : String :=
  let s := (toString d.digits).toList
  let power := d.exponent + s.length - 1
  let kept := (s.reverse.dropWhile (· == '0')).reverse
  if st.positionalFrom ≤ power && power ≤ st.positionalTo then
    positional kept power
  else
    scientific kept power

def floatText (f : Float) : String :=
  let (negative, magnitude) := ofFloat f
  let body := match magnitude with
    | none => "0.0"
    | some x => x.shortest.text style
  (if negative then "-" else "") ++ body

end DoctypeInterfaces.Decimal
