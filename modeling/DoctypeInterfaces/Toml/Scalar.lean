namespace DoctypeInterfaces.Toml

inductive Value where
  | string (s : String)
  | boolean (b : Bool)
  | integer (text : String)
  | float (text : String)
  | datetime (text : String)
  | array (elements : List Value)
  | table (entries : List (String × Value))

/-- Whether every underscore stands between two digits. The first character follows `before`. -/
def areSeparators (isDigit : Char → Bool) (before : Char) : List Char → Bool
  | [] => true
  | c :: rest =>
    (c != '_' || isDigit before && rest.head?.any isDigit) && areSeparators isDigit c rest

def digitValue (c : Char) : Nat :=
  if c.isDigit then c.toNat - '0'.toNat else c.toLower.toNat - 'a'.toNat + 10

def valueOf (base : Nat) (digits : List Char) : Nat :=
  digits.foldl (fun n d => n * base + digitValue d) 0

def splitSign : List Char → Bool × List Char
  | '-' :: rest => (true, rest)
  | '+' :: rest => (false, rest)
  | s => (false, s)

def isHexDigit (c : Char) : Bool :=
  c.isDigit || ('a' ≤ c && c ≤ 'f') || ('A' ≤ c && c ≤ 'F')

def isOctalDigit (c : Char) : Bool :=
  '0' ≤ c && c ≤ '7'

def isBinaryDigit (c : Char) : Bool :=
  c == '0' || c == '1'

/-- Whether the underscores of a number in base ten separate digits. One may follow the sign. -/
def areSeparatorsAfterSign (isDigit : Char → Bool) (s : List Char) : Bool :=
  match s with
  | '-' :: body => areSeparators isDigit '0' body
  | '+' :: body => areSeparators isDigit '0' body
  | _ => areSeparators isDigit '_' s

/-- Whether a text is written as a whole number. In base ten no zero stands in front, and what comes
after the first underscore is left to the reading of the number, apart from the underscores. -/
def isInteger (s : List Char) : Bool :=
  let based (isDigit : Char → Bool) (digits : List Char) : Bool :=
    digits.all (fun c => isDigit c || c == '_') && areSeparators isDigit '_' digits
  match s with
  | '0' :: 'x' :: digits => based isHexDigit digits
  | '0' :: 'o' :: digits => based isOctalDigit digits
  | '0' :: 'b' :: digits => based isBinaryDigit digits
  | _ =>
    let body := (splitSign s).2
    match body.dropWhile Char.isDigit with
    | [] => body == ['0'] || (!body.isEmpty && body.head? != some '0')
    | '_' :: rest =>
      body.head? != some '0' && !rest.any (fun c => c == '.' || c == 'e' || c == 'E') &&
        areSeparatorsAfterSign isHexDigit s
    | _ => false

def digitsValue? (isDigit : Char → Bool) (base : Nat) (s : List Char) : Option Nat :=
  if !s.isEmpty && s.all isDigit then some (valueOf base s) else none

/-- Whether a text that is written as a whole number stands for one of at most 128 bits. -/
def fitsInteger (s : List Char) : Bool :=
  let fits (isDigit : Char → Bool) (base : Nat) (digits : List Char) : Bool :=
    (digitsValue? isDigit base digits).any (· < Nat.pow 2 128)
  match s.filter (· != '_') with
  | '0' :: 'x' :: digits => fits isHexDigit 16 digits
  | '0' :: 'o' :: digits => fits isOctalDigit 8 digits
  | '0' :: 'b' :: digits => fits isBinaryDigit 2 digits
  | '-' :: digits => (digitsValue? Char.isDigit 10 digits).any (· ≤ Nat.pow 2 127)
  | digits => fits Char.isDigit 10 (splitSign digits).2

/-- Whether a number is the limit of double precision or beyond: it rounds to infinity. -/
def isBeyondFloat (digits : List Char) (exponent : Int) : Bool :=
  let n := valueOf 10 digits
  let size : Int := (digits.dropWhile (· == '0')).length + exponent
  if n == 0 || size < 300 then false
  else if 320 < size then true
  else
    let limit := Nat.pow 2 1024 - Nat.pow 2 970
    if 0 ≤ exponent then limit ≤ n * Nat.pow 10 exponent.toNat
    else limit * Nat.pow 10 (-exponent).toNat ≤ n

/-- A floating-point number in base ten: its digits before and after the point, and its exponent. -/
structure Scientific where
  whole : List Char
  fraction : List Char
  exponent : Int

/-- The digits after a decimal point, none without one, and what follows them. -/
def splitFraction? (s : List Char) : Option (List Char × List Char) :=
  match s with
  | '.' :: rest =>
    let digits := rest.takeWhile Char.isDigit
    if digits.isEmpty then none else some (digits, rest.dropWhile Char.isDigit)
  | _ => some ([], s)

def exponentOf? (s : List Char) : Option Int :=
  match s with
  | [] => some 0
  | c :: rest =>
    if c == 'e' || c == 'E' then
      let (isNegative, digits) := splitSign rest
      (digitsValue? Char.isDigit 10 digits).map fun n => if isNegative then -(n : Int) else n
    else
      none

def scientific? (s : List Char) : Option Scientific := do
  let whole := s.takeWhile Char.isDigit
  let (fraction, rest) ← splitFraction? (s.dropWhile Char.isDigit)
  let exponent ← exponentOf? rest
  if whole.isEmpty then none else return ⟨whole, fraction, exponent⟩

/-- Whether a text without sign stands for infinity or for no number. -/
def isNonFinite (body : List Char) : Bool :=
  body == ['i', 'n', 'f'] || body == ['n', 'a', 'n']

/-- Whether a text is written as a floating-point number, in which no zero stands in front. -/
def isFloat (s : List Char) : Bool :=
  let body := (splitSign s).2
  isNonFinite body ||
    (body.any (fun c => c == '.' || c == 'e' || c == 'E') &&
      areSeparatorsAfterSign Char.isDigit s &&
      (scientific? (body.filter (· != '_'))).any fun x =>
        x.whole.length == 1 || body.head? != some '0')

/-- Whether a text that is written as a floating-point number stands for one within range. -/
def fitsFloat (s : List Char) : Bool :=
  let body := (splitSign (s.filter (· != '_'))).2
  isNonFinite body || (scientific? body).any fun x =>
    !isBeyondFloat (x.whole ++ x.fraction) (x.exponent - x.fraction.length)

def twoDigits? (least most : Nat) : List Char → Option (Nat × List Char)
  | a :: b :: rest =>
    if a.isDigit && b.isDigit then
      let n := valueOf 10 [a, b]
      if least ≤ n && n ≤ most then some (n, rest) else none
    else
      none
  | _ => none

def daysIn (year month : Nat) : Nat :=
  let isLeap := year % 4 == 0 && (year % 100 != 0 || year % 400 == 0)
  if month == 2 then if isLeap then 29 else 28
  else if [4, 6, 9, 11].contains month then 30
  else 31

def after? (c : Char) : List Char → Option (List Char)
  | d :: rest => if d = c then some rest else none
  | [] => none

def afterDate? (s : List Char) : Option (List Char) := do
  let year := s.take 4
  if year.length == 4 && year.all Char.isDigit then
    let s ← after? '-' (s.drop 4)
    let (month, s) ← twoDigits? 1 12 s
    let s ← after? '-' s
    let (_, s) ← twoDigits? 1 (daysIn (valueOf 10 year) month) s
    return s
  else
    none

def afterSecondFraction? (s : List Char) : Option (List Char) :=
  match s with
  | '.' :: rest =>
    if (rest.takeWhile Char.isDigit).isEmpty then none else some (rest.dropWhile Char.isDigit)
  | _ => some s

def afterTime? (s : List Char) : Option (List Char) := do
  let (_, s) ← twoDigits? 0 23 s
  let s ← after? ':' s
  let (_, s) ← twoDigits? 0 59 s
  match s with
  | ':' :: rest =>
    let (_, s) ← twoDigits? 0 60 rest
    afterSecondFraction? s
  | _ => return s

def isOffset (s : List Char) : Bool :=
  match s with
  | [] => true
  | ['Z'] => true
  | ['z'] => true
  | sign :: rest =>
    (sign == '+' || sign == '-') &&
      (do
        let (_, s) ← twoDigits? 0 23 rest
        let s ← after? ':' s
        let (_, s) ← twoDigits? 0 59 s
        return s.isEmpty).getD false

def isDatetime (s : List Char) : Bool :=
  match afterDate? s with
  | none => afterTime? s == some []
  | some [] => true
  | some (c :: rest) =>
    (c == 'T' || c == 't' || c == ' ') && (afterTime? rest).any isOffset

def scalar? (s : List Char) : Option Value :=
  if s == ['t', 'r', 'u', 'e'] then some (.boolean true)
  else if s == ['f', 'a', 'l', 's', 'e'] then some (.boolean false)
  else if isInteger s then some (.integer (String.ofList s))
  else if isFloat s then some (.float (String.ofList s))
  else if isDatetime s then some (.datetime (String.ofList s))
  else none

/-- Whether a character does not end a number, a date, a time or a truth value. -/
def isScalarChar (c : Char) : Bool :=
  !(['=', ',', '[', ']', '\x7b', '\x7d', ' ', '\t', '#', '\r', '\n'].contains c)

def splitScalar (s : List Char) : List Char × List Char :=
  let run := s.takeWhile isScalarChar
  let rest := s.dropWhile isScalarChar
  match rest with
  | ' ' :: d :: _ =>
    if afterDate? run == some [] && d.isDigit then
      (run ++ ' ' :: (rest.drop 1).takeWhile isScalarChar, (rest.drop 1).dropWhile isScalarChar)
    else
      (run, rest)
  | _ => (run, rest)

mutual

def Value.fits : Value → Bool
  | .integer text => fitsInteger text.toList
  | .float text => fitsFloat text.toList
  | .array elements => Value.allFit elements
  | .table entries => Value.entriesFit entries
  | _ => true

def Value.allFit : List Value → Bool
  | [] => true
  | v :: rest => v.fits && Value.allFit rest

def Value.entriesFit : List (String × Value) → Bool
  | [] => true
  | (_, v) :: rest => v.fits && Value.entriesFit rest

end

end DoctypeInterfaces.Toml
