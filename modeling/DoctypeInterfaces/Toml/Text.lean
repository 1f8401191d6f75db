import DoctypeInterfaces.Text.Scan
import DoctypeInterfaces.Toml.Scalar

namespace DoctypeInterfaces.Toml

abbrev Scan := Text.Scan Unit

def refuse {α : Type} : Scan α :=
  throw ()

/-- Repeats a step, which must read something, until it gives a result. -/
def iterate {σ α : Type} (step : σ → Scan (σ ⊕ α)) (state : σ) : Scan α :=
  Text.Scan.iterate () step state

def word (w : List Char) : Scan Unit := fun _ s =>
  if w.isPrefixOf s then .ok ((), s.drop w.length) else .error ()

def isPlain (c : Char) : Bool :=
  c == '\t' || (0x20 ≤ c.toNat && c.toNat != 0x7F)

/-- Passes over blanks on a line. -/
def blanks : Scan Unit :=
  discard (Text.Scan.takeWhile fun c => c == ' ' || c == '\t')

def comment : Scan Unit := fun _ s =>
  match s with
  | '#' :: rest => .ok ((), rest.dropWhile isPlain)
  | _ => .ok ((), s)

def afterLineEnd? : List Char → Option (List Char)
  | '\n' :: rest => some rest
  | '\r' :: '\n' :: rest => some rest
  | _ => none

def lineEnd : Scan Unit := fun _ s =>
  match afterLineEnd? s with
  | some rest => .ok ((), rest)
  | none => .error ()

def endLine : Scan Unit := do
  blanks
  comment
  if (← Text.Scan.peek).isSome then
    lineEnd

/-- Passes over blanks, comments and line ends. -/
def space : Scan Unit :=
  let step (_ : Unit) : Scan (Unit ⊕ Unit) := do
    blanks
    comment
    match ← Text.Scan.peek with
    | some '\n' => lineEnd; return .inl ()
    | some '\r' => lineEnd; return .inl ()
    | _ => return .inr ()
  iterate step ()

def charOf (n : Nat) : Scan Char :=
  if n.isValidChar then return Char.ofNat n else refuse

def hexChar (count : Nat) : Scan Char := fun bound s =>
  let digits := s.take count
  if digits.length == count && digits.all isHexDigit then
    charOf (valueOf 16 digits) bound (s.drop count)
  else
    .error ()

def escape : Scan Char := fun bound s =>
  match s with
  | 'b' :: rest => .ok ('\x08', rest)
  | 't' :: rest => .ok ('\t', rest)
  | 'n' :: rest => .ok ('\n', rest)
  | 'f' :: rest => .ok ('\x0c', rest)
  | 'r' :: rest => .ok ('\r', rest)
  | 'e' :: rest => .ok ('\x1b', rest)
  | '"' :: rest => .ok ('"', rest)
  | '\\' :: rest => .ok ('\\', rest)
  | 'x' :: rest => hexChar 2 bound rest
  | 'u' :: rest => hexChar 4 bound rest
  | 'U' :: rest => hexChar 8 bound rest
  | _ => .error ()

/-- Reads one character of a string on one line after those found so far, the last one first, or
the quote that ends it. -/
def lineStep (quote : Char) (found : List Char) : Scan (List Char ⊕ List Char) :=
  fun bound s => match s with
  | [] => .error ()
  | c :: rest =>
    if c = quote then
      .ok (.inr found.reverse, rest)
    else if c = '\\' && quote = '"' then
      (escape bound rest).map fun (c, rest) => (.inl (c :: found), rest)
    else if isPlain c then
      .ok (.inl (c :: found), rest)
    else
      .error ()

/-- The text without the blanks and line ends in front. -/
def dropBreaks : List Char → List Char
  | ' ' :: rest => dropBreaks rest
  | '\t' :: rest => dropBreaks rest
  | '\n' :: rest => dropBreaks rest
  | '\r' :: '\n' :: rest => dropBreaks rest
  | s => s

/-- What follows a line end and the blanks around it, if only blanks stand before the line end. -/
def afterLineBreak? (s : List Char) : Option (List Char) :=
  (afterLineEnd? (s.dropWhile fun c => c == ' ' || c == '\t')).map dropBreaks

/-- Reads one character of a string on several lines after those found so far, the last one first,
or the quotes that end it. One or two quotes before the last three belong to the string; a backslash
at the end of a line joins it with the next text. Other line ends stay as they are. -/
def linesStep (quote : Char) (found : List Char) : Scan (List Char ⊕ List Char) :=
  fun bound s => match s with
  | [] => .error ()
  | '\r' :: '\n' :: rest => .ok (.inl ('\n' :: '\r' :: found), rest)
  | c :: rest =>
    if c = quote then
      let quotes := (s.takeWhile (· == quote)).length
      if 3 ≤ quotes then
        let inner := min (quotes - 3) 2
        .ok (.inr (found.reverse ++ List.replicate inner quote), s.drop (inner + 3))
      else
        .ok (.inl (c :: found), rest)
    else if c = '\\' && quote = '"' then
      match afterLineBreak? rest with
      | some rest => .ok (.inl found, rest)
      | none => (escape bound rest).map fun (c, rest) => (.inl (c :: found), rest)
    else if isPlain c || c = '\n' then
      .ok (.inl (c :: found), rest)
    else
      .error ()

def lineString (quote : Char) : Scan String := do
  word [quote]
  return String.ofList (← iterate (lineStep quote) [])

/-- Reads a string on several lines. A line end right after the opening quotes is no part of it. -/
def linesString (quote : Char) : Scan String := do
  word [quote, quote, quote]
  match ← Text.Scan.peek with
  | some '\n' => lineEnd
  | some '\r' => lineEnd
  | _ => pure ()
  return String.ofList (← iterate (linesStep quote) [])

def string (quote : Char) : Scan String := fun bound s =>
  if [quote, quote, quote].isPrefixOf s then linesString quote bound s
  else lineString quote bound s

end DoctypeInterfaces.Toml
