import DoctypeInterfaces.Json.Scan

namespace DoctypeInterfaces.Json

def hexDigit? (c : Char) : Option Nat :=
  if '0' ≤ c && c ≤ '9' then some (c.toNat - '0'.toNat)
  else if 'a' ≤ c && c ≤ 'f' then some (c.toNat - 'a'.toNat + 10)
  else if 'A' ≤ c && c ≤ 'F' then some (c.toNat - 'A'.toNat + 10)
  else none

def hexNumber? (a b c d : Char) : Option Nat := do
  let a ← hexDigit? a
  let b ← hexDigit? b
  let c ← hexDigit? c
  let d ← hexDigit? d
  return ((a * 16 + b) * 16 + c) * 16 + d

def hasFourBytes (s : List Char) : Bool :=
  4 ≤ (s.take 4).foldl (fun n c => n + c.utf8Size) 0

def fourHex : Scan Nat := fun _ s =>
  if hasFourBytes s then
    match s with
    | a :: b :: c :: d :: rest =>
      match hexNumber? a b c d with
      | some n => .ok (n, rest)
      | none => .error .malformed
    | _ => .error .malformed
  else
    .error .truncated

def isHighSurrogate (n : Nat) : Bool :=
  0xD800 ≤ n && n ≤ 0xDBFF

def isLowSurrogate (n : Nat) : Bool :=
  0xDC00 ≤ n && n ≤ 0xDFFF

def pairChar (high low : Nat) : Char :=
  Char.ofNat (0x10000 + (high - 0xD800) * 0x400 + (low - 0xDC00))

/-- Reads what follows a backslash and the letter `u`. -/
def unicodeEscape : Scan Char := do
  let n ← fourHex
  if isLowSurrogate n then
    throw .malformed
  else if isHighSurrogate n then
    Scan.word ['\\', 'u']
    let m ← fourHex
    if isLowSurrogate m then
      return pairChar n m
    else
      throw .malformed
  else
    return Char.ofNat n

/-- The character that a letter after a backslash stands for. -/
def simpleEscape? : Char → Option Char
  | '"' => some '"'
  | '\\' => some '\\'
  | '/' => some '/'
  | 'b' => some '\x08'
  | 'f' => some '\x0c'
  | 'n' => some '\n'
  | 'r' => some '\r'
  | 't' => some '\t'
  | _ => none

/-- Reads what follows a backslash, with the given reading of code points. -/
def escapeWith (unicode : Scan Char) : Scan Char := fun bound s =>
  match s with
  | [] => .error .truncated
  | 'u' :: rest => unicode bound rest
  | c :: rest =>
    match simpleEscape? c with
    | some d => .ok (d, rest)
    | none => .error .malformed

/-- Reads one character of a string, or its closing quote. -/
def textStep (unicode : Scan Char) (found : List Char) : Scan (List Char ⊕ List Char) :=
  fun bound s => match s with
  | [] => .error .truncated
  | '"' :: rest => .ok (.inr found.reverse, rest)
  | '\\' :: rest =>
    match escapeWith unicode bound rest with
    | .ok (c, rest) => .ok (.inl (c :: found), rest)
    | .error e => .error e
  | c :: rest =>
    if c.toNat < 0x20 then .error .malformed else .ok (.inl (c :: found), rest)

/-- Reads a string for its text, from after the opening quote to the closing one. -/
def text : Scan String := do
  return String.ofList (← Scan.iterate (textStep unicodeEscape) [])

/-- Passes over a string, from after the opening quote to the closing one. -/
def skipText : Scan Unit := do
  let anyCode : Scan Char := do
    let _ ← fourHex
    return ' '
  let _ ← Scan.iterate (textStep anyCode) []

end DoctypeInterfaces.Json
