namespace DoctypeInterfaces

/-- The contents of a file, or the name of one. -/
abbrev Bytes := List UInt8

namespace Text

def isContinuation (b : UInt8) : Bool :=
  0x80 ≤ b && b ≤ 0xBF

def encodeChar (c : Char) : List UInt8 :=
  let n := c.toNat
  if n < 0x80 then
    [UInt8.ofNat n]
  else if n < 0x800 then
    [UInt8.ofNat (0xC0 + n / 0x40), UInt8.ofNat (0x80 + n % 0x40)]
  else if n < 0x10000 then
    [UInt8.ofNat (0xE0 + n / 0x1000), UInt8.ofNat (0x80 + n / 0x40 % 0x40),
     UInt8.ofNat (0x80 + n % 0x40)]
  else
    [UInt8.ofNat (0xF0 + n / 0x40000), UInt8.ofNat (0x80 + n / 0x1000 % 0x40),
     UInt8.ofNat (0x80 + n / 0x40 % 0x40), UInt8.ofNat (0x80 + n % 0x40)]

def encodeUtf8 (s : String) : List UInt8 :=
  s.toList.flatMap encodeChar

inductive Utf8Piece where
  | char (c : Char)
  /-- So many bytes that no byte after them could make a character. -/
  | invalid (size : Nat)
  /-- So many bytes at the end that more bytes could make a character. -/
  | unfinished (size : Nat)
  deriving DecidableEq, Repr

/-- The least and the greatest byte that may follow a leading byte. -/
def secondRange (lead : UInt8) : UInt8 × UInt8 :=
  if lead = 0xE0 then (0xA0, 0xBF)
  else if lead = 0xED then (0x80, 0x9F)
  else if lead = 0xF0 then (0x90, 0xBF)
  else if lead = 0xF4 then (0x80, 0x8F)
  else (0x80, 0xBF)

def isSecond (lead b : UInt8) : Bool :=
  (secondRange lead).1 ≤ b && b ≤ (secondRange lead).2

def charOfBits (lead : Nat) (continuation : List UInt8) : Char :=
  Char.ofNat (continuation.foldl (fun n b => n * 0x40 + b.toNat % 0x40) lead)

def nextPiece (lead : UInt8) (tail : List UInt8) : Utf8Piece × List UInt8 :=
  if lead < 0x80 then
    (.char (Char.ofNat lead.toNat), tail)
  else if lead < 0xC2 || 0xF4 < lead then
    (.invalid 1, tail)
  else
    match tail with
    | [] => (.unfinished 1, [])
    | b :: tail₁ =>
      if !isSecond lead b then
        (.invalid 1, tail)
      else if lead < 0xE0 then
        (.char (charOfBits (lead.toNat % 0x20) [b]), tail₁)
      else
        match tail₁ with
        | [] => (.unfinished 2, [])
        | c :: tail₂ =>
          if !isContinuation c then
            (.invalid 2, tail₁)
          else if lead < 0xF0 then
            (.char (charOfBits (lead.toNat % 0x10) [b, c]), tail₂)
          else
            match tail₂ with
            | [] => (.unfinished 3, [])
            | d :: tail₃ =>
              if !isContinuation d then
                (.invalid 3, tail₂)
              else
                (.char (charOfBits (lead.toNat % 0x08) [b, c, d]), tail₃)

theorem length_nextPiece_le (lead : UInt8) (tail : List UInt8) :
    (nextPiece lead tail).2.length ≤ tail.length := by
  unfold nextPiece
  repeat' split
  all_goals simp <;> omega

/-- The pieces of a byte sequence, after those found so far, the last one first. -/
def piecesAfter (found : List Utf8Piece) : List UInt8 → List Utf8Piece
  | [] => found.reverse
  | lead :: tail =>
    have := length_nextPiece_le lead tail
    piecesAfter ((nextPiece lead tail).1 :: found) (nextPiece lead tail).2
termination_by bytes => bytes.length
decreasing_by simp only [List.length_cons]; omega

def utf8Pieces (bytes : List UInt8) : List Utf8Piece :=
  piecesAfter [] bytes

inductive Utf8Error where
  | invalid (size index : Nat)
  | unfinished (index : Nat)
  deriving DecidableEq, Repr

def Utf8Error.message : Utf8Error → String
  | .invalid size index => s!"invalid utf-8 sequence of {size} bytes from index {index}"
  | .unfinished index => s!"incomplete utf-8 byte sequence from index {index}"

/-- The text of the pieces, which begin `index` bytes in, after the characters found so far. -/
def textOfPieces (index : Nat) (found : List Char) : List Utf8Piece → Except Utf8Error String
  | [] => .ok (String.ofList found.reverse)
  | .char c :: rest => textOfPieces (index + (encodeChar c).length) (c :: found) rest
  | .invalid size :: _ => .error (.invalid size index)
  | .unfinished _ :: _ => .error (.unfinished index)

def decodeUtf8 (bytes : List UInt8) : Except Utf8Error String :=
  textOfPieces 0 [] (utf8Pieces bytes)

/-- The character that a piece stands for when bytes that are no text are replaced. -/
def Utf8Piece.toChar : Utf8Piece → Char
  | .char c => c
  | .invalid _ => '\ufffd'
  | .unfinished _ => '\ufffd'

/-- Reads text, with a replacement character for each piece that is none. -/
def decodeUtf8Lossy (bytes : List UInt8) : String :=
  String.ofList ((utf8Pieces bytes).map Utf8Piece.toChar)

end Text

end DoctypeInterfaces
