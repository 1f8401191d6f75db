import DoctypeInterfaces.Text.Lines
import DoctypeInterfaces.Text.Utf8

namespace DoctypeInterfaces

/-- A path as it is written, which need not be text. -/
structure Path where
  bytes : Bytes
  deriving DecidableEq, Repr, Inhabited

namespace Path

/-- The path that a text writes. -/
def ofText (s : String) : Path :=
  ⟨Text.encodeUtf8 s⟩

def text (p : Path) : String :=
  Text.decodeUtf8Lossy p.bytes

inductive Component where
  /-- The slash in front of an absolute path. -/
  | root
  /-- The dot in front of a relative path. -/
  | current
  | parent
  | name (s : Bytes)
  deriving DecidableEq, Repr

def slash : UInt8 := 0x2F

def dot : Bytes := [0x2E]

def dots : Bytes := [0x2E, 0x2E]

def segments (p : Path) : List Bytes :=
  Text.splitOn slash p.bytes

def innerComponent? (s : Bytes) : Option Component :=
  if s = [] ∨ s = dot then none else if s = dots then some .parent else some (.name s)

def firstComponent? (s : Bytes) : Option Component :=
  if s = dot then some .current else innerComponent? s

def isAbsolute (p : Path) : Bool :=
  p.bytes.head? == some slash

def components (p : Path) : List Component :=
  let inner := p.segments.tail.filterMap innerComponent?
  if p.isAbsolute then
    .root :: inner
  else
    (p.segments.head?.bind firstComponent?).toList ++ inner

def same (p q : Path) : Bool :=
  p.components == q.components

/-- Whether nothing is written. -/
def isEmpty (p : Path) : Bool :=
  p.bytes.isEmpty

/-- The second path below the first one; an absolute second path stands by itself. -/
def join (p q : Path) : Path :=
  if q.isAbsolute || p.isEmpty then q
  else if p.bytes.getLast? == some slash then ⟨p.bytes ++ q.bytes⟩
  else ⟨p.bytes ++ slash :: q.bytes⟩

def trimSegments (segments : List Bytes) : List Bytes :=
  (segments.reverse.dropWhile fun s => (innerComponent? s).isNone).reverse

def ofSegments (first : Bytes) (rest : List Bytes) : Path :=
  if first.isEmpty && rest.isEmpty then ⟨[slash]⟩ else ⟨[slash].intercalate (first :: rest)⟩

/-- The path without its last component; the root and the empty path have none. -/
def parent? (p : Path) : Option Path :=
  match p.segments with
  | [] => none
  | first :: rest =>
    match trimSegments rest with
    | [] => if first.isEmpty then none else some ⟨[]⟩
    | trimmed => some (ofSegments first (trimSegments trimmed.dropLast))

/-- The path without its last component, unless that is the empty path. -/
def dir? (p : Path) : Option Path :=
  p.parent?.filter fun q => !q.isEmpty

/-- The name at the end of a path. -/
def fileName? (p : Path) : Option Bytes :=
  match p.components.getLast? with
  | some (.name s) => some s
  | _ => none

def withFileName (p : Path) (name : Bytes) : Path :=
  match p.fileName?, p.parent? with
  | some _, some q => q.join ⟨name⟩
  | _, _ => p.join ⟨name⟩

/-- Where a file is written before it takes the place of the one at the path: beside it. -/
def temporary (p : Path) : Path :=
  p.withFileName (p.fileName?.getD [] ++ Text.encodeUtf8 ".tmp")

/-- The paths above a path, the nearest first, up to a number of them. -/
def ancestorsWithin : Nat → Path → List Path
  | 0, _ => []
  | n + 1, p =>
    match p.parent? with
    | none => []
    | some q => q :: ancestorsWithin n q

/-- The paths above a path, the nearest first. -/
def ancestors (p : Path) : List Path :=
  ancestorsWithin p.components.length p

def endsWith (p suffix : Path) : Bool :=
  suffix.components.isSuffixOf p.components

/-- The components of a path after those of the path it begins with. -/
def below? (root p : Path) : Option (List Component) :=
  if root.components.isPrefixOf p.components then
    some (p.components.drop root.components.length)
  else
    none

end Path

end DoctypeInterfaces
