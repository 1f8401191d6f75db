import DoctypeInterfaces.Path.Order
import DoctypeInterfaces.Storage.Program
import DoctypeInterfaces.Text.Utf8

namespace DoctypeInterfaces

abbrev PathMap (α : Type) := List (Path × α)

namespace PathMap

variable {α : Type}

/-- The value at a path. -/
def get? (map : PathMap α) (p : Path) : Option α :=
  (map.find? fun entry => entry.1.same p).map (·.2)

def contains (map : PathMap α) (p : Path) : Bool :=
  map.any fun entry => entry.1.same p

def put (p : Path) (value : α) : PathMap α → PathMap α
  | [] => [(p, value)]
  | entry :: rest =>
    if entry.1.same p then (entry.1, value) :: rest else entry :: put p value rest

end PathMap

def Path.addTo (paths : List Path) (p : Path) : List Path :=
  if paths.any fun q => q.same p then paths else paths ++ [p]

end DoctypeInterfaces

namespace DoctypeInterfaces.Storage

structure MemoryTree where
  files : PathMap Bytes
  dirs : List Path
  deriving DecidableEq, Repr

/-- The tree without files and directories. -/
def MemoryTree.empty : MemoryTree :=
  ⟨[], []⟩

namespace MemoryTree

def isDir (tree : MemoryTree) (p : Path) : Bool :=
  tree.dirs.any fun q => q.same p

def addParents (tree : MemoryTree) (p : Path) : MemoryTree :=
  { tree with dirs := (p.ancestors.takeWhile fun q => !q.isEmpty).foldl Path.addTo tree.dirs }

def insert (tree : MemoryTree) (p : Path) (contents : Bytes) : MemoryTree :=
  { tree.addParents p with files := tree.files.put p contents }

def createDirAll (tree : MemoryTree) (p : Path) : MemoryTree :=
  { tree.addParents p with dirs := Path.addTo (tree.addParents p).dirs p }

def isChild (dir p : Path) : Bool :=
  p.parent?.any fun q => q.same dir

/-- The entries of a directory in path order, a directory before a file of the same path. -/
def children (tree : MemoryTree) (dir : Path) : List DirEntry :=
  let dirs := (tree.dirs.filter (isChild dir)).map fun p => ⟨p, true⟩
  let files := (tree.files.filter fun file => isChild dir file.1).map fun file => ⟨file.1, false⟩
  Path.sortBy DirEntry.path (dirs ++ files)

end MemoryTree

/-- A storage in memory. -/
structure Memory where
  tree : MemoryTree
  /-- The directories whose listing fails, with the kind of the failure. -/
  failing : PathMap IoKind
  readLog : List Path
  listings : Nat
  writes : Nat
  deriving DecidableEq, Repr

namespace Memory

/-- The storage with nothing in it. -/
def empty : Memory :=
  ⟨.empty, [], [], 0, 0⟩

/-- The error for a path at which there is nothing. -/
def notFound (p : Path) : IoError :=
  ⟨.notFound, s!"{p.text} does not exist"⟩

def insert (memory : Memory) (p : Path) (contents : Bytes) : Memory :=
  { memory with tree := memory.tree.insert p contents }

def failListing (memory : Memory) (p : Path) (kind : IoKind) : Memory :=
  { memory with failing := memory.failing.put p kind }

/-- The text of a file, with replacement characters for what is no text. -/
def contents? (memory : Memory) (p : Path) : Option String :=
  (memory.tree.files.get? p).map Text.decodeUtf8Lossy

def readCount (memory : Memory) (p : Path) : Nat :=
  memory.readLog.countP fun q => q.same p

def listing (memory : Memory) (p : Path) : Except IoError (List DirEntry) :=
  match memory.failing.get? p with
  | some kind => .error ⟨kind, s!"cannot list {p.text}"⟩
  | none => if memory.tree.isDir p then .ok (memory.tree.children p) else .error (notFound p)

/-- What reading a file gives. -/
def contents (memory : Memory) (p : Path) : Except IoError Bytes :=
  match memory.tree.files.get? p with
  | some contents => .ok contents
  | none => .error (notFound p)

/-- The tree after a file is written, which needs the directory of the file. -/
def writing (memory : Memory) (p : Path) (contents : Bytes) : Except IoError MemoryTree :=
  match p.dir?.filter fun dir => !memory.tree.isDir dir with
  | some dir => .error (notFound dir)
  | none => .ok { memory.tree with files := memory.tree.files.put p contents }

/-- Answers a call. -/
def answer : (c : Call) → StateM Memory c.Answer
  | .read p => fun memory =>
    (memory.contents p, { memory with readLog := memory.readLog ++ [p] })
  | .listDir p => fun memory =>
    (memory.listing p, { memory with listings := memory.listings + 1 })
  | .createDirAll p => fun memory =>
    (.ok (), { memory with tree := memory.tree.createDirAll p })
  | .writeAtomic p contents => fun memory =>
    let counted := { memory with writes := memory.writes + 1 }
    match memory.writing p contents with
    | .ok tree => (.ok (), { counted with tree := tree })
    | .error e => (.error e, counted)
  | .isPresent p => fun memory =>
    (memory.tree.isDir p || memory.tree.files.contains p, memory)
  | .overwrite p contents => fun memory =>
    match memory.writing p contents with
    | .ok tree => (.ok (), { memory with tree := tree })
    | .error e => (.error e, memory)

/-- A number that bounds the directories of a storage and the bytes of its files. -/
def extent (memory : Memory) : Nat :=
  memory.tree.files.foldl (fun n file => n + file.2.length) (memory.tree.dirs.length + 1)

end Memory

end DoctypeInterfaces.Storage
