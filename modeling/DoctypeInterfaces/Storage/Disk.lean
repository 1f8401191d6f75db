import DoctypeInterfaces.Path.Order
import DoctypeInterfaces.Storage.Program
import DoctypeInterfaces.Text.Utf8

namespace DoctypeInterfaces.Storage

inductive DiskNode where
  /-- The file of a number, which may stand at several locations. -/
  | file (number : Nat)
  | dir
  /-- A symbolic link, which may stand at several locations, too. -/
  | link (number : Nat) (target : Path)
  deriving DecidableEq, Repr

/-- The number by which a file or a link is known. -/
def DiskNode.number : DiskNode → Nat
  | .file number => number
  | .dir => 0
  | .link number _ => number

abbrev Location := List Bytes

def Location.ofTexts (names : List String) : Location :=
  names.map Text.encodeUtf8

/-- A disk with its working directory. The root is a directory and has no entry of its own. -/
structure Disk where
  nodes : List (Location × DiskNode)
  /-- The contents of the files, by number; a file that has none here is empty. -/
  stored : List (Nat × Bytes)
  working : Location
  deriving DecidableEq, Repr

namespace Disk

/-- The errors of a disk, with their texts. -/
def error : IoKind → IoError
  | .notFound => ⟨.notFound, "No such file or directory (os error 2)"⟩
  | .alreadyExists => ⟨.alreadyExists, "File exists (os error 17)"⟩
  | .resourceBusy => ⟨.resourceBusy, "Device or resource busy (os error 16)"⟩
  | .notADirectory => ⟨.notADirectory, "Not a directory (os error 20)"⟩
  | .isADirectory => ⟨.isADirectory, "Is a directory (os error 21)"⟩
  | .invalidFilename => ⟨.invalidFilename, "File name too long (os error 36)"⟩
  | .filesystemLoop => ⟨.filesystemLoop, "Too many levels of symbolic links (os error 40)"⟩
  | .invalidInput => ⟨.invalidInput, "file name contained an unexpected NUL byte"⟩
  | kind => ⟨kind, "failed to create whole tree"⟩

/-- A disk with nothing but an empty working directory. -/
def empty : Disk :=
  ⟨[(.ofTexts ["work"], .dir)], [], .ofTexts ["work"]⟩

/-- What stands at a location. -/
def get? (disk : Disk) : Location → Option DiskNode
  | [] => some .dir
  | location => disk.nodes.lookup location

def put (disk : Disk) (location : Location) (node : DiskNode) : Disk :=
  if (disk.nodes.lookup location).isSome then
    { disk with nodes := disk.nodes.map fun entry =>
        if entry.1 = location then (location, node) else entry }
  else
    { disk with nodes := disk.nodes ++ [(location, node)] }

def erase (disk : Disk) (location : Location) : Disk :=
  { disk with nodes := disk.nodes.filter fun entry => entry.1 ≠ location }

def bytesOf (disk : Disk) (number : Nat) : Bytes :=
  (disk.stored.lookup number).getD []

def setBytes (disk : Disk) (number : Nat) (contents : Bytes) : Disk :=
  { disk with stored := (number, contents) :: disk.stored.filter fun file => file.1 ≠ number }

def freshNumber (disk : Disk) : Nat :=
  disk.nodes.foldr (fun entry n => max entry.2.number n) 0 + 1

def maxLinks : Nat := 40

def maxName : Nat := 255

def maxPath : Nat := 4095

/-- A step on the way of a path. -/
inductive Step where
  | stay
  | up
  | enter (name : Bytes)
  /-- Stays in what must be a directory, because the path ends with a slash. -/
  | slash
  deriving DecidableEq, Repr

def stepOf? (s : Bytes) : Option Step :=
  if s = [] then none
  else if s = Path.dot then some .stay
  else if s = Path.dots then some .up
  else some (.enter s)

def stepsOf (path : Path) : List Step :=
  let steps := path.segments.filterMap stepOf?
  if 1 < path.segments.length && path.segments.getLast? == some [] then steps ++ [.slash]
  else steps

inductive Ending where
  | target
  | entry
  | place
  /-- A file to write, whose name no slash may follow: not even in a link that leads to it. -/
  | file
  deriving DecidableEq, Repr

def Ending.followsLink : Ending → Bool
  | .target | .file => true
  | .entry | .place => false

inductive Place where
  | found (location : Location)
  /-- To a name in a directory that has no such entry. -/
  | vacant (dir : Location) (name : Bytes)
  deriving DecidableEq, Repr

def Place.location : Place → Location
  | .found location => location
  | .vacant dir name => name :: dir

def isDirAt (disk : Disk) (location : Location) : Bool :=
  disk.get? location = some .dir

/-- Goes on from a location. The rest of the way after a link is given as `follow`. -/
def walk (disk : Disk) (ending : Ending)
    (follow : Location → List Step → Except IoKind Place) :
    Location → List Step → Except IoKind Place
  | location, [] => .ok (.found location)
  | location, step :: rest =>
    if !disk.isDirAt location then
      .error .notADirectory
    else
      match step with
      | .stay => walk disk ending follow location rest
      | .slash => walk disk ending follow location rest
      | .up => walk disk ending follow location.tail rest
      | .enter name =>
        if ending = .file && rest = [.slash] then
          .error .isADirectory
        else if maxName < name.length then
          .error .invalidFilename
        else
          match disk.get? (name :: location) with
          | none => if rest.isEmpty then .ok (.vacant location name) else .error .notFound
          | some (.link _ target) =>
            if rest.isEmpty && !ending.followsLink then
              .ok (.found (name :: location))
            else if target.isAbsolute then
              follow [] (stepsOf target ++ rest)
            else
              follow location (stepsOf target ++ rest)
          | some _ => walk disk ending follow (name :: location) rest

def walkLinks (disk : Disk) (ending : Ending) : Nat → Location → List Step → Except IoKind Place
  | 0 => walk disk ending fun _ _ => .error .filesystemLoop
  | links + 1 => walk disk ending (walkLinks disk ending links)

/-- Where a path leads. -/
def resolve (disk : Disk) (ending : Ending) (path : Path) : Except IoKind Place :=
  if path.bytes.contains 0 then
    .error .invalidInput
  else if path.isEmpty then
    .error .notFound
  else if maxPath < path.bytes.length then
    .error .invalidFilename
  else
    let start := if path.isAbsolute then [] else disk.working
    let steps := stepsOf path
    walkLinks disk ending maxLinks start
      (if ending = .place then steps.filter (· ≠ .slash) else steps)

def lookUp (disk : Disk) (path : Path) : Except IoKind (Location × DiskNode) := do
  match ← disk.resolve .target path with
  | .vacant _ _ => .error .notFound
  | .found location =>
    match disk.get? location with
    | none => .error .notFound
    | some node => return (location, node)

/-- Whether there is anything at a path. -/
def isPresent (disk : Disk) (path : Path) : Bool :=
  (disk.lookUp path).isOk

def isDir (disk : Disk) (path : Path) : Except IoKind Bool := do
  return (← disk.lookUp path).2 = .dir

/-- The contents of a file. -/
def contents (disk : Disk) (path : Path) : Except IoKind Bytes := do
  match (← disk.lookUp path).2 with
  | .file number => return disk.bytesOf number
  | _ => .error .isADirectory

/-- Whether the entry of a directory is one itself. A link that leads nowhere is none. -/
def entryIsDir (disk : Disk) (path : Path) : DiskNode → Except IoKind Bool
  | .dir => return true
  | .file _ => return false
  | .link _ _ =>
    match disk.isDir path with
    | .ok isDir => return isDir
    | .error .notFound => return false
    | .error e => .error e

/-- What the system that holds a disk does for reasons that its tree does not show: want of
permission or of space, a device that fails, or the order in which it keeps a directory. -/
structure System where
  /-- The order in which the entries of a directory are listed. -/
  arrange : List (Path × DiskNode) → List (Path × DiskNode)
  perm_arrange : ∀ entries, (arrange entries).Perm entries
  /-- Why a file is not opened for writing; it is neither created nor emptied then. -/
  refusesOpening : Location → Option IoKind
  /-- After how many bytes writing to a file fails, and why. -/
  breaksOff : Location → Option (Nat × IoKind)
  /-- Why an entry is not moved to a location. -/
  refusesMove : Location → Location → Option IoKind
  refusesRemoval : Location → Bool

def System.plain : System where
  arrange := Path.sortBy Prod.fst
  perm_arrange := Path.sortBy_perm Prod.fst
  refusesOpening _ := none
  breaksOff _ := none
  refusesMove _ _ := none
  refusesRemoval _ := false

def entriesAt (disk : Disk) (location : Location) : List (Bytes × DiskNode) :=
  disk.nodes.filterMap fun (other, node) =>
    match other with
    | name :: dir => if dir = location then some (name, node) else none
    | [] => none

def listing (system : System) (disk : Disk) (path : Path) : Except IoKind (List DirEntry) := do
  match ← disk.lookUp path with
  | (location, .dir) =>
    let entries := (disk.entriesAt location).map fun (name, node) => (path.join ⟨name⟩, node)
    (system.arrange entries).mapM fun (path, node) => do
      return ⟨path, ← disk.entryIsDir path node⟩
  | _ => .error .notADirectory

def createDir (disk : Disk) (path : Path) : Except IoKind Disk := do
  match ← disk.resolve .place path with
  | .found _ => .error .alreadyExists
  | .vacant dir name => return disk.put (name :: dir) .dir

def ensureDir (disk : Disk) (path : Path) : Except IoKind Disk :=
  match disk.createDir path with
  | .ok created => .ok created
  | .error e => if disk.isDir path matches .ok true then .ok disk else .error e

/-- Creates the directories of the paths that are missing, the last path first; what was created
before a failure stays. -/
def ensureDirs (disk : Disk) : List Path → Disk × Except IoKind Unit
  | [] => (disk, .ok ())
  | path :: above =>
    if path.isEmpty then
      (disk, .ok ())
    else
      match disk.ensureDir path with
      | .ok created => (created, .ok ())
      | .error .notFound =>
        match ensureDirs disk above with
        | (grown, .error e) => (grown, .error e)
        | (grown, .ok ()) =>
          match grown.ensureDir path with
          | .ok created => (created, .ok ())
          | .error e => (grown, .error e)
      | .error e => (disk, .error e)

def createDirAll (disk : Disk) (path : Path) : Disk × Except IoKind Unit :=
  disk.ensureDirs (path :: path.ancestors)

def openFile (system : System) (disk : Disk) (path : Path) :
    Except IoKind (Location × Nat × Disk) := do
  let place ← disk.resolve .file path
  match system.refusesOpening place.location with
  | some e => .error e
  | none =>
    match place with
    | .vacant dir name =>
      let number := disk.freshNumber
      return (name :: dir, number, (disk.put (name :: dir) (.file number)).setBytes number [])
    | .found location =>
      match disk.get? location with
      | some (.file number) => return (location, number, disk.setBytes number [])
      | some _ => .error .isADirectory
      | none => .error .notFound

/-- Writes a file in its place. What was written before a failure stays. -/
def overwrite (system : System) (disk : Disk) (path : Path) (contents : Bytes) :
    Disk × Except IoKind Unit :=
  match disk.openFile system path with
  | .error e => (disk, .error e)
  | .ok (location, number, opened) =>
    match (system.breaksOff location).filter fun (size, _) => size < contents.length with
    | some (size, e) => (opened.setBytes number (contents.take size), .error e)
    | none => (opened.setBytes number contents, .ok ())

def endsWithName (path : Path) : Bool :=
  ((stepsOf path).filter (· ≠ .slash)).getLast? matches some (.enter _)

def endsWithSlash (path : Path) : Bool :=
  (stepsOf path).getLast? = some .slash

/-- Moves what is no directory from one path to another, where it takes the place of what is no
directory either. Nothing happens if the same file stands at both. -/
def rename (system : System) (disk : Disk) (source target : Path) : Except IoKind Disk := do
  match ← disk.resolve .entry source with
  | .vacant _ _ => .error .notFound
  | .found location =>
    let some node := disk.get? location | .error .notFound
    let place ← disk.resolve .place target
    if !endsWithName target then
      .error .resourceBusy
    else if endsWithSlash target then
      .error .notADirectory
    else if disk.isDirAt place.location then
      .error .isADirectory
    else if disk.get? place.location = some node then
      return disk
    else
      match system.refusesMove location place.location with
      | some e => .error e
      | none => return (disk.erase location).put place.location node

def removeFile (system : System) (disk : Disk) (path : Path) : Disk :=
  match disk.resolve .entry path with
  | .ok (.found location) =>
    if disk.isDirAt location || system.refusesRemoval location then disk else disk.erase location
  | _ => disk

/-- Puts a file in the place of another one: it is written beside it and then moved. -/
def writeAtomic (system : System) (disk : Disk) (path : Path) (contents : Bytes) :
    Disk × Except IoKind Unit :=
  match disk.overwrite system path.temporary contents with
  | (written, .error e) => (written, .error e)
  | (written, .ok ()) =>
    match written.rename system path.temporary path with
    | .ok moved => (moved, .ok ())
    | .error e => (written.removeFile system path.temporary, .error e)

/-- Answers a call. -/
def answer (system : System) : (c : Call) → StateM Disk c.Answer
  | .read path => fun disk => ((disk.contents path).mapError error, disk)
  | .listDir path => fun disk => ((disk.listing system path).mapError error, disk)
  | .createDirAll path => fun disk =>
    let (disk, result) := disk.createDirAll path
    (result.mapError error, disk)
  | .writeAtomic path contents => fun disk =>
    let (disk, result) := disk.writeAtomic system path contents
    (result.mapError error, disk)
  | .isPresent path => fun disk => (disk.isPresent path, disk)
  | .overwrite path contents => fun disk =>
    let (disk, result) := disk.overwrite system path contents
    (result.mapError error, disk)

def symlink (disk : Disk) (path target : Path) : Disk :=
  match disk.resolve .entry path with
  | .ok (.vacant dir name) => disk.put (name :: dir) (.link disk.freshNumber target)
  | _ => disk

def insert (disk : Disk) (path : Path) (contents : Bytes) : Disk :=
  let grown := match path.dir? with
    | some dir => (disk.createDirAll dir).1
    | none => disk
  (grown.overwrite .plain path contents).1

/-- The files below the working directory, by path, as they are read. -/
def files (disk : Disk) : List (String × Bytes) :=
  disk.nodes.filterMap fun (location, node) =>
    match node with
    | .file number =>
      let names := location.reverse
      if disk.working.reverse.isPrefixOf names then
        let below := (names.drop disk.working.length).map Text.decodeUtf8Lossy
        some ("/".intercalate below, disk.bytesOf number)
      else
        none
    | _ => none

/-- A number that bounds the directories that paths of the greatest length lead to one below the
other, and the bytes of the files. -/
def extent (disk : Disk) : Nat :=
  disk.files.foldl (fun n file => n + file.2.length) (Nat.pow (disk.nodes.length + 1) maxPath)

end Disk

end DoctypeInterfaces.Storage
