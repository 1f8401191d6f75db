import DoctypeInterfaces.Path.Basic

namespace DoctypeInterfaces

inductive IoKind where
  | notFound
  | permissionDenied
  | alreadyExists
  | invalidInput
  | invalidData
  | invalidFilename
  | notADirectory
  | isADirectory
  | filesystemLoop
  | resourceBusy
  | timedOut
  | interrupted
  | unexpectedEnd
  /-- A kind that nothing here acts on, by its name. -/
  | other (name : String)
  deriving DecidableEq, Repr

/-- An error of a storage call. -/
structure IoError where
  kind : IoKind
  message : String
  deriving DecidableEq, Repr

structure DirEntry where
  path : Path
  isDir : Bool
  deriving DecidableEq, Repr

namespace Storage

inductive Call where
  | read (path : Path)
  | listDir (path : Path)
  /-- Creates a directory and the missing ones above it. -/
  | createDirAll (path : Path)
  /-- Puts a file in the place of another one, in one step. -/
  | writeAtomic (path : Path) (contents : Bytes)
  | isPresent (path : Path)
  | overwrite (path : Path) (contents : Bytes)
  deriving DecidableEq, Repr

abbrev Call.Answer : Call → Type
  | .read _ => Except IoError Bytes
  | .listDir _ => Except IoError (List DirEntry)
  | .createDirAll _ => Except IoError Unit
  | .writeAtomic _ _ => Except IoError Unit
  | .isPresent _ => Bool
  | .overwrite _ _ => Except IoError Unit

/-- The path that a call is about. -/
def Call.path : Call → Path
  | .read p => p
  | .listDir p => p
  | .createDirAll p => p
  | .writeAtomic p _ => p
  | .isPresent p => p
  | .overwrite p _ => p

/-- The answer to a call that fails. -/
def Call.failure (e : IoError) : (c : Call) → c.Answer
  | .read _ => .error e
  | .listDir _ => .error e
  | .createDirAll _ => .error e
  | .writeAtomic _ _ => .error e
  | .isPresent _ => false
  | .overwrite _ _ => .error e

inductive Program (α : Type) : Type where
  | done (result : α)
  | call (c : Call) (next : c.Answer → Program α)

namespace Program

variable {α β γ : Type}

def bind (program : Program α) (next : α → Program β) : Program β :=
  match program with
  | done a => next a
  | call c rest => call c fun answer => (rest answer).bind next

instance : Monad Program where
  pure := done
  bind := bind

@[simp] theorem pure_eq_done (a : α) : (pure a : Program α) = done a := rfl

@[simp] theorem done_bind (a : α) (next : α → Program β) : done a >>= next = next a := rfl

@[simp] theorem call_bind (c : Call) (rest : c.Answer → Program α) (next : α → Program β) :
    call c rest >>= next = call c fun answer => rest answer >>= next := rfl

theorem bind_done (program : Program α) : program >>= done = program := by
  induction program with
  | done a => rfl
  | call c rest ih => simp only [call_bind, ih]

theorem bind_assoc (program : Program α) (first : α → Program β) (second : β → Program γ) :
    program >>= first >>= second = program >>= fun a => first a >>= second := by
  induction program with
  | done a => rfl
  | call c rest ih => simp only [call_bind, ih]

instance : LawfulMonad Program :=
  LawfulMonad.mk' Program bind_done (fun _ _ => rfl) bind_assoc

def ask (c : Call) : Program c.Answer :=
  call c done

@[simp] theorem ask_bind (c : Call) (next : c.Answer → Program α) :
    ask c >>= next = call c next := rfl

/-- Runs a program; its calls are answered one after the other. -/
def run {m : Type → Type} [Monad m] (answer : (c : Call) → m c.Answer) : Program α → m α
  | done a => pure a
  | call c next => answer c >>= fun a => (next a).run answer

end Program

/-- Reads a whole file. -/
def read (path : Path) : Program (Except IoError Bytes) :=
  .ask (.read path)

def textOfBytes (bytes : Bytes) : Except IoError String :=
  (Text.decodeUtf8 bytes).mapError fun e => ⟨.invalidData, e.message⟩

def readText (path : Path) : Program (Except IoError String) := do
  return (← read path).bind textOfBytes

def listDir (path : Path) : Program (Except IoError (List DirEntry)) :=
  .ask (.listDir path)

def createDirAll (path : Path) : Program (Except IoError Unit) :=
  .ask (.createDirAll path)

/-- Puts a file in the place of another one, in one step. -/
def writeAtomic (path : Path) (contents : Bytes) : Program (Except IoError Unit) :=
  .ask (.writeAtomic path contents)

/-- Tells whether there is anything at a path. -/
def isPresent (path : Path) : Program Bool :=
  .ask (.isPresent path)

def overwrite (path : Path) (contents : Bytes) : Program (Except IoError Unit) :=
  .ask (.overwrite path contents)

end Storage

end DoctypeInterfaces
