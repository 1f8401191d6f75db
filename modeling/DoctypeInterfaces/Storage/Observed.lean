import DoctypeInterfaces.Path.Basic
import DoctypeInterfaces.Storage.Program

namespace DoctypeInterfaces.Storage

inductive CallKind where
  | read
  | listDir
  | createDirAll
  | writeAtomic
  | isPresent
  | overwrite
  deriving DecidableEq, Repr

/-- The kind of a call. -/
def Call.kind : Call → CallKind
  | .read _ => .read
  | .listDir _ => .listDir
  | .createDirAll _ => .createDirAll
  | .writeAtomic _ _ => .writeAtomic
  | .isPresent _ => .isPresent
  | .overwrite _ _ => .overwrite

structure Fault where
  kind : CallKind
  path : Path
  error : IoError
  deriving DecidableEq, Repr

def Fault.strikes (fault : Fault) (c : Call) : Bool :=
  fault.kind = c.kind && fault.path.same c.path

/-- A storage with its faults, the first one first, and the calls made so far. -/
structure Observed (σ : Type) where
  storage : σ
  faults : List Fault
  log : List (CallKind × Path)

namespace Observed

variable {σ : Type}

def ofStorage (storage : σ) : Observed σ :=
  ⟨storage, [], []⟩

/-- Records a call, and answers it unless a fault strikes. -/
def answer (reached : (c : Call) → StateM σ c.Answer) (c : Call) : StateM (Observed σ) c.Answer :=
  fun observed =>
    let recorded := { observed with log := observed.log ++ [(c.kind, c.path)] }
    match observed.faults.find? fun fault => fault.strikes c with
    | some fault => (c.failure fault.error, recorded)
    | none =>
      let (a, storage) := reached c observed.storage
      (a, { recorded with storage := storage })

end Observed

end DoctypeInterfaces.Storage
