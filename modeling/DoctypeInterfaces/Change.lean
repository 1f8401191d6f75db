import DoctypeInterfaces.Path.Basic

namespace DoctypeInterfaces

/-- A schema file that changed. -/
structure SchemaChange where
  app : String
  doctype : String
  path : Path
  removed : Bool
  deriving DecidableEq, Repr

def Path.Component.text? : Path.Component → Option String
  | .name s => (Text.decodeUtf8 s).toOption
  | _ => none

/-- The application and the doctype of a schema file, whose names below the watched directory are
given. -/
def schemaOfNames? : List String → Option (String × String)
  | [] => none
  | app :: names =>
    match names.reverse with
    | file :: doctype :: marker :: _ =>
      if marker = "doctype" && file = doctype ++ ".json" then some (app, doctype) else none
    | _ => none

/-- The change of a path, if it is the path of a schema file below `root`. -/
def SchemaChange.ofPath? (isPresent : Path → Bool) (root path : Path) : Option SchemaChange := do
  let names ← (← root.below? path).mapM Path.Component.text?
  let (app, doctype) ← schemaOfNames? names
  return ⟨app, doctype, path, !isPresent path⟩

def addChange (changes : List SchemaChange) (change : SchemaChange) : List SchemaChange :=
  if changes.any fun old => old.path.same change.path then changes else changes ++ [change]

/-- The changes of schema files among paths, each once, in order. -/
def collectChanges (isPresent : Path → Bool) (root : Path) (paths : List Path) :
    List SchemaChange :=
  (paths.filterMap (SchemaChange.ofPath? isPresent root)).foldl addChange []

end DoctypeInterfaces
