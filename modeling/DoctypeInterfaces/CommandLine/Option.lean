namespace DoctypeInterfaces.CommandLine

structure OptionSpec where
  name : String
  letter : Option Char
  takesValue : Bool
  isRepeatable : Bool
  deriving DecidableEq, Repr

structure Given where
  name : String
  value : Option String
  deriving DecidableEq, Repr

inductive Words where
  /-- The options that are given, and the words from the first one on that is no option. -/
  | options (given : List Given) (rest : List String)
  | refused
  /-- After some options, one asks for something else to be done; the rest is not looked at. -/
  | instead (given : List Given) (name : String)
  deriving DecidableEq, Repr

def Words.withOption (given : Given) : Words → Words
  | .options others rest => .options (given :: others) rest
  | .instead others name => .instead (given :: others) name
  | .refused => .refused

/-- The options that a command knows, with those that stop everything else. -/
structure OptionTable where
  specs : List OptionSpec
  /-- The names of the flags that ask for something else to be done. -/
  stops : List String

namespace OptionTable

def byName? (table : OptionTable) (name : String) : Option OptionSpec :=
  table.specs.find? fun spec => spec.name = name

def byLetter? (table : OptionTable) (letter : Char) : Option OptionSpec :=
  table.specs.find? fun spec => spec.letter = some letter

/-- Whether a word is an option, and no value. A dash alone is a value. -/
def isOption (word : String) : Bool :=
  match word.toList with
  | '-' :: _ :: _ => true
  | _ => false

/-- What letters after one dash ask for: the options they give, and an option that takes the next
word as its value. -/
inductive Letters where
  | complete (given : List Given)
  | waiting (given : List Given) (spec : OptionSpec)
  | refused
  | instead (given : List Given) (name : String)

def Letters.withOption (first : Given) : Letters → Letters
  | .complete given => .complete (first :: given)
  | .waiting given spec => .waiting (first :: given) spec
  | .refused => .refused
  | .instead given name => .instead (first :: given) name

def letters (table : OptionTable) : List Char → Letters
  | [] => .complete []
  | c :: rest =>
    match table.byLetter? c with
    | none => .refused
    | some spec =>
      if spec.takesValue then
        match rest with
        | [] => .waiting [] spec
        | '=' :: value => .complete [⟨spec.name, some (String.ofList value)⟩]
        | value => .complete [⟨spec.name, some (String.ofList value)⟩]
      else if table.stops.contains spec.name then
        .instead [] spec.name
      else
        (table.letters rest).withOption ⟨spec.name, none⟩

/-- The long name and the value of a word after its two dashes. -/
def splitLong (word : List Char) : String × Option String :=
  let name := String.ofList (word.takeWhile (· != '='))
  match word.dropWhile (· != '=') with
  | '=' :: value => (name, some (String.ofList value))
  | _ => (name, none)

def withOptions (given : List Given) (words : Words) : Words :=
  given.foldr Words.withOption words

/-- Reads words up to the first one that is no option. -/
def read (table : OptionTable) : List String → Words
  | [] => .options [] []
  | word :: rest =>
    match word.toList with
    | '-' :: '-' :: [] => .options [] (word :: rest)
    | '-' :: '-' :: long =>
      match splitLong long with
      | (name, value) =>
        match table.byName? name, value with
        | none, _ => .refused
        | some spec, some value =>
          if spec.takesValue then (table.read rest).withOption ⟨name, some value⟩ else .refused
        | some spec, none =>
          if spec.takesValue then
            match rest with
            | [] => .refused
            | value :: rest =>
              if isOption value then .refused
              else (table.read rest).withOption ⟨name, some value⟩
          else if table.stops.contains name then
            .instead [] name
          else
            (table.read rest).withOption ⟨name, none⟩
    | '-' :: c :: cs =>
      match table.letters (c :: cs) with
      | .refused => .refused
      | .instead given name => .instead given name
      | .complete given => withOptions given (table.read rest)
      | .waiting given spec =>
        match rest with
        | [] => .refused
        | value :: rest =>
          if isOption value then .refused
          else withOptions given ((table.read rest).withOption ⟨spec.name, some value⟩)
    | _ => .options [] (word :: rest)

def allows (table : OptionTable) (given : List Given) : Bool :=
  table.specs.all fun spec =>
    spec.isRepeatable || (given.countP fun g => g.name = spec.name) ≤ 1

end OptionTable

def has (given : List Given) (name : String) : Bool :=
  given.any fun g => g.name = name

def values (given : List Given) (name : String) : List String :=
  (given.filter fun g => g.name = name).filterMap Given.value

end DoctypeInterfaces.CommandLine
