import DoctypeInterfaces.Text.Cased

namespace DoctypeInterfaces.Text

def CapitalRun.apply? (run : CapitalRun) (code : Nat) : Option Nat :=
  if run.first ≤ code && code ≤ run.last && (code - run.first) % run.stride == 0 then
    some (Int.toNat (code + run.shift))
  else
    none

def lowerChar (c : Char) : List Char :=
  if c.toNat < 128 then
    [c.toLower]
  else if c = '\u0130' then
    ['i', '\u0307']
  else
    match capitalRuns.findSome? fun run => run.apply? c.toNat with
    | some code => [Char.ofNat code]
    | none => [c]

def nextIsCased (s : List Char) : Bool :=
  match s.dropWhile isCaseIgnorable with
  | c :: _ => isCased c
  | [] => false

/-- The lowercase of a capital sigma: the final form ends a word of at least two letters. -/
def lowerSigma (before after : List Char) : Char :=
  if nextIsCased before && !nextIsCased after then 'ς' else 'σ'

/-- The lowercase of `rest`, which follows the text whose reverse is `before`, after `done`, which
holds the characters found so far, the last one first. -/
def lowercaseAfter (before done : List Char) : List Char → List Char
  | [] => done.reverse
  | c :: rest =>
    if c = 'Σ' then
      lowercaseAfter (c :: before) (lowerSigma before rest :: done) rest
    else
      lowercaseAfter (c :: before) ((lowerChar c).reverse ++ done) rest

def lowercase (s : String) : String :=
  String.ofList (lowercaseAfter [] [] s.toList)

end DoctypeInterfaces.Text
