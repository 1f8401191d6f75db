namespace DoctypeInterfaces.Text

/-- The lines of a text, each with its line feed. -/
def lines (s : List Char) : List (List Char) :=
  s.splitBy fun c _ => c != '\n'

/-- A line without its line end, a line feed that may have a carriage return before it. -/
def chomp (line : List Char) : List Char :=
  match line.reverse with
  | '\n' :: '\r' :: r => r.reverse
  | '\n' :: r => r.reverse
  | _ => line

/-- The pieces of a list between its separators: one more than there are separators. -/
def splitOn {α : Type} [DecidableEq α] (separator : α) (s : List α) : List (List α) :=
  s.foldr
    (fun c pieces =>
      if c = separator then
        [] :: pieces
      else
        match pieces with
        | piece :: rest => (c :: piece) :: rest
        | [] => [[c]])
    [[]]

section Pieces

variable {α : Type} [DecidableEq α]

@[simp] theorem splitOn_nil (separator : α) : splitOn separator [] = [[]] := rfl

@[simp] theorem splitOn_cons_self (separator : α) (s : List α) :
    splitOn separator (separator :: s) = [] :: splitOn separator s := by
  simp [splitOn]

theorem splitOn_ne_nil (separator : α) (s : List α) : splitOn separator s ≠ [] := by
  cases s with
  | nil => simp
  | cons c s =>
    simp only [splitOn, List.foldr_cons]
    split
    · simp
    · split <;> simp

end Pieces

def endLine (s : List Char) : List Char :=
  if s.getLast? = some '\n' then s else s ++ ['\n']

end DoctypeInterfaces.Text
