namespace DoctypeInterfaces.Text

abbrev Scan (ε : Type) := ReaderT Nat (StateT (List Char) (Except ε))

namespace Scan

variable {ε σ α : Type}

def peek : Scan ε (Option Char) := fun _ s =>
  .ok (s.head?, s)

def advance : Scan ε Unit := fun _ s =>
  .ok ((), s.drop 1)

def takeWhile (p : Char → Bool) : Scan ε (List Char) := fun _ s =>
  .ok (s.takeWhile p, s.dropWhile p)

/-- Repeats a step until it gives a result, but at most so many times; then it is the error
`stuck`. -/
def repeatAtMost (stuck : ε) (step : σ → Scan ε (σ ⊕ α)) : Nat → σ → Scan ε α
  | 0, _ => fun _ _ => .error stuck
  | n + 1, state => fun bound s =>
    match step state bound s with
    | .error e => .error e
    | .ok (.inr result, rest) => .ok (result, rest)
    | .ok (.inl next, rest) => repeatAtMost stuck step n next bound rest

/-- Repeats a step until it gives a result. A step that gives none must read something, so it is
repeated no more often than the text is long. -/
def iterate (stuck : ε) (step : σ → Scan ε (σ ⊕ α)) (state : σ) : Scan ε α := fun bound s =>
  repeatAtMost stuck step (bound + 1) state bound s

/-- Reads a whole text, with what is left of it in the end. -/
def start (scan : Scan ε α) (s : List Char) : Except ε (α × List Char) :=
  scan s.length s

variable {stuck : ε} {step : σ → Scan ε (σ ⊕ α)} {state next : σ} {bound n : Nat}
  {s rest : List Char} {result : α}

theorem repeatAtMost_of_result (h : step state bound s = .ok (.inr result, rest)) :
    repeatAtMost stuck step (n + 1) state bound s = .ok (result, rest) := by
  simp [repeatAtMost, h]

theorem repeatAtMost_of_error {e : ε} (h : step state bound s = .error e) :
    repeatAtMost stuck step (n + 1) state bound s = .error e := by
  simp [repeatAtMost, h]

theorem repeatAtMost_of_step (h : step state bound s = .ok (.inl next, rest)) :
    repeatAtMost stuck step (n + 1) state bound s =
      repeatAtMost stuck step n next bound rest := by
  simp [repeatAtMost, h]

end Scan

end DoctypeInterfaces.Text
