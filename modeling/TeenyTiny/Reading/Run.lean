import TeenyTiny.Reading.Step
import TeenyTiny.Token.Window

/-!
# Reading a program

A program is read through a window of two tokens.  A malformed lexeme stops the
reading when it is about to come into view.  The token right before it then has
no turn, and only a fault in an earlier token is found first.
-/

namespace TeenyTiny

/-- Reads all tokens from a window on. -/
def Reading.run (reading : Reading) (window : Window) : Traced Fault Reading :=
  (reading.step window.current window.next).andThen fun reading =>
    if inside : window.current.kind = .eof then .done reading
    else
      match moves : window.advance with
      | .error error => .fail (.lexical error)
      | .ok moved =>
          have := Window.size_advance_lt inside moves
          reading.run moved
termination_by window.size

/-- Reads a whole program and checks its jumps. -/
def Window.read (window : Window) : Traced Fault Reading := do
  .enter .program
  let reading ← Reading.empty.run window
  .ofExcept reading.labels.check
  .note (.finished reading.bound.count)
  return reading

end TeenyTiny
