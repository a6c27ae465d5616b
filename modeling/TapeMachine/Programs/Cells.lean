import TapeMachine.Sequence.Basic
import TapeMachine.Stack

/-!
# Text as cells

Every character of a text becomes a cell of its own, a text of one character.
-/

namespace TapeMachine.Programs

/-- The characters of a text, each as a text. -/
def cells (text : String) : List String := text.toList.map String.singleton

/-- The cells of a text as a sequence. -/
def sequence (text : String) : Sequence String := .ofList (cells text)

/-- The cells of a text as a stack, the first one at the bottom. -/
def stack (text : String) : Stack String := ⟨cells text⟩

end TapeMachine.Programs
