import TapeMachine.Text.Quoted

/-!
# Two ways to show a value

`plain` shows a value to a reader, `debug` shows it in a trace, where its boundaries and its kind
must be seen: text is quoted, an optional value says whether it is there, a record names its fields.
-/

namespace TapeMachine.Text

/-- Values that can be shown. -/
class Legible (α : Type) where
  /-- The bare value. -/
  plain : α → String
  /-- The value as it stands in a trace. -/
  debug : α → String

export Legible (plain debug)

instance : Legible String := ⟨id, quoted⟩

instance : Legible Int := ⟨toString, toString⟩

instance : Legible Bool := ⟨toString, toString⟩

instance : Legible Empty := ⟨nofun, nofun⟩

variable {α : Type}

/-- An optional value in a trace. -/
def debugOption (show_ : α → String) : Option α → String
  | none => "None"
  | some x => "Some(" ++ show_ x ++ ")"

/-- Several texts, with a separator between neighbours. -/
def joined (separator : String) : List String → String
  | [] => ""
  | [x] => x
  | x :: rest => x ++ separator ++ joined separator rest

/-- A list in a trace. -/
def debugList (show_ : α → String) (items : List α) : String :=
  "[" ++ joined ", " (items.map show_) ++ "]"

/-- A record in a trace: its name and its fields with their values. -/
def debugRecord (name : String) (fields : List (String × String)) : String :=
  name ++ " \x7b " ++ joined ", " (fields.map fun (key, value) => key ++ ": " ++ value) ++ " \x7d"

end TapeMachine.Text
