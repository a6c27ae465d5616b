import TapeMachine.Text.Quoted

/-!
# Writing JSON

Values as JSON text: every item and member on a line of its own, two blanks of indentation for each
level, and nothing between the brackets of an empty list or object.
-/

namespace TapeMachine.Cli

/-- The values that results are made of. -/
inductive Json where
  | number (value : Int)
  | truth (value : Bool)
  | text (value : String)
  | list (items : List Json)
  | object (members : List (String × Json))

namespace Json

/-- How one character stands in a JSON text. Only what must be escaped is. -/
def escapedChar (c : Char) : String :=
  match c with
  | '"' => "\\\""
  | '\\' => "\\\\"
  | '\x08' => "\\b"
  | '\t' => "\\t"
  | '\n' => "\\n"
  | '\x0c' => "\\f"
  | '\r' => "\\r"
  | _ =>
    if c.toNat < 0x20 then
      "\\u00" ++ (if c.toNat < 0x10 then "0" else "") ++ Text.hexadecimal c.toNat
    else c.toString

def quotedText (text : String) : String :=
  "\"" ++ String.join (text.toList.map escapedChar) ++ "\""

/-- A line break and the blanks of a level. -/
def newLine (level : Nat) : String := "\n" ++ String.ofList (List.replicate (2 * level) ' ')

mutual

/-- The text of a value that stands on a level. -/
def pretty (level : Nat) : Json → String
  | .number n => toString n
  | .truth b => toString b
  | .text s => quotedText s
  | .list [] => "[]"
  | .list (item :: rest) =>
    "[" ++ newLine (level + 1) ++ pretty (level + 1) item ++ prettyItems (level + 1) rest ++
      newLine level ++ "]"
  | .object [] => "\x7b\x7d"
  | .object (member :: rest) =>
    "\x7b" ++ newLine (level + 1) ++ prettyMember (level + 1) member ++
      prettyMembers (level + 1) rest ++ newLine level ++ "\x7d"

/-- The items after the first one. -/
def prettyItems (level : Nat) : List Json → String
  | [] => ""
  | item :: rest => "," ++ newLine level ++ pretty level item ++ prettyItems level rest

/-- A name with its value. -/
def prettyMember (level : Nat) : String × Json → String
  | (name, value) => quotedText name ++ ": " ++ pretty level value

/-- The members after the first one. -/
def prettyMembers (level : Nat) : List (String × Json) → String
  | [] => ""
  | member :: rest => "," ++ newLine level ++ prettyMember level member ++ prettyMembers level rest

end

end Json

end TapeMachine.Cli
