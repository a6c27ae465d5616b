import TapeMachine.Text.Combining
import TapeMachine.Text.Printable

/-!
# Quoted text

How a text is shown in traces: between double quotes, with what would not be seen written out. The
quote and the backslash get a backslash, five control characters have short names, and every other
character that is unprintable or combining is written by its code point in hexadecimal.
-/

namespace TapeMachine.Text

/-- A number in lower-case hexadecimal. -/
def hexadecimal (n : Nat) : String := String.ofList (Nat.toDigits 16 n)

/-- How one character stands in quoted text. -/
def quotedChar (c : Char) : String :=
  match c with
  | '"' => "\\\""
  | '\\' => "\\\\"
  | '\n' => "\\n"
  | '\r' => "\\r"
  | '\t' => "\\t"
  | '\x00' => "\\0"
  | _ =>
    if isPrintable c && !isCombining c then c.toString
    else "\\u\x7b" ++ hexadecimal c.toNat ++ "\x7d"

/-- The text between quotes. -/
def quoted (text : String) : String :=
  "\"" ++ String.join (text.toList.map quotedChar) ++ "\""

end TapeMachine.Text
