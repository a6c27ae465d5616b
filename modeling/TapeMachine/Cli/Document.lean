/-!
# Reading JSON documents

A settings file is a JSON document, read strictly: one value with nothing around it but blanks, no
comments, no trailing commas, no leading zeros, no control characters in texts. Of the document only
what settings can say is kept (`Document`): truth values, lists and named members. The rest has to
be well formed, and that is all that is asked of it.

Every function takes what is left of the text and answers what is left after it.
-/

namespace TapeMachine.Cli

/-- What a JSON document says, as far as settings look at it. A member whose name is no text (it
names half of a surrogate pair) has the name `none`. -/
inductive Document where
  | truth (value : Bool)
  | list (items : List Document)
  | members (list : List (Option String × Document))
  /-- A number, a text or null. -/
  | other

namespace Document

/-- Drops the blanks that may stand between the parts of a document. -/
def skipBlanks (cs : List Char) : List Char :=
  cs.dropWhile fun c => c == ' ' || c == '\n' || c == '\t' || c == '\r'

/-! ## Numbers -/

/-- At least one digit, and all that follow it. -/
def digits : List Char → Option (List Char)
  | c :: rest => if c.isDigit then some (rest.dropWhile Char.isDigit) else none
  | [] => none

/-- The exponent of a number, if there is one. -/
def exponent : List Char → Option (List Char)
  | c :: rest =>
    if c == 'e' || c == 'E' then
      match rest with
      | '+' :: rest => digits rest
      | '-' :: rest => digits rest
      | rest => digits rest
    else some (c :: rest)
  | [] => some []

/-- The part of a number behind its point, if there is one, and its exponent. -/
def fraction : List Char → Option (List Char)
  | '.' :: rest => (digits rest).bind exponent
  | rest => exponent rest

/-- A number without its sign. A zero at the front stands alone. -/
def unsigned : List Char → Option (List Char)
  | '0' :: rest => if (rest.head?.map Char.isDigit).getD false then none else fraction rest
  | rest => (digits rest).bind fraction

def number : List Char → Option (List Char)
  | '-' :: rest => unsigned rest
  | rest => unsigned rest

/-! ## Texts -/

/-- A piece of a text: a character, or a code unit written in hexadecimal. -/
inductive Piece where
  | char (c : Char)
  | unit (code : Nat)

def hexDigit? (c : Char) : Option Nat :=
  if c.isDigit then some (c.toNat - '0'.toNat)
  else if 'a' ≤ c && c ≤ 'f' then some (c.toNat - 'a'.toNat + 10)
  else if 'A' ≤ c && c ≤ 'F' then some (c.toNat - 'A'.toNat + 10)
  else none

/-- Four hexadecimal digits. -/
def codeUnit? (a b c d : Char) : Option Nat := do
  return (((← hexDigit? a) * 16 + (← hexDigit? b)) * 16 + (← hexDigit? c)) * 16 + (← hexDigit? d)

/-- The character that a letter behind a backslash stands for. -/
def escaped? : Char → Option Char
  | '"' => some '"'
  | '\\' => some '\\'
  | '/' => some '/'
  | 'b' => some '\x08'
  | 'f' => some '\x0c'
  | 'n' => some '\n'
  | 'r' => some '\r'
  | 't' => some '\t'
  | _ => none

/-- The pieces of a text up to its closing quote. -/
def pieces : List Char → Option (List Piece × List Char)
  | '"' :: rest => some ([], rest)
  | '\\' :: 'u' :: a :: b :: c :: d :: rest => do
    let code ← codeUnit? a b c d
    let (ps, rest) ← pieces rest
    return (.unit code :: ps, rest)
  | '\\' :: e :: rest => do
    let c ← escaped? e
    let (ps, rest) ← pieces rest
    return (.char c :: ps, rest)
  | c :: rest =>
    if c == '\\' || c.toNat < 0x20 then none
    else do
      let (ps, rest) ← pieces rest
      return (.char c :: ps, rest)
  | [] => none

/-- The text of pieces. Code units of surrogates must come in pairs. -/
def text? : List Piece → Option (List Char)
  | [] => some []
  | .char c :: rest => (c :: ·) <$> text? rest
  | .unit n :: rest =>
    if 0xd800 ≤ n && n < 0xdc00 then
      match rest with
      | .unit m :: rest =>
        if 0xdc00 ≤ m && m < 0xe000 then
          (Char.ofNat (0x10000 + (n - 0xd800) * 0x400 + (m - 0xdc00)) :: ·) <$> text? rest
        else none
      | _ => none
    else if 0xdc00 ≤ n && n < 0xe000 then none
    else (Char.ofNat n :: ·) <$> text? rest

/-! ## Values -/

mutual

/-- A value. The fuel bounds the number of values and separators. -/
def value : Nat → List Char → Option (Document × List Char)
  | 0, _ => none
  | fuel + 1, cs =>
    match skipBlanks cs with
    | 't' :: 'r' :: 'u' :: 'e' :: rest => some (.truth true, rest)
    | 'f' :: 'a' :: 'l' :: 's' :: 'e' :: rest => some (.truth false, rest)
    | 'n' :: 'u' :: 'l' :: 'l' :: rest => some (.other, rest)
    | '"' :: rest => (pieces rest).map fun (_, rest) => (.other, rest)
    | '[' :: rest =>
      match skipBlanks rest with
      | ']' :: rest => some (.list [], rest)
      | rest => (items fuel rest).map fun (l, rest) => (.list l, rest)
    | '\x7b' :: rest =>
      match skipBlanks rest with
      | '\x7d' :: rest => some (.members [], rest)
      | rest => (entries fuel rest).map fun (l, rest) => (.members l, rest)
    | rest => (number rest).map fun rest => (.other, rest)

/-- The items of a list that has some, up to its closing bracket. -/
def items : Nat → List Char → Option (List Document × List Char)
  | 0, _ => none
  | fuel + 1, cs => do
    let (item, rest) ← value fuel cs
    match skipBlanks rest with
    | ',' :: rest =>
      let (others, rest) ← items fuel rest
      return (item :: others, rest)
    | ']' :: rest => return ([item], rest)
    | _ => none

/-- The members of an object that has some, up to its closing brace. -/
def entries : Nat → List Char → Option (List (Option String × Document) × List Char)
  | 0, _ => none
  | fuel + 1, cs =>
    match skipBlanks cs with
    | '"' :: rest => do
      let (name, rest) ← pieces rest
      match skipBlanks rest with
      | ':' :: rest =>
        let (item, rest) ← value fuel rest
        let entry := ((text? name).map String.ofList, item)
        match skipBlanks rest with
        | ',' :: rest =>
          let (others, rest) ← entries fuel rest
          return (entry :: others, rest)
        | '\x7d' :: rest => return ([entry], rest)
        | _ => none
      | _ => none
    | _ => none

end

/-- The document that a text is. Each value and each separator takes a character, so twice the
length of the text bounds their number. -/
def ofText? (text : String) : Option Document :=
  let cs := text.toList
  match value (2 * cs.length + 2) cs with
  | some (document, rest) => if (skipBlanks rest).isEmpty then some document else none
  | none => none

end Document

end TapeMachine.Cli
