import Devirt.Json.Token

/-!
# Writing JSON text

The compact form of a value is its tokens without anything between them. The indented form puts
every item and field on a line of its own, two spaces deeper than what holds it; an empty array
or object stays on one line. Strings escape quotes, backslashes and the controls below the
space, and nothing else.
-/

namespace Devirt

/-- A character inside a string literal. -/
def JsonToken.renderChar (c : Char) : List Char :=
  if c = '"' then ['\\', '"']
  else if c = '\\' then ['\\', '\\']
  else if c = '\n' then ['\\', 'n']
  else if c = '\r' then ['\\', 'r']
  else if c = '\t' then ['\\', 't']
  else if c.toNat = 8 then ['\\', 'b']
  else if c.toNat = 12 then ['\\', 'f']
  else if c.toNat < 0x20 then ['\\', 'u'] ++ Text.hexPadded 4 c.toNat
  else [c]

/-- A string literal. One without a text is written as half of a surrogate pair. -/
def JsonToken.renderString : Option String → List Char
  | none => ['"', '\\', 'u', 'd', '8', '0', '0', '"']
  | some text => '"' :: text.toList.flatMap renderChar ++ ['"']

/-- A number literal. -/
def JsonNumber.render (number : JsonNumber) : List Char :=
  (if number.negative then ['-'] else []) ++ Text.decimal number.whole ++
    (if number.fraction = [] then []
      else '.' :: number.fraction.map fun digit => Nat.digitChar digit.val) ++
    match number.exponent with
    | none => []
    | some exponent => 'e' :: (if exponent < 0 then ['-'] else []) ++ Text.decimal exponent.natAbs

/-- The text of a token. -/
def JsonToken.render : JsonToken → List Char
  | openArray => ['[']
  | closeArray => [']']
  | openObject => ['\x7b']
  | closeObject => ['\x7d']
  | comma => [',']
  | colon => [':']
  | null => ['n', 'u', 'l', 'l']
  | bool true => ['t', 'r', 'u', 'e']
  | bool false => ['f', 'a', 'l', 's', 'e']
  | number value => value.render
  | string text => renderString text

namespace Json

mutual

/-- The tokens of a value. -/
def tokens : Json → List JsonToken
  | .null => [.null]
  | .bool b => [.bool b]
  | .number n => [.number n]
  | .string s => [.string s]
  | .array items => .openArray :: itemTokens items ++ [.closeArray]
  | .object fields => .openObject :: fieldTokens fields ++ [.closeObject]

/-- The tokens of items with commas between them. -/
def itemTokens : List Json → List JsonToken
  | [] => []
  | [item] => tokens item
  | item :: rest => tokens item ++ .comma :: itemTokens rest

/-- The tokens of fields with commas between them. -/
def fieldTokens : List (Option String × Json) → List JsonToken
  | [] => []
  | [(key, value)] => .string key :: .colon :: tokens value
  | (key, value) :: rest => .string key :: .colon :: tokens value ++ .comma :: fieldTokens rest

end

/-- The compact text of a value. -/
def render (json : Json) : String := String.ofList (json.tokens.flatMap JsonToken.render)

/-- A line feed and the indentation of a line that so many arrays and objects hold. -/
def newLine (depth : Nat) : List Char := '\n' :: List.replicate (2 * depth) ' '

mutual

/-- The indented text of a value that so many arrays and objects hold. -/
def indentedChars (depth : Nat) : Json → List Char
  | .null => JsonToken.null.render
  | .bool b => (JsonToken.bool b).render
  | .number n => n.render
  | .string s => JsonToken.renderString s
  | .array [] => ['[', ']']
  | .array (item :: rest) =>
    '[' :: newLine (depth + 1) ++ indentedChars (depth + 1) item ++
      indentedItems (depth + 1) rest ++ newLine depth ++ [']']
  | .object [] => ['\x7b', '\x7d']
  | .object ((key, value) :: rest) =>
    '\x7b' :: newLine (depth + 1) ++ JsonToken.renderString key ++ [':', ' '] ++
      indentedChars (depth + 1) value ++ indentedFields (depth + 1) rest ++ newLine depth ++
      ['\x7d']

/-- The indented text of the items behind the first. -/
def indentedItems (depth : Nat) : List Json → List Char
  | [] => []
  | item :: rest => ',' :: newLine depth ++ indentedChars depth item ++ indentedItems depth rest

/-- The indented text of the fields behind the first. -/
def indentedFields (depth : Nat) : List (Option String × Json) → List Char
  | [] => []
  | (key, value) :: rest =>
    ',' :: newLine depth ++ JsonToken.renderString key ++ [':', ' '] ++
      indentedChars depth value ++ indentedFields depth rest

end

/-- The indented text of a value. -/
def renderIndented (json : Json) : String := String.ofList (json.indentedChars 0)

end Json

end Devirt
