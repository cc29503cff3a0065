import Devirt.Json.Token

/-!
# Reading JSON text

The tokens of a text are taken one by one. What has been opened and not yet closed is kept on
a stack, innermost first, and what may come next is part of the state. The text is JSON if
every token fits and one value is left at the end.
-/

namespace Devirt

/-- An array or object that is open, with what it holds so far, last first. -/
inductive OpenJson
  | array (before : List Json)
  | object (before : List (Option String × Json)) (key : Option String)

/-- What has been read so far, by what may come next. -/
inductive JsonReading
  | value (stack : List OpenJson)
  | firstItem (stack : List OpenJson)
  | firstKey (stack : List OpenJson)
  | key (stack : List OpenJson) (before : List (Option String × Json))
  | colon (stack : List OpenJson) (before : List (Option String × Json)) (key : Option String)
  | behind (stack : List OpenJson) (value : Json)

namespace JsonReading

/-- Takes the first token of a value. -/
def startValue (stack : List OpenJson) : JsonToken → Option JsonReading
  | .null => some (behind stack .null)
  | .bool b => some (behind stack (.bool b))
  | .number n => some (behind stack (.number n))
  | .string s => some (behind stack (.string s))
  | .openArray => some (firstItem stack)
  | .openObject => some (firstKey stack)
  | _ => none

/-- Takes a token. -/
def step : JsonReading → JsonToken → Option JsonReading
  | value stack, token => startValue stack token
  | firstItem stack, .closeArray => some (behind stack (.array []))
  | firstItem stack, token => startValue (.array [] :: stack) token
  | firstKey stack, .closeObject => some (behind stack (.object []))
  | firstKey stack, .string name => some (colon stack [] name)
  | key stack before, .string name => some (colon stack before name)
  | colon stack before name, .colon => some (value (.object before name :: stack))
  | behind (.array before :: stack) v, .comma => some (value (.array (v :: before) :: stack))
  | behind (.array before :: stack) v, .closeArray =>
    some (behind stack (.array (v :: before).reverse))
  | behind (.object before name :: stack) v, .comma => some (key stack ((name, v) :: before))
  | behind (.object before name :: stack) v, .closeObject =>
    some (behind stack (.object ((name, v) :: before).reverse))
  | _, _ => none

/-- Takes all tokens. -/
def run (reading : JsonReading) : List JsonToken → Option JsonReading
  | [] => some reading
  | token :: rest => do (← reading.step token).run rest

/-- The value that has been read, if nothing is open. -/
def result? : JsonReading → Option Json
  | behind [] v => some v
  | _ => none

end JsonReading

/-- The value written in a text. -/
def Json.parse? (text : String) : Option Json := do
  let tokens ← JsonToken.tokens? text.toList
  let reading ← (JsonReading.value []).run tokens
  reading.result?

end Devirt
