import Mathlib.Data.List.Chain
import Devirt.Json.Parser
import Devirt.Proofs.JsonLiterals

/-!
# JSON text read back

Every value is read back from its compact text, whatever strings and numbers are in it and
however deep it is nested. The tokens are found again because nothing but a number can run into
what follows it, and no two numbers stand next to each other. From the tokens of a value the
parser comes to the state behind the value, whatever is open around it.
-/

namespace Devirt

namespace JsonToken

/-- Whether the token is a number. -/
def isNumber : JsonToken → Bool
  | number _ => true
  | _ => false

/-- Two tokens may stand next to each other, unless both are numbers. -/
def MayPrecede (first second : JsonToken) : Prop := first.isNumber = false ∨ second.isNumber = false

/-- The text of a token starts with no blank. Unless it is a number, it starts with nothing that
could be more of a number. -/
theorem exists_render_eq (token : JsonToken) : ∃ first later, token.render = first :: later ∧
    isSpace first = false ∧ (token.isNumber = false → JsonNumber.Ends [first]) := by
  cases token with
  | number value =>
    obtain ⟨first, later, text, starts⟩ := exists_render_number_eq value
    refine ⟨first, later, text, ?_, nofun⟩
    rcases starts with rfl | isDigit
    · rfl
    · exact isSpace_of_isDigit isDigit
  | bool value => cases value <;> exact ⟨_, _, rfl, rfl, fun _ => by decide⟩
  | string text => cases text <;> exact ⟨_, _, rfl, rfl, fun _ => by decide⟩
  | _ => exact ⟨_, _, rfl, rfl, fun _ => by decide⟩

/-- A token is read back, if it is no number or nothing follows that could be more of one. -/
theorem read?_render {token : JsonToken} {rest : List Char}
    (ends : token.isNumber = true → JsonNumber.Ends rest) :
    read? (token.render ++ rest) = some (token, rest) := by
  cases token with
  | number value =>
    obtain ⟨first, later, text, starts⟩ := exists_render_number_eq value
    have whole := readNumber?_render value (ends rfl)
    rw [text, List.cons_append] at whole
    rw [render, text, List.cons_append, read?_of_startsNumber starts, whole, Option.map_some]
  | bool value => cases value <;> rfl
  | string text => exact read?_renderString text rest
  | _ => rfl

/-- The tokens of a text that starts with the text of a token. -/
theorem tokens?_render_append {token : JsonToken} {rest : List Char}
    (ends : token.isNumber = true → JsonNumber.Ends rest) :
    tokens? (token.render ++ rest) = (tokens? rest).map (token :: ·) := by
  have read := read?_render ends
  obtain ⟨first, later, text, noSpace, _⟩ := exists_render_eq token
  have noBlanks : (token.render ++ rest).dropWhile isSpace = token.render ++ rest := by
    rw [text, List.cons_append, List.dropWhile_cons_of_neg (by simp [noSpace])]
  have notNil : token.render ++ rest ≠ [] := by simp [text]
  rw [tokens?, noBlanks, if_neg notNil]
  split
  case h_1 missing =>
    rw [read] at missing
    cases missing
  case h_2 found =>
    rw [read] at found
    cases found
    rfl

/-- Tokens are read back from their texts one behind the other. -/
theorem tokens?_flatMap_render {tokens : List JsonToken} (apart : tokens.IsChain MayPrecede) :
    tokens? (tokens.flatMap render) = some tokens := by
  induction tokens with
  | nil =>
    rw [tokens?]
    rfl
  | cons token rest ih =>
    rw [List.flatMap_cons, tokens?_render_append, ih apart.tail, Option.map_some]
    intro isNumber
    cases rest with
    | nil => exact nofun
    | cons next rest =>
      obtain ⟨first, later, text, _, ends⟩ := exists_render_eq next
      have noNumber : next.isNumber = false :=
        (List.isChain_cons_cons.mp apart).1.resolve_left (by simp [isNumber])
      rw [List.flatMap_cons, text]
      exact ends noNumber

/-- A mark may precede any tokens. -/
theorem isChain_cons {mark : JsonToken} {rest : List JsonToken} (notNumber : mark.isNumber = false)
    (apart : rest.IsChain MayPrecede) : (mark :: rest).IsChain MayPrecede :=
  apart.cons fun _ _ => .inl notNumber

/-- A mark may stand between any tokens. -/
theorem isChain_append_cons {first rest : List JsonToken} {mark : JsonToken}
    (before : first.IsChain MayPrecede) (notNumber : mark.isNumber = false)
    (behind : rest.IsChain MayPrecede) : (first ++ mark :: rest).IsChain MayPrecede := by
  refine before.append (isChain_cons notNumber behind) fun _ _ next isNext => ?_
  obtain rfl := Option.some.inj isNext
  exact .inr notNumber

end JsonToken

namespace Json

/-- Induction over values: what holds of a value because it holds of those in it. -/
@[elab_as_elim]
theorem nestedInduction {P : Json → Prop} (null : P .null) (bool : ∀ value, P (.bool value))
    (number : ∀ value, P (.number value)) (string : ∀ text, P (.string text))
    (array : ∀ items, (∀ item ∈ items, P item) → P (.array items))
    (object : ∀ fields, (∀ field ∈ fields, P field.2) → P (.object fields)) (json : Json) :
    P json :=
  -- The motives are those of a value, of items, of fields and of a single field.
  Json.rec null bool number string array object (fun _ => nofun)
    (fun _ _ own others => List.forall_mem_cons.mpr ⟨own, others⟩) (fun _ => nofun)
    (fun _ _ own others => List.forall_mem_cons.mpr ⟨own, others⟩) (fun _ _ own => own) json

open JsonToken

/-- The tokens of items may stand next to each other if those of each item may. -/
theorem isChain_itemTokens {items : List Json}
    (each : ∀ item ∈ items, item.tokens.IsChain MayPrecede) :
    (itemTokens items).IsChain MayPrecede := by
  induction items with
  | nil => exact .nil
  | cons item rest ih =>
    obtain ⟨own, others⟩ := List.forall_mem_cons.mp each
    cases rest with
    | nil => rwa [itemTokens]
    | cons next rest =>
      rw [itemTokens]
      · exact isChain_append_cons own rfl (ih others)
      · exact nofun

/-- The tokens of fields may stand next to each other if those of each value may. -/
theorem isChain_fieldTokens {fields : List (Option String × Json)}
    (each : ∀ field ∈ fields, field.2.tokens.IsChain MayPrecede) :
    (fieldTokens fields).IsChain MayPrecede := by
  induction fields with
  | nil => exact .nil
  | cons field rest ih =>
    obtain ⟨own, others⟩ := List.forall_mem_cons.mp each
    cases rest with
    | nil =>
      rw [fieldTokens]
      exact isChain_cons rfl (isChain_cons rfl own)
    | cons next rest =>
      rw [fieldTokens]
      · exact isChain_cons rfl (isChain_cons rfl (isChain_append_cons own rfl (ih others)))
      · exact nofun

/-- The tokens of a value may stand next to each other. -/
theorem isChain_tokens (json : Json) : json.tokens.IsChain MayPrecede := by
  induction json using nestedInduction with
  | array items ih =>
    rw [tokens]
    exact isChain_cons rfl (isChain_append_cons (isChain_itemTokens ih) rfl .nil)
  | object fields ih =>
    rw [tokens]
    exact isChain_cons rfl (isChain_append_cons (isChain_fieldTokens ih) rfl .nil)
  | null | bool | number | string =>
    rw [tokens]
    exact .singleton _

end Json

namespace JsonReading

/-- Tokens are taken one after the other. -/
theorem run_cons {reading next : JsonReading} {token : JsonToken} {rest : List JsonToken}
    (step : reading.step token = some next) : reading.run (token :: rest) = next.run rest := by
  rw [run, step]
  rfl

/-- Behind tokens that have been taken the reading goes on. -/
theorem run_append {reading next : JsonReading} {first rest : List JsonToken}
    (taken : reading.run first = some next) : reading.run (first ++ rest) = next.run rest := by
  induction first generalizing reading with
  | nil =>
    obtain rfl := Option.some.inj taken
    rfl
  | cons token later ih =>
    rw [run, Option.bind_eq_bind, Option.bind_eq_some_iff] at taken
    obtain ⟨middle, step, taken⟩ := taken
    rw [List.cons_append, run_cons step, ih taken]

/-- A reading passes a value: where one may come, it takes the value's tokens and is behind it. -/
def Passes (json : Json) : Prop :=
  ∀ stack, (value stack).run json.tokens = some (behind stack json)

/-- The first item of an array is taken like every other. -/
theorem run_firstItem (item : Json) (rest : List Json) (stack : List OpenJson)
    (later : List JsonToken) :
    (firstItem stack).run (Json.itemTokens (item :: rest) ++ later) =
      (value (.array [] :: stack)).run (Json.itemTokens (item :: rest) ++ later) := by
  -- No value starts with the bracket that would close an empty array.
  cases rest <;> cases item <;> rfl

/-- The items of an array are taken up to its end. -/
theorem run_itemTokens {item : Json} {rest : List Json} (passes : Passes item)
    (others : ∀ item ∈ rest, Passes item) (before : List Json) (stack : List OpenJson) :
    (value (.array before :: stack)).run (Json.itemTokens (item :: rest) ++ [.closeArray]) =
      some (behind stack (.array (before.reverse ++ item :: rest))) := by
  induction rest generalizing item before with
  | nil =>
    rw [Json.itemTokens, run_append (passes _), run_cons rfl]
    simp [run]
  | cons next rest ih =>
    obtain ⟨passesNext, others⟩ := List.forall_mem_cons.mp others
    rw [Json.itemTokens, List.append_assoc, run_append (passes _), List.cons_append, run_cons rfl,
      ih passesNext others]
    · simp
    · exact nofun

/-- The fields of an object are taken up to its end. A key is taken behind the opening brace as
well as behind a comma. -/
theorem run_fieldTokens {field : Option String × Json} {rest : List (Option String × Json)}
    (passes : Passes field.2) (others : ∀ field ∈ rest, Passes field.2)
    {reading : JsonReading} {before : List (Option String × Json)} {stack : List OpenJson}
    (atKey : ∀ name, reading.step (.string name) = some (colon stack before name)) :
    reading.run (Json.fieldTokens (field :: rest) ++ [.closeObject]) =
      some (behind stack (.object (before.reverse ++ field :: rest))) := by
  induction rest generalizing field before reading with
  | nil =>
    rw [Json.fieldTokens, List.cons_append, run_cons (atKey _), List.cons_append, run_cons rfl,
      run_append (passes _), run_cons rfl]
    simp [run]
  | cons next rest ih =>
    obtain ⟨passesNext, others⟩ := List.forall_mem_cons.mp others
    have atNext (name : Option String) : (key stack (field :: before)).step (.string name) =
        some (colon stack (field :: before) name) := rfl
    rw [Json.fieldTokens]
    · simp only [List.cons_append, List.append_assoc]
      rw [run_cons (atKey _), run_cons rfl, run_append (passes _), run_cons rfl,
        ih passesNext others atNext, List.reverse_cons, List.append_assoc]
      rfl
    · exact nofun

/-- A reading passes every value. -/
theorem passes (json : Json) : Passes json := by
  induction json using Json.nestedInduction with
  | array items ih =>
    intro stack
    rw [Json.tokens, List.cons_append, run_cons rfl]
    cases items with
    | nil => rfl
    | cons item rest =>
      obtain ⟨own, others⟩ := List.forall_mem_cons.mp ih
      rw [run_firstItem]
      exact run_itemTokens own others [] stack
  | object fields ih =>
    intro stack
    rw [Json.tokens, List.cons_append, run_cons rfl]
    cases fields with
    | nil => rfl
    | cons field rest =>
      obtain ⟨own, others⟩ := List.forall_mem_cons.mp ih
      have atKey (name : Option String) :
          (firstKey stack).step (.string name) = some (colon stack [] name) := rfl
      exact run_fieldTokens own others atKey
  | null | bool | number | string =>
    intro stack
    rfl

end JsonReading

/-- Every value is read back from its compact text. -/
theorem Json.parse?_render (json : Json) : Json.parse? json.render = some json := by
  rw [parse?, render, String.toList_ofList, JsonToken.tokens?_flatMap_render json.isChain_tokens]
  simp only [Option.bind_eq_bind, Option.bind_some, JsonReading.passes json []]
  rfl

end Devirt
