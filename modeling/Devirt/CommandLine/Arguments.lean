/-!
# Arguments of the command line

Options have a short and a long form. A value is the next argument, or follows an equals sign,
or in the short form follows at once; the next argument is no value if it looks like an option.
Short options can be put together behind one dash. The snapshot must be named, paths may not be
empty, and apart from markers and verbosity no option may be given twice. There are no arguments
other than options.
-/

namespace Devirt.CommandLine

/-- What the command line asks for. -/
structure Arguments where
  file : String
  output : String := "./jitlens-out"
  hierarchy : Bool := false
  markers : List String := []
  listing : Option String := none
  verbosity : Nat := 0
deriving DecidableEq, Repr

/-- An option, with its value if it has one. -/
inductive Setting
  | file (path : String)
  | output (path : String)
  | hierarchy
  | marker (text : String)
  | listing (text : String)
  | verbose
deriving DecidableEq, Repr

/-- An option as it is declared: it stands alone or takes a value. -/
inductive OptionShape
  | alone (setting : Setting)
  | valued (setting : String → Setting)

/-- The option of a long name. -/
def longOption? : String → Option OptionShape
  | "file" => some (.valued .file)
  | "output" => some (.valued .output)
  | "hierarchy" => some (.alone .hierarchy)
  | "marker" => some (.valued .marker)
  | "listing" => some (.valued .listing)
  | "verbose" => some (.alone .verbose)
  | _ => none

/-- The option of a letter. -/
def shortOption? : Char → Option OptionShape
  | 'f' => some (.valued .file)
  | 'o' => some (.valued .output)
  | 'm' => some (.valued .marker)
  | 'l' => some (.valued .listing)
  | 'v' => some (.alone .verbose)
  | _ => none

/-- What one argument holds: options, and perhaps a last one that waits for its value. -/
abbrev Held := List Setting × Option (String → Setting)

/-- What an argument of short options holds, behind its dash. -/
def readShort? : List Char → Option Held
  | [] => some ([], none)
  | letter :: rest =>
    match shortOption? letter, rest with
    | none, _ => none
    | some (.alone setting), rest =>
      (readShort? rest).map fun (settings, waiting) => (setting :: settings, waiting)
    | some (.valued setting), [] => some ([], some setting)
    | some (.valued setting), '=' :: value => some ([setting (String.ofList value)], none)
    | some (.valued setting), value => some ([setting (String.ofList value)], none)

/-- What an argument of a long option holds, behind its dashes. -/
def readLong? (cs : List Char) : Option Held :=
  match longOption? (String.ofList (cs.takeWhile (· ≠ '='))), cs.dropWhile (· ≠ '=') with
  | some (.alone setting), [] => some ([setting], none)
  | some (.valued setting), [] => some ([], some setting)
  | some (.valued setting), _ :: value => some ([setting (String.ofList value)], none)
  | _, _ => none

/-- What an argument holds. -/
def readArgument? (argument : String) : Option Held :=
  match argument.toList with
  | '-' :: '-' :: cs => readLong? cs
  | '-' :: c :: cs => readShort? (c :: cs)
  | _ => none

/-- Whether an argument is taken for an option: a dash with something behind it. -/
def looksLikeOption (argument : String) : Bool :=
  argument.toList.head? == some '-' && argument != "-"

/-- The options of the arguments, the first of which may be awaited as a value. Two dashes end
the options, and nothing may follow them. -/
def readSettings? (waiting : Option (String → Setting)) : List String → Option (List Setting)
  | [] => if waiting.isNone then some [] else none
  | argument :: rest =>
    match waiting with
    | some setting =>
      if looksLikeOption argument then none
      else (readSettings? none rest).map (setting argument :: ·)
    | none =>
      if argument = "--" then (if rest = [] then some [] else none)
      else do
        let (settings, waiting) ← readArgument? argument
        some (settings ++ (← readSettings? waiting rest))

/-- The only entry of a list, or the default for an empty one. -/
def atMostOne? {α : Type} (default : α) : List α → Option α
  | [] => some default
  | [only] => some only
  | _ => none

/-- The arguments that options make up. -/
def Arguments.ofSettings? (settings : List Setting) : Option Arguments := do
  let files := settings.filterMap fun | .file path => some path | _ => none
  let outputs := settings.filterMap fun | .output path => some path | _ => none
  let listings := settings.filterMap fun | .listing text => some (some text) | _ => none
  let file ← atMostOne? "" files
  let output ← atMostOne? "./jitlens-out" outputs
  let listing ← atMostOne? none listings
  let hierarchy ← atMostOne? false (settings.filterMap fun | .hierarchy => some true | _ => none)
  if file = "" ∨ output = "" then none
  else some {
    file, output, hierarchy, listing
    markers := settings.filterMap fun | .marker text => some text | _ => none
    verbosity := settings.count .verbose }

/-- What the command line asks for, if it is well formed. -/
def Arguments.ofList? (arguments : List String) : Option Arguments := do
  ofSettings? (← readSettings? none arguments)

end Devirt.CommandLine
