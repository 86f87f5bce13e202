import SearchQuery.Text

/-! # Arguments

Options come first and the words of the query after them. Whatever is not exactly an option
begins the query, however much it looks like one, and from the first word on nothing is an
option any more. Options are taken in their order, so a request for help counts only if
nothing was wrong before it.
-/

namespace SearchQuery

inductive ColourChoice where
  /-- When the terminal can show colours and nobody asked for none. -/
  | auto
  | always
  | never
  deriving Repr, DecidableEq

def ColourChoice.ofName? (name : Text) : Option ColourChoice :=
  if name = Text.ofString "auto" then some .auto
  else if name = Text.ofString "always" then some .always
  else if name = Text.ofString "never" then some .never
  else none

structure Invocation where
  words : List Text
  settingsFile : Option Text
  pretty : Bool
  allowPlugin : Bool
  colour : ColourChoice
  deriving Repr, DecidableEq

/-- Why arguments ask for nothing that could be done. -/
inductive Refusal where
  | usage
  | help
  deriving Repr, DecidableEq

namespace CommandLine

inductive Switch where
  | pretty
  | allowPlugin
  | help
  deriving Repr, DecidableEq

inductive Parameter where
  | settingsFile
  | colour
  deriving Repr, DecidableEq

inductive Argument where
  | endOfOptions
  | switch (switch : Switch)
  /-- A switch with a value, which it cannot have. -/
  | overloaded (switch : Switch)
  /-- An option, with its value if that is part of the argument. -/
  | parameter (parameter : Parameter) (value : Option Text)
  /-- The first word of a query, or the value of the option before it. -/
  | word
  deriving Repr, DecidableEq

def switchNamed? (name : Text) : Option Switch :=
  if name = Text.ofString "pretty" then some .pretty
  else if name = Text.ofString "allow-plugin" then some .allowPlugin
  else if name = Text.ofString "help" then some .help
  else none

def parameterNamed? (name : Text) : Option Parameter :=
  if name = Text.ofString "config" then some .settingsFile
  else if name = Text.ofString "color" then some .colour
  else none

/-- What two dashes and something behind them are. A value may follow the name behind an equals
sign. -/
def Argument.ofLong (body : Text) : Argument :=
  let name := body.takeWhile (· ≠ '=')
  let value := (body.dropWhile (· ≠ '=')).tail?
  match switchNamed? name, parameterNamed? name, value with
  | some found, _, none => .switch found
  | some found, _, some _ => .overloaded found
  | none, some found, value => .parameter found value
  | none, none, _ => .word

/-- What a dash and letters behind it are. Every letter has to be an option; what stands
behind the one that takes a value is its value. -/
def Argument.ofLetters (letters : Text) : Argument :=
  if letters.all (· ∈ ['c', 'h']) then
    match letters with
    | 'h' :: _ => .switch .help
    | ['c'] => .parameter .settingsFile none
    | 'c' :: value => .parameter .settingsFile (some value)
    | _ => .word
  else .word

def Argument.ofText : Text → Argument
  | ['-', '-'] => .endOfOptions
  | '-' :: '-' :: body => .ofLong body
  | '-' :: letter :: letters => .ofLetters (letter :: letters)
  | _ => .word

structure Options where
  settingsFile : Option Text := none
  pretty : Bool := false
  allowPlugin : Bool := false
  colour : Option ColourChoice := none

namespace Options

def turnOn (options : Options) : Switch → Except Refusal Options
  | .pretty =>
    if options.pretty then .error .usage else .ok { options with pretty := true }
  | .allowPlugin =>
    if options.allowPlugin then .error .usage else .ok { options with allowPlugin := true }
  | .help => .error .help

/-- Gives an option its value, once. The name of a file is not empty. -/
def set (options : Options) (parameter : Parameter) (value : Text) : Except Refusal Options :=
  match parameter with
  | .settingsFile =>
    if options.settingsFile.isSome ∨ value = [] then .error .usage
    else .ok { options with settingsFile := some value }
  | .colour =>
    match options.colour, ColourChoice.ofName? value with
    | none, some choice => .ok { options with colour := some choice }
    | _, _ => .error .usage

/-- The invocation with the given words, of which there has to be one. -/
def invoke (options : Options) (words : List Text) : Except Refusal Invocation :=
  if words.isEmpty then .error .usage
  else .ok {
    words
    settingsFile := options.settingsFile
    pretty := options.pretty
    allowPlugin := options.allowPlugin
    colour := options.colour.getD .auto }

/-- Reads arguments from an option or the first word on. The value of an option may be a
separate argument, but not one that is itself an option. -/
def read (options : Options) : List Text → Except Refusal Invocation
  | [] => .error .usage
  | argument :: rest =>
    match Argument.ofText argument with
    | .endOfOptions => options.invoke rest
    | .switch switch =>
      match options.turnOn switch with
      | .ok options => options.read rest
      | .error refusal => .error refusal
    | .overloaded _ => .error .usage
    | .parameter parameter (some value) =>
      match options.set parameter value with
      | .ok options => options.read rest
      | .error refusal => .error refusal
    | .parameter parameter none =>
      match rest with
      | [] => .error .usage
      | value :: rest =>
        if Argument.ofText value = .word then
          match options.set parameter value with
          | .ok options => options.read rest
          | .error refusal => .error refusal
        else .error .usage
    | .word => options.invoke (argument :: rest)

end Options

end CommandLine

def Invocation.ofArguments (arguments : List Text) : Except Refusal Invocation :=
  CommandLine.Options.read {} arguments

end SearchQuery
