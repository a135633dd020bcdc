/-!
Options on a command line.

An option is written `--name value`, `--name=value`, `-n value` or `-nvalue`, and a flag `--name`.
Each may be given once. A value behind a blank does not start with a hyphen, unless it is nothing
but one.
-/

namespace RpcSchema.CommandLine

/-- What may follow an option. -/
inductive ValueForm
  | nothing
  | text
  /-- A text that is not empty. -/
  | path
  | choice (names : List String)

def ValueForm.accepts : ValueForm → Option String → Bool
  | .nothing, none => true
  | .text, some _ => true
  | .path, some value => !value.isEmpty
  | .choice names, some value => names.contains value
  | _, _ => false

structure OptionForm where
  name : String
  /-- The letter that stands for the name. -/
  letter : Option Char := none
  value : ValueForm

/-- An option as given. -/
structure Setting where
  name : String
  value : Option String

/-- A single argument as an option: one with its value, or one whose value is still to come. -/
inductive Reading
  | closed (form : OptionForm) (value : Option String)
  | awaiting (form : OptionForm)
  | refused

/-- The parts of a text around its first equals sign. -/
def splitEquals (chars : List Char) : List Char × Option (List Char) :=
  match chars.dropWhile (· != '=') with
  | [] => (chars, none)
  | _ :: value => (chars.takeWhile (· != '='), some value)

/-- An option without a value of its own. -/
def Reading.bare (form : OptionForm) : Reading :=
  match form.value with
  | .nothing => .closed form none
  | _ => .awaiting form

def Reading.ofFound (form : Option OptionForm) (value : Option (List Char)) : Reading :=
  match form, value with
  | some form, none => .bare form
  | some form, some value => .closed form (some (String.ofList value))
  | none, _ => .refused

/-- The value behind an option's letter, if there is one. -/
def valueBehindLetter : List Char → Option (List Char)
  | [] => none
  | '=' :: value => some value
  | value => some value

def readArgument (forms : List OptionForm) (argument : String) : Reading :=
  match argument.toList with
  | '-' :: '-' :: chars =>
    let (name, value) := splitEquals chars
    .ofFound (forms.find? fun form => form.name == String.ofList name) value
  | '-' :: letter :: rest =>
    .ofFound (forms.find? fun form => form.letter == some letter) (valueBehindLetter rest)
  | _ => .refused

/-- Whether an argument would be taken for an option. -/
def looksLikeOption (argument : String) : Bool :=
  argument.toList.head? == some '-' && argument != "-"

/-- Adds an option that is not given yet and whose value is acceptable. -/
def addSetting (form : OptionForm) (value : Option String) (settings : List Setting) :
    Option (List Setting) :=
  if form.value.accepts value && !(settings.any fun setting => setting.name == form.name) then
    some (settings ++ [⟨form.name, value⟩])
  else none

/-- Reads arguments as options of the given forms, behind some that are read already. -/
def readSettings (forms : List OptionForm) :
    List String → List Setting → Option (List Setting)
  | [], settings => some settings
  | ["--"], settings => some settings
  | argument :: rest, settings =>
    match readArgument forms argument with
    | .refused => none
    | .closed form value => addSetting form value settings >>= readSettings forms rest
    | .awaiting form =>
      match rest with
      | [] => none
      | value :: rest =>
        if looksLikeOption value then none
        else addSetting form (some value) settings >>= readSettings forms rest

def isSet (settings : List Setting) (name : String) : Bool :=
  settings.any fun setting => setting.name == name

def value? (settings : List Setting) (name : String) : Option String :=
  (settings.find? fun setting => setting.name == name) >>= Setting.value

end RpcSchema.CommandLine
