import TimeReports.Text.Digit

set_option autoImplicit false

namespace TimeReports.Command

/-- Why a command does not run. -/
inductive Refusal where
  /-- Help was asked for. -/
  | help
  | usage
  deriving DecidableEq, Repr

inductive Choice where
  | help
  | option
  deriving DecidableEq, Repr

inductive Argument where
  | plain (text : Text)
  | mark
  /-- A known option, perhaps with a value behind an equals sign. -/
  | chosen (choice : Choice) (value : Option Text)
  /-- `-h` with letters right behind it, or with an equals sign between. -/
  | helpLetters (letters : Text)
  | unknown
  deriving DecidableEq, Repr

/-- What is known of the value of an option. -/
inductive Setting where
  | absent
  /-- Given, but with nothing for its value. -/
  | emptied
  | given (value : Text)
  deriving DecidableEq, Repr

/-- The arguments that a command runs with. -/
structure Arguments where
  subject : Text
  option : Setting
  deriving DecidableEq, Repr

def optionsEnd : Text := ['-', '-']

/-- The names of options, for a command whose own option has that name. -/
def optionNames (option : Text) : List (Text × Choice) :=
  [("-h".text, .help), ("--help".text, .help), (option, .option)]

def isNegativeNumber (text : Text) : Bool :=
  match Text.withoutLineFeed text with
  | .char '-' :: rest =>
    let whole := rest.takeWhile Text.isDecimal
    match rest.dropWhile Text.isDecimal with
    | [] => !whole.isEmpty
    | .char '.' :: fraction => Text.isNumeral fraction
    | _ => false
  | _ => false

/-- An argument up to its first equals sign, and the value behind it. -/
def splitValue (argument : Text) : Text × Option Text :=
  match Text.cutAt? '=' argument with
  | some (name, value) => (name, some value)
  | none => (argument, none)

def meanings (option argument : Text) : List Argument :=
  match argument with
  | .char '-' :: .char '-' :: _ =>
    let (start, value) := splitValue argument
    ((optionNames option).filter fun (name, _) => start.isPrefixOf name).map
      fun (_, choice) => .chosen choice value
  | .char '-' :: .char 'h' :: letters => [.helpLetters letters]
  | _ => []

def named? (option argument : Text) : Option Argument :=
  let (name, value) := splitValue argument
  match value with
  | some letters =>
    if name = "-h".text then some (.helpLetters letters)
    else ((optionNames option).lookup name).map (.chosen · value)
  | none => ((optionNames option).lookup name).map (.chosen · none)

/-- What an argument is, as long as options have not ended. -/
def classify (option argument : Text) : Except Refusal Argument :=
  match argument with
  | .char '-' :: _ :: _ =>
    match named? option argument with
    | some chosen => .ok chosen
    | none =>
      match meanings option argument with
      | [chosen] => .ok chosen
      | _ :: _ :: _ => .error .usage
      | [] =>
        if isNegativeNumber argument || argument.contains ' ' then .ok (.plain argument)
        else .ok .unknown
  | _ => .ok (.plain argument)

def classifyAll (option : Text) : List Text → Except Refusal (List Argument)
  | [] => .ok []
  | argument :: rest =>
    if argument = optionsEnd then .ok (.mark :: rest.map .plain)
    else do
      let first ← classify option argument
      let others ← classifyAll option rest
      .ok (first :: others)

/-- What has been found among the arguments so far. -/
structure Found where
  subject : Option Text
  option : Setting
  /-- Whether there was an argument that nothing takes. -/
  extra : Bool

/-- What the letters behind `-h` ask for: help, when there are any and each is `h` again. -/
def helpAmong (letters : Text) : Refusal :=
  if !letters.isEmpty && letters.all (· == 'h') then .help else .usage

def settingOf (value : Text) : Setting := if value = optionsEnd then .emptied else .given value

def gather (found : Found) : List Argument → Except Refusal Found
  | [] => .ok found
  | .plain text :: rest =>
    match found.subject, rest with
    | none, .mark :: rest => gather { found with subject := some text } rest
    | none, rest => gather { found with subject := some text } rest
    | some _, rest => gather { found with extra := true } rest
  | .mark :: rest =>
    match found.subject, rest with
    | none, .plain text :: rest => gather { found with subject := some text } rest
    | _, rest => gather { found with extra := true } rest
  | .unknown :: rest => gather { found with extra := true } rest
  | .chosen .help none :: _ => .error .help
  | .chosen .help (some _) :: _ => .error .usage
  | .helpLetters letters :: _ => .error (helpAmong letters)
  | .chosen .option (some value) :: rest => gather { found with option := settingOf value } rest
  | .chosen .option none :: .plain value :: rest =>
    gather { found with option := settingOf value } rest
  | .chosen .option none :: _ => .error .usage

def readArguments (option : String) (arguments : List Text) : Except Refusal Arguments := do
  let found ← gather ⟨none, .absent, false⟩ (← classifyAll option.text arguments)
  match found.subject with
  | none => .error .usage
  | some subject => if found.extra then .error .usage else .ok ⟨subject, found.option⟩

end TimeReports.Command
