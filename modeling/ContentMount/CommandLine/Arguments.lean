/-
This file reads the arguments of the program.
-/

import ContentMount.CommandLine.Setting
import ContentMount.Text.Control

namespace ContentMount.CommandLine

/-- The options that take no value. -/
inductive Flag where
  | verbose
  | help
  | version
  deriving DecidableEq

namespace Flag

def all : List Flag := [.verbose, .help, .version]

def longName : Flag → String
  | .verbose => "verbose"
  | .help => "help"
  | .version => "version"

def shortName : Flag → Char
  | .verbose => 'v'
  | .help => 'h'
  | .version => 'V'

def shown (flag : Flag) : String :=
  "--" ++ flag.longName

def ofLongName? (name : String) : Option Flag :=
  all.find? fun flag => flag.longName == name

def ofShortName? (name : Char) : Option Flag :=
  all.find? fun flag => flag.shortName == name

end Flag

/-- What can be wrong with the arguments. -/
inductive UsageError where
  | unexpectedArgument (argument : String)
  | missingValue (setting : Setting)
  | repeated (option : String)
  | unexpectedValue (value option : String)
  deriving DecidableEq

/-- The first line of the message. What the user typed is shown without control sequences. -/
def UsageError.message : UsageError → String
  | .unexpectedArgument argument =>
    "error: unexpected argument '" ++ Text.withoutControls argument ++ "' found"
  | .missingValue setting =>
    "error: a value is required for '" ++ setting.shown ++ "' but none was supplied"
  | .repeated option => "error: the argument '" ++ option ++ "' cannot be used multiple times"
  | .unexpectedValue value option =>
    "error: unexpected value '" ++ Text.withoutControls value ++ "' for '" ++ option ++
      "' found; no more were expected"

/-- Reading ends early with a wish for help or for the version, or with an error. -/
inductive Stop where
  | help
  | version
  | usage (error : UsageError)
  deriving DecidableEq

/-- What has been read so far. The latest option is open until the next one begins, and it may
still be without its value. -/
structure Intake where
  values : Values
  verbose : Bool
  latest : Option (Setting × Option String)

namespace Intake

def start : Intake := ⟨[], false, none⟩

/-- Gives a setting its value. A setting has one value at most. -/
def give (intake : Intake) (setting : Setting) (value : String) : Except Stop Intake :=
  if (intake.values.lookup setting).isSome then .error (.usage (.repeated setting.shown))
  else .ok { intake with values := intake.values ++ [(setting, value)] }

/-- Closes the latest option. -/
def close (intake : Intake) : Except Stop Intake :=
  match intake.latest with
  | none => .ok intake
  | some (setting, none) => .error (.usage (.missingValue setting))
  | some (setting, some value) => { intake with latest := none }.give setting value

/-- Begins an option whose value is to follow. -/
def expect (intake : Intake) (setting : Setting) : Except Stop Intake := do
  return { ← intake.close with latest := some (setting, none) }

/-- Takes an option that has its value attached. -/
def attach (intake : Intake) (setting : Setting) (value : String) : Except Stop Intake := do
  (← intake.close).give setting value

/-- Takes a flag. -/
def raise (intake : Intake) (flag : Flag) : Except Stop Intake := do
  let intake ← intake.close
  match flag with
  | .help => throw .help
  | .version => throw .version
  | .verbose =>
    if intake.verbose then throw (.usage (.repeated flag.shown))
    else return { intake with verbose := true }

/-- Takes the letters after a single dash. An option that needs a value takes the other letters
as its value, without an equals sign before them. -/
def takeLetters (intake : Intake) : List Char → Except Stop Intake
  | [] => .ok intake
  | letter :: rest =>
    match Flag.ofShortName? letter, Setting.ofShortName? letter with
    | some flag, _ => do takeLetters (← intake.raise flag) rest
    | none, some setting => match rest with
      | [] => intake.expect setting
      | '=' :: value => intake.attach setting (String.ofList value)
      | value => intake.attach setting (String.ofList value)
    | none, none =>
      .error (.usage (.unexpectedArgument (String.ofList ['-', letter])))

/-- Takes the text after two dashes: a name, and perhaps a value after an equals sign. -/
def takeLong (intake : Intake) (text : List Char) : Except Stop Intake :=
  let name := String.ofList (text.takeWhile (· != '='))
  let value? := match text.dropWhile (· != '=') with
    | _ :: value => some (String.ofList value)
    | [] => none
  match Setting.ofLongName? name, Flag.ofLongName? name, value? with
  | some setting, _, some value => intake.attach setting value
  | some setting, _, none => intake.expect setting
  | none, some flag, some value => .error (.usage (.unexpectedValue value flag.shown))
  | none, some flag, none => intake.raise flag
  | none, none, _ => .error (.usage (.unexpectedArgument ("--" ++ name)))

/-- Takes an argument without dashes, which is the value of an option that waits for one. -/
def takePlain (intake : Intake) (argument : String) : Except Stop Intake :=
  match intake.latest with
  | some (setting, none) => .ok { intake with latest := some (setting, some argument) }
  | _ => .error (.usage (.unexpectedArgument argument))

/-- Takes one argument. -/
def take (intake : Intake) (argument : String) : Except Stop Intake :=
  match argument.toList with
  | '-' :: '-' :: text => intake.takeLong text
  | '-' :: c :: letters => intake.takeLetters (c :: letters)
  | _ => intake.takePlain argument

/-- Takes all arguments. Nothing is expected after two dashes alone. -/
def takeAll (intake : Intake) : List String → Except Stop Intake
  | [] => intake.close
  | "--" :: [] => intake.close
  | "--" :: argument :: _ => .error (.usage (.unexpectedArgument argument))
  | argument :: rest => do takeAll (← intake.take argument) rest

end Intake

/-- The values that the arguments give. -/
def readArguments (arguments : List String) : Except Stop Values :=
  (Intake.start.takeAll arguments).map Intake.values

end ContentMount.CommandLine
