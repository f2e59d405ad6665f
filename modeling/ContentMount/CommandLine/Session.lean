/-
This file runs the program: it mounts a store and then carries out lines until one of them
leaves the shell.
-/

import ContentMount.CommandLine.Arguments
import ContentMount.Mount.Activation
import ContentMount.Mount.Provider
import ContentMount.Shell.Command

namespace ContentMount.CommandLine

open Remote

/-- The program has ended with a code, or its shell waits for a line. -/
inductive Progress where
  | ended (code : UInt32)
  | waiting (connection : Connection) (shell : Shell)

/-- One stage of the program prints something and leaves it in a new state. -/
structure Stage where
  output : Output
  progress : Progress

/-- The name and the version of the program. -/
def version : String := "cloudmount 0.1.0"

/-- The lines that explain the options. -/
def helpLines : List String :=
  ["Browse a Dropbox folder or S3 bucket as a read-only content tree", "",
    "Usage: cloudmount [OPTIONS]", "", "Options:"] ++
  Setting.all.map (fun setting => "  " ++ setting.shown ++ "  " ++ setting.purpose) ++
  ["  --verbose  Log at debug level regardless of CLOUDMOUNT_LOG", "  --help  Print help",
    "  --version  Print version"]

/-- The heading that is printed before anything is mounted. -/
def heading (config : MountConfig) : List String :=
  let rule := String.ofList (List.replicate 60 '=')
  [rule, "  cloudmount - Remote Folder Browser",
    "  " ++ config.provider ++ " mounted at " ++ config.mountPoint, rule, ""]

/-- Ends the program. -/
def finish (code : UInt32) (out err : List String) : Stage :=
  ⟨⟨(Output.ofLines out).out, (Output.ofLines err).out⟩, .ended code⟩

/-- Ends the program with a message about what went wrong. -/
def fail (out chain : List String) : Stage :=
  finish 1 out ["Error: " ++ ": ".intercalate chain]

/-- How many pages a build may follow in a row. It is far more than any store has. -/
def buildLimit : Nat := 1 <<< 62

/-- The stage after mounting. -/
def mounted (out : List String) (connection : Connection) :
    Option (Except MountError Mount) → Stage
  | none => fail out ["The remote tree has no end"]
  | some (.error error) => fail out error.chain
  | some (.ok mount) =>
    { output := .ofLines (out ++
        ["Mounted " ++ toString mount.view.snapshot.size ++
          " nodes. Type 'help' for available commands or 'exit' to quit", ""])
      progress := .waiting connection (Shell.start mount.view) }

/-- The store of a connection, with a record of its requests. No time is measured here. -/
def meteredStore {σ : Type} (transport : Transport σ) (connection : Connection) :
    Store (σ × Metrics) :=
  (connection.store transport).metered fun _ _ => 0

/-- Prints the heading and mounts the store of a configuration. -/
def mount {σ : Type} (transport : Transport σ) (region : Option String) (config : MountConfig) :
    StateM (σ × Metrics) Stage :=
  let out := heading config
  match Registry.standard.connect config region with
  | .error error =>
    return fail out (("Failed to create " ++ config.provider ++ " store") :: error.chain)
  | .ok connection => do
    let outcome ← (meteredStore transport connection).run (Mount.activate buildLimit config)
    return mounted out connection outcome

/-- Starts the program on its arguments. -/
def start {σ : Type} (transport : Transport σ) (surroundings : String → Option String)
    (arguments : List String) : StateM (σ × Metrics) Stage :=
  match readArguments arguments with
  | .error .version => return finish 0 [version] []
  | .error .help => return finish 0 helpLines []
  | .error (.usage error) => return finish 2 [] [error.message]
  | .ok values => mount transport (surroundings "AWS_REGION") (configOf values surroundings)

/-- What the program prints at its end. -/
def farewell : Output := .ofLines ["Goodbye!"]

/-- Carries out one line. -/
def step {σ : Type} (transport : Transport σ) (connection : Connection) (shell : Shell)
    (line : String) : StateM (σ × Metrics) Stage := do
  let (_, metrics) ← get
  let (result, shell) ←
    (meteredStore transport connection).run (shell.execute false (some metrics) line)
  match result with
  | .ok output => return ⟨output, .waiting connection shell⟩
  | .error .exit => return ⟨farewell, .ended 0⟩
  | .error error =>
    return ⟨⟨"", "Error: " ++ error.message ++ "\n"⟩, .waiting connection shell⟩

/-- The stage at the end of the input. -/
def endOfInput : Stage :=
  ⟨.ofLines ["exit", "Goodbye!"], .ended 0⟩

/-- What the whole program prints, and the code that it ends with. -/
structure Transcript where
  output : Output
  code : UInt32

/-- Adds the output of a stage to what follows. -/
def Transcript.after (output : Output) (rest : Transcript) : Transcript :=
  ⟨⟨output.out ++ rest.output.out, output.err ++ rest.output.err⟩, rest.code⟩

/-- Carries out lines until the program ends. -/
def proceed {σ : Type} (transport : Transport σ) (stage : Stage) :
    List String → StateM (σ × Metrics) Transcript
  | [] => return match stage.progress with
    | .ended code => ⟨stage.output, code⟩
    | .waiting .. => Transcript.after stage.output ⟨endOfInput.output, 0⟩
  | line :: rest => do
    match stage.progress with
    | .ended code => return ⟨stage.output, code⟩
    | .waiting connection shell =>
      let next ← step transport connection shell line
      return Transcript.after stage.output (← proceed transport next rest)

/-- A line without its end. The end may be preceded by a carriage return. -/
def chomp (line : List Char) : String :=
  String.ofList (if line.getLast? == some '\r' then line.dropLast else line)

/-- The lines of an input. The last one may lack its end, and then it keeps all it has. -/
def linesOf (input : String) : List String :=
  match (input.toList.splitOn '\n').reverse with
  | [] => []
  | last :: before =>
    (before.reverse.map chomp) ++ if last.isEmpty then [] else [String.ofList last]

/-- Runs the program on its arguments and its whole input. -/
def run {σ : Type} (transport : Transport σ) (surroundings : String → Option String)
    (arguments : List String) (input : String) : StateM (σ × Metrics) Transcript := do
  proceed transport (← start transport surroundings arguments) (linesOf input)

end ContentMount.CommandLine
