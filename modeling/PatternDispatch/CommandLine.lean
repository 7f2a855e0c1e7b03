/-
This file holds the command line: what the arguments ask for, and what the program writes
and returns for it. The first option or unknown word decides.
-/
import PatternDispatch.Demo.Run

namespace PatternDispatch.CommandLine

/-- What the arguments ask for. -/
inductive Command where
  | list
  | help
  | run (demos : List Demo)
  deriving DecidableEq

/-- Why the arguments are refused. -/
inductive UsageError where
  | unknownDemo (name : String)
  | unknownOption (option : String)
  deriving DecidableEq

/-- The text of the error. -/
def UsageError.message : UsageError → String
  | unknownDemo name => "unknown demo `" ++ name ++ "` (try `scrut --list`)"
  | unknownOption option => "unknown option `" ++ option ++ "`"

/-- The name of the kind of error. -/
def UsageError.kind : UsageError → String
  | unknownDemo _ => "UnknownDemo"
  | unknownOption _ => "UnknownOption"

/-! ### Arguments -/

/-- Reads arguments after those that named `demos`. -/
def parseAfter (demos : List Demo) : List String → Except UsageError Command
  | [] => .ok (.run (if demos.isEmpty then Demo.all else demos))
  | argument :: later =>
    if argument = "--list" ∨ argument = "-l" then .ok .list
    else if argument = "--help" ∨ argument = "-h" then .ok .help
    else if argument.startsWith "-" then .error (.unknownOption argument)
    else
      match Demo.ofName? argument with
      | none => .error (.unknownDemo argument)
      | some demo => parseAfter (demos ++ [demo]) later

/-- Reads the arguments; without any demonstration named, all are meant. -/
def parse (arguments : List String) : Except UsageError Command := parseAfter [] arguments

/-! ### Running -/

/-- What the program returns and writes. -/
structure Outcome where
  status : UInt32
  output : String
  errors : String

/-- Lines of text, each with its end. -/
def lines (texts : List String) : String := String.join (texts.map (· ++ "\n"))

/-- What is written when help is asked for. -/
def usage : List String := [
  "Usage: scrut [--list] [demo...]",
  "",
  "Runs every demo when none are named.",
  "",
  "Environment:",
  "  SCRUT_LOG=<filter>   tracing filter (falls back to RUST_LOG, default `warn`)",
  "  SCRUT_LOG_TREE=1     indented span output"]

/-- Runs demonstrations one after the other until one fails. -/
def runDemos : List Demo → Outcome
  | [] => ⟨0, "", ""⟩
  | demo :: later =>
    let performance := demo.run none
    match performance.failure with
    | some failure =>
      ⟨1, performance.text, lines ["error: demo `" ++ demo.name ++ "` failed: " ++ failure.message]⟩
    | none =>
      let rest := runDemos later
      ⟨rest.status, performance.text ++ rest.output, rest.errors⟩

/-- Does what the arguments ask for. -/
def execute : Command → Outcome
  | .help => ⟨0, lines usage, ""⟩
  | .list =>
    ⟨0, lines (Demo.all.map fun demo => Text.padded 10 demo.name ++ " " ++ demo.description), ""⟩
  | .run demos => runDemos demos

/-- The program on its arguments. -/
def run (arguments : List String) : Outcome :=
  match parse arguments with
  | .error error => ⟨2, "", lines ["error: " ++ error.message]⟩
  | .ok command => execute command

end PatternDispatch.CommandLine
