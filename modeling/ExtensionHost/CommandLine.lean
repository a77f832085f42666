/-
**The command: the demonstration of the manifest in a file, as lines of text.**

* `CommandLine.path?`: the path among the arguments.
* `CommandLine.Ending`, `CommandLine.conclude`: how the demonstration of a file ends.
* `CommandLine.Transcript`: what the command writes, with its exit code; `Ending.transcript` writes
  an ending, and `CommandLine.usage` is for arguments that name no path.
-/

import ExtensionHost.Demo
import ExtensionHost.Manifest.File

namespace ExtensionHost.CommandLine

/-- The path, which is the only argument. -/
def path? : List String → Option String
  | [path] => some path
  | _ => none

/-- What the command writes. -/
structure Transcript where
  /-- Zero if all went well. -/
  exitCode : Nat
  /-- The lines of the output. -/
  output : List String := []
  /-- The lines about what went wrong. -/
  complaints : List String := []
deriving DecidableEq, Repr

/-- The name of the command. -/
def name : String :=
  "the-switchyard"

/-- What is written when the arguments name no path. -/
def usage : Transcript where
  exitCode := 1
  complaints := [
    "Usage: " ++ name ++ " <manifest.yaml>",
    "Example: " ++ name ++ " configs/demo.yaml",
    "Set RUST_LOG=the_switchyard=debug to see bus and registry events."]

/-! ### Endings -/

/-- How the demonstration of a file ends. -/
inductive Ending where
  /-- No manifest is obtained from the file. -/
  | refused (error : ManifestError)
  /-- The demonstration ends early. -/
  | halted (manifest : Manifest) (halt : Demo.Halt)
  /-- The demonstration is complete. -/
  | completed (manifest : Manifest) (report : Demo.Report)

/-- The ending for the content of a file, if there is one. -/
def conclude (path : String) (content : FileContent) : Option Ending :=
  match Manifest.loadValid path content with
  | .error error => some (.refused error)
  | .ok manifest =>
    (Demo.run manifest).map fun
      | .error halt => .halted manifest halt
      | .ok report => .completed manifest report

/-! ### Lines -/

/-- One of several causes of an error. All lines after the first are indented like it. -/
def numbered (index : Nat) (cause : String) : String :=
  "    " ++ toString index ++ ": " ++ "\n       ".intercalate (cause.splitOn "\n")

/-- The lines about a manifest that was not obtained. -/
def refusal (path : String) (error : ManifestError) : List String := [
  "Error: failed to load manifest " ++ path, "", "Caused by:",
  numbered 0 error.message, numbered 1 error.cause]

/-- The first lines of the output. -/
def heading (path : String) (manifest : Manifest) : List String := [
  "🚉 Switchyard", "═════════════", "📋 Manifest: " ++ path,
  "🔧 " ++ toString manifest.eventTypes.length ++ " event types, " ++
    toString manifest.extensions.length ++ " extensions", ""]

/-- The lines about the load order. -/
def orderLines (order : List ExtensionId) : List String :=
  "📦 Load order:" ::
    (order.mapIdx fun index id => "  " ++ toString (index + 1) ++ ". " ++ id.text) ++ [""]

/-- The lines about one dispatch. -/
def roundLines (round : Demo.Round) : List String :=
  ("  ▶ " ++ round.eventType.name ++ " (" ++ toString round.subscriberCount ++ " subscribers)") ::
    (round.calls.map fun call =>
      "    ↳ " ++ call.extension.text ++ " handled " ++ call.eventType.name) ++
    ["    ✅ invoked " ++ toString round.outcome.invoked ++ ", skipped " ++
      toString round.outcome.skipped ++ ", failed " ++ toString round.outcome.errors.length]

/-- The lines about the failures of one dispatch. -/
def failureLines (round : Demo.Round) : List String :=
  round.outcome.errors.map fun error => "    ❌ " ++ error.message

/-- The lines of a complete demonstration that took so long. -/
def reportLines (report : Demo.Report) (elapsed : String) : List String :=
  orderLines report.setup.order ++ ["📣 Dispatching one event per declared type:"] ++
    report.rounds.flatMap roundLines ++ ["", "🎉 Done in " ++ elapsed]

/-- What is written about an ending, for the file at a path and a run that took so long. -/
def Ending.transcript (path elapsed : String) : Ending → Transcript
  | refused error => { exitCode := 1, complaints := refusal path error }
  | halted manifest halt =>
    { exitCode := 1, output := heading path manifest, complaints := ["Error: " ++ halt.message] }
  | completed manifest report =>
    { exitCode := 0
      output := heading path manifest ++ reportLines report elapsed
      complaints := report.rounds.flatMap failureLines }

end ExtensionHost.CommandLine
