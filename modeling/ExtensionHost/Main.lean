/-
**The program: reads the file, runs the demonstration, and prints what the command writes.**
-/

import ExtensionHost.CommandLine
import ExtensionHost.Text.Elapsed

namespace ExtensionHost.CommandLine

/-- The problem that an error of the system stands for. -/
def problemOf : IO.Error → FileProblem
  | .noFileOrDirectory .. => .missing
  | .permissionDenied .. => .denied
  | .inappropriateType _ number reason => .system reason number.toNat
  | .invalidArgument _ number reason => .system reason number.toNat
  | .resourceExhausted _ number reason => .system reason number.toNat
  | .otherError number reason => .system reason number.toNat
  | error => .system (toString error) 0

/-- The content of the file at a path. -/
def readFile (path : String) : IO FileContent := do
  try
    return .ok (← IO.FS.readBinFile path)
  catch error =>
    return .error (problemOf error)

/-- Prints what the command writes, and gives the exit code. -/
def print (transcript : Transcript) : IO UInt32 := do
  for line in transcript.output do
    IO.println line
  for line in transcript.complaints do
    IO.eprintln line
  return transcript.exitCode.toUInt32

/-- Runs the command. -/
def execute (arguments : List String) : IO UInt32 := do
  match path? arguments with
  | none => print usage
  | some path =>
    let start ← IO.monoNanosNow
    match conclude path (← readFile path) with
    | none => return 1
    | some ending =>
      let stop ← IO.monoNanosNow
      print (ending.transcript path (Text.elapsed (stop - start)))

end ExtensionHost.CommandLine

def main (arguments : List String) : IO UInt32 :=
  ExtensionHost.CommandLine.execute arguments
