/-
**What is found at a path.**

* `FileProblem`: why a file gives no text; `FileProblem.message` is the text of the problem.
* `FileContent`: the bytes at a path, or the problem with them; `FileContent.text` is their text.
-/

namespace ExtensionHost

/-- Why a file gives no text. -/
inductive FileProblem where
  /-- The system refuses to read it, for the reason with this number. -/
  | system (reason : String) (number : Nat)
  /-- Its bytes are no text. -/
  | notText
deriving DecidableEq, Repr

namespace FileProblem

/-- There is no such file. -/
def missing : FileProblem :=
  .system "No such file or directory" 2

/-- The file may not be read. -/
def denied : FileProblem :=
  .system "Permission denied" 13

/-- The path leads through something that is no directory. -/
def notDirectory : FileProblem :=
  .system "Not a directory" 20

/-- The file is a directory. -/
def directory : FileProblem :=
  .system "Is a directory" 21

/-- The path, or a name in it, is too long. -/
def tooLong : FileProblem :=
  .system "File name too long" 36

/-- The text of the problem. -/
def message : FileProblem → String
  | system reason number => reason ++ " (os error " ++ toString number ++ ")"
  | notText => "stream did not contain valid UTF-8"

end FileProblem

/-- What is found at a path: bytes, or a reason why there are none. -/
abbrev FileContent := Except FileProblem ByteArray

/-- The text of a file, in UTF-8. -/
def FileContent.text (content : FileContent) : Except FileProblem String := do
  match String.fromUTF8? (← content) with
  | some text => return text
  | none => throw .notText

end ExtensionHost
