/-
**Why no manifest is obtained from a file.**

* `ManifestError`: the file gives no text, the text is no manifest, or the manifest has a fault.
* `ManifestError.message`, `ManifestError.cause`: the text of the error, and that of the error
  behind it.
-/

import ExtensionHost.ConfigurationError
import ExtensionHost.File.Basic

namespace ExtensionHost

/-- Why no manifest is obtained from a file. -/
inductive ManifestError where
  /-- The file at the path gives no text. -/
  | read (path : String) (problem : FileProblem)
  /-- The text is no manifest. -/
  | parse
  /-- The manifest has a fault. -/
  | invalid (error : ConfigurationError)
deriving DecidableEq, Repr

namespace ManifestError

/-- The error behind this one. -/
def cause : ManifestError → String
  | read _ problem => problem.message
  | parse => "the text is not a document with the parts of a manifest"
  | invalid error => error.message

/-- The text of the error. -/
def message : ManifestError → String
  | read path problem => "failed to read manifest '" ++ path ++ "': " ++ problem.message
  | parse => "failed to parse manifest: " ++ cause parse
  | invalid error => "invalid manifest: " ++ error.message

end ManifestError

end ExtensionHost
