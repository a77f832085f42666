/-
**Manifests in files.**

* `Manifest.load`: the manifest in a file.
* `Manifest.loadValid`: the manifest in a file, if it has no fault.
-/

import ExtensionHost.Manifest.Error
import ExtensionHost.Manifest.Reader

namespace ExtensionHost.Manifest

/-- The manifest in the file at a path. -/
def load (path : String) (content : FileContent) : Except ManifestError Manifest := do
  match ofText? (← content.text.mapError (.read path)) with
  | some manifest => return manifest
  | none => throw .parse

/-- The manifest in the file at a path, which must have no fault. -/
def loadValid (path : String) (content : FileContent) : Except ManifestError Manifest := do
  let manifest ← load path content
  manifest.validate.mapError .invalid
  return manifest

end ExtensionHost.Manifest
