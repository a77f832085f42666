/-
**Manifests and their parts, read from YAML.**

Keys that are not known are passed over, and a key that is absent stands for its default. A text in
which nothing is written is a manifest without event types and extensions.

* `Manifest.ofText?`: a whole manifest; `Manifest.readBy?` is the same over any reader of documents.
* `Priority.ofText?`, `ExtensionId.ofText?`, `Declaration.ofText?`, `DependencyEntry.ofText?`,
  `ListenerEntry.ofText?`: documents that hold one part.
* `DependencyEntry.ofValue`: a dependency is told by its form, so that a name that looks like a
  number, a truth value or nothing has to be quoted there.
-/

import ExtensionHost.Manifest.Basic
import ExtensionHost.Yaml.Decoding

namespace ExtensionHost

open Yaml (Node Value Decoding Reader)
open Yaml.Decoding

/-- Reads the document of a text, or gives the value for texts in which nothing is written. -/
def readText? {α : Type} (reader : Reader) (read : Reader → Node → Decoding α) (blank : Option α)
    (text : String) : Option α := do
  match ← reader.document? text with
  | some document => decode? (read reader) document
  | none => blank

/-! ### Names and priorities -/

/-- Reads a name, which may be any scalar. -/
def ExtensionId.read (reader : Reader) (node : Node) : Decoding ExtensionId := do
  return { text := ← reader.text node }

/-- Reads an event type, which may be any scalar. -/
def EventType.read (reader : Reader) (node : Node) : Decoding EventType := do
  return { name := ← reader.text node }

/-- Reads a priority: its name, or its name as a tag before nothing. -/
def Priority.read (node : Node) : Decoding Priority := do
  let node ← follow node
  match node, ownTag? node.properties with
  | .scalar _ style content, some name =>
    if style = .plain && (content.isEmpty || Yaml.nullNames.contains content) then
      ofOption (Priority.ofName? name)
    else mismatch
  | .scalar _ _ content, none => ofOption (Priority.ofName? content)
  | _, _ => mismatch

/-- Reads a document that holds a name. -/
def ExtensionId.ofText? : String → Option ExtensionId :=
  readText? .standard ExtensionId.read none

/-- Reads a document that holds a priority. -/
def Priority.ofText? : String → Option Priority :=
  readText? .standard (fun _ => Priority.read) none

/-! ### Event types -/

/-- Reads a declared event type. -/
def Declaration.read (reader : Reader) (node : Node) : Decoding Declaration := do
  let table ← fields ["name", "parents"] node
  return {
    eventType := ← required table "name" (EventType.read reader)
    parents := ← withDefault table "parents" [] (list (EventType.read reader)) }

/-- Reads a document that holds a declared event type. -/
def Declaration.ofText? : String → Option Declaration :=
  readText? .standard Declaration.read none

namespace Manifest

/-! ### Dependencies -/

namespace DependencyEntry

/-- The parts of a detailed dependency. -/
inductive Part where
  /-- The name of the target. -/
  | target
  /-- Whether the target may be absent. -/
  | isOptional
deriving DecidableEq, Repr

/-- The part that a key stands for, by name or by number; other names and numbers stand for none. -/
def part? : Value → Decoding (Option Part)
  | .text "id" | .natural 0 => return some .target
  | .text "optional" | .natural 1 => return some .isOptional
  | .text _ | .natural _ => return none
  | _ => mismatch

/-- The values of the parts among the pairs. No part may occur twice. -/
def parts (table : Table Part Value) : List (Value × Value) → Decoding (Table Part Value)
  | [] => return table
  | (key, value) :: rest => do
    match ← part? key with
    | none => parts table rest
    | some part => if table.contains part then mismatch else parts (table.insert part value) rest

/-- The dependency that a value stands for: a text is a name, and pairs give the details. -/
def ofValue : Value → Decoding DependencyEntry
  | .text name => return .bare { text := name }
  | .fields pairs => do
    let table ← parts ∅ pairs
    match table.get? .target, table.get? .isOptional with
    | some (.text name), none => return .detailed { text := name } false
    | some (.text name), some (.flag isOptional) => return .detailed { text := name } isOptional
    | _, _ => mismatch
  | _ => mismatch

/-- Reads a dependency that lies so many collections deep. -/
def read (depth : Nat) (reader : Reader) (node : Node) : Decoding DependencyEntry := do
  ofValue (← reader.value (depthLimit - depth) node)

/-- Reads a document that holds a dependency. -/
def ofText? : String → Option DependencyEntry :=
  readText? .standard (read 0) none

end DependencyEntry

/-! ### Listeners -/

namespace ListenerEntry

/-- Reads the rules of a listener. -/
def read (reader : Reader) (node : Node) : Decoding ListenerEntry := do
  let table ← fields ["event", "priority", "accepts_cancelled", "expire_after"] node
  return {
    eventType := ← required table "event" (EventType.read reader)
    priority := ← withDefault table "priority" .normal Priority.read
    acceptsCancelled := ← withDefault table "accepts_cancelled" false flag
    expireAfter := ← withDefault table "expire_after" none count? }

/-- Reads a document that holds the rules of a listener. -/
def ofText? : String → Option ListenerEntry :=
  readText? .standard read none

end ListenerEntry

/-! ### Extensions and manifests -/

/-- How many collections lie around a dependency in a manifest: manifest, extensions, extension and
dependencies. -/
def dependencyDepth : Nat :=
  4

/-- Reads an extension of a manifest. -/
def ExtensionEntry.read (reader : Reader) (node : Node) : Decoding ExtensionEntry := do
  let table ← fields ["id", "depends_on", "listens"] node
  return {
    id := ← required table "id" (ExtensionId.read reader)
    dependsOn := ← withDefault table "depends_on" []
      (list (DependencyEntry.read dependencyDepth reader))
    listens := ← withDefault table "listens" [] (list (ListenerEntry.read reader)) }

/-- Reads a manifest. -/
def read (reader : Reader) (node : Node) : Decoding Manifest := do
  let table ← fields ["event_types", "extensions"] node
  return {
    eventTypes := ← withDefault table "event_types" [] (list (Declaration.read reader))
    extensions := ← withDefault table "extensions" [] (list (ExtensionEntry.read reader)) }

/-- Reads a manifest from a text, over a reader of documents. -/
def readBy? (reader : Reader) : String → Option Manifest :=
  readText? reader read (some {})

/-- Reads a manifest from a text. -/
def ofText? : String → Option Manifest :=
  readBy? .standard

end Manifest

end ExtensionHost
