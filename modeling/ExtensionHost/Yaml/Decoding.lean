/-
**Reading values out of a document.**

* `Decoding`: a computation that follows aliases, a limited number of times, and may fail.
* `Decoding.text`, `Decoding.flag`, `Decoding.count?`: scalars of a known kind.
* `Decoding.list`, `Decoding.fields`: sequences, and mappings with known keys.
* `Value`, `Decoding.value`: scalars and collections whose kind is told by their form.
* `Reader`: what depends on how documents and their scalars are read; `Reader.standard` is the one
  described here.
-/

import ExtensionHost.Table.Basic
import ExtensionHost.Yaml.Meaning
import ExtensionHost.Yaml.Node.Parser

namespace ExtensionHost.Yaml

/-- A computation on a document, with the number of aliases that may still be followed. -/
abbrev Decoding := ReaderT Document (StateT Nat Option)

namespace Decoding

variable {α : Type}

/-- The result where the document holds something else. -/
def mismatch : Decoding α :=
  fun _ _ => none

/-- The result of a decoding that may not be one. -/
def ofOption : Option α → Decoding α
  | some value => return value
  | none => mismatch

/-- Runs a computation on a document. For each scalar, alias, and start and end of a collection, a
hundred aliases may be followed. -/
def decode? (decoding : Node → Decoding α) (document : Document) : Option α :=
  ((decoding document.root).run document |>.run (document.root.weight * 100)).map Prod.fst

/-- How deep collections may lie one inside the other. -/
def depthLimit : Nat :=
  128

/-- The node itself, or the one that an alias refers to. -/
def follow : Node → Decoding Node
  | .reference anchor => do
    let left ← get
    if left = 0 then mismatch
    set (left - 1)
    ofOption ((← read).target? anchor)
  | node => return node

/-! ### Tags -/

/-- The name in the tag of a node, if it is one of the document's own. -/
def ownTag? (properties : Properties) : Option String :=
  properties.tag.bind Tag.ownName?

/-! ### Scalars -/

/-- The text of a scalar, however it is written. -/
def text (node : Node) : Decoding String := do
  match ← follow node with
  | .scalar _ _ text => return text
  | _ => mismatch

/-- Whether a scalar may be read as the given kind: if it is plain, or a literal block with the
tag. -/
def readsAs (kind : String) (properties : Properties) (style : Style) : Bool :=
  style = .plain || (style = .literal && properties.tag = some (.standard kind))

/-- A truth value. -/
def flag (node : Node) : Decoding Bool := do
  match ← follow node with
  | .scalar properties style text =>
    if readsAs "bool" properties style then ofOption (flag? text) else mismatch
  | _ => mismatch

/-- A natural number of at most 32 bits. -/
def count (node : Node) : Decoding Nat := do
  match ← follow node with
  | .scalar properties style text =>
    if readsAs "int" properties style then ofOption (natural? (Nat.pow 2 32 - 1) text.toList)
    else mismatch
  | _ => mismatch

/-- Whether a scalar stands for no value. The tag for that may stand only before one that does. -/
def isAbsent (properties : Properties) (style : Style) (text : String) : Decoding Bool :=
  if style ≠ .plain then return false
  else if properties.tag = some (.standard "null") then
    if nullNames.contains text then return true else mismatch
  else if properties.tag.isSome then return false
  else return text.isEmpty || nullNames.contains text

/-- A natural number of at most 32 bits, or no value. -/
def count? (node : Node) : Decoding (Option Nat) := do
  match ← follow node with
  | .scalar properties style text =>
    if ← isAbsent properties style text then return none
    else return some (← count (.scalar properties style text))
  | _ => mismatch

/-! ### Collections -/

/-- Whether nothing is written. -/
def isBlankNode : Node → Bool
  | .scalar _ .plain text => text.isEmpty
  | _ => false

/-- The items of a sequence; where nothing is written there are none. -/
def list (item : Node → Decoding α) (node : Node) : Decoding (List α) := do
  match ← follow node with
  | .sequence _ items => items.mapM item
  | node => if isBlankNode node then return [] else mismatch

/-- The values of the known keys among the pairs. No known key may occur twice. -/
def collect (known : List String) (table : Table String Node) :
    List (Node × Node) → Decoding (Table String Node)
  | [] => return table
  | (key, value) :: rest => do
    let key ← text key
    if !known.contains key then collect known table rest
    else if table.contains key then mismatch
    else collect known (table.insert key value) rest

/-- The values of the known keys of a mapping; where nothing is written there are none. -/
def fields (known : List String) (node : Node) : Decoding (Table String Node) := do
  match ← follow node with
  | .mapping _ pairs => collect known ∅ pairs
  | node => if isBlankNode node then return ∅ else mismatch

/-- The value of a key that has to be there. -/
def required (table : Table String Node) (key : String) (read : Node → Decoding α) : Decoding α :=
  match table.get? key with
  | some node => read node
  | none => mismatch

/-- The value of a key, or a default if the key is not there. -/
def withDefault (table : Table String Node) (key : String) (absent : α) (read : Node → Decoding α) :
    Decoding α :=
  match table.get? key with
  | some node => read node
  | none => return absent

end Decoding

/-! ### Values told by their form -/

/-- A value of a kind that only its form tells. -/
inductive Value where
  /-- A word, or any scalar that is not plain. -/
  | text (value : String)
  /-- A truth value. -/
  | flag (value : Bool)
  /-- A natural number. -/
  | natural (value : Nat)
  /-- Any other scalar: another number, or none at all. -/
  | other
  /-- A sequence. -/
  | list (items : List Value)
  /-- A mapping. -/
  | fields (pairs : List (Value × Value))

/-- The value of a plain scalar with that meaning. Integers of more than 64 bits have none. -/
def Meaning.value? (text : String) : Meaning → Option Value
  | .flag value => some (.flag value)
  | .natural value => some (.natural value)
  | .large => none
  | .word => some (.text text)
  | .null | .negative | .decimal => some .other

namespace Decoding

/-- The value of a scalar with a tag for a kind, which has to be written like that kind. -/
def taggedValue? (tag : Tag) (text : String) : Option (Option Value) :=
  if tag = .standard "bool" then some ((flag? text).map .flag)
  else if tag = .standard "int" then
    some (match number? text.toList with
      | some (.natural value) => some (.natural value)
      | some .negative => some .other
      | _ => none)
  else if tag = .standard "float" then
    some (if isDecimal text.toList then some .other else none)
  else if tag = .standard "null" then
    some (if nullNames.contains text then some .other else none)
  else none

/-- Whether the form of a scalar tells its kind: if it is plain, and its tag, if it has one, starts
like those of the document's own. -/
def toldByForm (properties : Properties) (style : Style) : Bool :=
  style = .plain && properties.tag.all Tag.isOwn

/-- The value of a scalar, which may not have a name in a tag of the document's own. -/
def scalarValue (properties : Properties) (style : Style) (text : String) : Decoding Value :=
  if (ownTag? properties).isSome then mismatch
  else
    match properties.tag.bind (taggedValue? · text) with
    | some value => ofOption value
    | none =>
      if toldByForm properties style then ofOption ((Meaning.ofText text).value? text)
      else return .text text

/-- The value of a node, where collections may lie so many levels deep. -/
def value : (depth : Nat) → Node → Decoding Value
  | 0, node => do
    match ← follow node with
    | .scalar properties style text => scalarValue properties style text
    | _ => mismatch
  | depth + 1, node => do
    match ← follow node with
    | .scalar properties style text => scalarValue properties style text
    | .sequence properties items =>
      if (ownTag? properties).isSome then mismatch
      else return .list (← items.mapM (value depth))
    | .mapping properties pairs =>
      if (ownTag? properties).isSome then mismatch
      else return .fields (← pairs.mapM fun pair => do
        return (← value depth pair.1, ← value depth pair.2))
    | .reference _ => mismatch

end Decoding

/-! ### Readers -/

/-- How texts are read as documents, and how scalars and values are read in them. -/
structure Reader where
  /-- The document of a text, or `some none` if nothing is written in it. -/
  document? : String → Option (Option Document)
  /-- The text of a scalar, where a text is expected. -/
  text : Node → Decoding String
  /-- The value of a node, where only its form tells the kind and collections may lie so many levels
  deep. -/
  value : (depth : Nat) → Node → Decoding Value

/-- The reader described here. -/
def Reader.standard : Reader where
  document? := Yaml.document?
  text := Decoding.text
  value := Decoding.value

end ExtensionHost.Yaml
