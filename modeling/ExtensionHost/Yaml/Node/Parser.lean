/-
**From tokens to the tree of nodes.**

Anchors are numbered: the first use of a name takes as its number how many names there are so far,
and so does a later use of the same name, which does not make a new name. An alias refers to the
number that its name has at that place.

* `Building`: a computation on the tokens that are left, which may find the text malformed.
* `Building.node`: one node with all that belongs to it.
* `document?`: the only document of a text. A text without any token has none.
-/

import ExtensionHost.Table.Basic
import ExtensionHost.Yaml.Node.Basic
import ExtensionHost.Yaml.Token.Scanner

namespace ExtensionHost.Yaml

/-- What is known while nodes are built. -/
structure Progress where
  /-- The tokens that are left. -/
  tokens : List Token
  /-- What the handles of tags stand for that the text declares. -/
  handles : List (String × Tag) := []
  /-- The numbers of the anchors by name. -/
  anchors : Table String Nat := ∅

/-- What the handles of tags stand for that the text does not declare. -/
def standardHandles : List (String × Tag) :=
  [("!", .ofText "!"), ("!!", .standard "")]

/-- A computation on the tokens that are left, without a result if the text is malformed. -/
abbrev Building := StateT Progress Option

namespace Building

variable {α : Type}

/-- The result of a malformed text. -/
def malformed : Building α :=
  fun _ => none

/-- The next token, if there is one. -/
def peek : Building (Option Token) :=
  return (← get).tokens.head?

/-- Passes the next token. -/
def advance : Building Unit :=
  modify fun progress => { progress with tokens := progress.tokens.tail }

/-- Passes the next token, which has to be the given one. -/
def expect (token : Token) : Building Unit := do
  if (← peek) = some token then advance else malformed

/-- Whether the next token is one of the given ones. -/
def isNext (tokens : List Token) : Building Bool :=
  return (← peek).any tokens.contains

/-! ### Properties -/

/-- Gives a number to an anchor. -/
def declareAnchor (name : String) : Building Nat := do
  let number := (← get).anchors.size
  modify fun progress => { progress with anchors := progress.anchors.insert name number }
  return number

/-- The number of the anchor to which an alias refers. -/
def anchorOf (name : String) : Building Nat := do
  match (← get).anchors.get? name with
  | some number => return number
  | none => malformed

/-- The full tag for a handle and the rest of a tag. -/
def resolveTag (handle : String) (rest : Tag) : Building Tag := do
  if handle.isEmpty then return rest
  match ((← get).handles ++ standardHandles).lookup handle with
  | some expansion => return expansion ++ rest
  | none => malformed

/-- Reads an anchor, if one is next. -/
def readAnchor : Building (Option String) := do
  match ← peek with
  | some (.anchor name) =>
    advance
    return some name
  | _ => return none

/-- Reads a tag, if one is next. -/
def readTag : Building (Option (String × Tag)) := do
  match ← peek with
  | some (.tag handle rest) =>
    advance
    return some (handle, rest)
  | _ => return none

/-- Reads the anchor and the tag before a node, in either order. -/
def readProperties : Building Properties := do
  let first ← readAnchor
  let tag ← readTag
  let second ← if first.isNone && tag.isSome then readAnchor else pure none
  let resolved ← tag.mapM fun (handle, rest) => resolveTag handle rest
  let number ← (first.or second).mapM declareAnchor
  return { anchor := number, tag := resolved }

/-! ### Nodes -/

mutual

/-- Reads a node. Indented collections are allowed where `block` says so, and where `indentless`
does, also a sequence that is not indented more than the key before it. The number bounds the
tokens that are read. -/
def node : Nat → (block indentless : Bool) → Building Node
  | 0, _, _ => malformed
  | bound + 1, block, indentless => do
    if let some (.reference name) ← peek then
      advance
      return .reference (← anchorOf name)
    let properties ← readProperties
    match ← peek with
    | some (.scalar style text) =>
      advance
      return .scalar properties style text
    | some .flowSequenceStart =>
      advance
      return .sequence properties (← flowItems bound true)
    | some .flowMappingStart =>
      advance
      return .mapping properties (← flowPairs bound true)
    | next =>
      if indentless && next = some .blockEntry then
        return .sequence properties (← indentlessItems bound)
      else if block && next = some .blockSequenceStart then
        advance
        return .sequence properties (← blockItems bound)
      else if block && next = some .blockMappingStart then
        advance
        return .mapping properties (← blockPairs bound)
      else if properties.anchor.isSome || properties.tag.isSome then
        return .scalar properties .plain ""
      else malformed

/-- Reads the items of an indented sequence and its end. -/
def blockItems : Nat → Building (List Node)
  | 0 => malformed
  | bound + 1 => do
    match ← peek with
    | some .blockEntry =>
      advance
      let item ← if ← isNext [.blockEntry, .blockEnd] then pure .empty else node bound true false
      return item :: (← blockItems bound)
    | some .blockEnd =>
      advance
      return []
    | _ => malformed

/-- Reads the items of a sequence that is not indented. -/
def indentlessItems : Nat → Building (List Node)
  | 0 => malformed
  | bound + 1 => do
    match ← peek with
    | some .blockEntry =>
      advance
      let item ←
        if ← isNext [.blockEntry, .key, .value, .blockEnd] then pure .empty
        else node bound true false
      return item :: (← indentlessItems bound)
    | _ => return []

/-- Reads the value of a pair of an indented mapping, if one is written. -/
def blockValue : Nat → Building Node
  | 0 => malformed
  | bound + 1 => do
    if (← peek) = some .value then
      advance
      if ← isNext [.key, .value, .blockEnd] then return .empty else node bound true true
    else return .empty

/-- Reads the pairs of an indented mapping and its end. -/
def blockPairs : Nat → Building (List (Node × Node))
  | 0 => malformed
  | bound + 1 => do
    match ← peek with
    | some .key =>
      advance
      let key ← if ← isNext [.key, .value, .blockEnd] then pure .empty else node bound true true
      let value ← blockValue bound
      return (key, value) :: (← blockPairs bound)
    | some .blockEnd =>
      advance
      return []
    | _ => malformed

/-- Reads the value of a pair inside of brackets, if one is written. -/
def flowValue : Nat → Building Node
  | 0 => malformed
  | bound + 1 => do
    if (← peek) = some .value then
      advance
      if ← isNext [.flowEntry, .flowSequenceEnd, .flowMappingEnd] then return .empty
      else node bound false false
    else return .empty

/-- Reads the pair that stands for a mapping as an item of a sequence in brackets. A key that is not
written takes the token after it. -/
def flowPair : Nat → Building (Node × Node)
  | 0 => malformed
  | bound + 1 => do
    let key ←
      if ← isNext [.value, .flowEntry, .flowSequenceEnd] then do
        advance
        pure .empty
      else node bound false false
    return (key, ← flowValue bound)

/-- Reads the items of a sequence in brackets and its end. Items are separated by commas, and a
comma may stand before the end. -/
def flowItems : Nat → (first : Bool) → Building (List Node)
  | 0, _ => malformed
  | bound + 1, first => do
    if (← peek) = some .flowSequenceEnd then
      advance
      return []
    unless first do expect .flowEntry
    match ← peek with
    | some .flowSequenceEnd =>
      advance
      return []
    | some .key =>
      advance
      let pair ← flowPair bound
      return .mapping {} [pair] :: (← flowItems bound false)
    | _ =>
      let item ← node bound false false
      return item :: (← flowItems bound false)

/-- Reads the pairs of a mapping in braces and its end. Pairs are separated by commas, and a comma
may stand before the end. -/
def flowPairs : Nat → (first : Bool) → Building (List (Node × Node))
  | 0, _ => malformed
  | bound + 1, first => do
    if (← peek) = some .flowMappingEnd then
      advance
      return []
    unless first do expect .flowEntry
    match ← peek with
    | some .flowMappingEnd =>
      advance
      return []
    | some .key =>
      advance
      let key ←
        if ← isNext [.value, .flowEntry, .flowMappingEnd] then pure .empty
        else node bound false false
      let value ← flowValue bound
      return (key, value) :: (← flowPairs bound false)
    | _ =>
      let key ← node bound false false
      return (key, .empty) :: (← flowPairs bound false)

end

/-! ### Documents -/

/-- Reads the directives before a document. Handles are declared once, and there is one version. -/
def directives : List Token → (versioned : Bool) → Building Unit
  | .version major minor :: rest, versioned => do
    if versioned || major ≠ 1 || !(minor = 1 || minor = 2) then malformed
    advance
    directives rest true
  | .tagHandle handle expansion :: rest, versioned => do
    let handles := (← get).handles
    if (handles.lookup handle).isSome then malformed
    advance
    modify fun progress => { progress with handles := handles ++ [(handle, expansion)] }
    directives rest versioned
  | _, _ => return

/-- Whether a document starts by directives or by the mark before it. -/
def isExplicit : Token → Bool
  | .version .. | .tagHandle .. | .documentStart => true
  | _ => false

/-- Whether the content of a document cannot start with a token. -/
def endsContent : Token → Bool
  | .documentEnd => true
  | token => isExplicit token

/-- Reads the root of a document. -/
def root : Building Node := do
  let bound := 2 * (← get).tokens.length + 2
  if (← peek).any isExplicit then
    directives (← get).tokens false
    expect .documentStart
    if (← peek).all endsContent then return .empty
  node bound true false

/-- Reads a document and all marks after it, up to the end of the text. -/
def document : Building Document := do
  let root ← root
  modify fun progress => { progress with
    tokens := progress.tokens.dropWhile (· = .documentEnd) }
  if (← peek).isSome then malformed
  return { root }

end Building

/-- The document of a text, or `some none` if nothing is written in it. A malformed text, and one
with several documents, has none. -/
def document? (text : String) : Option (Option Document) := do
  let tokens ← tokens? text.toList
  if tokens.isEmpty then return none
  let (document, _) ← Building.document.run { tokens }
  return some document

end ExtensionHost.Yaml
