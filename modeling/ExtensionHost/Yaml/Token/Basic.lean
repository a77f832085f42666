/-
**Tokens: the signs and words of a YAML text.**

* `Style`: how a scalar is written.
* `Token`: the tokens, those included that only mark where an indented collection starts or ends.
-/

import ExtensionHost.Yaml.Tag

namespace ExtensionHost.Yaml

/-- How a scalar is written. -/
inductive Style where
  /-- Without any mark. -/
  | plain
  /-- Between single quotes. -/
  | singleQuoted
  /-- Between double quotes. -/
  | doubleQuoted
  /-- As an indented block, line by line. -/
  | literal
  /-- As an indented block whose lines are joined. -/
  | folded
deriving DecidableEq, Repr

/-- The tokens of a text. -/
inductive Token where
  /-- The version that the text is written for. -/
  | version (major minor : Nat)
  /-- An abbreviation for the start of tags. -/
  | tagHandle (handle : String) (expansion : Tag)
  /-- The mark before a document. -/
  | documentStart
  /-- The mark after a document. -/
  | documentEnd
  /-- The start of an indented sequence. -/
  | blockSequenceStart
  /-- The start of an indented mapping. -/
  | blockMappingStart
  /-- The end of an indented collection. -/
  | blockEnd
  /-- The bracket before a sequence. -/
  | flowSequenceStart
  /-- The bracket after a sequence. -/
  | flowSequenceEnd
  /-- The brace before a mapping. -/
  | flowMappingStart
  /-- The brace after a mapping. -/
  | flowMappingEnd
  /-- The dash before an item of an indented sequence. -/
  | blockEntry
  /-- The comma between items. -/
  | flowEntry
  /-- The sign before a key, which is often not written. -/
  | key
  /-- The sign before a value. -/
  | value
  /-- A reference to an anchor. -/
  | reference (name : String)
  /-- A name for the node that follows. -/
  | anchor (name : String)
  /-- A tag for the node that follows, as handle and rest. -/
  | tag (handle : String) (rest : Tag)
  /-- A scalar. -/
  | scalar (style : Style) (text : String)
deriving DecidableEq, Repr

end ExtensionHost.Yaml
