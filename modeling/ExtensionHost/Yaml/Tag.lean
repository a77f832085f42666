/-
**Tags: what is said about the kind of a node.**

A tag may be written byte by byte, and its bytes need not make up characters. Such a tag has no
text, but it counts as a tag.

* `Tag`: a tag, or a part of one.
* `Tag.ofChars`: a tag from the characters that are written, of which a null ends it.
* `Tag.text?`: the tag as a text, if it is one.
* `Tag.standard`, `Tag.ownName?`: the tags for known kinds, and those of the document's own.
-/

namespace ExtensionHost.Yaml

/-- A tag, or a part of one. -/
structure Tag where
  /-- The characters, with `none` for each group of bytes that is no character. -/
  chars : List (Option Char)
deriving DecidableEq, Repr

namespace Tag

/-- The tag that is written by the given characters; it ends before the first null. -/
def ofChars (chars : List (Option Char)) : Tag where
  chars := chars.takeWhile (· ≠ some '\x00')

/-- The tag with the given text, which holds no null. -/
def ofText (text : String) : Tag where
  chars := text.toList.map some

instance : Append Tag where
  append first second := { chars := first.chars ++ second.chars }

/-- Whether there is no character and no byte. -/
def isEmpty (tag : Tag) : Bool :=
  tag.chars.isEmpty

/-- The text of a tag, if all its bytes make up characters. -/
def text? (tag : Tag) : Option String :=
  (tag.chars.mapM id).map String.ofList

/-- The tag for scalars of a known kind. -/
def standard (kind : String) : Tag :=
  .ofText ("tag:yaml.org,2002:" ++ kind)

/-- Whether the tag is of the document's own: whether it starts with an exclamation mark. -/
def isOwn (tag : Tag) : Bool :=
  tag.chars.head? = some (some '!')

/-- The name in a tag of the document's own, which is what follows the exclamation mark, or the mark
itself if nothing follows. A tag without a text has no name. -/
def ownName? (tag : Tag) : Option String :=
  if tag.isOwn then
    if tag.chars.length = 1 then tag.text? else text? { chars := tag.chars.tail }
  else none

end Tag

end ExtensionHost.Yaml
