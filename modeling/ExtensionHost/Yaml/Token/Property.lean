/-
**Anchors, tags and directives: what can stand before a node or a document.**

* `readName`: the name of an anchor.
* `readTag`: a tag, as the handle that abbreviates its start and the rest.
* `readDirective`: the version of the text, or a handle for tags.

Each of these answers what was read and the place after it, or nothing if it is malformed.
-/

import ExtensionHost.Yaml.Token.Basic
import ExtensionHost.Yaml.Token.Scalar

namespace ExtensionHost.Yaml

/-! ### Anchors -/

/-- Reads the name after the sign of an anchor or an alias. -/
def readName (cursor : Cursor) : Option (String × Cursor) :=
  let (name, after) := cursor.skip.span isWordChar
  let ended := endsWord after.rest ||
    after.rest.head?.any ['?', ':', ',', ']', '\x7d', '%', '@', '\x60'].contains
  if name.isEmpty || !ended then none else some (String.ofList name, after)

/-! ### Tags -/

/-- The characters of a tag; between angle brackets there are three more. -/
def isTagChar (verbatim : Bool) (c : Char) : Bool :=
  isWordChar c ||
    [';', '/', '?', ':', '@', '&', '=', '+', '$', '.', '%', '!', '~', '*', '\x27', '(',
      ')'].contains c ||
    (verbatim && [',', '[', ']'].contains c)

/-- How many bytes the character has whose first byte is given. -/
def sequenceLength? (byte : Nat) : Option Nat :=
  if byte < 0x80 then some 1
  else if 0xC0 ≤ byte && byte < 0xE0 then some 2
  else if 0xE0 ≤ byte && byte < 0xF0 then some 3
  else if 0xF0 ≤ byte && byte < 0xF8 then some 4
  else none

/-- Reads one byte that is written as a percent sign and two hexadecimal digits. -/
def readByte? : List Char → Option (Nat × List Char)
  | '%' :: high :: low :: rest => do return (← hexNumber? [high, low], rest)
  | _ => none

/-- Reads further bytes of a character. -/
def readMoreBytes : Nat → Nat → List Char → Option (Nat × List Char)
  | 0, code, rest => some (code, rest)
  | count + 1, code, rest => do
    let (byte, rest) ← readByte? rest
    if byte < 0x80 || 0xC0 ≤ byte then none
    readMoreBytes count (code * 64 + byte % 64) rest

/-- Reads a character that is written byte by byte. The bytes may have the form of a character and
be none, if they take more bytes than it needs or if there is no such code point. -/
def readEncoded (text : List Char) : Option (Option Char × List Char) := do
  let (byte, rest) ← readByte? text
  let length ← sequenceLength? byte
  let lead := if length = 1 then byte else byte % Nat.pow 2 (7 - length)
  let (code, rest) ← readMoreBytes (length - 1) lead rest
  return ((charOfCode? code).filter (·.utf8Size = length), rest)

/-- Reads the characters of a tag. The number bounds them. -/
def readTagText (verbatim : Bool) : Nat → Cursor → Option (List (Option Char) × Cursor)
  | 0, cursor => some ([], cursor)
  | bound + 1, cursor => do
    match cursor.rest with
    | [] => return ([], cursor)
    | c :: rest =>
      if c = '%' then
        let (meant, after) ← readEncoded (c :: rest)
        let (text, after) ←
          readTagText verbatim bound (cursor.skip (cursor.rest.length - after.length))
        return (meant :: text, after)
      else if isTagChar verbatim c then
        let (text, after) ← readTagText verbatim bound cursor.skip
        return (some c :: text, after)
      else return ([], cursor)

/-- Reads the rest of a tag, which may be empty only if something stands before it. -/
def readTagRest (verbatim : Bool) (before : List Char) (cursor : Cursor) :
    Option (Tag × Cursor) := do
  let (text, after) ← readTagText verbatim (cursor.rest.length + 1) cursor
  if before.isEmpty && text.isEmpty then none
  return (.ofChars ((before.drop 1).map some ++ text), after)

/-- Reads a handle: an exclamation mark and a word, with a second mark if one follows. -/
def readHandle (cursor : Cursor) : List Char × Cursor :=
  let (word, after) := cursor.skip.span isWordChar
  if after.looksAt '!' then ('!' :: word ++ ['!'], after.skip) else ('!' :: word, after)

/-- Whether a handle is one that abbreviates, and not the start of a tag. -/
def isFullHandle (handle : List Char) : Bool :=
  1 < handle.length && handle.getLast? = some '!'

/-- Reads the parts of a tag. A tag that is written in full has no handle, and neither has the one
that is only an exclamation mark. -/
def readTagParts (cursor : Cursor) : Option (List Char × Tag × Cursor) :=
  if cursor.rest[1]? = some '<' then do
    let (tag, after) ← readTagRest true [] (cursor.skip 2)
    if !after.looksAt '>' then none
    return ([], tag, after.skip)
  else do
    let (handle, after) := readHandle cursor
    if isFullHandle handle then
      let (rest, after) ← readTagRest false [] after
      return (handle, rest, after)
    let (rest, after) ← readTagRest false handle after
    if rest.isEmpty then return ([], .ofText "!", after) else return (['!'], rest, after)

/-- Reads a tag, which ends like a word, or inside brackets before a comma. -/
def readTag (inFlow : Bool) (cursor : Cursor) : Option (Token × Cursor) := do
  let (handle, rest, after) ← readTagParts cursor
  if !endsWord after.rest && !(inFlow && after.looksAt ',') then none
  return (.tag (String.ofList handle) rest, after)

/-! ### Directives -/

/-- Reads a number of at most nine digits. -/
def readNumber (cursor : Cursor) : Option (Nat × Cursor) :=
  let (digits, after) := cursor.span Char.isDigit
  if digits.isEmpty || 9 < digits.length then none
  else some (digits.foldl (fun value digit => value * 10 + (digit.toNat - '0'.toNat)) 0, after)

/-- Reads a version, as two numbers with a period between. -/
def readVersion (cursor : Cursor) : Option (Token × Cursor) := do
  let (major, after) ← readNumber cursor.skipBlanks
  if !after.looksAt '.' then none
  let (minor, after) ← readNumber after.skip
  return (.version major minor, after)

/-- Reads a handle for tags, and what it stands for. -/
def readTagHandle (cursor : Cursor) : Option (Token × Cursor) := do
  let start := cursor.skipBlanks
  if !start.looksAt '!' then none
  let (handle, after) := readHandle start
  if handle ≠ ['!'] && !isFullHandle handle then none
  if !after.rest.head?.any isBlank then none
  let (expansion, after) ← readTagRest true [] after.skipBlanks
  if !endsWord after.rest then none
  return (.tagHandle (String.ofList handle) expansion, after)

/-- Reads a directive with the line that it stands on. -/
def readDirective (cursor : Cursor) : Option (Token × Cursor) := do
  let (name, after) := cursor.skip.span isWordChar
  if !endsWord after.rest then none
  let (token, after) ←
    if name = ['Y', 'A', 'M', 'L'] then readVersion after
    else if name = ['T', 'A', 'G'] then readTagHandle after
    else none
  let after := after.skipBlanks.skipComment
  if !endsLine after.rest then none
  return (token, after.skipBreak)

end ExtensionHost.Yaml
