/-
**A place in a YAML text, and the classes of characters that matter there.**

* `isAllowed`: the characters that may occur in a text at all.
* `isBreak`, `isBlank`, `isWordChar`: line breaks, spaces and tabs, and the characters of names.
* `Cursor`: what is left of the text, with line, column and offset.
* `byteCount`: how many bytes a text takes.
* `Cursor.skip`, `Cursor.skipBreak`, `Cursor.readBreak`, `Cursor.span`: moving on.
-/

namespace ExtensionHost.Yaml

/-! ### Characters -/

/-- Whether the character may occur in a text: printable characters, tabs and line breaks. -/
def isAllowed (c : Char) : Bool :=
  let code := c.toNat
  code = 0x09 || code = 0x0A || code = 0x0D || (0x20 ≤ code && code ≤ 0x7E) || code = 0x85 ||
    (0xA0 ≤ code && code ≤ 0xD7FF) || (0xE000 ≤ code && code ≤ 0xFFFD) || 0x10000 ≤ code

/-- Line breaks. -/
def isBreak (c : Char) : Bool :=
  c = '\n' || c = '\r' || c = '\x85' || c = '\u2028' || c = '\u2029'

/-- Spaces and tabs. -/
def isBlank (c : Char) : Bool :=
  c = ' ' || c = '\t'

/-- The characters of anchors, tag handles and directive names. -/
def isWordChar (c : Char) : Bool :=
  c.isAlphanum || c = '_' || c = '-'

/-- The value of a hexadecimal digit. -/
def hexDigit? (c : Char) : Option Nat :=
  if '0' ≤ c && c ≤ '9' then some (c.toNat - '0'.toNat)
  else if 'a' ≤ c && c ≤ 'f' then some (c.toNat - 'a'.toNat + 10)
  else if 'A' ≤ c && c ≤ 'F' then some (c.toNat - 'A'.toNat + 10)
  else none

/-- Whether a word ends here: at a blank, at a line break or at the end of the text. -/
def endsWord : List Char → Bool
  | [] => true
  | c :: _ => isBlank c || isBreak c

/-- Whether a line ends here. -/
def endsLine : List Char → Bool
  | [] => true
  | c :: _ => isBreak c

/-- Whether a line that starts here is one of the marks between documents. -/
def isDocumentMark : List Char → Bool
  | '-' :: '-' :: '-' :: rest => endsWord rest
  | '.' :: '.' :: '.' :: rest => endsWord rest
  | _ => false

/-- How many bytes the characters take. -/
def byteCount (text : List Char) : Nat :=
  (text.map Char.utf8Size).foldr (· + ·) 0

/-! ### Cursors -/

/-- A place in a text. -/
structure Cursor where
  /-- The characters that are left. -/
  rest : List Char
  /-- The number of lines before. -/
  line : Nat := 0
  /-- The number of characters before on this line. -/
  column : Nat := 0
  /-- The number of bytes before. -/
  offset : Nat := 0

namespace Cursor

/-- Passes characters of the current line. -/
def skip (cursor : Cursor) (count : Nat := 1) : Cursor :=
  { cursor with
    rest := cursor.rest.drop count
    column := cursor.column + count
    offset := cursor.offset + byteCount (cursor.rest.take count) }

/-- Passes a line break that takes the given number of bytes. -/
def nextLine (cursor : Cursor) (rest : List Char) (length : Nat) : Cursor where
  rest := rest
  line := cursor.line + 1
  column := 0
  offset := cursor.offset + length

/-- Passes a line break, if there is one, and tells how it is read: two of the breaks as themselves,
the others as a line feed. -/
def readBreak (cursor : Cursor) : List Char × Cursor :=
  match cursor.rest with
  | '\r' :: '\n' :: rest => (['\n'], cursor.nextLine rest 2)
  | c :: rest =>
    if isBreak c then
      ([if c = '\u2028' || c = '\u2029' then c else '\n'], cursor.nextLine rest c.utf8Size)
    else ([], cursor)
  | [] => ([], cursor)

/-- Passes a line break, if there is one. -/
def skipBreak (cursor : Cursor) : Cursor :=
  cursor.readBreak.2

/-- Reads the characters up to the first that fails the test. -/
def span (cursor : Cursor) (test : Char → Bool) : List Char × Cursor :=
  let read := cursor.rest.takeWhile test
  (read, cursor.skip read.length)

/-- Passes spaces and tabs. -/
def skipBlanks (cursor : Cursor) : Cursor :=
  (cursor.span isBlank).2

/-- Passes a comment, if there is one, up to the end of the line. -/
def skipComment (cursor : Cursor) : Cursor :=
  if cursor.rest.head? = some '#' then (cursor.span (!isBreak ·)).2 else cursor

/-- Whether the next character is the given one. -/
def looksAt (cursor : Cursor) (c : Char) : Bool :=
  cursor.rest.head? = some c

/-- Whether a mark between documents stands here, at the start of a line. -/
def atDocumentMark (cursor : Cursor) : Bool :=
  cursor.column = 0 && isDocumentMark cursor.rest

end Cursor

end ExtensionHost.Yaml
