/-
**Scalars as they are written: plain, quoted, and in indented blocks.**

Plain and quoted scalars may go on over several lines. What lies between two words is a `Gap`:
blanks on one line stay as they are, a single line break becomes a space, and of several line
breaks the first is dropped.

* `readPlain`: a scalar without quotes.
* `readQuoted`: a scalar between quotes of either kind.
* `readBlock`: a scalar in an indented block, its lines kept or joined.

Each of these answers the text and the place after it, or nothing if the scalar is malformed.
-/

import ExtensionHost.Yaml.Cursor

namespace ExtensionHost.Yaml

/-! ### Gaps -/

/-- What lies between two words of a scalar. -/
structure Gap where
  /-- The blanks before the first line break. -/
  blanks : List Char := []
  /-- Whether there was a line break, an escaped one included. -/
  broken : Bool := false
  /-- The first line break, as it is read; an escaped one is read as nothing. -/
  first : List Char := []
  /-- The line breaks after the first. -/
  others : List Char := []

namespace Gap

/-- What a gap adds to the text. -/
def fold (gap : Gap) : List Char :=
  if !gap.broken then gap.blanks
  else if gap.first = ['\n'] then
    if gap.others.isEmpty then [' '] else gap.others
  else gap.first ++ gap.others

/-- The gap with one more blank; only those before the first line break count. -/
def addBlank (gap : Gap) (c : Char) : Gap :=
  if gap.broken then gap else { gap with blanks := gap.blanks ++ [c] }

/-- The gap with one more line break. -/
def addBreak (gap : Gap) (read : List Char) : Gap :=
  if gap.broken then { gap with others := gap.others ++ read }
  else { broken := true, first := read }

end Gap

/-- Reads a gap up to the next word. A tab before the column `least` of a later line is an error.
The number bounds the characters that are read. -/
def readGap (least : Nat) : Nat → Gap → Cursor → Option (Gap × Cursor)
  | 0, gap, cursor => some (gap, cursor)
  | bound + 1, gap, cursor =>
    match cursor.rest with
    | [] => some (gap, cursor)
    | c :: _ =>
      if isBlank c then
        if c = '\t' && gap.broken && cursor.column < least then none
        else readGap least bound (gap.addBlank c) cursor.skip
      else if isBreak c then
        let (read, next) := cursor.readBreak
        readGap least bound (gap.addBreak read) next
      else some (gap, cursor)

/-! ### Plain scalars -/

/-- The signs that structure collections in brackets. -/
def isFlowSign (c : Char) : Bool :=
  c = ',' || c = '[' || c = ']' || c = '\x7b' || c = '\x7d'

/-- Reads one word of a plain scalar. It ends before a blank, before a colon that ends a word, and
inside brackets before a sign of structure, which may not follow a colon. -/
def readPlainWord (inFlow : Bool) : List Char → Option (List Char)
  | [] => some []
  | c :: rest =>
    if isBlank c || isBreak c then some []
    else if inFlow && c = ':' && (rest.head?.any fun next => isFlowSign next || next = '?') then
      none
    else if (c = ':' && endsWord rest) || (inFlow && isFlowSign c) then some []
    else (readPlainWord inFlow rest).map (c :: ·)

/-- A plain scalar that was read. -/
structure Plain where
  /-- Its text. -/
  text : List Char
  /-- Whether the place after it is on a later line. -/
  endsOnLaterLine : Bool
  /-- The place after it and after the gap that follows. -/
  cursor : Cursor

/-- Reads the words of a plain scalar after a gap. The number bounds the words that are read, and
the characters of the gaps between them. -/
def readPlainWords (inFlow : Bool) (least : Nat) : Nat → Gap → Cursor → Option Plain
  | 0, gap, cursor => some { text := [], endsOnLaterLine := gap.broken, cursor }
  | bound + 1, gap, cursor =>
    if cursor.atDocumentMark || cursor.looksAt '#' then
      some { text := [], endsOnLaterLine := gap.broken, cursor }
    else do
      let word ← readPlainWord inFlow cursor.rest
      let text := if word.isEmpty then [] else gap.fold ++ word
      let pending := if word.isEmpty then gap else {}
      let after := cursor.skip word.length
      if after.rest.isEmpty || !endsWord after.rest then
        return { text, endsOnLaterLine := pending.broken, cursor := after }
      let (gap, next) ← readGap least bound pending after
      if !inFlow && next.column < least then
        return { text, endsOnLaterLine := gap.broken, cursor := next }
      let others ← readPlainWords inFlow least bound gap next
      return { others with text := text ++ others.text }

/-- Reads a plain scalar. Outside of brackets its later lines start at the column `least` or
after. -/
def readPlain (inFlow : Bool) (least : Nat) (cursor : Cursor) : Option Plain :=
  readPlainWords inFlow least (cursor.rest.length + 1) {} cursor

/-! ### Quoted scalars -/

/-- The number that hexadecimal digits write. -/
def hexNumber? (digits : List Char) : Option Nat :=
  digits.foldlM (fun value digit => (hexDigit? digit).map (value * 16 + ·)) 0

/-- The character with a code point, if there is one. -/
def charOfCode? (code : Nat) : Option Char :=
  if valid : code.isValidChar then some (Char.ofNatAux code valid) else none

/-- The character that a letter after a backslash stands for. -/
def shortEscape? (c : Char) : Option Char :=
  [('0', '\x00'), ('a', '\x07'), ('b', '\x08'), ('t', '\t'), ('\t', '\t'), ('n', '\n'),
    ('v', '\x0b'), ('f', '\x0c'), ('r', '\r'), ('e', '\x1b'), (' ', ' '), ('"', '"'), ('/', '/'),
    ('\\', '\\'), ('N', '\x85'), ('_', '\xa0'), ('L', '\u2028'), ('P', '\u2029')].lookup c

/-- How many hexadecimal digits follow a letter after a backslash. -/
def escapeLength? (c : Char) : Option Nat :=
  [('x', 2), ('u', 4), ('U', 8)].lookup c

/-- Reads the part of an escape after the backslash: a character, and how long its escape is. -/
def readEscape : List Char → Option (Char × Nat)
  | [] => none
  | c :: rest =>
    match shortEscape? c with
    | some meant => some (meant, 1)
    | none => do
      let length ← escapeLength? c
      let digits := rest.take length
      if digits.length < length then none
      let meant ← charOfCode? (← hexNumber? digits)
      return (meant, length + 1)

/-- The quote that a scalar starts and ends with. -/
def quote (double : Bool) : Char :=
  if double then '"' else '\x27'

/-- Reads a word between quotes. The answer also tells whether an escaped line break ended it. The
number bounds the characters that are read. -/
def readQuotedWord (double : Bool) : Nat → Cursor → Option (List Char × Bool × Cursor)
  | 0, cursor => some ([], false, cursor)
  | bound + 1, cursor => do
    match cursor.rest with
    | [] => return ([], false, cursor)
    | c :: rest =>
      if isBlank c || isBreak c then return ([], false, cursor)
      else if !double && c = quote false && rest.head? = some (quote false) then
        let (word, escapedBreak, after) ← readQuotedWord double bound (cursor.skip 2)
        return (c :: word, escapedBreak, after)
      else if c = quote double then return ([], false, cursor)
      else if double && c = '\\' then
        if rest.head?.any isBreak then return ([], true, cursor.skip.skipBreak)
        let (meant, length) ← readEscape rest
        let (word, escapedBreak, after) ←
          readQuotedWord double bound (cursor.skip (length + 1))
        return (meant :: word, escapedBreak, after)
      else
        let (word, escapedBreak, after) ← readQuotedWord double bound cursor.skip
        return (c :: word, escapedBreak, after)

/-- Reads the words between quotes and the closing quote. The number bounds the words that are
read, and the characters of each and of the gaps between them. -/
def readQuotedWords (double : Bool) : Nat → Cursor → Option (List Char × Cursor)
  | 0, _ => none
  | bound + 1, cursor =>
    if cursor.atDocumentMark || cursor.rest.isEmpty then none
    else do
      let (word, escapedBreak, after) ← readQuotedWord double bound cursor
      if after.looksAt (quote double) then return (word, after.skip)
      let (gap, next) ← readGap 0 bound { broken := escapedBreak } after
      let (others, after) ← readQuotedWords double bound next
      return (word ++ gap.fold ++ others, after)

/-- Reads a quoted scalar from its opening quote on. -/
def readQuoted (double : Bool) (cursor : Cursor) : Option (List Char × Cursor) :=
  readQuotedWords double (cursor.rest.length + 1) cursor.skip

/-! ### Block scalars -/

/-- What becomes of the line breaks at the end of a block. -/
inductive Chomping where
  /-- They are all dropped. -/
  | strip
  /-- The first stays. -/
  | clip
  /-- They all stay. -/
  | keep
deriving DecidableEq, Repr

/-- Reads a sign for the line breaks at the end. -/
def readChomping (cursor : Cursor) : Option Chomping × Cursor :=
  if cursor.looksAt '+' then (some .keep, cursor.skip)
  else if cursor.looksAt '-' then (some .strip, cursor.skip)
  else (none, cursor)

/-- Reads a digit for the indentation, which may not be zero; zero stands for no digit. -/
def readIncrement (cursor : Cursor) : Option (Nat × Cursor) :=
  match cursor.rest with
  | c :: _ =>
    if c = '0' then none
    else if c.isDigit then some (c.toNat - '0'.toNat, cursor.skip)
    else some (0, cursor)
  | [] => some (0, cursor)

/-- Reads the signs after the mark of a block, in either order. -/
def readBlockSigns (cursor : Cursor) : Option (Chomping × Nat × Cursor) :=
  match readChomping cursor with
  | (some chomping, after) => do
    let (increment, after) ← readIncrement after
    return (chomping, increment, after)
  | (none, _) => do
    let (increment, after) ← readIncrement cursor
    if increment = 0 then return (.clip, 0, after)
    let (chomping, after) := readChomping after
    return (chomping.getD .clip, increment, after)

/-- Passes the indentation and the empty lines before a line of a block, where the indentation may
not yet be known. The answer holds the line breaks and the deepest indentation met. The number
bounds the lines that are read. -/
def readIndentation (indent : Option Nat) :
    Nat → List Char → Nat → Cursor → Option (List Char × Nat × Cursor)
  | 0, breaks, deepest, cursor => some (breaks, deepest, cursor)
  | bound + 1, breaks, deepest, cursor =>
    let spaces := (cursor.rest.takeWhile (· = ' ')).length
    let passed := match indent with
      | some indent => min spaces (indent - cursor.column)
      | none => spaces
    let reached := cursor.skip passed
    let deepest := max deepest reached.column
    let outside := match indent with
      | some indent => decide (reached.column < indent)
      | none => true
    if outside && reached.looksAt '\t' then none
    else if endsLine reached.rest && !reached.rest.isEmpty then
      let (read, next) := reached.readBreak
      readIndentation indent bound (breaks ++ read) deepest next
    else some (breaks, deepest, reached)

/-- What lies between two lines of a block, or after the last one. -/
structure LineEnd where
  /-- The line break after the line before. -/
  lastBreak : List Char := []
  /-- The empty lines after it. -/
  emptyLines : List Char := []
  /-- Whether the line before starts with a blank. -/
  afterBlank : Bool := false

namespace LineEnd

/-- What joins the line before to the next one. Unless the block is literal, a line break between
two lines that do not start with a blank becomes a space, or nothing if empty lines follow. -/
def join (lineEnd : LineEnd) (literal : Bool) (line : List Char) : List Char :=
  let startsBlank := line.head?.any isBlank
  let folded := !literal && lineEnd.lastBreak = ['\n'] && !lineEnd.afterBlank && !startsBlank
  let joint :=
    if folded then (if lineEnd.emptyLines.isEmpty then [' '] else []) else lineEnd.lastBreak
  joint ++ lineEnd.emptyLines

/-- What stays of the line breaks at the end of a block. -/
def chomp (lineEnd : LineEnd) : Chomping → List Char
  | .strip => []
  | .clip => lineEnd.lastBreak
  | .keep => lineEnd.lastBreak ++ lineEnd.emptyLines

end LineEnd

/-- Reads the lines of a block at the given indentation. The number bounds the lines that are read,
empty ones included. -/
def readBlockLines (literal : Bool) (chomping : Chomping) (indent : Nat) :
    Nat → LineEnd → Cursor → Option (List Char × Cursor)
  | 0, before, cursor => some (before.chomp chomping, cursor)
  | bound + 1, before, cursor =>
    if cursor.column = indent && !cursor.rest.isEmpty then do
      let (line, after) := cursor.span (!isBreak ·)
      let (lastBreak, next) := after.readBreak
      let (emptyLines, _, next) ← readIndentation (some indent) bound [] 0 next
      let lineEnd : LineEnd := { lastBreak, emptyLines, afterBlank := line.head?.any isBlank }
      let (others, rest) ← readBlockLines literal chomping indent bound lineEnd next
      return (before.join literal line ++ line ++ others, rest)
    else some (before.chomp chomping, cursor)

/-- Reads a block scalar from its mark on. Its lines are indented by as much as the signs say
beyond the column `outer`, or else as the first line, and at least to the column `least`. -/
def readBlock (literal : Bool) (outer least : Nat) (cursor : Cursor) :
    Option (List Char × Cursor) := do
  let (chomping, increment, after) ← readBlockSigns cursor.skip
  let after := after.skipBlanks.skipComment
  if !endsLine after.rest then none
  let start := after.skipBreak
  let known := if increment = 0 then none else some (outer + increment)
  let (emptyLines, deepest, first) ← readIndentation known (start.rest.length + 1) [] 0 start
  let indent := known.getD (max (max deepest least) 1)
  readBlockLines literal chomping indent (first.rest.length + 1) { emptyLines } first

end ExtensionHost.Yaml
