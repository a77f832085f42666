/-
**From a text to its tokens.**

Indentation is turned into tokens: a column deeper than the one before starts a collection, and a
smaller column ends it. A key is usually not marked as such, and is known for one only by the colon
after it; until then the place where it may have started is kept, and the tokens of the key are put
there later.

* `Scanner`: the place in the text, the open indentations, and the possible keys.
* `Scanner.next?`: reads one token, or stops at the end of the text.
* `tokens?`: all tokens of a text, if it has any meaning.
-/

import ExtensionHost.Yaml.Token.Property

namespace ExtensionHost.Yaml

/-- A place where a key may have started. -/
structure KeyStart where
  /-- Whether nothing but a key makes sense there. -/
  required : Bool
  /-- The number of tokens before. -/
  tokens : Nat
  /-- The place in the text. -/
  place : Cursor

/-- The state of reading tokens. -/
structure Scanner where
  /-- The place in the text. -/
  cursor : Cursor
  /-- The tokens so far, the last one first. -/
  emitted : List Token := []
  /-- The number of tokens so far. -/
  count : Nat := 0
  /-- The columns of the open indented collections, the deepest first. -/
  indents : List Nat := []
  /-- The possible keys, for each open bracket and, at the end, for the text outside of brackets. -/
  keys : List (Option KeyStart) := [none]
  /-- Whether a key may start here. -/
  keyAllowed : Bool := true

namespace Scanner

/-- Whether the place is inside of brackets. -/
def inFlow (scanner : Scanner) : Bool :=
  1 < scanner.keys.length

/-- The first column that is inside of the deepest indented collection. -/
def least (scanner : Scanner) : Nat :=
  (scanner.indents.head?.map (· + 1)).getD 0

/-- The characters that are left. -/
def rest (scanner : Scanner) : List Char :=
  scanner.cursor.rest

/-- Adds a token. -/
def emit (scanner : Scanner) (token : Token) : Scanner :=
  { scanner with emitted := token :: scanner.emitted, count := scanner.count + 1 }

/-- Puts a token behind the first `before` ones. -/
def insert (scanner : Scanner) (before : Nat) (token : Token) : Scanner :=
  { scanner with
    emitted := scanner.emitted.insertIdx (scanner.count - before) token
    count := scanner.count + 1 }

/-- Goes on from another place. -/
def moveTo (scanner : Scanner) (cursor : Cursor) : Scanner :=
  { scanner with cursor }

/-- Says whether a key may start next. -/
def allowKey (scanner : Scanner) (allowed : Bool) : Scanner :=
  { scanner with keyAllowed := allowed }

/-- Adds a token for signs of the given length, and passes them. -/
def emitSign (scanner : Scanner) (token : Token) (length : Nat := 1) : Scanner :=
  (scanner.moveTo (scanner.cursor.skip length)).emit token

/-! ### Indentation -/

/-- Ends the collections in a list of columns that are deeper than a column. -/
def closeDeeper (column : Nat) : List Nat → Scanner → Scanner
  | [], scanner => { scanner with indents := [] }
  | indent :: outer, scanner =>
    if column < indent then closeDeeper column outer (scanner.emit .blockEnd)
    else { scanner with indents := indent :: outer }

/-- Ends the indented collections that are deeper than a column. -/
def unindent (scanner : Scanner) (column : Nat) : Scanner :=
  if scanner.inFlow then scanner else closeDeeper column scanner.indents scanner

/-- Ends all indented collections. -/
def unindentAll (scanner : Scanner) : Scanner :=
  if scanner.inFlow then scanner
  else
    { scanner.indents.foldl (fun scanner _ => scanner.emit .blockEnd) scanner with indents := [] }

/-- Starts an indented collection at a column, unless one is open there, by a token behind the first
`before` ones. -/
def indentTo (scanner : Scanner) (column before : Nat) (start : Token) : Scanner :=
  if scanner.inFlow || column < scanner.least then scanner
  else { scanner.insert before start with indents := column :: scanner.indents }

/-- Starts an indented collection here, unless one is open at this column. -/
def indentHere (scanner : Scanner) (start : Token) : Scanner :=
  scanner.indentTo scanner.cursor.column scanner.count start

/-! ### Possible keys -/

/-- Gives up the possible key; a required one cannot be given up. -/
def dropKey (scanner : Scanner) : Option Scanner :=
  match scanner.keys with
  | some start :: outer =>
    if start.required then none else some { scanner with keys := none :: outer }
  | _ => some scanner

/-- Takes the place for the start of a possible key, if keys are allowed. -/
def saveKey (scanner : Scanner) : Option Scanner :=
  if scanner.keyAllowed then do
    let start : KeyStart :=
      { required := !scanner.inFlow && scanner.indents.head? = some scanner.cursor.column
        tokens := scanner.count
        place := scanner.cursor }
    let dropped ← scanner.dropKey
    return { dropped with keys := some start :: dropped.keys.tail }
  else some scanner

/-- Whether a key that started at a place can still end here: on the same line, and at most 1024
bytes on. -/
def inReach (scanner : Scanner) (place : Cursor) : Bool :=
  place.line = scanner.cursor.line && scanner.cursor.offset ≤ place.offset + 1024

/-- The start of the key that ends here, if there is one. A required key has to be there. -/
def currentKey (scanner : Scanner) : Option (Option KeyStart) :=
  match scanner.keys with
  | some start :: _ =>
    if scanner.inReach start.place then some (some start)
    else if start.required then none else some none
  | _ => some none

/-! ### Reading tokens -/

/-- Passes blanks, comments and line breaks, and a byte order mark at the start of a line. After a
line break outside of brackets a key may start, and where a key may start, tabs do not count as
blanks. The number bounds the lines that are passed. -/
def skipToToken : Nat → Scanner → Scanner
  | 0, scanner => scanner
  | bound + 1, scanner =>
    let cursor := scanner.cursor
    let cursor := if cursor.column = 0 && cursor.looksAt '\ufeff' then cursor.skip else cursor
    let tabs := scanner.inFlow || !scanner.keyAllowed
    let cursor := (cursor.span fun c => c = ' ' || (tabs && c = '\t')).2.skipComment
    if cursor.rest.head?.any isBreak then
      skipToToken bound
        { scanner with
          cursor := cursor.skipBreak
          keyAllowed := scanner.keyAllowed || !scanner.inFlow }
    else scanner.moveTo cursor

/-- Reads a directive. -/
def directive (scanner : Scanner) : Option Scanner := do
  let scanner ← scanner.unindentAll.dropKey
  let (token, after) ← readDirective scanner.cursor
  return ((scanner.allowKey false).moveTo after).emit token

/-- Reads a mark between documents. -/
def documentMark (scanner : Scanner) (token : Token) : Option Scanner := do
  let scanner ← scanner.unindentAll.dropKey
  return (scanner.allowKey false).emitSign token 3

/-- Reads an opening bracket. -/
def openFlow (scanner : Scanner) (token : Token) : Option Scanner := do
  let scanner ← scanner.saveKey
  return { (scanner.allowKey true).emitSign token with keys := none :: scanner.keys }

/-- Reads a closing bracket. -/
def closeFlow (scanner : Scanner) (token : Token) : Option Scanner := do
  let scanner ← scanner.dropKey
  let keys := if scanner.inFlow then scanner.keys.tail else scanner.keys
  return { (scanner.allowKey false).emitSign token with keys }

/-- Reads a comma. -/
def flowEntry (scanner : Scanner) : Option Scanner := do
  let scanner ← scanner.dropKey
  return (scanner.allowKey true).emitSign .flowEntry

/-- Reads the dash before an item. -/
def blockEntry (scanner : Scanner) : Option Scanner := do
  if !scanner.inFlow && !scanner.keyAllowed then none
  let scanner ← (scanner.indentHere .blockSequenceStart).dropKey
  return (scanner.allowKey true).emitSign .blockEntry

/-- Reads the sign before a key. -/
def explicitKey (scanner : Scanner) : Option Scanner := do
  if !scanner.inFlow && !scanner.keyAllowed then none
  let scanner ← (scanner.indentHere .blockMappingStart).dropKey
  return (scanner.allowKey !scanner.inFlow).emitSign .key

/-- Reads the colon before a value, which may reveal that a key stands before it. -/
def value (scanner : Scanner) : Option Scanner := do
  match ← scanner.currentKey with
  | some start =>
    let marked := (scanner.insert start.tokens .key).indentTo start.place.column start.tokens
      .blockMappingStart
    return { (marked.allowKey false).emitSign .value with keys := none :: marked.keys.tail }
  | none =>
    if !scanner.inFlow && !scanner.keyAllowed then none
    let opened := scanner.indentHere .blockMappingStart
    let valued := (opened.allowKey !scanner.inFlow).emitSign .value
    return { valued with keys := none :: opened.keys.tail }

/-- Reads what can be a key, or stand before one, by the given reader. -/
def possibleKey (scanner : Scanner) (read : Cursor → Option (Token × Cursor)) : Option Scanner := do
  let scanner ← scanner.saveKey
  let (token, after) ← read scanner.cursor
  return ((scanner.allowKey false).moveTo after).emit token

/-- Reads a quoted scalar. -/
def quoted (scanner : Scanner) (double : Bool) : Option Scanner :=
  scanner.possibleKey fun cursor => do
    let (text, after) ← readQuoted double cursor
    return (.scalar (if double then .doubleQuoted else .singleQuoted) (String.ofList text), after)

/-- Reads a scalar in an indented block. -/
def block (scanner : Scanner) (literal : Bool) : Option Scanner := do
  let scanner ← scanner.dropKey
  let (text, after) ←
    readBlock literal (scanner.indents.head?.getD 0) scanner.least scanner.cursor
  let style := if literal then .literal else .folded
  return ((scanner.allowKey true).moveTo after).emit (.scalar style (String.ofList text))

/-- Reads a plain scalar. If it is followed by a line break, a key may start. -/
def plain (scanner : Scanner) : Option Scanner := do
  let scanner ← scanner.saveKey
  let read ← readPlain scanner.inFlow scanner.least scanner.cursor
  return ((scanner.allowKey read.endsOnLaterLine).moveTo read.cursor).emit
    (.scalar .plain (String.ofList read.text))

/-- Whether a character is a sign of its own, with which no plain scalar starts. -/
def isSign (c : Char) : Bool :=
  ['-', '?', ':', ',', '[', ']', '\x7b', '\x7d', '#', '&', '*', '!', '|', '>', '\x27', '"', '%',
    '@', '\x60'].contains c

/-- Whether a plain scalar starts with a character and what follows. A dash may start one, and
outside of brackets a colon or a question mark may, if they do not end a word. -/
def startsPlain (inFlow : Bool) (c : Char) (rest : List Char) : Bool :=
  !(isBlank c || isBreak c || isSign c) || (c = '-' && !rest.head?.any isBlank) ||
    (!inFlow && (c = '?' || c = ':') && !endsWord rest)

/-- Reads the token that starts with a character. -/
def token (scanner : Scanner) (c : Char) (rest : List Char) : Option Scanner :=
  let flow := scanner.inFlow
  let word := endsWord rest
  if scanner.cursor.column = 0 && c = '%' then scanner.directive
  else if scanner.cursor.atDocumentMark then
    scanner.documentMark (if c = '-' then .documentStart else .documentEnd)
  else if c = '[' then scanner.openFlow .flowSequenceStart
  else if c = '\x7b' then scanner.openFlow .flowMappingStart
  else if c = ']' then scanner.closeFlow .flowSequenceEnd
  else if c = '\x7d' then scanner.closeFlow .flowMappingEnd
  else if c = ',' then scanner.flowEntry
  else if c = '-' && word then scanner.blockEntry
  else if c = '?' && (flow || word) then scanner.explicitKey
  else if c = ':' && (flow || word) then scanner.value
  else if c = '*' then
    scanner.possibleKey fun cursor =>
      (readName cursor).map fun (name, after) => (.reference name, after)
  else if c = '&' then
    scanner.possibleKey fun cursor =>
      (readName cursor).map fun (name, after) => (.anchor name, after)
  else if c = '!' then scanner.possibleKey (readTag flow)
  else if c = '|' && !flow then scanner.block true
  else if c = '>' && !flow then scanner.block false
  else if c = '\x27' then scanner.quoted false
  else if c = '"' then scanner.quoted true
  else if startsPlain flow c rest then scanner.plain
  else none

/-- Passes what stands before the next token, and ends the collections that end there. -/
def approach (scanner : Scanner) : Scanner :=
  let reached := skipToToken (scanner.rest.length + 1) scanner
  if reached.rest.isEmpty then reached.unindentAll else reached.unindent reached.cursor.column

/-- Reads one token, or nothing at the end of the text, where no key may be missing. The inner
`none` is the end. -/
def next? (scanner : Scanner) : Option (Option Scanner × List Token) :=
  let reached := scanner.approach
  match reached.rest with
  | [] => do
    let ended ← reached.dropKey
    return (none, ended.emitted.reverse)
  | c :: rest => do return (some (← reached.token c rest), [])

/-- Reads all tokens. The number bounds them. -/
def run : Nat → Scanner → Option (List Token)
  | 0, _ => none
  | bound + 1, scanner => do
    match ← scanner.next? with
    | (some scanner, _) => run bound scanner
    | (none, tokens) => return tokens

end Scanner

/-- The tokens of a text, unless a character or a sign is out of place. Every token but the marks of
indentation takes at least one character. -/
def tokens? (text : List Char) : Option (List Token) :=
  if text.all isAllowed then Scanner.run (text.length + 1) { cursor := { rest := text } } else none

end ExtensionHost.Yaml
