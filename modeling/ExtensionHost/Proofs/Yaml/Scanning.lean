/-
**What the scanner adds for the parts of a line.**

* `Stands`: where the scanner is, and what it has read, outside of brackets.
* `Stands.emit`, `Stands.unindent`, `Stands.indentTo`, `Stands.saveKey`: what each step does to it.
* `Stands.approach`, `Stands.newline`, `Stands.approach_end`: what comes before a token, and the
  collections that end there.
* `Leads`: one scanner goes on as the other one.
* `leads_dash`, `leads_key`, `leads_text`: the tokens of dashes, keys and plain scalars.
-/

import ExtensionHost.Proofs.Yaml.Line

namespace ExtensionHost.Yaml

/-! ### Where the scanner is -/

namespace Scanner

/-- Where the scanner is, outside of brackets, and the tokens so far in their order. -/
structure Stands (scanner : Scanner) (text : List Char) (column : Nat) (allowed : Bool)
    (indents : List Nat) (tokens : List Token) (key : Option KeyStart) : Prop where
  rest : scanner.cursor.rest = text
  column : scanner.cursor.column = column
  allowed : scanner.keyAllowed = allowed
  indents : scanner.indents = indents
  emitted : scanner.emitted = tokens.reverse
  count : scanner.count = tokens.length
  keys : scanner.keys = [key]

/-- No key is missing. -/
def Idle (key : Option KeyStart) : Prop :=
  ∀ start ∈ key, start.required = false

theorem idle_none : Idle none := by
  rintro start isStart
  cases isStart

section Steps

variable {scanner : Scanner} {text : List Char} {column : Nat} {allowed : Bool}
  {indents : List Nat} {tokens later : List Token} {key : Option KeyStart}

theorem Stands.inFlow (stands : scanner.Stands text column allowed indents tokens key) :
    scanner.inFlow = false := by
  simp [Scanner.inFlow, stands.keys]

theorem Stands.least (stands : scanner.Stands text column allowed indents tokens key) :
    scanner.least = leastOf indents := by
  rw [Scanner.least, stands.indents]
  rfl

theorem Stands.moveTo (stands : scanner.Stands text column allowed indents tokens key)
    (cursor : Cursor) :
    (scanner.moveTo cursor).Stands cursor.rest cursor.column allowed indents tokens key :=
  { stands with rest := rfl, column := rfl }

theorem Stands.allowKey (stands : scanner.Stands text column allowed indents tokens key)
    (next : Bool) : (scanner.allowKey next).Stands text column next indents tokens key :=
  { stands with allowed := rfl }

theorem Stands.emit (stands : scanner.Stands text column allowed indents tokens key)
    (token : Token) :
    (scanner.emit token).Stands text column allowed indents (tokens ++ [token]) key :=
  { stands with
    emitted := by simp [Scanner.emit, stands.emitted]
    count := by simp [Scanner.emit, stands.count] }

/-- A sign is passed and its token is added. -/
theorem Stands.emitSign {sign : Char}
    (stands : scanner.Stands (sign :: text) column allowed indents tokens key) (token : Token) :
    (scanner.emitSign token).Stands text (column + 1) allowed indents (tokens ++ [token]) key := by
  have passed := (stands.moveTo (scanner.cursor.skip 1)).emit token
  rw [show (scanner.cursor.skip 1).rest = text by simp [Cursor.skip, stands.rest],
    show (scanner.cursor.skip 1).column = column + 1 by simp [Cursor.skip, stands.column]] at passed
  exact passed

theorem closeDeeper_eq (least : Nat) (indents : List Nat) (scanner : Scanner) :
    closeDeeper least indents scanner =
      { scanner with
        emitted := (closings least indents).reverse ++ scanner.emitted
        count := scanner.count + (closings least indents).length
        indents := outer least indents } := by
  induction indents generalizing scanner with
  | nil => rfl
  | cons indent more ih =>
    by_cases deeper : least < indent
    · rw [closeDeeper, if_pos deeper, ih]
      simp [closings, outer, deeper, Scanner.emit]
      omega
    · simp [closeDeeper, closings, outer, deeper]

theorem Stands.unindent (stands : scanner.Stands text column allowed indents tokens key)
    (least : Nat) :
    (scanner.unindent least).Stands text column allowed (outer least indents)
      (tokens ++ closings least indents) key := by
  rw [Scanner.unindent, stands.inFlow, if_neg Bool.false_ne_true, closeDeeper_eq, stands.indents]
  exact { stands with
    indents := rfl
    emitted := by simp [stands.emitted]
    count := by simp [stands.count] }

theorem Stands.emitEnds (stands : scanner.Stands text column allowed indents tokens key)
    (ended : List Nat) :
    (ended.foldl (fun scanner _ => scanner.emit .blockEnd) scanner).Stands text column allowed
      indents (tokens ++ ended.map fun _ => .blockEnd) key := by
  induction ended generalizing scanner tokens with
  | nil => simpa using stands
  | cons indent more ih => simpa using ih (stands.emit .blockEnd)

/-- All open collections end. -/
theorem Stands.unindentAll (stands : scanner.Stands text column allowed indents tokens key) :
    scanner.unindentAll.Stands text column allowed []
      (tokens ++ indents.map fun _ => .blockEnd) key := by
  rw [Scanner.unindentAll, stands.inFlow, if_neg Bool.false_ne_true, stands.indents]
  exact { stands.emitEnds indents with indents := rfl }

theorem insertIdx_append {α : Type} (first second : List α) (x : α) :
    (first ++ second).insertIdx first.length x = first ++ x :: second := by
  induction first with
  | nil => rfl
  | cons y more ih => simp [ih]

/-- A token is put before the last ones. -/
theorem Stands.insert (stands : scanner.Stands text column allowed indents (tokens ++ later) key)
    (token : Token) :
    (scanner.insert tokens.length token).Stands text column allowed indents
      (tokens ++ token :: later) key :=
  { stands with
    emitted := by
      have place : (tokens ++ later).length - tokens.length = later.reverse.length := by simp
      simp only [Scanner.insert, stands.emitted, stands.count, place, List.reverse_append,
        insertIdx_append]
      simp
    count := by simp [Scanner.insert, stands.count]; omega }

theorem Stands.indentTo (stands : scanner.Stands text column allowed indents (tokens ++ later) key)
    (least : Nat) (start : Token) :
    (scanner.indentTo least tokens.length start).Stands text column allowed (opened least indents)
      (tokens ++ opening least start indents ++ later) key := by
  rw [Scanner.indentTo, stands.inFlow, stands.least]
  by_cases inside : least < leastOf indents
  · simpa [inside, opened, opening] using stands
  · have started := stands.insert start
    rw [opened, if_neg inside, opening, if_neg inside, Bool.false_or, decide_eq_false inside,
      if_neg Bool.false_ne_true, List.append_assoc, List.singleton_append]
    exact { started with indents := by rw [stands.indents] }

theorem Stands.indentHere (stands : scanner.Stands text column allowed indents tokens key)
    (start : Token) :
    (scanner.indentHere start).Stands text column allowed (opened column indents)
      (tokens ++ opening column start indents) key := by
  rw [← List.append_nil tokens] at stands
  have started := stands.indentTo column start
  rw [List.append_nil, ← List.append_nil tokens] at started
  rw [Scanner.indentHere, stands.count, stands.column, List.append_nil]
  simpa using started

/-- A possible key that is not required is given up. -/
theorem Stands.dropKey (stands : scanner.Stands text column allowed indents tokens key)
    (idle : Idle key) : scanner.dropKey = some { scanner with keys := [none] } := by
  rw [Scanner.dropKey, stands.keys]
  cases key with
  | none => simp [← stands.keys]
  | some start => simp [idle start rfl]

/-- A new place is taken for the start of a possible key. -/
theorem Stands.saveKey (stands : scanner.Stands text column true indents tokens key)
    (idle : Idle key) :
    scanner.saveKey = some { scanner with
      keys := [some ⟨indents.head? = some column, tokens.length, scanner.cursor⟩] } := by
  rw [Scanner.saveKey, if_pos stands.allowed, stands.dropKey idle]
  simp [stands.inFlow, stands.indents, stands.column, stands.count]

/-! ### What comes before a token -/

theorem byteCount_spaces (blanks : Nat) : byteCount (List.replicate blanks ' ') = blanks := by
  induction blanks with
  | zero => rfl
  | succ more ih =>
    rw [List.replicate_succ]
    show Char.utf8Size ' ' + byteCount (List.replicate more ' ') = more + 1
    rw [ih, Nat.add_comm]
    rfl

theorem span_blanks {test : Char → Bool} {c : Char} (passes : test ' ' = true)
    (stops : test c = false) (left : List Char) (blanks line column offset : Nat) :
    ((⟨List.replicate blanks ' ' ++ c :: left, line, column, offset⟩ : Cursor).span test).2 =
      ⟨c :: left, line, column + blanks, offset + blanks⟩ := by
  have read : (List.replicate blanks ' ' ++ c :: left).takeWhile test =
      List.replicate blanks ' ' := by
    rw [List.takeWhile_append_of_pos (by simp [passes])]
    simp [stops]
  rw [Cursor.span]
  simp only [read]
  rw [skip_word, List.length_replicate, byteCount_spaces]

/-- Spaces before a token are passed. -/
theorem Stands.skipToToken (blanks : Nat) (starts : StartsToken (column + blanks) text)
    (stands : scanner.Stands (List.replicate blanks ' ' ++ text) column allowed indents tokens key)
    (bound : Nat) :
    skipToToken (bound + 1) scanner =
      scanner.moveTo
        ⟨text, scanner.cursor.line, column + blanks, scanner.cursor.offset + blanks⟩ := by
  obtain ⟨⟨rest, line, place, offset⟩, emitted, count, indents', keys, keyAllowed⟩ := scanner
  obtain ⟨rfl, rfl, rfl, rfl, rfl, rfl, rfl⟩ := stands
  obtain ⟨c, left, rfl, notBlank, notBreak, noComment, noMark⟩ := starts
  have noByteOrder : (decide (place = 0) && (⟨List.replicate blanks ' ' ++ c :: left, line, place,
      offset⟩ : Cursor).looksAt '\ufeff') = false := by
    cases blanks with
    | zero =>
      by_cases start : place = 0
      · simp [start, Cursor.looksAt, noMark (by simpa using start)]
      · simp [start]
    | succ more => simp [Cursor.looksAt, List.replicate_succ]
  have noSpace : c ≠ ' ' ∧ c ≠ '\t' := by simpa [isBlank] using notBlank
  rw [Scanner.skipToToken]
  simp only [noByteOrder, Bool.false_eq_true, if_false]
  rw [span_blanks (by simp) (by simp [noSpace])]
  simp [Cursor.skipComment, noComment, notBreak]

theorem Stands.approach_eq (blanks : Nat) (starts : StartsToken (column + blanks) text)
    (stands : scanner.Stands (List.replicate blanks ' ' ++ text) column allowed indents tokens
      key) :
    scanner.approach =
      (scanner.moveTo ⟨text, scanner.cursor.line, column + blanks,
        scanner.cursor.offset + blanks⟩).unindent (column + blanks) := by
  rw [Scanner.approach, stands.skipToToken blanks starts]
  obtain ⟨c, left, rfl, -⟩ := starts
  rfl

theorem Stands.approach (blanks : Nat) (starts : StartsToken (column + blanks) text)
    (stands : scanner.Stands (List.replicate blanks ' ' ++ text) column allowed indents tokens
      key) :
    scanner.approach.Stands text (column + blanks) allowed (outer (column + blanks) indents)
      (tokens ++ closings (column + blanks) indents) key := by
  rw [stands.approach_eq blanks starts]
  exact (stands.moveTo ⟨text, _, column + blanks, _⟩).unindent (column + blanks)

/-- A line ends, and the place is the start of the next one. -/
theorem Stands.newline (stands : scanner.Stands ('\n' :: text) column allowed indents tokens key) :
    ∃ next : Scanner, scanner.approach = next.approach ∧
      next.Stands text 0 true indents tokens key := by
  obtain ⟨⟨rest, line, place, offset⟩, emitted, count, indents', keys, keyAllowed⟩ := scanner
  obtain ⟨rfl, rfl, rfl, rfl, rfl, rfl, rfl⟩ := stands
  refine ⟨⟨⟨text, line + 1, 0, offset + byteCount ['\n']⟩, tokens.reverse, tokens.length, indents',
    [key], true⟩, ?_, ⟨rfl, rfl, rfl, rfl, rfl, rfl, rfl⟩⟩
  have passed : Scanner.skipToToken (text.length + 1 + 1) ⟨⟨'\n' :: text, line, place, offset⟩,
      tokens.reverse, tokens.length, indents', [key], keyAllowed⟩ =
      Scanner.skipToToken (text.length + 1) ⟨⟨text, line + 1, 0, offset + byteCount ['\n']⟩,
        tokens.reverse, tokens.length, indents', [key], true⟩ := by
    conv_lhs => rw [Scanner.skipToToken]
    simp [Cursor.looksAt, Cursor.span, Cursor.skip, Cursor.skipComment, Cursor.skipBreak,
      Cursor.readBreak, Cursor.nextLine, Scanner.inFlow, isBreak, byteCount]
  exact congrArg (fun reached : Scanner => if reached.rest.isEmpty then reached.unindentAll
    else reached.unindent reached.cursor.column) passed

theorem Stands.approach_end (stands : scanner.Stands [] column allowed indents tokens key) :
    scanner.approach.Stands [] column allowed [] (tokens ++ indents.map fun _ => .blockEnd)
      key := by
  have stays : Scanner.skipToToken 1 scanner = scanner := by
    obtain ⟨⟨rest, line, place, offset⟩, emitted, count, indents', keys, keyAllowed⟩ := scanner
    obtain rfl : rest = [] := stands.rest
    simp [Scanner.skipToToken, Cursor.looksAt, Cursor.span, Cursor.skip, Cursor.skipComment,
      Scanner.moveTo, byteCount]
  have length : scanner.rest.length = 0 := by rw [Scanner.rest, stands.rest, List.length_nil]
  rw [Scanner.approach, length, stays, Scanner.rest, stands.rest]
  exact stands.unindentAll

end Steps

/-! ### Steps that lead on -/

theorem length_skip_le (cursor : Cursor) (count : Nat) :
    (cursor.skip count).rest.length ≤ cursor.rest.length := by
  simp [Cursor.skip]

theorem length_skipComment_le (cursor : Cursor) :
    cursor.skipComment.rest.length ≤ cursor.rest.length := by
  rw [Cursor.skipComment]
  split
  · exact length_skip_le _ _
  · exact le_rfl

theorem length_skipBreak_le (cursor : Cursor) :
    cursor.skipBreak.rest.length ≤ cursor.rest.length := by
  rw [Cursor.skipBreak, Cursor.readBreak]
  split
  · rename_i rest isRest
    rw [isRest]
    exact Nat.le_add_right rest.length 2
  · rename_i c rest _ isRest
    split
    · rw [isRest]
      exact Nat.le_succ rest.length
    · exact le_rfl
  · exact le_rfl

theorem length_skipToToken_le (bound : Nat) (scanner : Scanner) :
    (skipToToken bound scanner).rest.length ≤ scanner.rest.length := by
  induction bound generalizing scanner with
  | zero => exact le_rfl
  | succ bound ih =>
    rw [skipToToken]
    have start : (if (decide (scanner.cursor.column = 0) && scanner.cursor.looksAt '\ufeff') = true
        then scanner.cursor.skip else scanner.cursor).rest.length ≤ scanner.rest.length := by
      split
      · exact length_skip_le _ _
      · exact le_rfl
    generalize (if (decide (scanner.cursor.column = 0) && scanner.cursor.looksAt '\ufeff') = true
      then scanner.cursor.skip else scanner.cursor) = first at start ⊢
    have blanks : ∀ count, (first.skip count).skipComment.rest.length ≤ scanner.rest.length :=
      fun count => ((length_skipComment_le _).trans (length_skip_le _ _)).trans start
    split
    · exact (ih _).trans ((length_skipBreak_le _).trans (blanks _))
    · exact blanks _

theorem cursor_unindent (scanner : Scanner) (column : Nat) :
    (scanner.unindent column).cursor = scanner.cursor := by
  rw [unindent]
  split
  · rfl
  · rw [closeDeeper_eq]

theorem cursor_unindentAll (scanner : Scanner) :
    scanner.unindentAll.cursor = scanner.cursor := by
  have kept : ∀ (indents : List Nat) (scanner : Scanner),
      (indents.foldl (fun scanner _ => scanner.emit .blockEnd) scanner).cursor = scanner.cursor := by
    intro indents
    induction indents with
    | nil => exact fun _ => rfl
    | cons indent more ih => exact fun scanner => ih _
  rw [unindentAll]
  split
  · rfl
  · exact kept _ _

theorem length_approach_le (scanner : Scanner) :
    scanner.approach.rest.length ≤ scanner.rest.length := by
  refine le_trans (le_of_eq ?_) (length_skipToToken_le (scanner.rest.length + 1) scanner)
  rw [approach]
  split
  · exact congrArg (·.rest.length) (cursor_unindentAll _)
  · exact congrArg (·.rest.length) (cursor_unindent _ _)

/-- All tokens of the text, where a scanner goes on from here. -/
def Completes (scanner : Scanner) (tokens : List Token) : Prop :=
  ∀ bound, scanner.rest.length < bound → scanner.run bound = some tokens

/-- From one scanner the other is reached. -/
def Leads (scanner next : Scanner) : Prop :=
  ∀ tokens, next.Completes tokens → scanner.Completes tokens

theorem Leads.trans {first second third : Scanner} (start : first.Leads second)
    (more : second.Leads third) : first.Leads third :=
  fun tokens completes => start tokens (more tokens completes)

/-- One token leads on from where it starts. -/
theorem leads_of_token {scanner next : Scanner} {c : Char} {rest : List Char}
    (reached : scanner.approach.rest = c :: rest)
    (read : scanner.approach.token c rest = some next) (shorter : next.rest.length ≤ rest.length) :
    scanner.Leads next := by
  intro tokens completes bound enough
  have step : scanner.next? = some (some next, []) := by
    rw [next?, reached]
    simp [read]
  have before := length_approach_le scanner
  rw [reached, List.length_cons] at before
  cases bound with
  | zero => omega
  | succ bound =>
    rw [run, step]
    exact completes bound (by omega)

/-- From where the next token starts the same follows. -/
theorem leads_of_approach {scanner next : Scanner} (same : scanner.approach = next.approach)
    (shorter : next.rest.length ≤ scanner.rest.length) : scanner.Leads next := by
  intro tokens completes bound enough
  have step : scanner.next? = next.next? := by rw [next?, next?, same]
  cases bound with
  | zero => omega
  | succ bound =>
    rw [run, step, ← run]
    exact completes (bound + 1) (by omega)

section Parts

variable {scanner : Scanner} {column : Nat} {indents : List Nat} {tokens later : List Token}
  {key : Option KeyStart}

/-- The possible key after one that is given up, or none. -/
theorem Stands.withKey {allowed : Bool} {text : List Char}
    (stands : scanner.Stands text column allowed indents tokens key) (next : Option KeyStart) :
    { scanner with keys := [next] }.Stands text column allowed indents tokens next :=
  { stands with keys := rfl }

theorem leads_dash {text : List Char} (starts : StartsToken (column + 2) text)
    (stands : scanner.approach.Stands ('-' :: ' ' :: text) column true indents tokens key)
    (idle : Idle key) (shallow : leastOf indents ≤ column + 1) :
    ∃ next : Scanner, scanner.Leads next ∧
      next.approach.Stands text (column + 2) true (opened column indents)
        (tokens ++ opening column .blockSequenceStart indents ++ [.blockEntry]) none := by
  have started := stands.indentHere .blockSequenceStart
  have read : scanner.approach.token '-' (' ' :: text) =
      some (({ scanner.approach.indentHere .blockSequenceStart with
        keys := [none] }.allowKey true).emitSign .blockEntry) := by
    have noMark : scanner.approach.cursor.atDocumentMark = false := by
      simp [Cursor.atDocumentMark, stands.rest, isDocumentMark]
    rw [token]
    simp [noMark, stands.inFlow, endsWord, isBlank, blockEntry, stands.allowed,
      started.dropKey idle]
  have passed := ((started.withKey none).allowKey true).emitSign .blockEntry
  refine ⟨_, leads_of_token stands.rest read ?_, ?_⟩
  · rw [Scanner.rest, passed.rest]
  · have reached := Stands.approach 1 starts passed
    have within : leastOf (opened column indents) ≤ column + 2 + 1 := by
      rw [leastOf_opened shallow]
      omega
    simpa [closings_of_le within] using reached

theorem startsPlain_of_opens {c : Char} {rest : List Char} (opens : opensPlain (c :: rest) = true) :
    startsPlain false c rest = true := by
  have noBlank : endsWord rest = false → rest.head?.any isBlank = false := by
    cases rest with
    | nil => simp
    | cons d more => simp +contextual [endsWord]
  simp only [opensPlain, Bool.or_eq_true, Bool.and_eq_true, decide_eq_true_eq] at opens
  rw [startsPlain]
  rcases opens with plainChar | ⟨(rfl | rfl) | rfl, noEnd⟩
  · simp [plainChar]
  · simp [noBlank (by simpa using noEnd)]
  · simp [show endsWord rest = false by simpa using noEnd]
  · simp [show endsWord rest = false by simpa using noEnd]

/-- Where a plain scalar starts it is read, unless a mark between documents stands there. -/
theorem token_eq_plain {allowed : Bool} {c : Char} {rest : List Char}
    (stands : scanner.Stands (c :: rest) column allowed indents tokens key)
    (opens : opensPlain (c :: rest) = true) (noMark : scanner.cursor.atDocumentMark = false) :
    scanner.token c rest = scanner.plain := by
  have starts := startsPlain_of_opens opens
  by_cases sign : c = '-' ∨ c = '?' ∨ c = ':'
  · have noEnd : endsWord rest = false := by
      rcases sign with rfl | rfl | rfl <;> simpa [opensPlain, isSign] using opens
    rcases sign with rfl | rfl | rfl <;> simp [token, noMark, stands.inFlow, noEnd, starts]
  · have plainChar : isSign c = false := by
      simp only [opensPlain, Bool.or_eq_true, Bool.and_eq_true] at opens
      simp_all
    simp only [isSign, List.contains_eq_mem, decide_eq_false_iff_not, List.mem_cons,
      not_or] at plainChar
    rw [token]
    simp [noMark, stands.inFlow, starts, plainChar]

/-- A plain scalar is read, and a possible key starts with it. -/
theorem leads_plain {allowed : Bool} {text : List Char} {saved : Option KeyStart} {read : Plain}
    (stands : scanner.approach.Stands text column allowed indents tokens key)
    (opens : opensPlain text = true) (noMark : scanner.approach.cursor.atDocumentMark = false)
    (save : scanner.approach.saveKey = some { scanner.approach with keys := [saved] })
    (reads : readPlain false (leastOf indents) scanner.approach.cursor = some read)
    (shorter : read.cursor.rest.length < text.length) :
    ∃ next : Scanner, scanner.Leads next ∧ next.cursor = read.cursor ∧
      next.Stands read.cursor.rest read.cursor.column read.endsOnLaterLine indents
        (tokens ++ [.scalar .plain (String.ofList read.text)]) saved := by
  obtain ⟨c, rest, rfl⟩ := exists_cons_of_opensPlain opens
  have saves := stands.withKey saved
  have step : scanner.approach.token c rest =
      some ((({ scanner.approach with keys := [saved] }.allowKey read.endsOnLaterLine).moveTo
        read.cursor).emit (.scalar .plain (String.ofList read.text))) := by
    rw [token_eq_plain stands opens noMark, Scanner.plain, save, Option.bind_eq_bind,
      Option.bind_some, saves.inFlow, saves.least]
    simp only [reads]
    rfl
  exact ⟨_, leads_of_token stands.rest step (Nat.le_of_lt_succ shorter), rfl,
    ((saves.allowKey _).moveTo _).emit _⟩

theorem Stands.cursor_eq {allowed : Bool} {text : List Char}
    (stands : scanner.Stands text column allowed indents tokens key) :
    scanner.cursor = ⟨text, scanner.cursor.line, column, scanner.cursor.offset⟩ := by
  rw [← stands.rest, ← stands.column]

/-- No key is required where something deeper than the open collections starts. -/
theorem Stands.saveKey_deep {allowed : Bool} {text : List Char}
    (stands : scanner.Stands text column allowed indents tokens key) (idle : Idle key)
    (deep : leastOf indents ≤ column) :
    ∃ next, Idle next ∧ scanner.saveKey = some { scanner with keys := [next] } := by
  cases allowed with
  | true =>
    refine ⟨_, ?_, stands.saveKey idle⟩
    intro start isStart
    rw [← Option.mem_some.mp isStart]
    cases first : indents.head? with
    | none => rfl
    | some indent =>
      rw [leastOf, first] at deep
      simp at deep ⊢
      omega
  | false =>
    refine ⟨key, idle, ?_⟩
    rw [Scanner.saveKey, if_neg (by simp [stands.allowed]), ← stands.keys]

/-- A plain scalar is read, with the end of its line and the indentation of the next one. -/
theorem leads_text {text rest : List Char} {allowed : Bool} {indent : Nat}
    (plain : IsPlainLine text)
    (stands : scanner.approach.Stands (text ++ '\n' :: (List.replicate indent ' ' ++ rest)) column
      allowed indents tokens key)
    (idle : Idle key) (begins : Begins rest) (inside : 0 < column)
    (deep : leastOf indents ≤ column) (ends : indent < leastOf indents) :
    ∃ next key', scanner.Leads next ∧ Idle key' ∧
      next.Stands rest indent true indents
        (tokens ++ [.scalar .plain (String.ofList text)]) key' := by
  obtain ⟨saved, stillIdle, save⟩ := stands.saveKey_deep idle deep
  obtain ⟨offset', read⟩ := readPlain_eq plain begins inside deep ends scanner.approach.cursor.line
    scanner.approach.cursor.offset
  rw [← stands.cursor_eq] at read
  have noMark : scanner.approach.cursor.atDocumentMark = false := by
    simp [Cursor.atDocumentMark, stands.column, inside.ne']
  obtain ⟨next, leads, -, reached⟩ := leads_plain stands (opensPlain_append plain.opens _) noMark
    save read (by simp; omega)
  exact ⟨next, saved, leads, stillIdle, reached⟩

/-- A word that ends at a colon is read up to there. -/
theorem readPlain_word {word left : List Char} (isKey : IsKey word) (ends : endsWord left = true)
    (least line column offset : Nat) :
    readPlain false least ⟨word ++ ':' :: left, line, column, offset⟩ =
      some ⟨word, false, ⟨':' :: left, line, column + word.length, offset + byteCount word⟩⟩ := by
  have stops : readPlainWord false (':' :: left) = some [] := by
    simp [readPlainWord, ends, isBlank, isBreak]
  exact readPlainWords_of_stop (isKey.isPlainWord.reads stops fun _ => isKey.noMark _) rfl

/-- A colon makes a key of the word before it, and starts a mapping unless one is open there. -/
theorem leads_colon {left : List Char} {start : KeyStart}
    (stands : scanner.approach.Stands (':' :: left) column false indents (tokens ++ later)
      (some start)) (ends : endsWord left = true)
    (reach : scanner.approach.inReach start.place = true)
    (before : start.tokens = tokens.length) :
    ∃ next : Scanner, scanner.Leads next ∧
      next.Stands left (column + 1) false (opened start.place.column indents)
        (tokens ++ opening start.place.column .blockMappingStart indents ++ .key :: later ++
          [.value]) none := by
  have marked := (stands.insert .key).indentTo start.place.column .blockMappingStart
  rw [← before] at marked
  have valued := ((marked.allowKey false).emitSign .value).withKey none
  have noMark : scanner.approach.cursor.atDocumentMark = false := by
    simp [Cursor.atDocumentMark, stands.rest, isDocumentMark]
  have current : scanner.approach.currentKey = some (some start) := by
    simp [currentKey, stands.keys, reach]
  have step : scanner.approach.token ':' left = scanner.approach.value := by
    rw [token]
    simp [noMark, ends]
  have read : scanner.approach.value = some
      { ((((scanner.approach.insert start.tokens .key).indentTo start.place.column start.tokens
        .blockMappingStart).allowKey false).emitSign .value) with keys := [none] } := by
    rw [value, current]
    simp [marked.keys]
  refine ⟨_, leads_of_token stands.rest (step.trans read) ?_, valued⟩
  rw [Scanner.rest, valued.rest]

/-- A key is read with the colon after it. -/
theorem leads_key {word left : List Char} (isKey : IsKey word) (ends : endsWord left = true)
    (stands : scanner.approach.Stands (word ++ ':' :: left) column true indents tokens key)
    (idle : Idle key) (shallow : leastOf indents ≤ column + 1) :
    ∃ next : Scanner, scanner.Leads next ∧
      next.Stands left (column + word.length + 1) false (opened column indents)
        (tokens ++ opening column .blockMappingStart indents ++
          [.key, .scalar .plain (String.ofList word), .value]) none := by
  have noMark : scanner.approach.cursor.atDocumentMark = false := by
    simp [Cursor.atDocumentMark, stands.rest, isKey.noMark]
  have read := readPlain_word isKey ends (leastOf indents) scanner.approach.cursor.line column
    scanner.approach.cursor.offset
  rw [← stands.cursor_eq] at read
  have nonempty : 0 < word.length := List.length_pos_of_ne_nil isKey.isPlainWord.nonempty
  obtain ⟨middle, leads, place, reached⟩ := leads_plain stands (opensPlain_append isKey.opens _)
    noMark (stands.saveKey idle) read (by simp; omega)
  -- the colon follows at once, where nothing has ended
  have starts : StartsToken (column + word.length) (':' :: left) :=
    ⟨':', left, rfl, rfl, rfl, by decide, fun _ => by decide⟩
  have within : leastOf indents ≤ column + word.length + 1 := by omega
  have colon : middle.approach.Stands (':' :: left) (column + word.length) false indents
      (tokens ++ [.scalar .plain (String.ofList word)])
      (some ⟨indents.head? = some column, tokens.length, scanner.approach.cursor⟩) := by
    simpa [closings_of_le within] using Stands.approach 0 starts reached
  have reach : middle.approach.inReach scanner.approach.cursor = true := by
    rw [Stands.approach_eq 0 starts reached, inReach, cursor_unindent]
    simp [Scanner.moveTo, place, isKey.short]
  obtain ⟨next, onward, valued⟩ := leads_colon colon ends reach rfl
  refine ⟨next, leads.trans onward, ?_⟩
  simpa [stands.column] using valued

end Parts

end Scanner

end ExtensionHost.Yaml
