/-
**Indented lines, and their tokens.**

* `Line`, `textOf`: lines with keys, plain scalars and dashes, and the text that they make up.
* `ArePlain`, `Line.EndsBefore`: keys and scalars are plain, and no scalar goes on in the next line.
* `closings`, `opening`: the collections that end and start where something is written at a column.
* `tokensOf`: the tokens of lines, where collections are open.
* `least_le_leastOf`: how deep the open collections are after a line.
-/

import ExtensionHost.Proofs.Yaml.PlainLine

namespace ExtensionHost.Yaml

/-! ### Lines -/

/-- What a line holds after its indentation. -/
inductive Content where
  /-- A plain scalar. -/
  | text (scalar : String)
  /-- A key whose value is on the lines below. -/
  | key (word : String)
  /-- A key with a plain scalar as its value. -/
  | pair (word scalar : String)
  /-- A dash, and what stands after it. -/
  | item (rest : Content)

/-- An indented line. -/
structure Line where
  /-- The number of spaces before. -/
  indent : Nat
  /-- What is written after them. -/
  content : Content

/-- A key of one word, short enough to be one. -/
structure IsKey (word : List Char) : Prop extends IsPlainLine word where
  oneWord : ∀ c ∈ word, isBlank c = false
  letter : ∀ c ∈ word.head?, c.isAlphanum = true
  short : byteCount word ≤ 1024

theorem IsKey.isPlainWord {word : List Char} (isKey : IsKey word) : IsPlainWord word where
  nonempty := by
    rintro rfl
    exact absurd isKey.opens Bool.false_ne_true
  noComment isFirst := absurd (isKey.letter '#' isFirst) (by decide)
  inside c member := ⟨isKey.oneWord c member, isKey.unbroken c member⟩
  last c isLast := (isKey.closes c isLast).2

/-- No key is a mark between documents. -/
theorem IsKey.noMark {word : List Char} (isKey : IsKey word) (left : List Char) :
    isDocumentMark (word ++ left) = false := by
  obtain ⟨c, more, rfl⟩ := exists_cons_of_opensPlain isKey.opens
  have letter := isKey.letter c rfl
  have noDash : c ≠ '-' := by
    rintro rfl
    exact absurd letter (by decide)
  have noDot : c ≠ '.' := by
    rintro rfl
    exact absurd letter (by decide)
  simp [isDocumentMark, noDash, noDot]

namespace Content

/-- The characters of the line. -/
def chars : Content → List Char
  | text scalar => scalar.toList
  | key word => word.toList ++ [':']
  | pair word scalar => word.toList ++ ':' :: ' ' :: scalar.toList
  | item rest => '-' :: ' ' :: rest.chars

/-- Whether keys and scalars are plain. -/
def IsPlain : Content → Prop
  | text scalar => IsPlainLine scalar.toList
  | key word => IsKey word.toList
  | pair word scalar => IsKey word.toList ∧ IsPlainLine scalar.toList
  | item rest => rest.IsPlain

/-- Whether it starts with a key or a dash. -/
def startsCollection : Content → Bool
  | text _ => false
  | _ => true

/-- Whether it ends with a scalar. -/
def endsWithScalar : Content → Bool
  | key _ => false
  | item rest => rest.endsWithScalar
  | _ => true

/-- The first column inside of the collections that it starts. -/
def least (column : Nat) : Content → Nat
  | text _ => 0
  | item rest => max (column + 1) (least (column + 2) rest)
  | _ => column + 1

theorem least_pos (content : Content) (starts : content.startsCollection = true) (column : Nat) :
    0 < content.least column := by
  cases content with
  | text scalar => cases starts
  | key word => exact Nat.succ_pos column
  | pair word scalar => exact Nat.succ_pos column
  | item rest => exact Nat.lt_of_lt_of_le (Nat.succ_pos column) (Nat.le_max_left _ _)

end Content

/-- The text of lines. -/
def textOf : List Line → List Char
  | [] => []
  | line :: more => List.replicate line.indent ' ' ++ (line.content.chars ++ '\n' :: textOf more)

/-- The indentation of the first line. -/
def indentOf : List Line → Nat
  | [] => 0
  | line :: _ => line.indent

/-- The text of lines after the indentation of the first one. -/
def bodyOf : List Line → List Char
  | [] => []
  | line :: more => line.content.chars ++ '\n' :: textOf more

theorem textOf_eq (lines : List Line) :
    textOf lines = List.replicate (indentOf lines) ' ' ++ bodyOf lines := by
  cases lines <;> rfl

/-- Whether a line belongs to no scalar of the line before it. -/
def Line.EndsBefore (line next : Line) : Prop :=
  line.content.endsWithScalar = true → next.indent < line.content.least line.indent

/-! ### How they start -/

/-- A token starts here, at a column. -/
def StartsToken (column : Nat) (text : List Char) : Prop :=
  ∃ c rest, text = c :: rest ∧ isBlank c = false ∧ isBreak c = false ∧ c ≠ '#' ∧
    (column = 0 → c ≠ '\ufeff')

theorem IsPlainLine.startsToken {text : List Char} (plain : IsPlainLine text) {column : Nat}
    (inside : 0 < column) (more : List Char) : StartsToken column (text ++ more) := by
  obtain ⟨c, rest, rfl⟩ := exists_cons_of_opensPlain plain.opens
  obtain ⟨notBlank, notBreak, noComment⟩ := first_of_opensPlain plain.opens
  exact ⟨c, rest ++ more, rfl, notBlank, notBreak, noComment, fun start => absurd start inside.ne'⟩

theorem IsKey.startsToken {word : List Char} (isKey : IsKey word) (column : Nat)
    (more : List Char) : StartsToken column (word ++ more) := by
  obtain ⟨c, rest, rfl⟩ := exists_cons_of_opensPlain isKey.opens
  obtain ⟨notBlank, notBreak, noComment⟩ := first_of_opensPlain isKey.opens
  refine ⟨c, rest ++ more, rfl, notBlank, notBreak, noComment, ?_⟩
  rintro - rfl
  exact absurd (isKey.letter '\ufeff' rfl) (by decide)

theorem Content.IsPlain.startsToken {content : Content} (plain : content.IsPlain) {column : Nat}
    (fits : content.startsCollection = true ∨ 0 < column) (more : List Char) :
    StartsToken column (content.chars ++ more) := by
  cases content with
  | text scalar => exact IsPlainLine.startsToken plain (fits.resolve_left Bool.false_ne_true) more
  | key word =>
    rw [Content.chars, List.append_assoc]
    exact IsKey.startsToken plain column _
  | pair word scalar =>
    rw [Content.chars, List.append_assoc]
    exact plain.1.startsToken column _
  | item rest => exact ⟨'-', _, rfl, rfl, rfl, by decide, fun _ => by decide⟩

/-- The lines have plain keys and scalars, and each starts with a key or a dash. -/
def ArePlain (lines : List Line) : Prop :=
  ∀ line ∈ lines, line.content.IsPlain ∧ line.content.startsCollection = true

theorem ArePlain.begins {lines : List Line} (plain : ArePlain lines) : Begins (bodyOf lines) := by
  intro c isFirst
  cases lines with
  | nil => cases isFirst
  | cons line more =>
    obtain ⟨plainLine, starts⟩ := plain line List.mem_cons_self
    obtain ⟨first, rest, same, notBlank, notBreak, -⟩ :=
      @Content.IsPlain.startsToken _ plainLine 0 (.inl starts) ('\n' :: textOf more)
    rw [bodyOf, same] at isFirst
    obtain rfl := Option.some.inj isFirst
    exact ⟨notBlank, notBreak⟩

theorem Content.IsPlain.allowed {content : Content} (plain : content.IsPlain) :
    ∀ c ∈ content.chars, isAllowed c = true := by
  have signs : isAllowed ':' = true ∧ isAllowed ' ' = true ∧ isAllowed '-' = true := by decide
  induction content with
  | text scalar => exact IsPlainLine.allowed plain
  | key word =>
    have isKey : IsKey word.toList := plain
    simpa [Content.chars, or_imp, forall_and, signs] using isKey.allowed
  | pair word scalar =>
    obtain ⟨isKey, plainText⟩ : IsKey word.toList ∧ IsPlainLine scalar.toList := plain
    simpa [Content.chars, or_imp, forall_and, signs] using ⟨isKey.allowed, plainText.allowed⟩
  | item rest ih => simpa [Content.chars, signs] using ih plain

theorem ArePlain.allowed {lines : List Line} (plain : ArePlain lines) :
    ∀ c ∈ textOf lines, isAllowed c = true := by
  have spaces : isAllowed ' ' = true ∧ isAllowed '\n' = true := by decide
  induction lines with
  | nil => exact fun c member => absurd member List.not_mem_nil
  | cons line more ih =>
    have first := (plain line List.mem_cons_self).1.allowed
    have others := ih fun other member => plain other (List.mem_cons_of_mem line member)
    simpa [textOf, or_imp, forall_and, spaces] using ⟨first, others⟩

/-! ### Their tokens -/

/-- The first column that is inside of the deepest of the open collections. -/
def leastOf (indents : List Nat) : Nat :=
  (indents.head?.map (· + 1)).getD 0

/-- The ends of the collections that are deeper than a column. -/
def closings (column : Nat) (indents : List Nat) : List Token :=
  (indents.takeWhile (column < ·)).map fun _ => .blockEnd

/-- The collections that are not deeper than a column. -/
def outer (column : Nat) (indents : List Nat) : List Nat :=
  indents.dropWhile (column < ·)

/-- The start of a collection at a column, unless one is open there. -/
def opening (column : Nat) (start : Token) (indents : List Nat) : List Token :=
  if column < leastOf indents then [] else [start]

/-- The open collections, with one at a column. -/
def opened (column : Nat) (indents : List Nat) : List Nat :=
  if column < leastOf indents then indents else column :: indents

namespace Content

/-- The tokens of what a line holds, from a column on. -/
def tokens (column : Nat) (indents : List Nat) : Content → List Token
  | text scalar => [.scalar .plain scalar]
  | key word => opening column .blockMappingStart indents ++ [.key, .scalar .plain word, .value]
  | pair word scalar =>
    opening column .blockMappingStart indents ++
      [.key, .scalar .plain word, .value, .scalar .plain scalar]
  | item rest =>
    opening column .blockSequenceStart indents ++
      .blockEntry :: tokens (column + 2) (opened column indents) rest

/-- The collections that are open after what a line holds. -/
def indents (column : Nat) (around : List Nat) : Content → List Nat
  | text _ => around
  | item rest => indents (column + 2) (opened column around) rest
  | _ => opened column around

end Content

/-- The tokens of lines, where collections are open at the given columns. -/
def tokensOf : List Nat → List Line → List Token
  | indents, [] => indents.map fun _ => .blockEnd
  | indents, ⟨indent, content⟩ :: more =>
    closings indent indents ++ content.tokens indent (outer indent indents) ++
      tokensOf (content.indents indent (outer indent indents)) more

theorem leastOf_outer (column : Nat) (indents : List Nat) :
    leastOf (outer column indents) ≤ column + 1 := by
  have stops := List.head?_dropWhile_not (column < ·) indents
  unfold leastOf outer
  cases first : (indents.dropWhile (column < ·)).head? with
  | none => simp
  | some indent =>
    rw [first] at stops
    simpa using stops

theorem leastOf_opened {column : Nat} {indents : List Nat}
    (shallow : leastOf indents ≤ column + 1) :
    leastOf (opened column indents) = column + 1 := by
  by_cases inside : column < leastOf indents
  · rw [opened, if_pos inside]
    omega
  · rw [opened, if_neg inside]
    rfl

theorem closings_of_le {column : Nat} {indents : List Nat}
    (shallow : leastOf indents ≤ column + 1) :
    closings column indents = [] ∧ outer column indents = indents := by
  cases indents with
  | nil => exact ⟨rfl, rfl⟩
  | cons indent more =>
    have notDeeper : ¬ column < indent := by
      simp [leastOf] at shallow
      omega
    simp [closings, outer, notDeeper]

theorem least_le_leastOf (content : Content) {column : Nat} {indents : List Nat}
    (shallow : leastOf indents ≤ column + 1) :
    max (leastOf indents) (content.least column) ≤ leastOf (content.indents column indents) := by
  induction content generalizing column indents with
  | text scalar => simp [Content.least, Content.indents]
  | key word => simp [Content.least, Content.indents, leastOf_opened shallow, shallow]
  | pair word scalar => simp [Content.least, Content.indents, leastOf_opened shallow, shallow]
  | item rest ih =>
    have deeper := leastOf_opened shallow
    have inside := @ih (column + 2) (opened column indents) (by omega)
    simp only [Content.least, Content.indents]
    omega

end ExtensionHost.Yaml
