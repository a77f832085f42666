/-
**Plain scalars on one line are read as they stand.**

* `IsPlainLine`: the texts that are plain scalars outside of brackets, without a line break.
* `IsPlainRun`: what of such a text may follow a blank in it.
* `readPlainWord_append`: a word is read up to where the next one may start.
* `readGap_blanks`, `readGap_newline`: what lies between words, and between lines.
* `readPlain_eq`: a plain scalar is read to the end of its line, and the place after it is the first
  character of the next line.
-/

import ExtensionHost.Yaml.Token.Scanner
import Mathlib.Data.List.Chain
import Mathlib.Data.List.TakeWhile

namespace ExtensionHost.Yaml

/-! ### The form of a plain scalar -/

/-- What may stand side by side in a plain scalar: no colon ends a word, and no number sign starts
one. -/
def Adjoins (first second : Char) : Prop :=
  ¬ (first = ':' ∧ isBlank second = true) ∧ ¬ (isBlank first = true ∧ second = '#')

instance (first second : Char) : Decidable (Adjoins first second) :=
  inferInstanceAs (Decidable (_ ∧ _))

/-- How a plain scalar starts: not with a sign, or with one of three that do not end a word
there. -/
def opensPlain : List Char → Bool
  | [] => false
  | c :: rest =>
    !(isBlank c || isBreak c || Scanner.isSign c) ||
      ((c = '-' || c = '?' || c = ':') && !endsWord rest)

/-- A plain scalar on one line, outside of brackets. -/
structure IsPlainLine (text : List Char) : Prop where
  allowed : ∀ c ∈ text, isAllowed c = true
  unbroken : ∀ c ∈ text, isBreak c = false
  opens : opensPlain text = true
  adjoins : text.IsChain Adjoins
  /-- It ends neither with a blank nor with a colon. -/
  closes : ∀ c ∈ text.getLast?, isBlank c = false ∧ c ≠ ':'

instance (text : List Char) : Decidable (IsPlainLine text) :=
  decidable_of_iff
    (text.all isAllowed = true ∧ text.all (!isBreak ·) = true ∧ opensPlain text = true ∧
      text.IsChain Adjoins ∧ (text.getLast?.all fun c => !isBlank c && c ≠ ':') = true)
    ⟨fun ⟨allowed, unbroken, opens, adjoins, closes⟩ =>
        { allowed := List.all_eq_true.mp allowed
          unbroken := by simpa using unbroken
          opens
          adjoins
          closes := by simpa [Option.all_eq_true] using closes },
      fun plain => ⟨List.all_eq_true.mpr plain.allowed, by simpa using plain.unbroken,
        plain.opens, plain.adjoins, by simpa [Option.all_eq_true] using plain.closes⟩⟩

/-- What of a plain scalar on one line may follow a blank in it. -/
structure IsPlainRun (text : List Char) : Prop where
  unbroken : ∀ c ∈ text, isBreak c = false
  opens : ∃ c rest, text = c :: rest ∧ isBlank c = false ∧ c ≠ '#'
  adjoins : text.IsChain Adjoins
  closes : ∀ c ∈ text.getLast?, isBlank c = false ∧ c ≠ ':'

/-- A word of a plain scalar. -/
structure IsPlainWord (word : List Char) : Prop where
  nonempty : word ≠ []
  noComment : word.head? ≠ some '#'
  inside : ∀ c ∈ word, isBlank c = false ∧ isBreak c = false
  last : ∀ c ∈ word.getLast?, c ≠ ':'

theorem opensPlain_append {text : List Char} (opens : opensPlain text = true) (more : List Char) :
    opensPlain (text ++ more) = true := by
  match text with
  | [] => cases opens
  | [c] =>
    simp only [opensPlain, endsWord, Bool.not_true, Bool.and_false, Bool.or_false] at opens
    simp [opensPlain, opens]
  | c :: d :: rest => exact opens

theorem exists_cons_of_opensPlain {text : List Char} (opens : opensPlain text = true) :
    ∃ c rest, text = c :: rest := by
  cases text with
  | nil => cases opens
  | cons c rest => exact ⟨c, rest, rfl⟩

theorem first_of_opensPlain {c : Char} {rest : List Char} (opens : opensPlain (c :: rest) = true) :
    isBlank c = false ∧ isBreak c = false ∧ c ≠ '#' := by
  by_cases sign : c = '-' ∨ c = '?' ∨ c = ':'
  · rcases sign with rfl | rfl | rfl <;> decide
  · have plainChar : (isBlank c || isBreak c || Scanner.isSign c) = false := by
      simpa [opensPlain, sign, not_or.mp sign] using opens
    simp only [Bool.or_eq_false_iff] at plainChar
    refine ⟨plainChar.1.1, plainChar.1.2, ?_⟩
    rintro rfl
    exact absurd plainChar.2 (by decide)

theorem IsPlainLine.run {text : List Char} (plain : IsPlainLine text) : IsPlainRun text where
  unbroken := plain.unbroken
  opens := by
    obtain ⟨c, rest, rfl⟩ := exists_cons_of_opensPlain plain.opens
    obtain ⟨notBlank, -, noComment⟩ := first_of_opensPlain plain.opens
    exact ⟨c, rest, rfl, notBlank, noComment⟩
  adjoins := plain.adjoins
  closes := plain.closes

/-- A blank or a break does not come next. -/
def Begins (text : List Char) : Prop :=
  ∀ c ∈ text.head?, isBlank c = false ∧ isBreak c = false

/-! ### Words -/

theorem endsWord_cons (c : Char) (rest : List Char) :
    endsWord (c :: rest) = (isBlank c || isBreak c) := rfl

/-- A word is read up to where nothing more of it can stand. -/
theorem readPlainWord_append {word rest : List Char}
    (inside : ∀ c ∈ word, isBlank c = false ∧ isBreak c = false)
    (last : ∀ c ∈ word.getLast?, c ≠ ':') (stops : readPlainWord false rest = some []) :
    readPlainWord false (word ++ rest) = some word := by
  induction word with
  | nil => exact stops
  | cons c others ih =>
    obtain ⟨notBlank, notBreak⟩ := inside c List.mem_cons_self
    have later : readPlainWord false (others ++ rest) = some others := by
      refine ih (fun d member => inside d (List.mem_cons_of_mem c member)) fun d isLast => ?_
      exact last d (List.getLast?_cons ▸ by simp_all)
    -- a colon is followed by another character of the word
    have noEnd : (c = ':' && endsWord (others ++ rest)) = false := by
      cases others with
      | nil => simp [last c rfl]
      | cons d more =>
        have next := inside d (List.mem_cons_of_mem c List.mem_cons_self)
        simp [endsWord_cons, next]
    rw [List.cons_append, readPlainWord, later]
    simp [notBlank, notBreak, noEnd]

/-! ### Gaps -/

section Gaps

variable {least line : Nat} {gap : Gap}

/-- Only the blanks before a line break count. -/
theorem Gap.foldl_addBlank (gap : Gap) (blanks : List Char) :
    blanks.foldl Gap.addBlank gap =
      if gap.broken then gap else { gap with blanks := gap.blanks ++ blanks } := by
  induction blanks generalizing gap with
  | nil => simp
  | cons c others ih =>
    rw [List.foldl_cons, ih]
    cases broken : gap.broken <;> simp [Gap.addBlank, broken]

/-- Where a word comes next, or the end, nothing belongs to the gap any more. -/
theorem readGap_of_begins {rest : List Char} (begins : Begins rest) (bound column offset : Nat) :
    readGap least bound gap ⟨rest, line, column, offset⟩ =
      some (gap, ⟨rest, line, column, offset⟩) := by
  cases bound with
  | zero => rfl
  | succ bound =>
    cases rest with
    | nil => rfl
    | cons c more =>
      obtain ⟨notBlank, notBreak⟩ := begins c rfl
      simp [readGap, notBlank, notBreak]

/-- Blanks are passed, if no tab indents a later line. -/
theorem readGap_blanks {blanks rest : List Char}
    (passes : ∀ c ∈ blanks, isBlank c = true ∧ (gap.broken = true → c ≠ '\t'))
    (begins : Begins rest) {bound : Nat} (enough : blanks.length ≤ bound) (column offset : Nat) :
    ∃ offset', readGap least bound gap ⟨blanks ++ rest, line, column, offset⟩ =
      some (blanks.foldl Gap.addBlank gap, ⟨rest, line, column + blanks.length, offset'⟩) := by
  induction blanks generalizing gap bound column offset with
  | nil => exact ⟨offset, readGap_of_begins begins bound column offset⟩
  | cons c others ih =>
    obtain ⟨bound, rfl⟩ : ∃ fewer, bound = fewer + 1 := ⟨bound - 1, by simp at enough; omega⟩
    obtain ⟨isBlank_c, noTab⟩ := passes c List.mem_cons_self
    have kept : (gap.addBlank c).broken = gap.broken := by
      unfold Gap.addBlank
      split <;> rfl
    obtain ⟨offset', read⟩ := @ih (gap.addBlank c)
      (fun d member => kept.symm ▸ passes d (List.mem_cons_of_mem c member)) bound
      (by simpa using enough) (column + 1) (offset + byteCount [c])
    have allowed : (decide (c = '\t') && gap.broken) = false := by
      cases broken : gap.broken with
      | false => simp
      | true => simp [noTab broken]
    refine ⟨offset', ?_⟩
    rw [List.length_cons, Nat.add_comm others.length 1, ← Nat.add_assoc, List.foldl_cons, ← read]
    simp [readGap, isBlank_c, allowed, Cursor.skip]

/-- The end of a line with the indentation of the next one. -/
theorem readGap_newline {rest : List Char} (begins : Begins rest) {indent bound : Nat}
    (enough : indent < bound) (column offset : Nat) :
    ∃ offset', readGap least bound {} ⟨'\n' :: (List.replicate indent ' ' ++ rest), line, column,
        offset⟩ =
      some ({ broken := true, first := ['\n'] }, ⟨rest, line + 1, indent, offset'⟩) := by
  obtain ⟨bound, rfl⟩ : ∃ more, bound = more + 1 := ⟨bound - 1, by omega⟩
  obtain ⟨offset', read⟩ := @readGap_blanks least (line + 1) { broken := true, first := ['\n'] }
    (List.replicate indent ' ') rest (by simp [isBlank]) begins bound (by simp; omega) 0
    (offset + 1)
  refine ⟨offset', ?_⟩
  rw [Gap.foldl_addBlank, if_pos rfl, List.length_replicate, Nat.zero_add] at read
  rw [← read]
  rfl

end Gaps

/-! ### Plain scalars -/

/-- What follows blanks in a plain scalar goes on like one. -/
theorem IsPlainRun.of_append {before blanks rest : List Char}
    (run : IsPlainRun (before ++ (blanks ++ rest))) (blank : ∀ c ∈ blanks, isBlank c = true)
    (some_blank : blanks ≠ []) (first : ∀ c ∈ rest.head?, isBlank c = false) : IsPlainRun rest := by
  obtain ⟨b, last⟩ : ∃ b, blanks.getLast? = some b :=
    ⟨_, List.getLast?_eq_some_getLast some_blank⟩
  have isBlank_b := blank b (List.mem_of_getLast? last)
  have chain := run.adjoins
  rw [← List.append_assoc, List.isChain_append] at chain
  obtain ⟨-, adjoins, joint⟩ := chain
  have lastBefore : (before ++ blanks).getLast? = some b := by simp [List.getLast?_append, last]
  -- the text does not end with a blank, so that something follows
  cases rest with
  | nil =>
    have closes := run.closes b (by rw [List.append_nil]; exact lastBefore)
    rw [isBlank_b] at closes
    cases closes.1
  | cons c more =>
    refine ⟨fun d member => run.unbroken d ?_, ⟨c, more, rfl, first c rfl, ?_⟩, adjoins,
      fun d isLast => run.closes d ?_⟩
    · exact List.mem_append_right _ (List.mem_append_right _ member)
    · exact fun sign => (joint b lastBefore c rfl).2 ⟨isBlank_b, sign⟩
    · rw [← List.append_assoc, List.getLast?_append]
      simp [Option.mem_def.mp isLast]

/-- A plain scalar starts with a word, which ends at the first blank. -/
theorem IsPlainRun.exists_word {text : List Char} (run : IsPlainRun text) :
    ∃ word gap, text = word ++ gap ∧ IsPlainWord word ∧ ∀ b ∈ gap.head?, isBlank b = true := by
  obtain ⟨c, more, start, notBlank, notSign⟩ := run.opens
  have parts : text = text.takeWhile (!isBlank ·) ++ text.dropWhile (!isBlank ·) :=
    List.takeWhile_append_dropWhile.symm
  have stops : ∀ b ∈ (text.dropWhile (!isBlank ·)).head?, isBlank b = true := by
    intro b isFirst
    have stopped := List.head?_dropWhile_not (!isBlank ·) text
    rw [Option.mem_def.mp isFirst] at stopped
    simpa using stopped
  have adjoins := run.adjoins
  rw [parts, List.isChain_append] at adjoins
  obtain ⟨-, -, joint⟩ := adjoins
  refine ⟨_, _, parts, ?_, stops⟩
  exact {
    nonempty := by simp [start, notBlank]
    noComment := by simpa [start, notBlank] using notSign
    inside := fun d member => ⟨by simpa using List.mem_takeWhile_imp member,
      run.unbroken d ((List.takeWhile_sublist _).subset member)⟩
    last := by
      intro d isLast
      cases gap : text.dropWhile (!isBlank ·) with
      | nil =>
        rw [gap, List.append_nil] at parts
        exact (run.closes d (by rw [parts]; exact isLast)).2
      | cons b others =>
        rintro rfl
        rw [gap] at joint stops
        exact (joint ':' isLast b rfl).1 ⟨rfl, stops b rfl⟩ }

/-- A plain scalar is a word, or a word and blanks before the rest of it. -/
theorem IsPlainRun.split {text : List Char} (run : IsPlainRun text) :
    ∃ word blanks rest, text = word ++ (blanks ++ rest) ∧ IsPlainWord word ∧
      (∀ c ∈ blanks, isBlank c = true) ∧
      (blanks = [] ∧ rest = [] ∨ blanks ≠ [] ∧ IsPlainRun rest) := by
  obtain ⟨word, gap, rfl, isWord, starts⟩ := run.exists_word
  have blank : ∀ c ∈ gap.takeWhile isBlank, isBlank c = true :=
    fun c member => List.mem_takeWhile_imp member
  have parts : gap.takeWhile isBlank ++ gap.dropWhile isBlank = gap :=
    List.takeWhile_append_dropWhile
  refine ⟨word, gap.takeWhile isBlank, gap.dropWhile isBlank, by rw [parts], isWord, blank, ?_⟩
  cases gap with
  | nil => exact .inl ⟨rfl, rfl⟩
  | cons b others =>
    have some_blank : (b :: others).takeWhile isBlank ≠ [] := by simp [starts b rfl]
    refine .inr ⟨some_blank, IsPlainRun.of_append (parts.symm ▸ run) blank some_blank ?_⟩
    intro d isFirst
    have stopped := List.head?_dropWhile_not isBlank (b :: others)
    rw [Option.mem_def.mp isFirst] at stopped
    exact stopped

section Words

variable {least line column offset bound : Nat} {gap : Gap} {word left : List Char}

/-- One word is read where neither a mark nor a comment starts. -/
structure ReadsWord (word left : List Char) (column : Nat) : Prop where
  noMark : column = 0 → isDocumentMark (word ++ left) = false
  nonempty : word ≠ []
  noComment : word.head? ≠ some '#'
  read : readPlainWord false (word ++ left) = some word

theorem IsPlainWord.reads (isWord : IsPlainWord word) (stops : readPlainWord false left = some [])
    (noMark : column = 0 → isDocumentMark (word ++ left) = false) : ReadsWord word left column :=
  ⟨noMark, isWord.nonempty, isWord.noComment,
    readPlainWord_append isWord.inside isWord.last stops⟩

theorem ReadsWord.unmarked (reads : ReadsWord word left column) :
    ((⟨word ++ left, line, column, offset⟩ : Cursor).atDocumentMark ||
      (⟨word ++ left, line, column, offset⟩ : Cursor).looksAt '#') = false := by
  obtain ⟨c, more, rfl⟩ := List.exists_cons_of_ne_nil reads.nonempty
  have noComment : c ≠ '#' := by simpa using reads.noComment
  have noMark := reads.noMark
  simp only [Cursor.atDocumentMark, Cursor.looksAt]
  by_cases start : column = 0
  · simpa [start, noComment] using noMark start
  · simp [start, noComment]

theorem skip_word (word left : List Char) (line column offset : Nat) :
    (⟨word ++ left, line, column, offset⟩ : Cursor).skip word.length =
      ⟨left, line, column + word.length, offset + byteCount word⟩ := by
  simp [Cursor.skip]

/-- A scalar of one word ends where neither a blank nor a break follows. -/
theorem readPlainWords_of_stop (reads : ReadsWord word left column)
    (goesOn : endsWord left = false) :
    readPlainWords false least (bound + 1) gap ⟨word ++ left, line, column, offset⟩ =
      some ⟨gap.fold ++ word, false,
        ⟨left, line, column + word.length, offset + byteCount word⟩⟩ := by
  rw [readPlainWords, reads.unmarked]
  simp only [Bool.false_eq_true, if_false, reads.read, Option.bind_eq_bind, Option.bind_some,
    skip_word]
  simp [goesOn, reads.nonempty]

/-- Otherwise the gap after the word tells whether the scalar goes on. -/
theorem readPlainWords_of_word (reads : ReadsWord word left column)
    (more : left ≠ []) (wordEnds : endsWord left = true) :
    readPlainWords false least (bound + 1) gap ⟨word ++ left, line, column, offset⟩ =
      (readGap least bound {} ⟨left, line, column + word.length, offset + byteCount word⟩).bind
        fun read =>
          if read.2.column < least then some ⟨gap.fold ++ word, read.1.broken, read.2⟩
          else (readPlainWords false least bound read.1 read.2).bind fun others =>
            some { others with text := gap.fold ++ word ++ others.text } := by
  have nonempty : word.isEmpty = false := by simpa using reads.nonempty
  have unfinished : (left.isEmpty || !endsWord left) = false := by simpa [wordEnds] using more
  rw [readPlainWords, reads.unmarked]
  simp only [Bool.false_eq_true, if_false, reads.read, Option.bind_eq_bind, Option.bind_some,
    skip_word, nonempty, unfinished, Bool.not_false, Bool.true_and, decide_eq_true_eq]
  rfl

end Words

/-- A plain scalar is read to the end of its line. The next line is indented less than the scalar
may be, so that it does not go on there. -/
theorem readPlainWords_eq {text rest : List Char} (run : IsPlainRun text) (begins : Begins rest)
    {least column indent bound : Nat} (inside : 0 < column) (deep : least ≤ column)
    (ends : indent < least) (enough : text.length + indent < bound) (gap : Gap)
    (line offset : Nat) :
    ∃ offset', readPlainWords false least bound gap
        ⟨text ++ '\n' :: (List.replicate indent ' ' ++ rest), line, column, offset⟩ =
      some ⟨gap.fold ++ text, true, ⟨rest, line + 1, indent, offset'⟩⟩ := by
  induction bound generalizing text column gap offset with
  | zero => omega
  | succ bound ih =>
    obtain ⟨word, blanks, others, rfl, isWord, blank, following⟩ := run.split
    have wordLength : 0 < word.length := List.length_pos_of_ne_nil isWord.nonempty
    simp only [List.length_append] at enough
    obtain ⟨rfl, rfl⟩ | ⟨some_blank, more⟩ := following
    · -- the last word: the line ends, and the next one does not go on
      have reads : ReadsWord word ('\n' :: (List.replicate indent ' ' ++ rest)) column :=
        isWord.reads rfl fun start => by omega
      obtain ⟨offset', gapRead⟩ := @readGap_newline least line rest begins indent bound (by omega)
        (column + word.length) (offset + byteCount word)
      refine ⟨offset', ?_⟩
      rw [List.append_nil, List.append_nil, readPlainWords_of_word reads (by simp) rfl, gapRead]
      simp [ends]
    · obtain ⟨b, blanks, rfl⟩ := List.exists_cons_of_ne_nil some_blank
      have isBlank_b := blank b List.mem_cons_self
      obtain ⟨c, behind, rfl, notBlank, -⟩ := more.opens
      have goesOn : Begins (c :: behind ++ '\n' :: (List.replicate indent ' ' ++ rest)) := by
        rintro d isFirst
        obtain rfl : c = d := by simpa using isFirst
        exact ⟨notBlank, more.unbroken c List.mem_cons_self⟩
      have reads : ReadsWord word
          ((b :: blanks) ++ (c :: behind ++ '\n' :: (List.replicate indent ' ' ++ rest))) column :=
        isWord.reads (by simp [readPlainWord, isBlank_b]) fun start => by omega
      obtain ⟨offset', gapRead⟩ := @readGap_blanks least line {} (b :: blanks) _
        (fun c member => ⟨blank c member, fun broken => absurd broken Bool.false_ne_true⟩) goesOn
        bound (by omega) (column + word.length) (offset + byteCount word)
      rw [Gap.foldl_addBlank, if_neg Bool.false_ne_true, List.nil_append] at gapRead
      obtain ⟨offset'', read⟩ := ih more
        (show 0 < column + word.length + (b :: blanks).length by omega) (by omega) (by omega)
        { blanks := b :: blanks } offset'
      refine ⟨offset'', ?_⟩
      rw [List.append_assoc, List.append_assoc, readPlainWords_of_word reads (by simp) (by
        simp [endsWord_cons, isBlank_b]), gapRead, Option.bind_some]
      rw [if_neg (by simp only; omega), read]
      simp [Gap.fold]

theorem readPlain_eq {text rest : List Char} (plain : IsPlainLine text) (begins : Begins rest)
    {least column indent : Nat} (inside : 0 < column) (deep : least ≤ column)
    (ends : indent < least) (line offset : Nat) :
    ∃ offset', readPlain false least
        ⟨text ++ '\n' :: (List.replicate indent ' ' ++ rest), line, column, offset⟩ =
      some ⟨text, true, ⟨rest, line + 1, indent, offset'⟩⟩ :=
  readPlainWords_eq plain.run begins inside deep ends (by simp; omega) {} line offset

end ExtensionHost.Yaml
