/-
**The tokens of a text of indented lines.**

* `leads_content`: what one line adds, by induction on what it holds.
* `completes_of_atLine`: what all lines add, by induction on the lines.
* `tokens?_textOf`: the tokens of a text are those of its lines.
-/

import ExtensionHost.Proofs.Yaml.Scanning

namespace ExtensionHost.Yaml

namespace Scanner

/-! ### Whole lines -/

/-- Where the next of some lines starts, or its indentation. -/
def AtLine (scanner : Scanner) (indents : List Nat) (tokens : List Token) (lines : List Line) :
    Prop :=
  ∃ key column blanks, Idle key ∧ column + blanks = indentOf lines ∧
    scanner.Stands (List.replicate blanks ' ' ++ bodyOf lines) column true indents tokens key

theorem leads_content {content : Content} (plain : content.IsPlain) {more : List Line}
    (begins : Begins (bodyOf more)) {scanner : Scanner} {column : Nat} {indents : List Nat}
    {tokens : List Token} {key : Option KeyStart}
    (stands : scanner.approach.Stands (content.chars ++ '\n' :: textOf more) column true indents
      tokens key)
    (idle : Idle key) (shallow : leastOf indents ≤ column + 1)
    (fits : content.startsCollection = true ∨ leastOf indents ≤ column ∧ 0 < column)
    (ends : content.endsWithScalar = true →
      indentOf more < leastOf (content.indents column indents)) :
    ∃ next : Scanner, scanner.Leads next ∧
      next.AtLine (content.indents column indents) (tokens ++ content.tokens column indents)
        more := by
  induction content generalizing scanner column indents tokens key with
  | text scalar =>
    obtain ⟨deep, inside⟩ := fits.resolve_left (by simp [Content.startsCollection])
    rw [textOf_eq] at stands
    obtain ⟨next, key', leads, stillIdle, reached⟩ :=
      leads_text plain stands idle begins inside deep (ends rfl)
    rw [String.ofList_toList] at reached
    exact ⟨next, leads, key', indentOf more, 0, stillIdle, rfl, reached⟩
  | key word =>
    have word' : scanner.approach.Stands (word.toList ++ ':' :: '\n' :: textOf more) column true
        indents tokens key := by simpa [Content.chars] using stands
    obtain ⟨next, leads, reached⟩ := leads_key plain rfl word' idle shallow
    obtain ⟨start, same, atStart⟩ := reached.newline
    have shorter : start.rest.length ≤ next.rest.length := by
      rw [Scanner.rest, Scanner.rest, atStart.rest, reached.rest, List.length_cons]
      omega
    rw [String.ofList_toList, textOf_eq] at atStart
    refine ⟨start, leads.trans (leads_of_approach same shorter), none, 0, indentOf more, idle_none,
      Nat.zero_add _, ?_⟩
    simpa [Content.tokens, Content.indents] using atStart
  | pair word scalar =>
    have word' : scanner.approach.Stands (word.toList ++ ':' :: ' ' :: (scalar.toList ++ '\n' ::
        textOf more)) column true indents tokens key := by simpa [Content.chars] using stands
    obtain ⟨next, leads, reached⟩ := leads_key plain.1 rfl word' idle shallow
    have deeper := leastOf_opened shallow
    have value := Stands.approach 1 (plain.2.startsToken (by omega) _) reached
    rw [(closings_of_le (by omega)).1, (closings_of_le (by omega)).2, List.append_nil,
      textOf_eq] at value
    obtain ⟨last, key', onward, stillIdle, atEnd⟩ := leads_text plain.2 value idle_none begins
      (by omega) (by omega) (ends rfl)
    refine ⟨last, leads.trans onward, key', indentOf more, 0, stillIdle, rfl, ?_⟩
    simpa [Content.tokens, Content.indents] using atEnd
  | item rest ih =>
    have inside : rest.IsPlain := plain
    have dash : scanner.approach.Stands ('-' :: ' ' :: (rest.chars ++ '\n' :: textOf more)) column
        true indents tokens key := stands
    obtain ⟨next, leads, reached⟩ :=
      leads_dash (inside.startsToken (.inr (by omega)) _) dash idle shallow
    have deeper := leastOf_opened shallow
    obtain ⟨last, onward, atLine⟩ := ih inside reached idle_none (by omega)
      (.inr ⟨by omega, by omega⟩) ends
    refine ⟨last, leads.trans onward, ?_⟩
    simpa [Content.tokens, Content.indents] using atLine

/-! ### All lines -/

theorem completes_of_atLine {lines : List Line} (plain : ArePlain lines)
    (apart : lines.IsChain Line.EndsBefore) {scanner : Scanner} {indents : List Nat}
    {tokens : List Token} (atLine : scanner.AtLine indents tokens lines) :
    scanner.Completes (tokens ++ tokensOf indents lines) := by
  induction lines generalizing scanner indents tokens with
  | nil =>
    obtain ⟨key, column, blanks, idle, sum, stands⟩ := atLine
    obtain ⟨rfl, rfl⟩ : column = 0 ∧ blanks = 0 := by simpa [indentOf] using sum
    have ended := stands.approach_end
    intro bound enough
    cases bound with
    | zero => cases enough
    | succ bound =>
      have last : scanner.next? = some (none, tokens ++ tokensOf indents []) := by
        rw [next?, Scanner.rest, ended.rest]
        simp [ended.dropKey idle, ended.emitted, tokensOf]
      rw [run, last]
      rfl
  | cons line more ih =>
    obtain ⟨key, column, blanks, idle, sum, stands⟩ := atLine
    obtain ⟨plainLine, starts⟩ := plain line List.mem_cons_self
    have morePlain : ArePlain more :=
      fun other member => plain other (List.mem_cons_of_mem line member)
    have sum' : column + blanks = line.indent := sum
    have reached := stands.approach blanks (plainLine.startsToken (.inl starts) _)
    rw [sum'] at reached
    have ends : line.content.endsWithScalar = true → indentOf more <
        leastOf (line.content.indents line.indent (outer line.indent indents)) := by
      intro withScalar
      have inside := least_le_leastOf line.content (leastOf_outer line.indent indents)
      cases more with
      | nil =>
        have positive := line.content.least_pos starts line.indent
        rw [indentOf]
        omega
      | cons next others =>
        have before := (List.isChain_cons_cons.mp apart).1 withScalar
        rw [indentOf]
        omega
    obtain ⟨next, leads, atNext⟩ := leads_content plainLine morePlain.begins reached idle
      (leastOf_outer line.indent indents) (.inl starts) ends
    have completes := leads _ (ih morePlain apart.tail atNext)
    simpa [tokensOf] using completes

end Scanner

/-- The tokens of a text of indented lines. -/
theorem tokens?_textOf {lines : List Line} (plain : ArePlain lines)
    (apart : lines.IsChain Line.EndsBefore) :
    tokens? (textOf lines) = some (tokensOf [] lines) := by
  have allowed : (textOf lines).all isAllowed = true := List.all_eq_true.mpr plain.allowed
  have atLine : Scanner.AtLine { cursor := { rest := textOf lines } } [] [] lines :=
    ⟨none, 0, indentOf lines, Scanner.idle_none, Nat.zero_add _,
      ⟨textOf_eq lines, rfl, rfl, rfl, rfl, rfl, rfl⟩⟩
  rw [tokens?, if_pos allowed]
  exact Scanner.completes_of_atLine plain apart atLine _ (Nat.lt_succ_self _)

end ExtensionHost.Yaml
