/-
**Manifests that are laid out as names and references.**

* `Outline`, `Outline.lines`: an extension and the names that it refers to, line by line.
* `tokensOf_layout`: the tokens of such a layout are those of its tree.
* `Reads`: what a computation on a document gives, if it follows no alias.
* `Conforms`: what is asked of a reader of documents; the standard one has it.
* `reads_reference`: a reference is read as a dependency if its form is that of a word.
* `readBy?_textOf`: what a laid out manifest is read as.
* `listed_iff_read`, `listed_iff_word`: a name that is given to an extension, and listed by another
  one, over any such reader and over the standard one.
-/

import ExtensionHost.Manifest.Reader
import ExtensionHost.Proofs.Yaml.BlockNodes
import ExtensionHost.Proofs.Yaml.Tokens

namespace ExtensionHost

open Yaml

namespace Manifest

/-! ### Layouts -/

/-- An extension with the names that it refers to. -/
structure Outline where
  /-- The name of the extension. -/
  name : String
  /-- The names that it refers to. -/
  references : List String

namespace Outline

/-- The name and the references are plain scalars on one line. -/
structure IsPlain (outline : Outline) : Prop where
  name : IsPlainLine outline.name.toList
  references : ∀ reference ∈ outline.references, IsPlainLine reference.toList

/-- The lines with the references, if there are any. -/
def referenceLines : List String → List Line
  | [] => []
  | first :: others =>
    ⟨4, .key "depends_on"⟩ :: (first :: others).map fun name => ⟨6, .item (.text name)⟩

/-- The lines of an extension. -/
def lines (outline : Outline) : List Line :=
  ⟨2, .item (.pair "id" outline.name)⟩ :: referenceLines outline.references

end Outline

/-- The lines of a manifest with these extensions. -/
def layout (outlines : List Outline) : List Line :=
  ⟨0, .key "extensions"⟩ :: outlines.flatMap Outline.lines

/-- The text of a manifest with these extensions. -/
def textOf (outlines : List Outline) : String :=
  .ofList (Yaml.textOf (layout outlines))

example : textOf [⟨"core", []⟩, ⟨"chat", ["core"]⟩] =
    "extensions:\n  - id: core\n  - id: chat\n    depends_on:\n      - core\n" := by decide +kernel

theorem isKey_of_fields {word : String} (known : word ∈ ["extensions", "id", "depends_on"]) :
    IsKey word.toList := by
  have plain : ∀ word ∈ ["extensions", "id", "depends_on"], IsPlainLine word.toList ∧
      word.toList.all (!isBlank ·) = true ∧ word.toList.head?.all Char.isAlphanum = true ∧
      byteCount word.toList ≤ 1024 := by decide +kernel
  obtain ⟨isPlain, oneWord, letter, short⟩ := plain word known
  exact { isPlain with
    oneWord := by simpa using oneWord
    letter := by simpa [Option.all_eq_true] using letter
    short }

theorem mem_referenceLines {references : List String} {line : Line}
    (member : line ∈ Outline.referenceLines references) :
    line = ⟨4, .key "depends_on"⟩ ∨ ∃ name ∈ references, line = ⟨6, .item (.text name)⟩ := by
  cases references with
  | nil => cases member
  | cons first others =>
    rcases List.mem_cons.mp member with isKey | listed
    · exact .inl isKey
    · obtain ⟨name, isReference, rfl⟩ := List.mem_map.mp listed
      exact .inr ⟨name, isReference, rfl⟩

theorem arePlain_layout {outlines : List Outline} (plain : ∀ outline ∈ outlines, outline.IsPlain) :
    ArePlain (layout outlines) := by
  intro line member
  rcases List.mem_cons.mp member with rfl | inside
  · exact ⟨isKey_of_fields (by simp), rfl⟩
  · obtain ⟨outline, isOutline, member⟩ := List.mem_flatMap.mp inside
    rcases List.mem_cons.mp member with rfl | listed
    · exact ⟨⟨isKey_of_fields (by simp), (plain outline isOutline).name⟩, rfl⟩
    · obtain rfl | ⟨name, isReference, rfl⟩ := mem_referenceLines listed
      · exact ⟨isKey_of_fields (by simp), rfl⟩
      · exact ⟨(plain outline isOutline).references name isReference, rfl⟩

theorem isChain_lines (outline : Outline) : outline.lines.IsChain Line.EndsBefore := by
  obtain ⟨name, references⟩ := outline
  cases references with
  | nil => exact List.isChain_singleton _
  | cons first others =>
    refine List.isChain_cons_cons.mpr ⟨fun _ => by simp [Content.least], ?_⟩
    refine List.isChain_cons_cons.mpr ⟨fun ends => absurd ends Bool.false_ne_true, ?_⟩
    have listed : ((first :: others).map fun name =>
        (⟨6, .item (.text name)⟩ : Line)).Pairwise Line.EndsBefore :=
      List.pairwise_map.mpr (List.pairwise_of_forall fun _ _ _ => by simp [Content.least])
    exact listed.isChain

/-- The next extension starts where no scalar goes on. -/
theorem endsBefore_of_mem_lines {outline : Outline} {line next : Line}
    (member : line ∈ outline.lines) (outside : next.indent = 2) : line.EndsBefore next := by
  rcases List.mem_cons.mp member with rfl | listed
  · exact fun _ => by simp [outside, Content.least]
  · obtain rfl | ⟨name, -, rfl⟩ := mem_referenceLines listed
    · exact fun ends => absurd ends Bool.false_ne_true
    · exact fun _ => by simp [outside, Content.least]

theorem isChain_layout (outlines : List Outline) : (layout outlines).IsChain Line.EndsBefore := by
  have inside : (outlines.flatMap Outline.lines).IsChain Line.EndsBefore := by
    induction outlines with
    | nil => exact List.isChain_nil
    | cons outline others ih =>
      rw [List.flatMap_cons, List.isChain_append]
      refine ⟨isChain_lines outline, ih, fun line isLast next isFirst => ?_⟩
      refine endsBefore_of_mem_lines (List.mem_of_getLast? isLast) ?_
      cases others with
      | nil => cases isFirst
      | cons other more => exact congrArg Line.indent (Option.some.inj isFirst).symm
  cases outlines with
  | nil => exact List.isChain_singleton _
  | cons outline others =>
    exact List.isChain_cons_cons.mpr ⟨fun ends => absurd ends Bool.false_ne_true, inside⟩

/-! ### Trees -/

/-- A plain scalar as a node. -/
def wordNode (text : String) : Node :=
  .scalar {} .plain text

/-- The pair with the references, if there are any. -/
def referencePairs : List String → List (Node × Node)
  | [] => []
  | first :: others =>
    [(wordNode "depends_on", .sequence {} ((first :: others).map wordNode))]

/-- The node of an extension. -/
def Outline.node (outline : Outline) : Node :=
  .mapping {} ((wordNode "id", wordNode outline.name) :: referencePairs outline.references)

/-- The node of a manifest with these extensions. -/
def nodeOf (outlines : List Outline) : Node :=
  .mapping {} [(wordNode "extensions", .sequence {} (outlines.map Outline.node))]

theorem tokensOf_references (references : List String) (more : List Line) :
    tokensOf [6, 4, 2, 0] (references.map (fun name => ⟨6, .item (.text name)⟩) ++ more) =
      references.flatMap (fun name => [.blockEntry, .scalar .plain name]) ++
        tokensOf [6, 4, 2, 0] more := by
  induction references with
  | nil => rfl
  | cons name others ih =>
    rw [List.map_cons, List.cons_append, tokensOf, List.flatMap_cons, List.append_assoc]
    exact congrArg (Token.blockEntry :: Token.scalar .plain name :: ·) ih

theorem itemTokens_words (references : List String) :
    Node.itemTokens (references.map wordNode) =
      references.flatMap (fun name => [.blockEntry, .scalar .plain name]) ++ [.blockEnd] := by
  induction references with
  | nil => rfl
  | cons name others ih =>
    rw [List.map_cons, Node.itemTokens, ih]
    rfl

/-- The references belong to the mapping of their extension, which ends with the next extension. -/
theorem tokensOf_referenceLines (references : List String) {more : List Line} {after : List Token}
    (ends : ∀ inner : List Nat, (∀ indent ∈ inner, 2 < indent) →
      tokensOf (inner ++ [2, 0]) more = inner.map (fun _ => .blockEnd) ++ after) :
    tokensOf [4, 2, 0] (Outline.referenceLines references ++ more) =
      Node.pairTokens (referencePairs references) ++ after := by
  cases references with
  | nil => exact ends [4] (by simp)
  | cons first others =>
    have listed := tokensOf_references others more
    have closed := ends [6, 4] (by simp)
    simp only [List.cons_append, List.nil_append, List.map_cons, List.map_nil] at closed
    have items := itemTokens_words (first :: others)
    rw [referencePairs, Node.pairTokens, Node.blockTokens, items]
    rw [Outline.referenceLines, List.map_cons, List.cons_append, List.cons_append]
    simp only [tokensOf, closings, outer, Content.tokens, Content.indents, opening, opened, leastOf]
    simp [listed, closed, wordNode, Node.blockTokens, Node.pairTokens]

/-- The collections inside of the sequence of extensions end where the next one starts. -/
theorem tokensOf_outlines (outlines : List Outline) {inner : List Nat}
    (inside : ∀ indent ∈ inner, 2 < indent) :
    tokensOf (inner ++ [2, 0]) (outlines.flatMap Outline.lines) =
      inner.map (fun _ => .blockEnd) ++
        (Node.itemTokens (outlines.map Outline.node) ++ [.blockEnd]) := by
  induction outlines generalizing inner with
  | nil => simp [tokensOf, Node.itemTokens]
  | cons outline others ih =>
    have ends : closings 2 (inner ++ [2, 0]) = inner.map fun _ => .blockEnd := by
      rw [closings, List.takeWhile_append_of_pos (by simpa using inside)]
      simp
    have kept : outer 2 (inner ++ [2, 0]) = [2, 0] := by
      rw [outer, List.dropWhile_append_of_pos (by simpa using inside)]
      simp
    have references := tokensOf_referenceLines outline.references fun inner => @ih inner
    rw [List.flatMap_cons, Outline.lines, List.cons_append]
    simp only [tokensOf, ends, kept, List.append_assoc]
    refine congrArg (inner.map (fun _ => Token.blockEnd) ++ ·) ?_
    simp only [Content.tokens, Content.indents, opening, opened, leastOf]
    simp [references, Outline.node, Node.itemTokens, Node.blockTokens, Node.pairTokens, wordNode]

theorem tokensOf_layout {outlines : List Outline} (some_outline : outlines ≠ []) :
    tokensOf [] (layout outlines) = (nodeOf outlines).blockTokens := by
  have extensions := @tokensOf_outlines outlines [] (by simp)
  -- the first extension starts the sequence
  have started : tokensOf [0] (outlines.flatMap Outline.lines) =
      .blockSequenceStart :: tokensOf [2, 0] (outlines.flatMap Outline.lines) := by
    obtain ⟨first, others, rfl⟩ := List.exists_cons_of_ne_nil some_outline
    rfl
  rw [List.nil_append] at extensions
  show .blockMappingStart :: .key :: .scalar .plain "extensions" :: .value ::
    tokensOf [0] (outlines.flatMap Outline.lines) = _
  rw [started, extensions]
  simp [nodeOf, wordNode, Node.blockTokens, Node.pairTokens]

theorem areBare_words (references : List String) : Node.AreBare (references.map wordNode) := by
  induction references with
  | nil => trivial
  | cons first others ih => exact ⟨rfl, ih⟩

theorem isBare_nodeOf (outlines : List Outline) : (nodeOf outlines).IsBare := by
  have bare : Node.AreBare (outlines.map Outline.node) := by
    induction outlines with
    | nil => trivial
    | cons outline others ih =>
      refine ⟨⟨rfl, rfl, rfl, ?_⟩, ih⟩
      cases outline.references with
      | nil => trivial
      | cons first others => exact ⟨rfl, ⟨rfl, areBare_words (first :: others)⟩, trivial⟩
  exact ⟨rfl, rfl, ⟨rfl, bare⟩, trivial⟩

theorem document?_textOf {outlines : List Outline} (some_outline : outlines ≠ [])
    (plain : ∀ outline ∈ outlines, outline.IsPlain) :
    document? (textOf outlines) = some (some ⟨nodeOf outlines⟩) := by
  refine document?_of_tokens? (isBare_nodeOf outlines) ?_
  rw [textOf, String.toList_ofList,
    tokens?_textOf (arePlain_layout plain) (isChain_layout outlines), tokensOf_layout some_outline]

/-! ### Reading -/

section Reading

variable {α β : Type}

/-- What a computation on a document gives, whatever the document, if it follows no aliases. -/
def Reads (decoding : Decoding α) (result : Option α) : Prop :=
  ∀ (document : Document) (budget : Nat), decoding document budget = result.map (·, budget)

theorem Reads.pure (value : α) : Reads (Pure.pure value) (some value) :=
  fun _ _ => rfl

theorem Reads.bind {decoding : Decoding α} {result : Option α} {next : α → Decoding β}
    {outcome : α → Option β} (reads : Reads decoding result)
    (goesOn : ∀ value, result = some value → Reads (next value) (outcome value)) :
    Reads (decoding >>= next) (result.bind outcome) := by
  intro document budget
  show (decoding document budget).bind (fun read => next read.1 document read.2) = _
  rw [reads]
  cases result with
  | none => rfl
  | some value => exact goesOn value rfl document budget

/-- Items are read one by one. -/
theorem Reads.mapM {γ : Type} {written : γ → Node} {read : Node → Decoding α}
    {result : γ → Option α} (each : ∀ item, Reads (read (written item)) (result item))
    (items : List γ) :
    Reads ((items.map written).mapM read) (items.mapM result) := by
  induction items with
  | nil => exact Reads.pure []
  | cons item others ih =>
    rw [List.map_cons, List.mapM_cons, List.mapM_cons]
    refine Reads.bind (each item) fun value _ => Reads.bind ih fun values _ => ?_
    exact Reads.pure (value :: values)

end Reading

theorem mapM_ite {γ δ : Type} (passes : γ → Prop) [DecidablePred passes] (given : γ → δ)
    (items : List γ) :
    items.mapM (fun item => if passes item then some (given item) else none) =
      if ∀ item ∈ items, passes item then some (items.map given) else none := by
  induction items with
  | nil => simp
  | cons item others ih =>
    simp only [List.mapM_cons, ih, List.forall_mem_cons]
    by_cases first : passes item
    · by_cases more : ∀ other ∈ others, passes other
      · rw [if_pos first, if_pos more, if_pos ⟨first, more⟩]
        rfl
      · rw [if_pos first, if_neg more]
        exact (if_neg fun both => more both.2).symm
    · rw [if_neg first]
      exact (if_neg fun both => first both.1).symm

/-! ### Readers -/

/-- What is asked of a reader, where a meaning is given to the form of every plain scalar. -/
structure Conforms (reader : Reader) (meaning : String → Meaning) : Prop where
  /-- A layout is the text of its tree. -/
  layout : ∀ outlines : List Outline, outlines ≠ [] → (∀ outline ∈ outlines, outline.IsPlain) →
    reader.document? (textOf outlines) = some (some ⟨nodeOf outlines⟩)
  /-- Where a text is expected, every plain scalar is one. -/
  text : ∀ text, Reads (reader.text (wordNode text)) (some text)
  /-- Where only the form tells the kind, a plain scalar has the value of its meaning. -/
  value : ∀ text depth, Reads (reader.value depth (wordNode text)) ((meaning text).value? text)

theorem conforms_standard : Conforms .standard Meaning.ofText where
  layout _ some_outline plain := document?_textOf some_outline plain
  text _ _ _ := rfl
  value text depth document budget := by
    have scalar : Reader.standard.value depth (wordNode text) document budget =
        Decoding.ofOption ((Meaning.ofText text).value? text) document budget := by
      cases depth <;> rfl
    rw [scalar]
    cases (Meaning.ofText text).value? text <;> rfl

namespace Outline

/-- The entry of a manifest that an extension stands for: all references are required. -/
def entry (outline : Outline) : ExtensionEntry where
  id := ⟨outline.name⟩
  dependsOn := outline.references.map fun name => .bare ⟨name⟩

/-- All references have the form of words. -/
def HasWords (meaning : String → Meaning) (outline : Outline) : Prop :=
  ∀ reference ∈ outline.references, meaning reference = .word

instance (meaning : String → Meaning) : DecidablePred (HasWords meaning) :=
  fun outline =>
    inferInstanceAs (Decidable (∀ reference ∈ outline.references, meaning reference = .word))

end Outline

section Conforming

variable {reader : Reader} {meaning : String → Meaning}

theorem reads_name (conforms : Conforms reader meaning) (name : String) :
    Reads (ExtensionId.read reader (wordNode name)) (some ⟨name⟩) :=
  Reads.bind (conforms.text name) fun _ _ => Reads.pure _

/-- Of the values that a plain scalar can have, only a text is a dependency. -/
theorem reads_reference (conforms : Conforms reader meaning) (name : String) (depth : Nat) :
    Reads (DependencyEntry.read depth reader (wordNode name))
      (if meaning name = .word then some (.bare ⟨name⟩) else none) := by
  intro document budget
  show (reader.value _ (wordNode name) document budget).bind
    (fun read => DependencyEntry.ofValue read.1 document read.2) = _
  rw [conforms.value]
  cases meaning name <;> rfl

theorem reads_outline (conforms : Conforms reader meaning) (outline : Outline) :
    Reads (ExtensionEntry.read reader outline.node)
      (if outline.HasWords meaning then some outline.entry else none) := by
  obtain ⟨name, references⟩ := outline
  intro document budget
  cases references with
  | nil =>
    show (ExtensionId.read reader (wordNode name) document budget).bind _ = _
    rw [reads_name conforms]
    rfl
  | cons first others =>
    have listed :=
      Reads.mapM (reads_reference conforms · dependencyDepth) (first :: others)
    show (ExtensionId.read reader (wordNode name) document budget).bind _ = _
    rw [reads_name conforms]
    show ((((first :: others).map wordNode).mapM (DependencyEntry.read dependencyDepth reader))
      document budget).bind _ = _
    rw [listed, mapM_ite]
    by_cases words : Outline.HasWords meaning ⟨name, first :: others⟩
    · rw [if_pos words,
        if_pos (show ∀ reference ∈ first :: others, meaning reference = .word from words)]
      rfl
    · rw [if_neg words,
        if_neg (show ¬ ∀ reference ∈ first :: others, meaning reference = .word from words)]
      rfl

theorem reads_nodeOf (conforms : Conforms reader meaning) (outlines : List Outline) :
    Reads (Manifest.read reader (nodeOf outlines))
      (if ∀ outline ∈ outlines, outline.HasWords meaning then
        some { extensions := outlines.map Outline.entry } else none) := by
  have listed := Reads.mapM (reads_outline conforms) outlines
  intro document budget
  show (((outlines.map Outline.node).mapM (ExtensionEntry.read reader)) document budget).bind _ = _
  rw [listed, mapM_ite]
  split <;> rfl

/-- A laid out manifest is read as its extensions, unless a reference looks like no word. Names may
be any plain scalars. -/
theorem readBy?_textOf (conforms : Conforms reader meaning) {outlines : List Outline}
    (some_outline : outlines ≠ []) (plain : ∀ outline ∈ outlines, outline.IsPlain) :
    readBy? reader (textOf outlines) = if ∀ outline ∈ outlines, outline.HasWords meaning then
      some { extensions := outlines.map Outline.entry } else none := by
  rw [readBy?, readText?, conforms.layout outlines some_outline plain]
  show Option.map Prod.fst (Manifest.read reader (nodeOf outlines) ⟨nodeOf outlines⟩
    ((nodeOf outlines).weight * 100)) = _
  rw [reads_nodeOf conforms]
  split <;> rfl

/-! ### Names and references -/

/-- Over any reader that takes plain scalars as texts where texts are expected, and as what they mean
where only their form tells, every plain scalar is the name of an extension as it stands. As a
reference it is read only if it means a word, and then it is required. -/
theorem listed_iff_read (conforms : Conforms reader meaning) {name : String}
    (plain : IsPlainLine name.toList) {outlines : List Outline}
    (plainOutlines : ∀ outline ∈ outlines, outline.IsPlain) {other : Outline}
    (member : other ∈ outlines) (lists : name ∈ other.references)
    (words : ∀ outline ∈ outlines, ∀ reference ∈ outline.references,
      reference ≠ name → meaning reference = .word) :
    readBy? reader (textOf [⟨name, []⟩]) = some { extensions := [{ id := ⟨name⟩ }] } ∧
      readBy? reader (textOf outlines) = (if meaning name = .word then
        some { extensions := outlines.map Outline.entry } else none) ∧
      { target := ⟨name⟩ } ∈ other.entry.dependencies := by
  have nameless : Outline.IsPlain ⟨name, []⟩ := ⟨plain, fun _ member => by cases member⟩
  refine ⟨?_, ?_, ?_⟩
  · rw [readBy?_textOf conforms (List.cons_ne_nil _ _) (List.forall_mem_singleton.mpr nameless)]
    exact if_pos (List.forall_mem_singleton.mpr fun _ none => absurd none List.not_mem_nil)
  · rw [readBy?_textOf conforms (List.ne_nil_of_mem member) plainOutlines]
    refine if_congr ⟨fun all => all other member name lists, fun word => ?_⟩ rfl rfl
    intro outline isOutline reference isReference
    by_cases same : reference = name
    · exact same ▸ word
    · exact words outline isOutline reference isReference same
  · rw [ExtensionEntry.dependencies, Outline.entry, List.map_map]
    exact List.mem_map_of_mem lists

end Conforming

/-- The form of a text is that of a word. -/
def IsWord (text : String) : Prop :=
  Meaning.ofText text = .word

instance : DecidablePred IsWord :=
  fun text => inferInstanceAs (Decidable (Meaning.ofText text = .word))

/-- Any plain scalar is the name of an extension as it stands. As a reference it is read only if it
has the form of a word, and then it is required. -/
theorem listed_iff_word {name : String} (plain : IsPlainLine name.toList) {outlines : List Outline}
    (plainOutlines : ∀ outline ∈ outlines, outline.IsPlain) {other : Outline}
    (member : other ∈ outlines) (lists : name ∈ other.references)
    (words : ∀ outline ∈ outlines, ∀ reference ∈ outline.references,
      reference ≠ name → IsWord reference) :
    ofText? (textOf [⟨name, []⟩]) = some { extensions := [{ id := ⟨name⟩ }] } ∧
      ofText? (textOf outlines) = (if IsWord name then
        some { extensions := outlines.map Outline.entry } else none) ∧
      { target := ⟨name⟩ } ∈ other.entry.dependencies :=
  listed_iff_read conforms_standard plain plainOutlines member lists words

end Manifest

/-! ### A name with blanks and signs in it -/

namespace Wordy

open Manifest

/-- A name that is listed by another extension, and one that looks like a number and is not. -/
def outlines : List Outline :=
  [⟨"core:api v2#x -1", []⟩, ⟨"0x2A", []⟩, ⟨"chat", ["log", "core:api v2#x -1"]⟩]

theorem isPlain_outlines : ∀ outline ∈ outlines, outline.IsPlain := by
  have plain : ∀ outline ∈ outlines, IsPlainLine outline.name.toList ∧
      ∀ reference ∈ outline.references, IsPlainLine reference.toList := by decide +kernel
  exact fun outline member => ⟨(plain outline member).1, (plain outline member).2⟩

theorem listed_wordy :
    IsPlainLine "core:api v2#x -1".toList ∧ IsWord "core:api v2#x -1" ∧
      ofText? (textOf [⟨"core:api v2#x -1", []⟩]) =
        some { extensions := [{ id := ⟨"core:api v2#x -1"⟩ }] } ∧
      ofText? (textOf outlines) = some { extensions := outlines.map Outline.entry } ∧
      { target := ⟨"core:api v2#x -1"⟩ } ∈
        (Outline.entry ⟨"chat", ["log", "core:api v2#x -1"]⟩).dependencies := by
  have plain : IsPlainLine "core:api v2#x -1".toList := by decide +kernel
  have isWord : IsWord "core:api v2#x -1" := by decide +kernel
  have words : ∀ outline ∈ outlines, ∀ reference ∈ outline.references,
      reference ≠ "core:api v2#x -1" → IsWord reference := by decide +kernel
  obtain ⟨named, listed, isRequired⟩ := listed_iff_word plain isPlain_outlines
    (show (⟨"chat", ["log", "core:api v2#x -1"]⟩ : Outline) ∈ outlines by simp [outlines]) (by simp)
    words
  rw [if_pos isWord] at listed
  exact ⟨plain, isWord, named, listed, isRequired⟩

end Wordy

/-! ### A name that looks like a number -/

namespace Digits

open Manifest

/-- The name is read, and the reference to it is not. -/
theorem digits_named_not_listed :
    IsPlainLine "123".toList ∧
      ofText? "extensions:\n  - id: 123\n" = some { extensions := [{ id := ⟨"123"⟩ }] } ∧
      ofText? "extensions:\n  - id: 123\n  - id: other\n    depends_on:\n      - 123\n" = none := by
  decide +kernel

end Digits

end ExtensionHost
