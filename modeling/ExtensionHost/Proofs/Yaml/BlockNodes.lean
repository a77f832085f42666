/-
**Nodes are read back from their tokens.**

* `Node.IsBare`: the nodes without aliases, anchors and tags.
* `Node.blockTokens`: the tokens of such a node, its collections indented.
* `node_blockTokens`: from these the parser makes the node again.
* `document_blockTokens`: so does the parser of whole documents.
-/

import ExtensionHost.Yaml.Node.Parser

namespace ExtensionHost.Yaml

namespace Node

mutual

/-- A node without aliases, anchors and tags. -/
def IsBare : Node → Prop
  | reference _ => False
  | scalar properties _ _ => properties = {}
  | sequence properties items => properties = {} ∧ AreBare items
  | mapping properties pairs => properties = {} ∧ AreBarePairs pairs

/-- Items without aliases, anchors and tags. -/
def AreBare : List Node → Prop
  | [] => True
  | item :: rest => item.IsBare ∧ AreBare rest

/-- Pairs without aliases, anchors and tags. -/
def AreBarePairs : List (Node × Node) → Prop
  | [] => True
  | (key, value) :: rest => key.IsBare ∧ value.IsBare ∧ AreBarePairs rest

end

mutual

/-- The tokens of a node whose collections are indented. -/
def blockTokens : Node → List Token
  | reference _ => []
  | scalar _ style text => [.scalar style text]
  | sequence _ items => .blockSequenceStart :: itemTokens items
  | mapping _ pairs => .blockMappingStart :: pairTokens pairs

/-- The tokens of the items of an indented sequence, and of its end. -/
def itemTokens : List Node → List Token
  | [] => [.blockEnd]
  | item :: rest => .blockEntry :: (item.blockTokens ++ itemTokens rest)

/-- The tokens of the pairs of an indented mapping, and of its end. -/
def pairTokens : List (Node × Node) → List Token
  | [] => [.blockEnd]
  | (key, value) :: rest =>
    .key :: (key.blockTokens ++ .value :: (value.blockTokens ++ pairTokens rest))

end

/-- A token with which a bare node starts. -/
def startsBare : Token → Bool
  | .scalar _ _ | .blockSequenceStart | .blockMappingStart => true
  | _ => false

theorem IsBare.starts {node : Node} (bare : node.IsBare) :
    ∃ token rest, node.blockTokens = token :: rest ∧ startsBare token = true := by
  cases node with
  | reference anchor => cases bare
  | scalar properties style text => exact ⟨_, _, rfl, rfl⟩
  | sequence properties items => exact ⟨_, _, rfl, rfl⟩
  | mapping properties pairs => exact ⟨_, _, rfl, rfl⟩

end Node

namespace Building

open Node

section Steps

variable {rest : List Token} {handles : List (String × Tag)} {anchors : Table String Nat}
  {bound : Nat} {indentless : Bool} {progress : Progress}

theorem node_scalar {style : Style} {text : String} {block : Bool} :
    node (bound + 1) block indentless ⟨.scalar style text :: rest, handles, anchors⟩ =
      some (.scalar {} style text, ⟨rest, handles, anchors⟩) := rfl

theorem node_sequence :
    node (bound + 1) true indentless ⟨.blockSequenceStart :: rest, handles, anchors⟩ =
      (blockItems bound ⟨rest, handles, anchors⟩).bind fun read =>
        some (.sequence {} read.1, read.2) := by
  cases indentless <;> rfl

theorem node_mapping :
    node (bound + 1) true indentless ⟨.blockMappingStart :: rest, handles, anchors⟩ =
      (blockPairs bound ⟨rest, handles, anchors⟩).bind fun read =>
        some (.mapping {} read.1, read.2) := by
  cases indentless <;> rfl

theorem blockItems_end :
    blockItems (bound + 1) ⟨.blockEnd :: rest, handles, anchors⟩ =
      some ([], ⟨rest, handles, anchors⟩) := rfl

theorem blockItems_entry {first : Token} (starts : startsBare first = true) :
    blockItems (bound + 1) ⟨.blockEntry :: first :: rest, handles, anchors⟩ =
      (node bound true false ⟨first :: rest, handles, anchors⟩).bind fun item =>
        (blockItems bound item.2).bind fun items => some (item.1 :: items.1, items.2) := by
  cases first <;> first | rfl | cases starts

theorem blockPairs_end :
    blockPairs (bound + 1) ⟨.blockEnd :: rest, handles, anchors⟩ =
      some ([], ⟨rest, handles, anchors⟩) := rfl

theorem blockPairs_key {first : Token} (starts : startsBare first = true) :
    blockPairs (bound + 1) ⟨.key :: first :: rest, handles, anchors⟩ =
      (node bound true true ⟨first :: rest, handles, anchors⟩).bind fun key =>
        (blockValue bound key.2).bind fun value =>
          (blockPairs bound value.2).bind fun pairs =>
            some ((key.1, value.1) :: pairs.1, pairs.2) := by
  cases first <;> first | rfl | cases starts

theorem blockValue_value {first : Token} (starts : startsBare first = true) :
    blockValue (bound + 1) ⟨.value :: first :: rest, handles, anchors⟩ =
      node bound true true ⟨first :: rest, handles, anchors⟩ := by
  cases first <;> first | rfl | cases starts

end Steps

variable {handles : List (String × Tag)} {anchors : Table String Nat}

-- every token takes at most one of the steps, so that the tokens bound them
mutual

/-- A bare node is read back from its tokens. -/
theorem node_blockTokens : ∀ (written : Node), written.IsBare → ∀ (rest : List Token) (bound : Nat)
    (indentless : Bool), written.blockTokens.length ≤ bound →
    node bound true indentless ⟨written.blockTokens ++ rest, handles, anchors⟩ =
      some (written, ⟨rest, handles, anchors⟩)
  | .reference _, bare, _, _, _, _ => by cases bare
  | .scalar _ style text, bare, rest, bound + 1, indentless, _ => by
    rw [show _ = _ from bare]
    exact node_scalar
  | .sequence _ items, bare, rest, bound + 1, indentless, enough => by
    obtain ⟨rfl, bareItems⟩ := bare
    have read := blockItems_itemTokens items bareItems rest bound (Nat.le_of_succ_le_succ enough)
    rw [blockTokens, List.cons_append, node_sequence, read]
    rfl
  | .mapping _ pairs, bare, rest, bound + 1, indentless, enough => by
    obtain ⟨rfl, barePairs⟩ := bare
    have read := blockPairs_pairTokens pairs barePairs rest bound (Nat.le_of_succ_le_succ enough)
    rw [blockTokens, List.cons_append, node_mapping, read]
    rfl

theorem blockItems_itemTokens : ∀ (items : List Node), AreBare items → ∀ (rest : List Token)
    (bound : Nat), (itemTokens items).length ≤ bound →
    blockItems bound ⟨itemTokens items ++ rest, handles, anchors⟩ =
      some (items, ⟨rest, handles, anchors⟩)
  | [], _, rest, bound + 1, _ => blockItems_end
  | item :: others, bare, rest, bound + 1, enough => by
    simp only [itemTokens, List.length_cons, List.length_append] at enough
    have first := node_blockTokens item bare.1 (itemTokens others ++ rest) bound false (by omega)
    have more := blockItems_itemTokens others bare.2 rest bound (by omega)
    obtain ⟨token, tokens, same, starts⟩ := bare.1.starts
    rw [itemTokens, List.cons_append, List.append_assoc]
    rw [same, List.cons_append] at first ⊢
    rw [blockItems_entry starts, first, Option.bind_some, more]
    rfl

theorem blockPairs_pairTokens : ∀ (pairs : List (Node × Node)), AreBarePairs pairs →
    ∀ (rest : List Token) (bound : Nat), (pairTokens pairs).length ≤ bound →
    blockPairs bound ⟨pairTokens pairs ++ rest, handles, anchors⟩ =
      some (pairs, ⟨rest, handles, anchors⟩)
  | [], _, rest, bound + 1, _ => blockPairs_end
  | (key, value) :: others, bare, rest, bound + 1, enough => by
    simp only [pairTokens, List.length_cons, List.length_append] at enough
    obtain ⟨bareKey, bareValue, bareOthers⟩ := bare
    obtain ⟨bound, rfl⟩ : ∃ fewer, bound = fewer + 1 := ⟨bound - 1, by omega⟩
    have first := node_blockTokens key bareKey
      (.value :: (value.blockTokens ++ (pairTokens others ++ rest))) (bound + 1) true (by omega)
    have second :=
      node_blockTokens value bareValue (pairTokens others ++ rest) bound true (by omega)
    have more := blockPairs_pairTokens others bareOthers rest (bound + 1) (by omega)
    obtain ⟨token, tokens, same, starts⟩ := bareKey.starts
    obtain ⟨token', tokens', same', starts'⟩ := bareValue.starts
    rw [pairTokens, List.cons_append, List.append_assoc, List.cons_append, List.append_assoc]
    rw [same', List.cons_append] at first second ⊢
    rw [same, List.cons_append] at first ⊢
    rw [blockPairs_key starts, first, Option.bind_some, blockValue_value starts', second,
      Option.bind_some, more]
    rfl

end

theorem root_of_starts {first : Token} {tokens : List Token} (starts : startsBare first = true) :
    root ⟨first :: tokens, handles, anchors⟩ =
      node (2 * (tokens.length + 1) + 2) true false ⟨first :: tokens, handles, anchors⟩ := by
  cases first <;> first | rfl | cases starts

theorem document_blockTokens {written : Node} (bare : written.IsBare) :
    document ⟨written.blockTokens, handles, anchors⟩ =
      some (⟨written⟩, ⟨[], handles, anchors⟩) := by
  obtain ⟨first, tokens, same, starts⟩ := bare.starts
  have read : root ⟨written.blockTokens, handles, anchors⟩ =
      some (written, ⟨[], handles, anchors⟩) := by
    have whole := @node_blockTokens handles anchors written bare []
      (2 * (tokens.length + 1) + 2) false (by rw [same, List.length_cons]; omega)
    rw [List.append_nil] at whole
    rw [same] at whole ⊢
    rw [root_of_starts starts, whole]
  show (root ⟨written.blockTokens, handles, anchors⟩).bind _ = _
  rw [read]
  rfl

end Building

/-- A text with the tokens of a bare node is the document of that node. -/
theorem document?_of_tokens? {text : String} {written : Node} (bare : written.IsBare)
    (read : tokens? text.toList = some written.blockTokens) :
    document? text = some (some ⟨written⟩) := by
  obtain ⟨first, tokens, same, -⟩ := bare.starts
  have some_tokens : written.blockTokens.isEmpty = false := by rw [same]; rfl
  have built : Building.document.run { tokens := written.blockTokens } =
      some (⟨written⟩, { tokens := [] }) := Building.document_blockTokens bare
  rw [document?, read, Option.bind_eq_bind, Option.bind_some, some_tokens, built]
  rfl

end ExtensionHost.Yaml
