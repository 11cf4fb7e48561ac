import SchemaGrammar.Yaml.Node
import SchemaGrammar.Yaml.ScalarValue

/-!
# Reading YAML text

The document that a text denotes. Keys are the texts of scalars, without interpretation. An alias
stands for a node that an anchor marks: anchors are numbered as they are met, each by the number of
different names before it, an alias takes the number that its name has where it stands, and it
stands for the last node of the whole text that carries its number.

Collections nest at most `maxDepth` deep, aliases followed, and that bound is what the recursion
descends on; the number of aliases that are followed is limited by the size of the text.
-/

namespace SchemaGrammar.Yaml

/-- How deep collections may nest. -/
def maxDepth : Nat := 128

/-- How many aliases are followed at most, for each mark and scalar of the text. -/
def aliasesPerPart : Nat := 100

/-! ## Aliases -/

/-- A node with numbers in place of names. -/
inductive LinkedNode where
  | alias (number : Nat)
  | scalar (anchor : Option Nat) (tag : Option TagText) (plain : Bool) (text : List Char)
  | sequence (anchor : Option Nat) (tag : Option TagText) (items : List LinkedNode)
  | mapping (anchor : Option Nat) (tag : Option TagText)
      (entries : List (LinkedNode × LinkedNode))

/-- The names that anchors have used so far, with the number of the last one. -/
abbrev AnchorNames := List (String × Nat)

/-- The number of a new anchor, and the names with it. -/
def bindAnchor (names : AnchorNames) : Option (List Char) → Option Nat × AnchorNames
  | none => (none, names)
  | some name =>
    (some names.length, Entries.insert (String.ofList name) names.length names)

mutual
/-- Numbers the anchors and aliases of a node; none if an alias has no anchor before it. -/
def link (names : AnchorNames) : Node → Option (LinkedNode × AnchorNames)
  | .alias name => (names.lookup (String.ofList name)).map fun n => (.alias n, names)
  | .scalar properties plain text =>
    let (anchor, names) := bindAnchor names properties.anchor
    some (.scalar anchor properties.tag plain text, names)
  | .sequence properties items =>
    let (anchor, names) := bindAnchor names properties.anchor
    (linkItems names items).map fun (items, names) =>
      (.sequence anchor properties.tag items, names)
  | .mapping properties entries =>
    let (anchor, names) := bindAnchor names properties.anchor
    (linkEntries names entries).map fun (entries, names) =>
      (.mapping anchor properties.tag entries, names)

/-- The same for the items of a sequence in order. -/
def linkItems (names : AnchorNames) : List Node → Option (List LinkedNode × AnchorNames)
  | [] => some ([], names)
  | item :: items =>
    match link names item with
    | none => none
    | some (item, names) =>
      (linkItems names items).map fun (items, names) => (item :: items, names)

/-- The same for the entries of a mapping in order, the key of each before its value. -/
def linkEntries (names : AnchorNames) :
    List (Node × Node) → Option (List (LinkedNode × LinkedNode) × AnchorNames)
  | [] => some ([], names)
  | (key, value) :: entries =>
    match link names key with
    | none => none
    | some (key, names) =>
      match link names value with
      | none => none
      | some (value, names) =>
        (linkEntries names entries).map fun (entries, names) => ((key, value) :: entries, names)
end

/-- A node with its number, if it has one. -/
def numbered (anchor : Option Nat) (node : LinkedNode) : List (Nat × LinkedNode) :=
  match anchor with
  | some n => [(n, node)]
  | none => []

mutual
/-- The nodes that carry a number, in the order in which they begin. -/
def LinkedNode.definitions : LinkedNode → List (Nat × LinkedNode)
  | .alias _ => []
  | .scalar anchor tag plain text => numbered anchor (.scalar anchor tag plain text)
  | .sequence anchor tag items =>
    numbered anchor (.sequence anchor tag items) ++ itemDefinitions items
  | .mapping anchor tag entries =>
    numbered anchor (.mapping anchor tag entries) ++ entryDefinitions entries

/-- Those inside the items of a sequence. -/
def itemDefinitions : List LinkedNode → List (Nat × LinkedNode)
  | [] => []
  | item :: items => item.definitions ++ itemDefinitions items

/-- Those inside the entries of a mapping. -/
def entryDefinitions : List (LinkedNode × LinkedNode) → List (Nat × LinkedNode)
  | [] => []
  | (key, value) :: entries => key.definitions ++ value.definitions ++ entryDefinitions entries
end

mutual
/-- The number of marks and scalars that make up a node. -/
def LinkedNode.size : LinkedNode → Nat
  | .alias _ => 1
  | .scalar _ _ _ _ => 1
  | .sequence _ _ items => 2 + itemsSize items
  | .mapping _ _ entries => 2 + entriesSize entries

/-- The size of the items of a sequence. -/
def itemsSize : List LinkedNode → Nat
  | [] => 0
  | item :: items => item.size + itemsSize items

/-- The size of the entries of a mapping. -/
def entriesSize : List (LinkedNode × LinkedNode) → Nat
  | [] => 0
  | (key, value) :: entries => key.size + value.size + entriesSize entries
end

/-! ## Documents -/

/-- What aliases stand for: numbered nodes, the last of a number first. -/
abbrev Definitions := List (Nat × LinkedNode)

/-- A node, with an alias replaced by what it stands for. The state is how many more aliases may be
followed. -/
def follow (definitions : Definitions) : LinkedNode → StateT Nat Option LinkedNode
  | .alias number => do
    let left ← get
    match left with
    | 0 => failure
    | left + 1 =>
      set left
      (definitions.lookup number : Option LinkedNode)
  | node => pure node

/-- Whether a collection's tag is admitted: any that is not local. -/
def admitsTag (tag : Option TagText) : Bool := !(tag.map isLocalTag).getD false

/-- The text of a key, which has to be a scalar. -/
def keyText (definitions : Definitions) (node : LinkedNode) : StateT Nat Option String := do
  match ← follow definitions node with
  | .scalar _ _ _ text => pure (String.ofList text)
  | _ => failure

/-- The document of a node whose collections nest at most as deep as given. -/
def expand (definitions : Definitions) (depth : Nat) (node : LinkedNode) :
    StateT Nat Option DistinctDocument := do
  match ← follow definitions node with
  | .alias _ => failure
  | .scalar _ tag plain text => (scalarValue? tag plain text : Option DistinctDocument)
  | .sequence _ tag items =>
    match depth with
    | 0 => failure
    | depth + 1 =>
      if admitsTag tag then return .list (← items.mapM (expand definitions depth)) else failure
  | .mapping _ tag entries =>
    match depth with
    | 0 => failure
    | depth + 1 =>
      if admitsTag tag then
        let members ← entries.mapM fun (key, value) => do
          let name ← keyText definitions key
          return (name, ← expand definitions depth value)
        return .object members
      else failure

/-- The document of a node. -/
def documentOf? (node : Node) : Option DistinctDocument := do
  let (linked, _) ← link [] node
  let (document, _) ← (expand linked.definitions.reverse maxDepth linked).run
    (aliasesPerPart * linked.size)
  some document

/-- The document that a text denotes, if it denotes one; a text without a document denotes null. -/
def read (text : String) : Option DistinctDocument := do
  let tokens ← Token.ofText? text.toList
  match ← Node.ofTokens? tokens with
  | some node => documentOf? node
  | none => some .null

end SchemaGrammar.Yaml
