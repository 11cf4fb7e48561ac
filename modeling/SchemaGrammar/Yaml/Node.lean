import SchemaGrammar.Yaml.Lexer

/-!
# Nodes

The tree that a sequence of tokens describes. A text holds at most one document, which may be
empty, and a document is one node.

The readers below take the tokens that are left and return a node with the tokens after it. Their
first argument bounds how many calls may follow one another; two for each token suffice, since no
reader calls more than one other before a token is passed.
-/

namespace SchemaGrammar.Yaml

/-- What may be written before the content of a node. -/
structure Properties where
  anchor : Option (List Char)
  /-- The full tag. -/
  tag : Option TagText

/-- Whether anything was written before the node. -/
def Properties.isPresent (p : Properties) : Bool := p.anchor.isSome || p.tag.isSome

/-- A node of a YAML document. -/
inductive Node where
  | alias (name : List Char)
  | scalar (properties : Properties) (plain : Bool) (text : List Char)
  | sequence (properties : Properties) (items : List Node)
  | mapping (properties : Properties) (entries : List (Node × Node))

namespace Node

/-- The node that stands where nothing is written. -/
def absent : Node := .scalar ⟨none, none⟩ true []

/-! ## Properties -/

/-- A tag in full, if its handle is defined. -/
def resolveTag (handles : Handles) : Option TagSpelling → Option (Option TagText)
  | some t => (t.resolve handles).map some
  | none => some none

/-- The anchor and the tag before a node, in either order. -/
def readProperties (handles : Handles) (tokens : List Token) :
    Option (Properties × List Token) :=
  match tokens with
  | .anchor a :: .tag t :: rest => (resolveTag handles (some t)).map (⟨some a, ·⟩, rest)
  | .tag t :: .anchor a :: rest => (resolveTag handles (some t)).map (⟨some a, ·⟩, rest)
  | .anchor a :: rest => some (⟨some a, none⟩, rest)
  | .tag t :: rest => (resolveTag handles (some t)).map (⟨none, ·⟩, rest)
  | rest => some (⟨none, none⟩, rest)

/-! ## What ends an absent node -/

/-- Whether an item of a block sequence is absent. -/
def noBlockItem : List Token → Bool
  | .blockEntry :: _ => true
  | .blockEnd :: _ => true
  | _ => false

/-- Whether a key or a value of a block mapping is absent. -/
def noBlockPart : List Token → Bool
  | .key :: _ => true
  | .value :: _ => true
  | .blockEnd :: _ => true
  | _ => false

/-- Whether a key of a flow collection is absent; the closing mark is the collection's own. -/
def noFlowKey (closes : Token → Bool) : List Token → Bool
  | .value :: _ => true
  | .flowEntry :: _ => true
  | t :: _ => closes t
  | [] => false

/-- Whether a value of a flow collection is absent. -/
def noFlowValue (closes : Token → Bool) : List Token → Bool
  | .flowEntry :: _ => true
  | t :: _ => closes t
  | [] => false

/-- Whether a token ends a flow sequence. -/
def closesSequence : Token → Bool
  | .flowSequenceEnd => true
  | _ => false

/-- Whether a token ends a flow mapping. -/
def closesMapping : Token → Bool
  | .flowMappingEnd => true
  | _ => false

/-! ## The readers -/

/-- The node that its properties alone describe, if there are any. -/
def absentWith (p : Properties) (rest : List Token) : Option (Node × List Token) :=
  if p.isPresent then some (.scalar p true [], rest) else none

/-- The tokens from the next item of a flow collection on: all but the first follow a comma. -/
def afterComma (first : Bool) (tokens : List Token) : Option (List Token) :=
  if first then some tokens
  else
    match tokens with
    | .flowEntry :: rest => some rest
    | _ => none

mutual
/-- A node. Block collections are admitted outside flow collections only, and a block sequence
without indentation of its own only as a part of a block mapping. -/
def read (handles : Handles) (block indentless : Bool) :
    Nat → List Token → Option (Node × List Token)
  | 0, _ => none
  | _, .alias name :: rest => some (.alias name, rest)
  | bound + 1, tokens =>
    match readProperties handles tokens with
    | none => none
    | some (properties, rest) =>
      match rest with
      | .scalar plain text :: rest => some (.scalar properties plain text, rest)
      | .flowSequenceStart :: rest =>
        (readFlowItems handles true bound rest).map fun (items, rest) =>
          (.sequence properties items, rest)
      | .flowMappingStart :: rest =>
        (readFlowEntries handles true bound rest).map fun (entries, rest) =>
          (.mapping properties entries, rest)
      | .blockSequenceStart :: rest =>
        if block then
          (readBlockItems handles bound rest).map fun (items, rest) =>
            (.sequence properties items, rest)
        else absentWith properties (.blockSequenceStart :: rest)
      | .blockMappingStart :: rest =>
        if block then
          (readBlockEntries handles bound rest).map fun (entries, rest) =>
            (.mapping properties entries, rest)
        else absentWith properties (.blockMappingStart :: rest)
      | .blockEntry :: rest =>
        if indentless then
          (readIndentlessItems handles bound (.blockEntry :: rest)).map fun (items, rest) =>
            (.sequence properties items, rest)
        else absentWith properties (.blockEntry :: rest)
      | rest => absentWith properties rest

/-- The items of a block sequence, and its end. -/
def readBlockItems (handles : Handles) : Nat → List Token → Option (List Node × List Token)
  | 0, _ => none
  | _, .blockEnd :: rest => some ([], rest)
  | bound + 1, .blockEntry :: rest =>
    if noBlockItem rest then
      (readBlockItems handles bound rest).map fun (items, rest) => (absent :: items, rest)
    else
      match read handles true false bound rest with
      | none => none
      | some (item, rest) =>
        (readBlockItems handles bound rest).map fun (items, rest) => (item :: items, rest)
  | _, _ => none

/-- The items of a block sequence that shares the column of the mapping around it. It ends with the
first token that is no item. -/
def readIndentlessItems (handles : Handles) : Nat → List Token → Option (List Node × List Token)
  | 0, _ => none
  | bound + 1, .blockEntry :: rest =>
    if noBlockItem rest || noBlockPart rest then
      (readIndentlessItems handles bound rest).map fun (items, rest) => (absent :: items, rest)
    else
      match read handles true false bound rest with
      | none => none
      | some (item, rest) =>
        (readIndentlessItems handles bound rest).map fun (items, rest) => (item :: items, rest)
  | _, rest => some ([], rest)

/-- The entries of a block mapping, and its end. -/
def readBlockEntries (handles : Handles) :
    Nat → List Token → Option (List (Node × Node) × List Token)
  | 0, _ => none
  | _, .blockEnd :: rest => some ([], rest)
  | bound + 1, .key :: rest =>
    if noBlockPart rest then readBlockValue handles absent bound rest
    else
      match read handles true true bound rest with
      | none => none
      | some (key, rest) => readBlockValue handles key bound rest
  | _, _ => none

/-- The value of a key in a block mapping, and the entries after it. -/
def readBlockValue (handles : Handles) (key : Node) :
    Nat → List Token → Option (List (Node × Node) × List Token)
  | 0, _ => none
  | bound + 1, .value :: rest =>
    if noBlockPart rest then
      (readBlockEntries handles bound rest).map fun (entries, rest) =>
        ((key, absent) :: entries, rest)
    else
      match read handles true true bound rest with
      | none => none
      | some (value, rest) =>
        (readBlockEntries handles bound rest).map fun (entries, rest) =>
          ((key, value) :: entries, rest)
  | bound + 1, rest =>
    (readBlockEntries handles bound rest).map fun (entries, rest) =>
      ((key, absent) :: entries, rest)

/-- The items of a flow sequence, and its end. All but the first follow a comma. An item that is
marked as a key is a mapping with one entry. -/
def readFlowItems (handles : Handles) (first : Bool) :
    Nat → List Token → Option (List Node × List Token)
  | 0, _ => none
  | _, .flowSequenceEnd :: rest => some ([], rest)
  | bound + 1, tokens =>
    match afterComma first tokens with
    | none => none
    | some (.flowSequenceEnd :: rest) => some ([], rest)
    | some (.key :: rest) =>
      match readPair handles bound rest with
      | none => none
      | some (pair, rest) =>
        (readFlowItems handles false bound rest).map fun (items, rest) =>
          (.mapping ⟨none, none⟩ [pair] :: items, rest)
    | some rest =>
      match read handles false false bound rest with
      | none => none
      | some (item, rest) =>
        (readFlowItems handles false bound rest).map fun (items, rest) => (item :: items, rest)

/-- The key and the value of a single pair in a flow sequence. A mark where the key is absent is
passed over. -/
def readPair (handles : Handles) : Nat → List Token → Option ((Node × Node) × List Token)
  | 0, _ => none
  | bound + 1, tokens =>
    if noFlowKey closesSequence tokens then
      readFlowValue handles closesSequence absent bound (tokens.drop 1)
    else
      match read handles false false bound tokens with
      | none => none
      | some (key, rest) => readFlowValue handles closesSequence key bound rest

/-- The value of a key in a flow collection, absent without a colon. -/
def readFlowValue (handles : Handles) (closes : Token → Bool) (key : Node) :
    Nat → List Token → Option ((Node × Node) × List Token)
  | 0, _ => none
  | bound + 1, .value :: rest =>
    if noFlowValue closes rest then some ((key, absent), rest)
    else (read handles false false bound rest).map fun (value, rest) => ((key, value), rest)
  | _, rest => some ((key, absent), rest)

/-- The entries of a flow mapping, and its end. All but the first follow a comma. A node that is
not marked as a key is a key without a value. -/
def readFlowEntries (handles : Handles) (first : Bool) :
    Nat → List Token → Option (List (Node × Node) × List Token)
  | 0, _ => none
  | _, .flowMappingEnd :: rest => some ([], rest)
  | bound + 1, tokens =>
    match afterComma first tokens with
    | none => none
    | some (.flowMappingEnd :: rest) => some ([], rest)
    | some (.key :: rest) =>
      match readEntry handles bound rest with
      | none => none
      | some (entry, rest) =>
        (readFlowEntries handles false bound rest).map fun (entries, rest) =>
          (entry :: entries, rest)
    | some rest =>
      match read handles false false bound rest with
      | none => none
      | some (key, rest) =>
        (readFlowEntries handles false bound rest).map fun (entries, rest) =>
          ((key, absent) :: entries, rest)

/-- The key and the value of an entry in a flow mapping. -/
def readEntry (handles : Handles) : Nat → List Token → Option ((Node × Node) × List Token)
  | 0, _ => none
  | bound + 1, tokens =>
    if noFlowKey closesMapping tokens then
      readFlowValue handles closesMapping absent bound tokens
    else
      match read handles false false bound tokens with
      | none => none
      | some (key, rest) => readFlowValue handles closesMapping key bound rest
end

/-! ## Documents -/

/-- The handles that directives define, and the tokens after them. A version has to be one of the
two known ones, and neither it nor a handle is given twice. -/
def readDirectives (version : Bool) (handles : Handles) :
    List Token → Option (Handles × List Token)
  | .directive (.version major minor) :: rest =>
    if version || major != 1 || !(minor == 1 || minor == 2) then none
    else readDirectives true handles rest
  | .directive (.handle handle meaning) :: rest =>
    if (handles.lookup handle).isSome then none
    else readDirectives version (handles ++ [(handle, meaning)]) rest
  | rest => some (handles, rest)

/-- Whether a document after its opening marker is empty. -/
def noContent : List Token → Bool
  | [] => true
  | .directive _ :: _ => true
  | .documentStart :: _ => true
  | .documentEnd :: _ => true
  | _ => false

/-- Whether nothing but closing markers is left. -/
def onlyEnds : List Token → Bool
  | [] => true
  | .documentEnd :: rest => onlyEnds rest
  | _ => false

/-- The node of a document, when nothing follows the document. -/
def readLast (handles : Handles) (tokens : List Token) : Option Node :=
  match read handles true false (2 * tokens.length + 2) tokens with
  | some (node, rest) => if onlyEnds rest then some node else none
  | none => none

/-- The node of the only document; the inner option is none for a text without a document. A
document begins with a marker, which directives may precede, or with its content. -/
def ofTokens? (tokens : List Token) : Option (Option Node) :=
  match tokens with
  | [] => some none
  | .directive _ :: _ | .documentStart :: _ =>
    match readDirectives false [] tokens with
    | some (handles, .documentStart :: rest) =>
      if noContent rest then if onlyEnds rest then some (some absent) else none
      else (readLast (handles ++ defaultHandles) rest).map some
    | _ => none
  | tokens => (readLast defaultHandles tokens).map some

end Node

end SchemaGrammar.Yaml
