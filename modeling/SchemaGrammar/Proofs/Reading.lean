import SchemaGrammar.Proofs.Structure

/-!
# Reading a grammar text back

The text of a schema escapes nothing and uses its brackets and bars for several things, yet it can
be read from the left without ambiguity: the first one or two characters tell which form follows,
and names, literals and tokens end at their closing mark. `readSchema` is such a reader, and
`readSchema_fragment` says that it returns the schema that was written, and exactly the text that
follows it. What the text does not show is given up by `Schema.norm`: the name and target of a
reference, and what an object without properties admits besides them.

The reader needs the closing marks to be those of the writer. `Schema.plain` asks for that: no quote
in a name or literal, no `>` in a pattern, and no property named like the wildcard.
-/

namespace SchemaGrammar

/-! ## What a text shows of a schema -/

/-- The schema as far as its text shows it: references lose their name and target, and objects
without properties admit nothing besides them. -/
def Schema.norm (schema : Schema) : Schema := schema.redact (fun _ _ => ("", "")) fun _ => .closed

/-- A named property as far as its text shows it. -/
def Property.norm (name : String) (property : Property) : String × Property :=
  property.redact (fun _ _ => ("", "")) (fun _ => .closed) name

/-- What else an object admits, as far as its text shows it. -/
def Additional.norm (additional : Additional) : Additional :=
  additional.redact (fun _ _ => ("", "")) fun _ => .closed

/-- Properties as far as their text shows them, in order. -/
def normProperties (properties : List (String × Property)) : List (String × Property) :=
  redactProperties (fun _ _ => ("", "")) (fun _ => .closed) properties

/-- A typed property has the normal form of its schema. -/
theorem Property.norm_typed (name : String) (schema : Schema) (required : Bool) :
    (typed schema required).norm name = (name, typed schema.norm required) := rfl

/-- Additional properties of a schema have its normal form. -/
theorem Additional.norm_schema (schema : Schema) :
    (Additional.schema schema).norm = .schema schema.norm := rfl

/-- The normal form of an array is that of its items. -/
theorem Schema.norm_array (items : Schema) (cardinality : Cardinality) :
    (array items cardinality).norm = .array items.norm cardinality := rfl

/-- The normal form of an object with properties is that of its properties and of what it admits
beside them. -/
theorem Schema.norm_object_cons (name : String) (property : Property)
    (properties : List (String × Property)) (additional : Additional) :
    (object ((name, property) :: properties) additional).norm =
      .object (property.norm name :: normProperties properties) additional.norm := rfl

/-- A constraint whose texts end where the writer ends them. -/
def StringConstraint.plain : StringConstraint → Bool
  | .enum literals => literals.all fun literal => !literal.toList.contains '"'
  | .pattern expression => !expression.toList.contains '>'
  | _ => true

mutual
/-- No typed property name and no literal has a quote, no typed property has the name of the
wildcard, and no pattern has a `>`, at any depth. -/
def Schema.plain : Schema → Bool
  | .string constraint => constraint.plain
  | .array items _ => items.plain
  | .object properties additional => plainProperties properties && additional.plain
  | _ => true

/-- `Schema.plain` for a named property. -/
def Property.plain (name : String) : Property → Bool
  | .ref _ => true
  | .typed schema _ => !name.toList.contains '"' && name != wildcardName && schema.plain

/-- `Schema.plain` for what else an object admits. -/
def Additional.plain : Additional → Bool
  | .schema schema => schema.plain
  | _ => true

/-- `Schema.plain` for a list of properties. -/
def plainProperties : List (String × Property) → Bool
  | [] => true
  | (name, property) :: properties => property.plain name && plainProperties properties
end

/-! ## The reader -/

/-- Reads a value from the front of a text and returns it with the text that follows. -/
abbrev Reader (α : Type) := List Char → Option (α × List Char)

/-- Reads up to a mark and past it. -/
def readUpTo (mark : Char) : Reader (List Char)
  | [] => none
  | c :: text =>
    if c = mark then some ([], text)
    else (readUpTo mark text).map fun (before, after) => (c :: before, after)

/-- The schemas whose token is a fixed word between angle brackets. -/
def tokenWords : List (List Char × Schema) :=
  [("boolean".toList, .boolean), ("integer".toList, .integer), ("number".toList, .number),
   ("string".toList, .string .unconstrained), ("datetime".toList, .string (.format .dateTime)),
   ("date".toList, .string (.format .date)), ("email".toList, .string (.format .email)),
   ("uri".toList, .string (.format .uri))]

/-- The schema whose token has the given text between its angle brackets. -/
def tokenSchema? : List Char → Option Schema
  | 'p' :: 'a' :: 't' :: 't' :: 'e' :: 'r' :: 'n' :: ' ' :: expression =>
    some (.string (.pattern (String.ofList expression)))
  | word => tokenWords.lookup word

/-- Reads the literals of an enumeration, from the first quote up to the closing bracket. The first
argument bounds how many there are. -/
def readLiterals : Nat → Reader (List String)
  | 0, _ => none
  | bound + 1, text =>
    match text with
    | '"' :: text => do
      let (literal, text) ← readUpTo '"' text
      match text with
      | ']' :: text => some ([String.ofList literal], text)
      | ' ' :: '|' :: ' ' :: text => do
        let (literals, text) ← readLiterals bound text
        some (String.ofList literal :: literals, text)
      | _ => none
    | _ => none

/-- Reads the quantifier of an array and the closing bracket. -/
def readQuantifier : Reader Cardinality
  | '*' :: ']' :: text => some (.zeroOrMore, text)
  | '+' :: ']' :: text => some (.oneOrMore, text)
  | ']' :: text => some (.bare, text)
  | _ => none

/-- A member of an object as it is read. -/
inductive Member where
  | property (name : String) (property : Property)
  | wildcard (additional : Additional)

/-- Reads the mark of a property that is not required, if there is one. -/
def readRequired : List Char → Bool × List Char
  | ' ' :: '|' :: ' ' :: 'ε' :: text => (false, text)
  | text => (true, text)

/-- Reads the value of the wildcard. -/
def readWildcard (read : Reader Schema) : Reader Additional
  | '<' :: 'a' :: 'n' :: 'y' :: '>' :: text => some (.any, text)
  | text => (read text).map fun (schema, text) => (.schema schema, text)

/-- Reads a member, with the given reader for the schemas in it. -/
def readMember (read : Reader Schema) : Reader Member
  | '<' :: 'r' :: 'e' :: 'f' :: '>' :: text => some (.property "" (.ref ""), text)
  | '"' :: text => do
    let (name, text) ← readUpTo '"' text
    match text with
    | ' ' :: ':' :: ' ' :: text =>
      if name = wildcardName.toList then
        (readWildcard read text).map fun (additional, text) => (.wildcard additional, text)
      else do
        let (schema, text) ← read text
        let (required, text) := readRequired text
        some (.property (String.ofList name) (.typed schema required), text)
    | _ => none
  | _ => none

/-- Reads members up to the closing brace. The first argument bounds how many there are. -/
def readMembers (read : Reader Schema) : Nat → Reader (List (String × Property) × Additional)
  | 0, _ => none
  | bound + 1, text => do
    let (member, text) ← readMember read text
    match member, text with
    | .wildcard additional, ' ' :: '\x7d' :: text => some (([], additional), text)
    | .property name property, ' ' :: '\x7d' :: text => some (([(name, property)], .closed), text)
    | .property name property, ',' :: ' ' :: text => do
      let ((properties, additional), text) ← readMembers read bound text
      some (((name, property) :: properties, additional), text)
    | _, _ => none

/-- Reads what follows an opening bracket: an enumeration or the items of an array. -/
def readBracketed (read : Reader Schema) (bound : Nat) : Reader Schema
  | ']' :: text => some (.string (.enum []), text)
  | '"' :: text => do
    let (literals, text) ← readLiterals bound ('"' :: text)
    some (.string (.enum literals), text)
  | text => do
    let (items, text) ← read text
    let (cardinality, text) ← readQuantifier text
    some (.array items cardinality, text)

/-- Reads a schema. The first argument bounds the depth and the number of parts; the length of the
text is enough. -/
def readSchema : Nat → Reader Schema
  | 0, _ => none
  | bound + 1, text =>
    match text with
    | 'n' :: 'u' :: 'l' :: 'l' :: text => some (.null, text)
    | '<' :: text => do
      let (token, text) ← readUpTo '>' text
      let schema ← tokenSchema? token
      some (schema, text)
    | '[' :: text => readBracketed (readSchema bound) bound text
    | '\x7b' :: '\x7d' :: text => some (.object [] .closed, text)
    | '\x7b' :: ' ' :: text => do
      let ((properties, additional), text) ← readMembers (readSchema bound) bound text
      some (.object properties additional, text)
    | _ => none

/-- The schema that a grammar text shows. -/
def readGrammar (grammar : String) : Option Schema :=
  match readSchema grammar.toList.length grammar.toList with
  | some (schema, []) => some schema
  | _ => none

/-! ## Reading what was written, part by part -/

/-- A text without the mark is read up to the mark. -/
theorem readUpTo_append {mark : Char} {before : List Char} (h : mark ∉ before)
    (after : List Char) : readUpTo mark (before ++ mark :: after) = some (before, after) := by
  induction before with
  | nil => simp [readUpTo]
  | cons c before ih =>
    rw [List.mem_cons, not_or] at h
    simp [readUpTo, Ne.symm h.1, ih h.2]

/-- A name or literal without quotes is read back. -/
theorem readUpTo_quote {text : String} (h : text.toList.contains '"' = false) (after : List Char) :
    readUpTo '"' (text.toList ++ '"' :: after) = some (text.toList, after) :=
  readUpTo_append (by simpa using h) after

/-- A token is read by the text between its angle brackets. -/
theorem readSchema_token {token : List Char} {schema : Schema} (h : '>' ∉ token)
    (ht : tokenSchema? token = some schema) (bound : Nat) (after : List Char) :
    readSchema (bound + 1) ('<' :: token ++ '>' :: after) = some (schema, after) := by
  simp only [readSchema, List.cons_append, readUpTo_append h]
  simp [ht]

/-- A quantifier is read back together with the bracket after it. -/
theorem readQuantifier_quantifier (cardinality : Cardinality) (after : List Char) :
    readQuantifier (cardinality.quantifier ++ ']' :: after) = some (cardinality, after) := by
  cases cardinality <;> rfl

/-- The literals of an enumeration are read back. -/
theorem readLiterals_alternatives {literal : String} {literals : List String}
    (h : ∀ l ∈ literal :: literals, l.toList.contains '"' = false) (bound : Nat)
    (hb : (alternatives (literal :: literals)).length ≤ bound) (after : List Char) :
    readLiterals bound (alternatives (literal :: literals) ++ ']' :: after) =
      some (literal :: literals, after) := by
  induction literals generalizing literal bound with
  | nil =>
    cases bound with
    | zero => simp [alternatives, inQuotes] at hb
    | succ bound =>
      have hq := readUpTo_quote (h literal (by simp)) (']' :: after)
      simp [alternatives, inQuotes, readLiterals, hq]
  | cons next literals ih =>
    cases bound with
    | zero => simp [alternatives, inQuotes] at hb
    | succ bound =>
      have hnext := ih (fun l hl => h l (List.mem_cons_of_mem _ hl)) bound (by
        simp [alternatives, inQuotes] at hb ⊢
        omega)
      have hq := readUpTo_quote (h literal (by simp))
        (' ' :: '|' :: ' ' :: (alternatives (next :: literals) ++ ']' :: after))
      simp [alternatives, inQuotes, readLiterals, hq, hnext]

/-- How the text of a schema starts: never like the end of a list, a name or the token of the
wildcard. -/
theorem fragment_start (schema : Schema) :
    ∃ c c' text, schema.fragment = c :: c' :: text ∧ c ≠ ']' ∧ c ≠ '"' ∧ c ≠ 'a' ∧ c' ≠ 'a' := by
  induction schema using Schema.induction with
  | null | boolean | integer | number => exact ⟨_, _, _, rfl, by decide⟩
  | string constraint =>
    cases constraint with
    | unconstrained | pattern => exact ⟨_, _, _, rfl, by decide⟩
    | format named => cases named <;> exact ⟨_, _, _, rfl, by decide⟩
    | enum literals =>
      rcases literals with _ | ⟨literal, _ | ⟨next, literals⟩⟩ <;> exact ⟨_, _, _, rfl, by decide⟩
  | array items cardinality ih =>
    obtain ⟨c, c', text, h, -, -, hc, -⟩ := ih
    refine ⟨'[', c, c' :: text ++ cardinality.quantifier ++ [']'], ?_, by decide, by decide,
      by decide, hc⟩
    rw [Schema.fragment_array, h]
    rfl
  | object properties additional =>
    cases properties with
    | nil => exact ⟨_, _, _, rfl, by decide⟩
    | cons property properties => exact ⟨_, _, _, rfl, by decide⟩

/-- What follows a bracket is read as items when a schema stands there. -/
theorem readBracketed_fragment {read : Reader Schema} {items : Schema} {cardinality : Cardinality}
    {after : List Char} (hread : ∀ text, read (items.fragment ++ text) = some (items.norm, text))
    (bound : Nat) :
    readBracketed read bound (items.fragment ++ (cardinality.quantifier ++ ']' :: after)) =
      some (.array items.norm cardinality, after) := by
  obtain ⟨c, c', text, h, hbracket, hquote, -⟩ := fragment_start items
  rw [readBracketed, hread]
  · simp [readQuantifier_quantifier]
  · rw [h]
    intro text' he
    injection he with hc
    exact hbracket hc
  · rw [h]
    intro text' he
    injection he with hc
    exact hquote hc

/-- The value of the wildcard is read back. -/
theorem readWildcard_fragment {read : Reader Schema} {schema : Schema} {after : List Char}
    (hread : ∀ text, read (schema.fragment ++ text) = some (schema.norm, text)) :
    readWildcard read (schema.fragment ++ after) = some (.schema schema.norm, after) := by
  obtain ⟨c, c', text, h, -, -, -, hc'⟩ := fragment_start schema
  rw [readWildcard, hread]
  · rfl
  · rw [h]
    intro text' he
    injection he with _ he
    injection he with hc
    exact hc' hc

/-- The optional mark is read as such. -/
theorem readRequired_optionalMark (after : List Char) :
    readRequired (optionalMark ++ after) = (false, after) := rfl

/-- A property is read back as a member. -/
theorem readMember_member {read : Reader Schema} {name : String} {property : Property}
    (hp : property.plain name = true)
    (hread : ∀ schema required, property = .typed schema required →
      ∀ text, read (schema.fragment ++ text) = some (schema.norm, text))
    (after : List Char) (hafter : readRequired after = (true, after)) :
    readMember read (property.member name ++ after) =
      some (.property (property.norm name).1 (property.norm name).2, after) := by
  cases property with
  | ref target => rfl
  | typed schema required =>
    simp only [Property.plain, Bool.and_eq_true, bne_iff_ne, Bool.not_eq_true'] at hp
    obtain ⟨⟨hquote, hwild⟩, -⟩ := hp
    have hname : name.toList ≠ wildcardName.toList := fun h => hwild (String.toList_inj.1 h)
    have hr := hread schema required rfl
    cases required with
    | false =>
      have hq := readUpTo_quote hquote
        (' ' :: ':' :: ' ' :: (schema.fragment ++ (optionalMark ++ after)))
      simp [Property.member, inQuotes, readMember, hq, hname, hr, Property.norm_typed,
        readRequired_optionalMark]
    | true =>
      have hq := readUpTo_quote hquote (' ' :: ':' :: ' ' :: (schema.fragment ++ after))
      simp [Property.member, inQuotes, readMember, hq, hname, hr, Property.norm_typed, hafter]

/-- The text of a member is not empty. -/
theorem length_member_pos (name : String) (property : Property) :
    0 < (property.member name).length := by
  cases property with
  | ref target => exact Nat.succ_pos 4
  | typed schema required => simp [Property.member, inQuotes]

/-- The wildcard is read back as a member. -/
theorem readMember_wildcard {read : Reader Schema} {additional : Additional}
    (hread : ∀ schema, additional = .schema schema →
      ∀ text, read (schema.fragment ++ text) = some (schema.norm, text))
    (hne : additional ≠ .closed) (after : List Char) :
    ∃ text, additional.member = ',' :: ' ' :: text ∧
      readMember read (text ++ after) = some (.wildcard additional.norm, after) := by
  cases additional with
  | closed => exact absurd rfl hne
  | any => exact ⟨_, rfl, rfl⟩
  | schema schema =>
    refine ⟨inQuotes wildcardName ++ [' ', ':', ' '] ++ schema.fragment, rfl, ?_⟩
    have hquote : wildcardName.toList.contains '"' = false := rfl
    have hq := readUpTo_quote hquote (' ' :: ':' :: ' ' :: (schema.fragment ++ after))
    simp [inQuotes, readMember, hq, readWildcard_fragment (hread schema rfl),
      Additional.norm_schema]

section
variable {read : Reader Schema} {text : List Char}

/-- A wildcard is read as the last member. -/
theorem readMembers_wildcard {additional : Additional} {after : List Char}
    (h : readMember read text = some (.wildcard additional, ' ' :: '\x7d' :: after)) (bound : Nat) :
    readMembers read (bound + 1) text = some (([], additional), after) := by
  simp [readMembers, h]

/-- A property before the closing brace is read as the last member. -/
theorem readMembers_end {name : String} {property : Property} {after : List Char}
    (h : readMember read text = some (.property name property, ' ' :: '\x7d' :: after))
    (bound : Nat) :
    readMembers read (bound + 1) text = some (([(name, property)], .closed), after) := by
  simp [readMembers, h]

/-- A property before a comma is read before the members after it. -/
theorem readMembers_more {name : String} {property : Property} {further after : List Char}
    {properties : List (String × Property)} {additional : Additional}
    (h : readMember read text = some (.property name property, ',' :: ' ' :: further)) (bound : Nat)
    (hmore : readMembers read bound further = some ((properties, additional), after)) :
    readMembers read (bound + 1) text =
      some (((name, property) :: properties, additional), after) := by
  simp [readMembers, h, hmore]

end

/-- The last property and what else is admitted are read back, up to the closing brace. -/
theorem readMembers_last {read : Reader Schema} {name : String} {property : Property}
    {additional : Additional} (hp : property.plain name = true)
    (hread : ∀ schema required, property = .typed schema required →
      ∀ text, read (schema.fragment ++ text) = some (schema.norm, text))
    (hadditional : ∀ schema, additional = .schema schema →
      ∀ text, read (schema.fragment ++ text) = some (schema.norm, text))
    (bound : Nat) (hb : (property.member name ++ additional.member).length ≤ bound)
    (after : List Char) :
    readMembers read bound (property.member name ++ (additional.member ++ ' ' :: '\x7d' :: after)) =
      some (([property.norm name], additional.norm), after) := by
  have hpos := length_member_pos name property
  rw [List.length_append] at hb
  by_cases hc : additional = .closed
  · subst hc
    obtain ⟨bound, rfl⟩ : ∃ b, bound = b + 1 := ⟨bound - 1, by omega⟩
    exact readMembers_end (readMember_member hp hread _ rfl) bound
  · obtain ⟨text, htext, hw⟩ := readMember_wildcard hadditional hc (' ' :: '\x7d' :: after)
    rw [htext, List.length_cons, List.length_cons] at hb
    rw [htext]
    obtain ⟨bound, rfl⟩ : ∃ b, bound = b + 2 := ⟨bound - 2, by omega⟩
    exact readMembers_more (readMember_member hp hread _ rfl) _ (readMembers_wildcard hw bound)

/-- **The members of an object are read back**, up to the closing brace. The induction is on the
properties after the first; the wildcard, if any, is read by the last step. -/
theorem readMembers_members {read : Reader Schema} {properties : List (String × Property)}
    {additional : Additional}
    (hadditional : ∀ schema, additional = .schema schema →
      ∀ text, read (schema.fragment ++ text) = some (schema.norm, text))
    (after : List Char) :
    ∀ (name : String) (property : Property) (bound : Nat),
      plainProperties ((name, property) :: properties) = true →
      (∀ n schema required, (n, Property.typed schema required) ∈ (name, property) :: properties →
        ∀ text, read (schema.fragment ++ text) = some (schema.norm, text)) →
      (property.member name ++ furtherMembers properties ++ additional.member).length ≤ bound →
      readMembers read bound (property.member name ++
        (furtherMembers properties ++ (additional.member ++ ' ' :: '\x7d' :: after))) =
          some ((property.norm name :: normProperties properties, additional.norm), after) := by
  induction properties with
  | nil =>
    intro name property bound hp hread hb
    simp only [plainProperties, Bool.and_true] at hp
    simp only [furtherMembers, List.append_nil] at hb
    refine readMembers_last hp (fun schema required h => ?_) hadditional bound hb after
    exact hread name schema required (by simp [h])
  | cons next properties ih =>
    intro name property bound hp hread hb
    obtain ⟨name', property'⟩ := next
    rw [plainProperties, Bool.and_eq_true] at hp
    have hpos := length_member_pos name property
    simp only [furtherMembers, memberSeparator, List.length_append, List.length_cons] at hb
    obtain ⟨bound, rfl⟩ : ∃ b, bound = b + 1 := ⟨bound - 1, by omega⟩
    have hmore := ih name' property' bound hp.2
      (fun n schema required hmem => hread n schema required (List.mem_cons_of_mem _ hmem)) (by
        simp only [List.length_append]
        omega)
    have hm := readMember_member hp.1
      (fun schema required h => hread name schema required (by simp [h]))
      (memberSeparator ++ (property'.member name' ++
        (furtherMembers properties ++ (additional.member ++ ' ' :: '\x7d' :: after)))) rfl
    have htext : furtherMembers ((name', property') :: properties) ++
        (additional.member ++ ' ' :: '\x7d' :: after) =
        memberSeparator ++ (property'.member name' ++
          (furtherMembers properties ++ (additional.member ++ ' ' :: '\x7d' :: after))) := by
      simp [furtherMembers]
    rw [htext]
    exact readMembers_more hm bound hmore

/-! ## Reading a schema -/

/-- The schemas of plain properties are plain. -/
theorem plain_of_mem {properties : List (String × Property)} (h : plainProperties properties = true)
    {name : String} {schema : Schema} {required : Bool}
    (hmem : (name, Property.typed schema required) ∈ properties) : schema.plain = true := by
  induction properties with
  | nil => cases hmem
  | cons property properties ih =>
    obtain ⟨n, p⟩ := property
    rw [plainProperties, Bool.and_eq_true] at h
    rcases List.mem_cons.1 hmem with he | hmem
    · cases he
      rw [Property.plain, Bool.and_eq_true] at h
      exact h.1.2
    · exact ih h.2 hmem

/-- The text of a property's schema is a part of the text of the properties. -/
theorem length_fragment_le_of_mem {properties : List (String × Property)} {name : String}
    {schema : Schema} {required : Bool}
    (hmem : (name, Property.typed schema required) ∈ properties) :
    schema.fragment.length ≤ (furtherMembers properties).length := by
  induction properties with
  | nil => cases hmem
  | cons property properties ih =>
    obtain ⟨n, p⟩ := property
    rw [furtherMembers, List.length_append, List.length_append]
    rcases List.mem_cons.1 hmem with he | hmem
    · cases he
      simp only [Property.member, List.length_append]
      omega
    · have := ih hmem
      omega

/-- A string node is read back. -/
theorem readSchema_constraint {constraint : StringConstraint} (hp : constraint.plain = true)
    (bound : Nat) (hb : constraint.fragment.length ≤ bound + 1) (after : List Char) :
    readSchema (bound + 1) (constraint.fragment ++ after) = some (.string constraint, after) := by
  cases constraint with
  | unconstrained => rfl
  | format named => cases named <;> rfl
  | pattern expression =>
    have hmark : '>' ∉ "pattern ".toList ++ expression.toList := by
      rw [List.mem_append, not_or]
      exact ⟨by decide, by simpa [StringConstraint.plain] using hp⟩
    have htoken : tokenSchema? ("pattern ".toList ++ expression.toList) =
        some (.string (.pattern expression)) := by
      show some (Schema.string (.pattern (String.ofList expression.toList))) = _
      rw [String.ofList_toList]
    rw [StringConstraint.fragment_pattern, List.append_assoc]
    exact readSchema_token hmark htoken bound after
  | enum literals =>
    rw [StringConstraint.fragment_enum] at hb ⊢
    cases literals with
    | nil => rfl
    | cons literal literals =>
      have hplain : ∀ l ∈ literal :: literals, l.toList.contains '"' = false := by
        simpa [StringConstraint.plain] using hp
      have hl := readLiterals_alternatives hplain bound (by
        rw [List.length_append, List.length_cons] at hb
        simp at hb
        omega) after
      obtain ⟨text, htext⟩ : ∃ text, alternatives (literal :: literals) = '"' :: text := by
        cases literals <;> exact ⟨_, rfl⟩
      rw [htext] at hl ⊢
      simp only [List.cons_append, List.append_assoc] at hl ⊢
      simp [readSchema, readBracketed, hl]

/-- An array node is read back when its items are. -/
theorem readSchema_array {items : Schema} {cardinality : Cardinality} {bound : Nat}
    (hread : ∀ text, readSchema bound (items.fragment ++ text) = some (items.norm, text))
    (after : List Char) :
    readSchema (bound + 1) ((Schema.array items cardinality).fragment ++ after) =
      some ((Schema.array items cardinality).norm, after) := by
  rw [Schema.fragment_array, Schema.norm_array]
  simp only [List.cons_append, List.append_assoc, List.nil_append]
  exact readBracketed_fragment hread bound

/-- An object node is read back when the schemas in it are. -/
theorem readSchema_object {name : String} {property : Property}
    {properties : List (String × Property)} {additional : Additional} {bound : Nat}
    (hp : plainProperties ((name, property) :: properties) = true)
    (hread : ∀ n schema required,
      (n, Property.typed schema required) ∈ (name, property) :: properties →
      ∀ text, readSchema bound (schema.fragment ++ text) = some (schema.norm, text))
    (hadditional : ∀ schema, additional = .schema schema →
      ∀ text, readSchema bound (schema.fragment ++ text) = some (schema.norm, text))
    (hb : (property.member name ++ furtherMembers properties ++ additional.member).length ≤ bound)
    (after : List Char) :
    readSchema (bound + 1)
        ((Schema.object ((name, property) :: properties) additional).fragment ++ after) =
      some ((Schema.object ((name, property) :: properties) additional).norm, after) := by
  have hm := readMembers_members hadditional after name property bound hp hread hb
  rw [Schema.fragment_object_cons, Schema.norm_object_cons]
  simp only [List.cons_append, List.append_assoc, List.nil_append]
  simp [readSchema, hm]

/-- **A schema is read back from its text**, together with exactly the text that follows. -/
theorem readSchema_fragment {schema : Schema} (hp : schema.plain = true) (bound : Nat)
    (hb : schema.fragment.length ≤ bound) (after : List Char) :
    readSchema bound (schema.fragment ++ after) = some (schema.norm, after) := by
  induction schema using Schema.induction generalizing bound after with
  | null | boolean | integer | number =>
    cases bound with
    | zero => exact absurd hb (by decide)
    | succ bound => rfl
  | string constraint =>
    cases bound with
    | zero =>
      obtain ⟨c, c', text, h, -⟩ := fragment_start (.string constraint)
      rw [h] at hb
      cases hb
    | succ bound => exact readSchema_constraint hp bound hb after
  | array items cardinality ih =>
    rw [Schema.fragment_array] at hb
    simp only [List.cons_append, List.length_cons, List.length_append] at hb
    obtain ⟨bound, rfl⟩ : ∃ b, bound = b + 1 := ⟨bound - 1, by omega⟩
    exact readSchema_array (fun text => ih hp bound (by omega) text) after
  | object properties additional ihp iha =>
    rw [Schema.plain, Bool.and_eq_true] at hp
    cases properties with
    | nil =>
      cases bound with
      | zero => exact absurd hb (by rw [Schema.fragment_object_nil]; decide)
      | succ bound => rfl
    | cons first properties =>
      obtain ⟨name, property⟩ := first
      rw [Schema.fragment_object_cons] at hb
      simp only [List.length_append, List.length_cons, List.length_nil] at hb
      obtain ⟨bound, rfl⟩ : ∃ b, bound = b + 1 := ⟨bound - 1, by omega⟩
      refine readSchema_object hp.1 (fun n schema required hmem text => ?_)
        (fun schema h text => ?_) (by simp only [List.length_append]; omega) after
      · refine ihp n schema required hmem (plain_of_mem hp.1 hmem) bound ?_ text
        have hle := length_fragment_le_of_mem hmem
        simp only [furtherMembers, memberSeparator, List.length_append, List.length_cons,
          List.length_nil] at hle
        omega
      · subst h
        refine iha schema rfl hp.2 bound ?_ text
        simp only [Additional.member, List.length_append] at hb
        omega

/-- A plain schema is read back from its grammar text, as far as the text shows it. -/
theorem readGrammar_grammar {schema : Schema} (hp : schema.plain = true) :
    readGrammar schema.grammar = some schema.norm := by
  have h := readSchema_fragment hp schema.fragment.length (Nat.le_refl _) []
  rw [List.append_nil] at h
  simp [readGrammar, Schema.grammar, h]

/-- **Grammar texts are unambiguous.** Two plain schemas have the same grammar text exactly when
they agree in everything but the names and targets of references and what objects without
properties admit; and one reader recovers that much of either from its text. -/
theorem grammar_eq_iff_norm_eq (a b : Schema) (ha : a.plain = true) (hb : b.plain = true) :
    (a.grammar = b.grammar ↔ a.norm = b.norm) ∧
      readGrammar a.grammar = some a.norm ∧ readGrammar b.grammar = some b.norm := by
  refine ⟨⟨fun h => ?_, fun h => ?_⟩, readGrammar_grammar ha, readGrammar_grammar hb⟩
  · have hread : some a.norm = some b.norm := by
      rw [← readGrammar_grammar ha, ← readGrammar_grammar hb, h]
    exact Option.some.inj hread
  · have htext : a.norm.fragment = b.norm.fragment := congrArg Schema.fragment h
    rw [Schema.norm, Schema.norm, fragment_redact, fragment_redact] at htext
    rw [Schema.grammar, Schema.grammar, htext]

/-- An object whose texts use every bracket and bar of the grammar, with a reference of the given
name and target and an inner object without properties. -/
def bracketedObject (name target : String) (inner : Additional) : Schema :=
  .object
    [("tags", .typed (.array (.string (.enum ["a] | [b", "", "*"])) .oneOrMore) false),
     (name, .ref target),
     ("inner", .typed (.object [] inner) true)]
    (.schema (.array (.string (.pattern "^\x7b, \" | ε\x7d$")) .bare))

/-- The text shows neither which reference an object holds nor what its inner object admits. -/
theorem bracketedObject_grammar_eq :
    (bracketedObject "next" "#/a" .any).plain = true ∧
    (bracketedObject "*" "#/b" (.schema .null)).plain = true ∧
    (bracketedObject "next" "#/a" .any).grammar =
      (bracketedObject "*" "#/b" (.schema .null)).grammar :=
  ⟨by decide, by decide, (grammar_eq_iff_norm_eq _ _ (by decide) (by decide)).1.2 rfl⟩

end SchemaGrammar
