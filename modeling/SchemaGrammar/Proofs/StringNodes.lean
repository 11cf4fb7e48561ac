import SchemaGrammar.Proofs.Keywords
import SchemaGrammar.Proofs.Structure

/-!
# What a string node says about its content

Of `enum`, `pattern` and `format` the first that is present decides what is known of a string.
`Describes` gives the rules, one for each way in which a keyword decides. A node of type `string` is
always lowered, to the one constraint that the rules give it (`describes_iff`).

The rule for `format` rests on what names a format, `Document.NamesFormat`. A string does when it is
one of the four names. An object does too, when its only member has such a name and the value null;
no value of any other shape does, and then the string is as if nothing was said of it.
-/

namespace SchemaGrammar

/-- A value that names a format: the name, or an object that has the name as its only member, with
the value null. -/
inductive Document.NamesFormat : Document → Format → Prop
  | name (format : Format) : NamesFormat (.string format.name) format
  | member (format : Format) : NamesFormat (.object [(format.name, .null)]) format

/-- What the keywords of a string node say about its content. -/
inductive Describes (node : List (String × Document)) : StringConstraint → Prop
  | enumList {items : List Document} (h : node.lookup "enum" = some (.list items)) :
    Describes node (.enum (items.map Document.literalText))
  | enumValue {value : Document} (h : node.lookup "enum" = some value)
    (hlist : ∀ items, value ≠ .list items) : Describes node (.enum [value.literalText])
  | pattern {value : Document} (henum : node.lookup "enum" = none)
    (h : node.lookup "pattern" = some value) : Describes node (.pattern value.literalText)
  | format {value : Document} {format : Format} (henum : node.lookup "enum" = none)
    (hpattern : node.lookup "pattern" = none) (h : node.lookup "format" = some value)
    (hformat : value.NamesFormat format) : Describes node (.format format)
  | unconstrained (henum : node.lookup "enum" = none) (hpattern : node.lookup "pattern" = none)
    (h : ∀ value format, node.lookup "format" = some value → ¬ value.NamesFormat format) :
    Describes node .unconstrained

/-! ## Formats -/

/-- A format is read from its name and from no other. -/
theorem Format.ofName?_eq_some_iff {name : String} {format : Format} :
    Format.ofName? name = some format ↔ name = format.name := by
  constructor
  · intro h
    unfold Format.ofName? at h
    split at h
    all_goals cases h
    all_goals rfl
  · rintro rfl
    cases format <;> rfl

/-- The formats are read from the values that name them. -/
theorem formatOf?_eq_some_iff {value : Document} {format : Format} :
    formatOf? value = some format ↔ value.NamesFormat format := by
  constructor
  · intro h
    unfold formatOf? at h
    split at h
    · next name =>
      rw [Format.ofName?_eq_some_iff.1 h]
      exact .name format
    · next name =>
      rw [Format.ofName?_eq_some_iff.1 h]
      exact .member format
    · cases h
  · intro h
    cases h with
    | name => exact Format.ofName?_eq_some_iff.2 rfl
    | member => exact Format.ofName?_eq_some_iff.2 rfl

/-! ## The constraint of a node -/

section
variable {node : List (String × Document)}

/-- The constraint that a node is lowered to follows the rules. -/
theorem describes_stringConstraint (node : List (String × Document)) :
    Describes node (stringConstraint node) := by
  unfold stringConstraint
  cases henum : node.lookup "enum" with
  | some values =>
    cases values with
    | list items => exact .enumList henum
    | null | bool | number | string | object => exact .enumValue henum nofun
  | none =>
    cases hpattern : node.lookup "pattern" with
    | some expression => exact .pattern henum hpattern
    | none =>
      cases hformat : (node.lookup "format").bind formatOf? with
      | some format =>
        obtain ⟨value, hvalue, hnames⟩ := Option.bind_eq_some_iff.1 hformat
        exact .format henum hpattern hvalue (formatOf?_eq_some_iff.1 hnames)
      | none =>
        refine .unconstrained henum hpattern fun value format hvalue hnames => ?_
        rw [hvalue, Option.bind_some, formatOf?_eq_some_iff.2 hnames] at hformat
        cases hformat

/-- The rules give no other constraint. -/
theorem Describes.eq_stringConstraint {constraint : StringConstraint}
    (h : Describes node constraint) : constraint = stringConstraint node := by
  unfold stringConstraint
  cases h with
  | enumList h =>
    rw [h]
    rfl
  | @enumValue value h hlist =>
    rw [h]
    cases value with
    | list items => exact absurd rfl (hlist items)
    | null | bool | number | string | object => rfl
  | pattern henum h => rw [henum, h]
  | format henum hpattern h hformat =>
    rw [henum, hpattern, h, Option.bind_some, formatOf?_eq_some_iff.2 hformat]
  | unconstrained henum hpattern h =>
    have hnone : (node.lookup "format").bind formatOf? = none := by
      rw [Option.bind_eq_none_iff]
      intro value hvalue
      rw [Option.eq_none_iff_forall_ne_some]
      intro format hformat
      exact h value format hvalue (formatOf?_eq_some_iff.1 hformat)
    rw [henum, hpattern, hnone]

/-- The rules give a node the constraint that it is lowered to. -/
theorem describes_iff {constraint : StringConstraint} :
    Describes node constraint ↔ constraint = stringConstraint node := by
  constructor
  · exact Describes.eq_stringConstraint
  · rintro rfl
    exact describes_stringConstraint node

end

/-- Only a string about which nothing is known has the text `<string>`. -/
theorem grammar_eq_string_iff {constraint : StringConstraint} :
    (Schema.string constraint).grammar = "<string>" ↔ constraint = .unconstrained := by
  constructor
  · intro h
    have hfragment : constraint.fragment = "<string>".toList := by
      rw [← h, Schema.grammar, String.toList_ofList, Schema.fragment_string]
    cases constraint with
    | unconstrained => rfl
    | enum literals => cases hfragment
    | pattern expression => cases hfragment
    | format named => cases named <;> cases hfragment
  · rintro rfl
    rfl

/-- **What a string node comes to.** A node of type `string` is lowered whatever its keywords hold,
to the constraint that the rules of `Describes` give it and no other, and its text is `<string>`
exactly where they give none. -/
theorem lowerNode_string_describes (node : List (String × Document))
    (htype : node.lookup "type" = some (.string "string")) :
    ∃ constraint, (lowerNode (.object node)).result = .ok (.string constraint) ∧
      (∀ other, Describes node other ↔ other = constraint) ∧
      ((Schema.string constraint).grammar = "<string>" ↔ Describes node .unconstrained) := by
  refine ⟨stringConstraint node, ?_, fun _ => describes_iff, ?_⟩
  · rw [lowerNode_of_string htype, Lowering.result_completed]
    rfl
  · rw [grammar_eq_string_iff, describes_iff]
    exact eq_comm

/-- A string node with the given value of `format`. -/
def formatNode (value : Document) : List (String × Document) :=
  [("type", .string "string"), ("format", value)]

/-- A format given as a number says nothing about a string. -/
theorem formatNode_number :
    (formatNode (.number (.natural 7))).lookup "type" = some (.string "string") ∧
      ∃ constraint, (lowerNode (.object (formatNode (.number (.natural 7))))).result =
          .ok (.string constraint) ∧ (Schema.string constraint).grammar = "<string>" := by
  refine ⟨rfl, ?_⟩
  obtain ⟨constraint, hresult, -, htext⟩ :=
    lowerNode_string_describes (formatNode (.number (.natural 7))) rfl
  refine ⟨constraint, hresult, htext.2 (.unconstrained rfl rfl ?_)⟩
  intro value format hvalue hnames
  cases hvalue
  cases hnames

/-- A format that is no string can still count: an object with the member `date` does. -/
theorem formatNode_object_counts :
    (∀ name, Document.object [("date", .null)] ≠ .string name) ∧
      (lowerNode (.object (formatNode (.object [("date", .null)])))).result =
        .ok (.string (.format .date)) ∧
      (Schema.string (.format .date)).grammar = "<date>" := by
  exact ⟨nofun, rfl, rfl⟩

end SchemaGrammar
