import SchemaGrammar.Proofs.CompactText
import SchemaGrammar.Proofs.StringNodes
import SchemaGrammar.Schema.Equivalence

/-!
# Quoted values

Enumerated literals, patterns, reference targets and the names of unknown types show a value that is
no string by its compact text. That text reads back as the value if the reader takes it
(`Document.Quotable`), so it stands for that value alone: schemas that show different patterns
differ, and so do errors about different types.
-/

namespace SchemaGrammar

/-- A value that is shown by its compact text and can be read back from it: no string, without
floating-point numbers and repeated names, and nested at most 127 levels deep. -/
structure Document.Quotable (d : Document) : Prop where
  not_string : ∀ s, d ≠ .string s
  floatFree : d.FloatFree
  distinct : d.Distinct
  depth_le : d.depth ≤ 127

namespace Document

/-- The literal text of anything but a string is its compact text. -/
theorem literalText_of_not_string {d : Document} (h : ∀ s, d ≠ .string s) :
    d.literalText = d.text := by
  cases d with
  | string s => exact absurd rfl (h s)
  | null | bool | number | list | object => rfl

/-- The text by which a value is shown is read as that value. -/
theorem Quotable.parse_literalText {d : Document} (h : d.Quotable) :
    SourceFormat.json.parse d.literalText = .ok d := by
  have hread := Json.read_text (d := ⟨d, h.distinct⟩) h.floatFree h.depth_le
  rw [literalText_of_not_string h.not_string]
  simp only [SourceFormat.parse, hread]

/-- Different values are shown by different texts. -/
theorem Quotable.literalText_ne {v w : Document} (hv : v.Quotable) (hw : w.Quotable) (hne : v ≠ w) :
    v.literalText ≠ w.literalText := by
  intro heq
  have hparse := hv.parse_literalText
  rw [heq, hw.parse_literalText] at hparse
  exact hne (Except.ok.inj hparse).symm

end Document

/-! ## Where values are quoted -/

/-- The elements of an `enum` value: those of a list, or the value itself. -/
def enumElements : Document → List Document
  | .list items => items
  | other => [other]

section
variable {node : List (String × Document)} {value : Document}

/-- A string node is lowered to what its keywords say. -/
theorem result_lowerNode_of_describes {constraint : StringConstraint}
    (htype : node.lookup "type" = some (.string "string")) (h : Describes node constraint) :
    (lowerNode (.object node)).result = .ok (.string constraint) := by
  rw [lowerNode_of_string htype, Lowering.result_completed, h.eq_stringConstraint]
  rfl

/-- The elements of `enum` are shown as literals, each in its place. -/
theorem describes_enumElements (h : node.lookup "enum" = some value) :
    Describes node (.enum ((enumElements value).map Document.literalText)) := by
  cases value with
  | list items => exact .enumList h
  | null | bool | number | string | object => exact .enumValue h nofun

/-- The target of a reference is shown. -/
theorem result_propertyWith_of_ref (h : node.lookup "$ref" = some value) (name : String)
    (required : Bool) (lowered : Lowering Schema) :
    (propertyWith name required lowered (.object node)).result = .ok (.ref value.literalText) := by
  rw [propertyWith, h]
  rfl

/-- A type that is no string is an error, which shows it. -/
theorem result_lowerNode_of_type (h : node.lookup "type" = some value)
    (hvalue : ∀ s, value ≠ .string s) :
    (lowerNode (.object node)).result = .error (.unsupportedType value.literalText) := by
  have hkind : kindOf node = .error (.unsupportedType value.text) := by
    rw [kindOf, h]
    cases value with
    | string s => exact absurd rfl (hvalue s)
    | null | bool | number | list | object => rfl
  rw [lowerNode, hkind, Document.literalText_of_not_string hvalue]
  rfl

end

/-- A string node that has the given pattern and no `enum`. -/
structure PatternNode (node : List (String × Document)) (pattern : Document) : Prop where
  type_eq : node.lookup "type" = some (.string "string")
  enum_eq : node.lookup "enum" = none
  pattern_eq : node.lookup "pattern" = some pattern

/-- A pattern node is lowered to the literal text of its pattern. -/
theorem PatternNode.result_lowerNode {node : List (String × Document)} {pattern : Document}
    (h : PatternNode node pattern) :
    (lowerNode (.object node)).result = .ok (.string (.pattern pattern.literalText)) :=
  result_lowerNode_of_describes h.type_eq (.pattern h.enum_eq h.pattern_eq)

/-- **Quoted values are faithful.** The text that shows a value reads as that value, members in
order. It is what stands for the value as an element of `enum`, as a pattern, as the target of a
reference and in the error about its type. A different value has a different text, so string nodes
with different patterns are lowered to different schemas, and nodes with different types that are no
strings fail with different errors. -/
theorem quoted_value_faithful (v : Document) (hv : v.Quotable) :
    SourceFormat.json.parse v.literalText = .ok v ∧
    (∀ node values, node.lookup "type" = some (.string "string") →
      node.lookup "enum" = some values →
        ∃ literals, (lowerNode (.object node)).result = .ok (.string (.enum literals)) ∧
          ∀ i : Nat, (enumElements values)[i]? = some v → literals[i]? = some v.literalText) ∧
    (∀ node, PatternNode node v →
      (lowerNode (.object node)).result = .ok (.string (.pattern v.literalText))) ∧
    (∀ name required node, node.lookup "$ref" = some v →
      (propertyWith name required (lowerNode (.object node)) (.object node)).result =
        .ok (.ref v.literalText)) ∧
    (∀ node, node.lookup "type" = some v →
      (lowerNode (.object node)).result = .error (.unsupportedType v.literalText)) ∧
    ∀ w : Document, w.Quotable → v ≠ w →
      v.literalText ≠ w.literalText ∧
      (∀ node node', PatternNode node v → PatternNode node' w →
        ∃ s t, (lowerNode (.object node)).result = .ok s ∧
          (lowerNode (.object node')).result = .ok t ∧ s ≠ t ∧ s.equiv t = false) ∧
      ∀ node node', node.lookup "type" = some v → node'.lookup "type" = some w →
        ∃ name name', (lowerNode (.object node)).result = .error (.unsupportedType name) ∧
          (lowerNode (.object node')).result = .error (.unsupportedType name') ∧ name ≠ name' := by
  refine ⟨hv.parse_literalText, ?_, fun _ => PatternNode.result_lowerNode, ?_, ?_, ?_⟩
  · intro node values htype henum
    refine ⟨_, result_lowerNode_of_describes htype (describes_enumElements henum), ?_⟩
    intro i hi
    rw [List.getElem?_map, hi, Option.map_some]
  · intro name required node href
    exact result_propertyWith_of_ref href name required _
  · intro node htype
    exact result_lowerNode_of_type htype hv.not_string
  · intro w hw hne
    have htext := hv.literalText_ne hw hne
    refine ⟨htext, ?_, ?_⟩
    · intro node node' hnode hnode'
      refine ⟨_, _, hnode.result_lowerNode, hnode'.result_lowerNode, ?_, ?_⟩
      · intro heq
        injection heq with heq
        injection heq with heq
        exact htext heq
      · simp [Schema.equiv, htext]
    · intro node node' hnode hnode'
      exact ⟨_, _, result_lowerNode_of_type hnode hv.not_string,
        result_lowerNode_of_type hnode' hw.not_string, htext⟩

/-- The least integer of a document, under a name with a quote and a control character. -/
def leastMember : String × Document :=
  ("\"least\x01", .number (.negative ⟨0x7fffffffffffffff, by decide⟩))

/-- The greatest integer of a document, in a list within a list. -/
def greatestMember : String × Document :=
  ("greatest", .list [.list [.number (.natural ⟨0xffffffffffffffff, by decide⟩)], .null])

/-- Two objects that differ in the order of their members only are read back in their own order, and
string nodes that have them as patterns are lowered to different schemas. -/
theorem swapped_members_faithful :
    (Document.object [leastMember, greatestMember]).Quotable ∧
      (Document.object [greatestMember, leastMember]).Quotable ∧
      SourceFormat.json.parse (Document.object [leastMember, greatestMember]).literalText =
        .ok (.object [leastMember, greatestMember]) ∧
      (lowerNode (.object [("type", .string "string"),
        ("pattern", .object [leastMember, greatestMember])])).result ≠
      (lowerNode (.object [("type", .string "string"),
        ("pattern", .object [greatestMember, leastMember])])).result := by
  have hfloat : leastMember.2.FloatFree ∧ greatestMember.2.FloatFree := by
    refine ⟨.number (fun _ h => nomatch h), .list ?_⟩
    simp only [List.forall_mem_cons]
    exact ⟨.list (List.forall_mem_singleton.2 (.number (fun _ h => nomatch h))), .null, nofun⟩
  have hdistinct : leastMember.2.Distinct ∧ greatestMember.2.Distinct := by
    refine ⟨.number _, .list ?_⟩
    simp only [List.forall_mem_cons]
    exact ⟨.list (List.forall_mem_singleton.2 (.number _)), .null, nofun⟩
  have hv : (Document.object [leastMember, greatestMember]).Quotable :=
    ⟨nofun, .object (by simp [hfloat]), .object (by decide) (by simp [hdistinct]), by decide⟩
  have hw : (Document.object [greatestMember, leastMember]).Quotable :=
    ⟨nofun, .object (by simp [hfloat]), .object (by decide) (by simp [hdistinct]), by decide⟩
  have hne :
      Document.object [leastMember, greatestMember] ≠ .object [greatestMember, leastMember] := by
    simp [leastMember, greatestMember]
  obtain ⟨hparse, -, -, -, -, hother⟩ := quoted_value_faithful _ hv
  obtain ⟨-, hpatterns, -⟩ := hother _ hw hne
  obtain ⟨s, t, hs, ht, hst, -⟩ := hpatterns
    [("type", .string "string"), ("pattern", .object [leastMember, greatestMember])]
    [("type", .string "string"), ("pattern", .object [greatestMember, leastMember])]
    ⟨rfl, rfl, rfl⟩ ⟨rfl, rfl, rfl⟩
  refine ⟨hv, hw, hparse, ?_⟩
  rw [hs, ht]
  intro heq
  exact hst (Except.ok.inj heq)

end SchemaGrammar
