import SchemaGrammar.Proofs.Consulted
import SchemaGrammar.Proofs.Context

/-!
# The mark of an optional property

A property that is not required carries a mark behind the text of its schema. The texts that a
grammar quotes may hold the mark as well, so it is the place of a mark and not its presence that
says something. The main result says of two things which mark goes with which.

* In a schema, whether a property is required decides about one mark and nothing else. A
  `PropertyPlace` is a schema with the schema and the flag of one typed property left open, at any
  depth, and the text around it is the same for every filling (`PropertyPlace.exists_texts`). No
  text of a schema ends in the last character of the mark (`getLast?_fragment_ne`), so the end of a
  member shows its flag.
* In a document, requiring one more name decides about the mark of that property. A
  `PropertyFrame` is an object node with the definition of one property left open, and
  `RequiresAlso.result_lowerNode` says what the node comes to with and without the name among the
  required ones, for every definition. That the rest of the document adds the same text in both
  cases is what contexts give (`Leads.exists_texts`).
-/

namespace SchemaGrammar

/-! ## The end of a member -/

/-- The text of a schema has a last character, and it is not that of the mark. -/
theorem exists_getLast?_fragment (schema : Schema) :
    ∃ last, schema.fragment.getLast? = some last ∧ last ≠ 'ε' := by
  cases schema with
  | null => exact ⟨'l', rfl, by decide⟩
  | boolean | integer | number => exact ⟨'>', rfl, by decide⟩
  | string constraint =>
    rw [Schema.fragment_string]
    cases constraint with
    | unconstrained => exact ⟨'>', rfl, by decide⟩
    | enum literals => exact ⟨']', List.getLast?_concat, by decide⟩
    | pattern expression => exact ⟨'>', List.getLast?_concat, by decide⟩
    | format named => cases named <;> exact ⟨'>', rfl, by decide⟩
  | array items cardinality => exact ⟨']', List.getLast?_concat, by decide⟩
  | object properties additional =>
    refine ⟨'\x7d', ?_, by decide⟩
    cases properties with
    | nil => rfl
    | cons first properties =>
      rw [Schema.fragment_object_cons, List.getLast?_append_of_ne_nil _ (List.cons_ne_nil _ _)]
      rfl

/-- No fragment ends as the optional mark does. -/
theorem getLast?_fragment_ne (schema : Schema) : schema.fragment.getLast? ≠ some 'ε' := by
  obtain ⟨last, hlast, hne⟩ := exists_getLast?_fragment schema
  rw [hlast]
  intro h
  exact hne (Option.some.inj h)

/-- The member of a required property ends as the text of its schema does. -/
theorem getLast?_member_required (name : String) (schema : Schema) :
    ((Property.typed schema true).member name).getLast? = schema.fragment.getLast? := by
  have hne : schema.fragment ≠ [] := by
    obtain ⟨last, hlast, -⟩ := exists_getLast?_fragment schema
    intro h
    rw [h] at hlast
    cases hlast
  rw [Property.member, if_pos rfl, List.append_nil, List.getLast?_append_of_ne_nil _ hne]

/-- The member of a property ends in the mark exactly when the property is not required. -/
theorem optionalMark_suffix_member_iff {name : String} {schema : Schema} {required : Bool} :
    optionalMark <:+ (Property.typed schema required).member name ↔ required = false := by
  cases required with
  | false => exact iff_of_true (List.suffix_append _ _) rfl
  | true =>
    refine iff_of_false ?_ (by decide)
    rintro ⟨start, hstart⟩
    have hlast : ((Property.typed schema true).member name).getLast? = some 'ε' := by
      rw [← hstart, optionalMark, List.getLast?_append_of_ne_nil _ (List.cons_ne_nil _ _)]
      rfl
    rw [getLast?_member_required] at hlast
    exact getLast?_fragment_ne schema hlast

/-! ## Places in a schema -/

/-- A schema with the schema and the flag of one typed property called `name` left open. The text of
what an object admits besides its properties is not written unless it has some, so an object on the
way through it has a first property. -/
inductive PropertyPlace (name : String) where
  | member (earlier later : List (String × Property)) (additional : Additional)
  | items (inner : PropertyPlace name) (cardinality : Cardinality)
  | property (earlier : List (String × Property)) (outer : String) (inner : PropertyPlace name)
      (required : Bool) (later : List (String × Property)) (additional : Additional)
  | additional (first : String × Property) (others : List (String × Property))
      (inner : PropertyPlace name)

/-- The schema with the open property filled in. -/
def PropertyPlace.fill {name : String} : PropertyPlace name → Schema → Bool → Schema
  | .member earlier later rest, schema, required =>
    .object (earlier ++ (name, .typed schema required) :: later) rest
  | .items inner cardinality, schema, required => .array (inner.fill schema required) cardinality
  | .property earlier outer inner flag later rest, schema, required =>
    .object (earlier ++ (outer, .typed (inner.fill schema required) flag) :: later) rest
  | .additional first others inner, schema, required =>
    .object (first :: others) (.schema (inner.fill schema required))

/-- The text around the member of an open property does not depend on what fills it. -/
theorem PropertyPlace.exists_texts {name : String} (place : PropertyPlace name) :
    ∃ start rest : List Char, ∀ schema required, (place.fill schema required).fragment =
      start ++ (Property.typed schema required).member name ++ rest := by
  induction place with
  | member earlier later additional =>
    obtain ⟨pre, post, htext⟩ := exists_fragment_member earlier later name additional
    exact ⟨pre, post, fun schema required => htext (.typed schema required)⟩
  | items inner cardinality ih =>
    obtain ⟨start, rest, htext⟩ := ih
    refine ⟨'[' :: start, rest ++ cardinality.quantifier ++ [']'], fun schema required => ?_⟩
    rw [PropertyPlace.fill, Schema.fragment_array, htext]
    simp only [List.cons_append, List.append_assoc]
  | property earlier outer inner flag later additional ih =>
    obtain ⟨start, rest, htext⟩ := ih
    obtain ⟨pre, post, houter⟩ := exists_fragment_property earlier later outer flag additional
    refine ⟨pre ++ start, rest ++ post, fun schema required => ?_⟩
    rw [PropertyPlace.fill, houter, htext]
    simp only [List.append_assoc]
  | additional first others inner ih =>
    obtain ⟨start, rest, htext⟩ := ih
    obtain ⟨pre, post, houter⟩ := exists_fragment_additional (List.cons_ne_nil first others)
    refine ⟨pre ++ start, rest ++ post, fun schema required => ?_⟩
    rw [PropertyPlace.fill, houter, htext]
    simp only [List.append_assoc]

/-- Between two fixed texts, an open property is the text of its schema, with the mark behind it if
it is not required. -/
theorem PropertyPlace.exists_grammars {name : String} (place : PropertyPlace name) :
    ∃ pre post : String, ∀ schema,
      (place.fill schema true).grammar = pre ++ schema.grammar ++ post ∧
      (place.fill schema false).grammar = pre ++ schema.grammar ++ " | ε" ++ post := by
  obtain ⟨start, rest, htext⟩ := place.exists_texts
  have hmark : String.ofList optionalMark = " | ε" := rfl
  refine ⟨String.ofList (start ++ (inQuotes name ++ [' ', ':', ' '])), String.ofList rest,
    fun schema => ?_⟩
  simp only [Schema.grammar, htext, Property.member, ← hmark, ← String.ofList_append,
    List.append_assoc, if_true, List.nil_append, Bool.false_eq_true, if_false, and_self]

/-! ## Requiring one more name -/

/-- An object node with the definition of the property `name` left open: the members around
`properties` and the definitions around that of `name`, which is declared once. -/
structure PropertyFrame (name : String) where
  before : List (String × Document)
  after : List (String × Document)
  earlier : List (String × Document)
  later : List (String × Document)
  properties_not_mem : "properties" ∉ Entries.names before
  not_mem_earlier : name ∉ Entries.names earlier
  not_mem_later : name ∉ Entries.names later

namespace PropertyFrame

variable {name : String}

/-- The members of the node besides `properties`. -/
def others (frame : PropertyFrame name) : List (String × Document) := frame.before ++ frame.after

/-- The node with the given definition. -/
def fill (frame : PropertyFrame name) (definition : Document) : Document :=
  .object (frame.before ++
    ("properties", .object (frame.earlier ++ (name, definition) :: frame.later)) :: frame.after)

/-- The second node is the first with `name` as one more entry of `required`, at any place of the
list; where there is no list, `required` becomes one with this entry. -/
structure RequiresAlso (frame frame' : PropertyFrame name) : Prop where
  earlier : frame'.earlier = frame.earlier
  later : frame'.later = frame.later
  others : ∀ key, key ≠ "required" → frame'.others.lookup key = frame.others.lookup key
  required :
    (∃ items items', frame.others.lookup "required" = some (.list (items ++ items')) ∧
      frame'.others.lookup "required" = some (.list (items ++ .string name :: items'))) ∨
    (∀ items, frame.others.lookup "required" ≠ some (.list items)) ∧
      frame'.others.lookup "required" = some (.list [.string name])

section
variable {frame frame' : PropertyFrame name}

/-- Nothing but the name becomes required. -/
theorem RequiresAlso.requires_iff (h : frame.RequiresAlso frame') {other : String} :
    Requires frame'.others other ↔ other = name ∨ Requires frame.others other := by
  unfold Requires
  rcases h.required with ⟨items, items', hlist, hlist'⟩ | ⟨hnone, hlist'⟩
  · simp [hlist, hlist', or_left_comm]
  · simp [hnone, hlist']

/-- Whether another name is required does not change. -/
theorem RequiresAlso.contains_of_ne (h : frame.RequiresAlso frame') {other : String}
    (hne : other ≠ name) : (requiredNames frame'.others).contains other =
      (requiredNames frame.others).contains other := by
  rw [Bool.eq_iff_iff, contains_requiredNames, contains_requiredNames, h.requires_iff,
    or_iff_right hne]

end

end PropertyFrame

/-- Definitions come to the same when the same of their names are required. -/
theorem lowerDefinitions_congr {required required' : List String}
    {definitions : List (String × Document)}
    (h : ∀ name ∈ Entries.names definitions, required'.contains name = required.contains name) :
    lowerDefinitions required' definitions = lowerDefinitions required definitions := by
  induction definitions with
  | nil => rfl
  | cons first rest ih =>
    obtain ⟨name, definition⟩ := first
    rw [lowerDefinitions, lowerDefinitions, h name List.mem_cons_self,
      ih fun n hn => h n (List.mem_cons_of_mem _ hn)]

namespace PropertyFrame

variable {name : String} {frame frame' : PropertyFrame name} {role : Role}

/-- A node that is lowered for some definition has its other parts lowered. -/
theorem exists_parts (hopen : Opens role "object" frame.others) {definition : Document}
    (hfits : (Role.property name).Fits definition) {schema : Schema}
    (hok : (lowerNode (frame.fill definition)).result = .ok schema) :
    ∃ ps qs additional,
      (lowerDefinitions (requiredNames frame.others) frame.earlier).result = .ok ps ∧
      (lowerDefinitions (requiredNames frame.others) frame.later).result = .ok qs ∧
      (lowerAdditional frame.others).result = .ok additional := by
  rw [fill, result_propertyFrame hopen frame.properties_not_mem hfits] at hok
  obtain ⟨ps, hps, hdefinition⟩ := ok_of_bind hok
  obtain ⟨_, -, hlater⟩ := ok_of_bind hdefinition
  obtain ⟨qs, hqs, hrest⟩ := ok_of_bind hlater
  obtain ⟨additional, hadditional, -⟩ := ok_of_map hrest
  exact ⟨ps, qs, additional, hps, hqs, hadditional⟩

/-- A node whose other parts are lowered comes to what its open definition comes to, put among
them. -/
theorem result_fill (hopen : Opens role "object" frame.others) {ps qs : List (String × Property)}
    {additional : Additional}
    (hps : (lowerDefinitions (requiredNames frame.others) frame.earlier).result = .ok ps)
    (hqs : (lowerDefinitions (requiredNames frame.others) frame.later).result = .ok qs)
    (hadditional : (lowerAdditional frame.others).result = .ok additional) {definition : Document}
    (hfits : (Role.property name).Fits definition) :
    (lowerNode (frame.fill definition)).result =
      ((lowerNode definition).result.mapError (.inProperty name)).map fun schema =>
        .object (ps ++ (name, .typed schema ((requiredNames frame.others).contains name)) :: qs)
          additional := by
  unfold others at hps hqs hadditional ⊢
  rw [fill, result_propertyFrame hopen frame.properties_not_mem hfits, hps, hqs, hadditional]
  cases (lowerNode definition).result <;> rfl

/-- With one more name required, a node still opens. -/
theorem RequiresAlso.opens (h : frame.RequiresAlso frame')
    (hopen : Opens role "object" frame.others) : Opens role "object" frame'.others where
  type := by rw [h.others _ (by decide), hopen.type]
  unreferenced n hrole := by rw [h.others _ (by decide), hopen.unreferenced n hrole]

/-- What a node that requires one name more comes to, beside what it came to without. If the node
is lowered for some definition, then there is a place that every definition fills when it is
lowered, as a required property in the one node and not in the other. -/
theorem RequiresAlso.result_lowerNode (h : frame.RequiresAlso frame')
    (hopen : Opens role "object" frame.others) (hname : ¬ Requires frame.others name)
    {definition₀ : Document} (hfits₀ : (Role.property name).Fits definition₀) {schema₀ : Schema}
    (hok : (lowerNode (frame.fill definition₀)).result = .ok schema₀) :
    ∃ place : PropertyPlace name, ∀ definition, (Role.property name).Fits definition →
      (lowerNode (frame.fill definition)).result =
        ((lowerNode definition).result.mapError (.inProperty name)).map (place.fill · false) ∧
      (lowerNode (frame'.fill definition)).result =
        ((lowerNode definition).result.mapError (.inProperty name)).map (place.fill · true) := by
  obtain ⟨ps, qs, additional, hps, hqs, hadditional⟩ := exists_parts hopen hfits₀ hok
  have hflag : (requiredNames frame.others).contains name = false := by
    rw [Bool.eq_false_iff, Ne, contains_requiredNames]
    exact hname
  have hflag' : (requiredNames frame'.others).contains name = true := by
    rw [contains_requiredNames, h.requires_iff]
    exact .inl rfl
  have hps' : (lowerDefinitions (requiredNames frame'.others) frame'.earlier).result = .ok ps := by
    rw [h.earlier, lowerDefinitions_congr, hps]
    intro n hn
    exact h.contains_of_ne fun hne => frame.not_mem_earlier (hne ▸ hn)
  have hqs' : (lowerDefinitions (requiredNames frame'.others) frame'.later).result = .ok qs := by
    rw [h.later, lowerDefinitions_congr, hqs]
    intro n hn
    exact h.contains_of_ne fun hne => frame.not_mem_later (hne ▸ hn)
  have hadditional' : (lowerAdditional frame'.others).result = .ok additional := by
    rw [lowerAdditional_eq, h.others _ (by decide), ← lowerAdditional_eq, hadditional]
  refine ⟨.member ps qs additional, fun definition hfits => ⟨?_, ?_⟩⟩
  · rw [result_fill hopen hps hqs hadditional hfits, hflag]
    rfl
  · rw [result_fill (h.opens hopen) hps' hqs' hadditional' hfits, hflag']
    rfl

end PropertyFrame

/-! ## The mark in a document -/

/-- A context that leads to an object of type `object` makes a whole document of it. -/
theorem Leads.result_lowerRoot_of_opens {role : Role} {C : Context} {names : List String}
    (h : Leads .root C names role) {members : List (String × Document)}
    (hopen : Opens role "object" members) :
    (lowerRoot (C.fill (.object members))).result =
      (lowerNode (C.fill (.object members))).result := by
  cases C with
  | hole =>
    cases h
    exact result_lowerRoot_of_object hopen.type
  | member | item => exact h.result_lowerRoot nofun _

/-- A node that opens fits where it stands. -/
theorem Opens.fits_object {role : Role} {type : String} {members : List (String × Document)}
    (h : Opens role type members) : role.Fits (.object members) := by
  refine ⟨members, rfl, ?_, h.unreferenced⟩
  rintro rfl
  cases h.type

/-- A document that compiles with an object in its hole puts the text of any object there between
two fixed texts, and names its error. -/
theorem Leads.exists_texts {role : Role} {C : Context} {names : List String}
    (h : Leads .root C names role) {members₀ : List (String × Document)}
    (hopen₀ : Opens role "object" members₀) {grammar₀ : String}
    (hok : compile (C.fill (.object members₀)) = .ok grammar₀) :
    ∃ pre post : String, ∀ members, Opens role "object" members →
      compile (C.fill (.object members)) =
        ((lowerNode (.object members)).result.mapError (CompileError.along names)).map
          fun schema => pre ++ schema.grammar ++ post := by
  obtain ⟨schema₀, hschema₀, -⟩ := ok_of_map hok
  rw [h.result_lowerRoot_of_opens hopen₀] at hschema₀
  obtain ⟨around, pre, post, htext, hresult⟩ := h.transparent hopen₀.fits_object hschema₀
  refine ⟨String.ofList pre, String.ofList post, fun members hopen => ?_⟩
  have hgrammar : ∀ schema, (around schema).grammar =
      String.ofList pre ++ schema.grammar ++ String.ofList post := by
    intro schema
    rw [Schema.grammar, Schema.grammar, htext, String.ofList_append, String.ofList_append]
  rw [compile, h.result_lowerRoot_of_opens hopen, hresult _ hopen.fits_object]
  cases (lowerNode (.object members)).result with
  | error e => rfl
  | ok schema => exact congrArg Except.ok (hgrammar schema)

namespace PropertyFrame

variable {name : String} {frame frame' : PropertyFrame name} {role : Role}

/-- A frame opens with any definition in it. -/
theorem opens_fill (hopen : Opens role "object" frame.others) (definition : Document) :
    Opens role "object" (frame.before ++ ("properties",
      .object (frame.earlier ++ (name, definition) :: frame.later)) :: frame.after) :=
  Opens.filled hopen (by decide) (by decide) _

/-- In a document, requiring one name more takes away the mark behind the text of that property. The
texts before and after do not depend on the definition of the property, so it is this mark and no
other that is gone. -/
theorem RequiresAlso.exists_texts (h : frame.RequiresAlso frame') {C : Context}
    {names : List String} (hC : Leads .root C names role)
    (hopen : Opens role "object" frame.others) (hname : ¬ Requires frame.others name) :
    ∃ pre post : String, ∀ definition grammar, (Role.property name).Fits definition →
      compile (C.fill (frame.fill definition)) = .ok grammar →
      ∃ schema, (lowerNode definition).result = .ok schema ∧
        grammar = pre ++ schema.grammar ++ " | ε" ++ post ∧
        compile (C.fill (frame'.fill definition)) = .ok (pre ++ schema.grammar ++ post) := by
  by_cases hsome : ∃ definition grammar, (Role.property name).Fits definition ∧
      compile (C.fill (frame.fill definition)) = .ok grammar
  · obtain ⟨definition₀, grammar₀, hfits₀, hcompile₀⟩ := hsome
    obtain ⟨pre, post, houter⟩ := hC.exists_texts (opens_fill hopen definition₀) hcompile₀
    have hdocument : ∀ frame : PropertyFrame name, Opens role "object" frame.others →
        ∀ definition, compile (C.fill (frame.fill definition)) =
          ((lowerNode (frame.fill definition)).result.mapError (CompileError.along names)).map
            fun schema => pre ++ schema.grammar ++ post :=
      fun frame hopen definition => houter _ (opens_fill hopen definition)
    obtain ⟨_, hnode₀, -⟩ := ok_of_map ((hdocument frame hopen definition₀).symm.trans hcompile₀)
    obtain ⟨place, hplace⟩ := h.result_lowerNode hopen hname hfits₀ (ok_of_mapError hnode₀)
    obtain ⟨start, rest, htext⟩ := place.exists_grammars
    refine ⟨pre ++ start, rest ++ post, fun definition grammar hfits hcompile => ?_⟩
    obtain ⟨hnode, hnode'⟩ := hplace definition hfits
    obtain ⟨object, hobject, rfl⟩ := ok_of_map ((hdocument frame hopen _).symm.trans hcompile)
    obtain ⟨schema, hschema, rfl⟩ := ok_of_map (hnode.symm.trans (ok_of_mapError hobject))
    refine ⟨schema, ok_of_mapError hschema, ?_, ?_⟩
    · simp only [(htext schema).2, String.append_assoc]
    · rw [hdocument frame' (h.opens hopen), hnode', hschema]
      simp only [Except.map, Except.mapError, (htext schema).1, String.append_assoc]
  · refine ⟨"", "", fun definition grammar hfits hcompile => ?_⟩
    exact absurd ⟨definition, grammar, hfits, hcompile⟩ hsome

end PropertyFrame

/-- **The mark of an optional property.** No text of a schema ends in the last character of the
mark. At every place of a schema the member of a typed property ends in the mark exactly when it is
not required, and without the flag the text has the mark behind the schema of the property and is
the same otherwise. In a document that compiles, requiring the name of a typed property that was not
required, at any position, takes away the mark behind the text of its definition and nothing
else. -/
theorem optionalMark_follows_flag :
    (∀ schema : Schema, schema.fragment.getLast? ≠ some 'ε') ∧
    (∀ (name : String) (place : PropertyPlace name), ∃ start rest : List Char, ∀ schema : Schema,
      (∀ required, (place.fill schema required).fragment =
          start ++ (Property.typed schema required).member name ++ rest ∧
        (optionalMark <:+ (Property.typed schema required).member name ↔ required = false)) ∧
      (place.fill schema true).fragment =
        start ++ inQuotes name ++ [' ', ':', ' '] ++ schema.fragment ++ rest ∧
      (place.fill schema false).fragment =
        start ++ inQuotes name ++ [' ', ':', ' '] ++ schema.fragment ++ optionalMark ++ rest) ∧
    ∀ (C : Context) (names : List String) (role : Role) (name : String)
      (frame frame' : PropertyFrame name), Leads .root C names role →
      Opens role "object" frame.others → ¬ Requires frame.others name →
      frame.RequiresAlso frame' →
      ∃ pre post : String, ∀ definition grammar, (Role.property name).Fits definition →
        compile (C.fill (frame.fill definition)) = .ok grammar →
        ∃ schema, (lowerNode definition).result = .ok schema ∧
          grammar = pre ++ schema.grammar ++ " | ε" ++ post ∧
          compile (C.fill (frame'.fill definition)) = .ok (pre ++ schema.grammar ++ post) := by
  refine ⟨getLast?_fragment_ne, fun name place => ?_, ?_⟩
  · obtain ⟨start, rest, htext⟩ := place.exists_texts
    refine ⟨start, rest, fun schema => ⟨fun required => ?_, ?_, ?_⟩⟩
    · exact ⟨htext schema required, optionalMark_suffix_member_iff⟩
    · rw [htext, Property.member]
      simp
    · rw [htext, Property.member]
      simp
  · intro C names role name frame frame' hC hopen hname h
    exact h.exists_texts hC hopen hname

/-- An object node with an open property whose name holds the mark, beside one that is required or
not as the list says. -/
def markedName (required : List Document) : PropertyFrame "on | ε" where
  before := [("type", .string "object")]
  after := [("required", .list required)]
  earlier := [("id", .object [("type", .string "integer")])]
  later := []
  properties_not_mem := by decide
  not_mem_earlier := by decide
  not_mem_later := by decide

/-- A string node whose literal holds the mark. -/
def markedLiteral : Document :=
  .object [("type", .string "string"), ("enum", .list [.string "a | ε"])]

/-- The grammar of a list of such objects, with the given text behind the open property. -/
def markedGrammar (mark : String) : String :=
  "\x7b \"id\" : <integer> | ε, \"tags\" : [\x7b \"id\" : <integer>, " ++
    "\"on | ε\" : [\"a | ε\"]" ++ mark ++ " \x7d+] \x7d"

/-- In a list of objects one mark goes when the property is required, and those in its name and in
its literal stay. -/
theorem markedName_optionalMark :
    compile (listContext.fill ((markedName [.string "id"]).fill markedLiteral)) =
      .ok (markedGrammar " | ε") ∧
    ∃ pre post : String, markedGrammar " | ε" = pre ++ "[\"a | ε\"]" ++ " | ε" ++ post ∧
      compile (listContext.fill
        ((markedName [.string "on | ε", .string "id"]).fill markedLiteral)) =
          .ok (pre ++ "[\"a | ε\"]" ++ post) := by
  refine ⟨rfl, ?_⟩
  have hname : ¬ Requires (markedName [.string "id"]).others "on | ε" := by
    rintro ⟨items, hitems, hmem⟩
    cases hitems
    simp at hmem
  have hedit : (markedName [.string "id"]).RequiresAlso
      (markedName [.string "on | ε", .string "id"]) := by
    refine ⟨rfl, rfl, fun key hkey => ?_, .inl ⟨[], [.string "id"], rfl, rfl⟩⟩
    simp [markedName, PropertyFrame.others, Entries.lookup_cons, hkey]
  obtain ⟨pre, post, h⟩ := optionalMark_follows_flag.2.2 listContext ["tags"] .items "on | ε" _ _
    listContext_leads ⟨rfl, nofun⟩ hname hedit
  obtain ⟨schema, hschema, htext, hcompile⟩ :=
    h markedLiteral _ ⟨_, rfl, nofun, fun _ _ => rfl⟩ rfl
  cases hschema
  exact ⟨pre, post, htext, hcompile⟩

end SchemaGrammar
