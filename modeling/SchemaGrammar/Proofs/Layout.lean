import Mathlib.Data.List.Chain
import Mathlib.Data.List.Infix
import SchemaGrammar.Grammar.Layout
import SchemaGrammar.Proofs.Context

/-!
# What a layout does to names, literals and patterns

A grammar carries the names, literals and patterns of its schema as they are written, each in a
piece of text that marks it. `Schema.Shows` lists these pieces, and `Schema.Shows.infix_fragment`
finds each in the text. The layout of a grammar does not tell such a piece from the text around it.
The main result says what becomes of it: the layout carries each piece laid out by itself, so it
carries the piece as it is whenever the piece is `Unbroken`, and a piece on one line only then.

The three substitutions are first shown to be one pass over the text (`layoutChars_eq_breakLines`),
so that the layout of a text can be cut wherever no comma is parted from its blank.
-/

namespace SchemaGrammar

/-! ## The layout as one pass -/

/-- What a layout makes of a character that is no comma before a blank. -/
def breakAround (c : Char) : List Char :=
  if c = '\x7b' then ['\x7b', '\n', ' ', ' '] else if c = '\x7d' then ['\n', '\x7d'] else [c]

/-- The layout of a text in one pass. -/
def breakLines : List Char → List Char
  | [] => []
  | ',' :: ' ' :: text => [',', '\n', ' ', ' '] ++ breakLines text
  | c :: text => breakAround c ++ breakLines text

/-- Braces are broken without regard to what stands around them. -/
theorem breakBraces_eq_flatMap (text : List Char) :
    breakBeforeClosing (breakAfterOpening text) = text.flatMap breakAround := by
  rw [breakBeforeClosing, breakAfterOpening, List.flatMap_assoc]
  congr 1
  funext c
  unfold breakAround
  split <;> simp

/-- The first character after the braces are broken is a blank only if it was one. -/
theorem head?_flatMap_breakAround {text : List Char}
    (h : (text.flatMap breakAround).head? = some ' ') : text.head? = some ' ' := by
  cases text with
  | nil => cases h
  | cons c text =>
    rw [List.flatMap_cons, breakAround] at h
    split at h
    · cases h
    · split at h
      · cases h
      · exact h

/-- What is no comma before a blank is left as it is. -/
theorem breakAfterComma_cons {c : Char} {text : List Char} (h : c = ',' → text.head? ≠ some ' ') :
    breakAfterComma (c :: text) = c :: breakAfterComma text := by
  rw [breakAfterComma.eq_3]
  rintro rest rfl rfl
  exact h rfl rfl

/-- The three substitutions, one after another, are one pass: none makes or takes away a place where
another one applies. -/
theorem layoutChars_eq_breakLines (text : List Char) : layoutChars text = breakLines text := by
  rw [layoutChars, breakBraces_eq_flatMap]
  fun_induction breakLines text with
  | case1 => rfl
  | case2 text ih =>
    rw [← ih]
    rfl
  | case3 c text hcomma ih =>
    rw [← ih, List.flatMap_cons]
    unfold breakAround
    split
    · simp [breakAfterComma]
    · split
      · simp [breakAfterComma]
      · refine breakAfterComma_cons fun hc hblank => ?_
        obtain ⟨rest, rfl⟩ : ∃ rest, text = ' ' :: rest := by
          simpa [List.head?_eq_some_iff] using head?_flatMap_breakAround hblank
        exact hcomma rest hc rfl

/-- A layout can be cut anywhere but between a comma and its blank. -/
theorem breakLines_append {before after : List Char}
    (h : before.getLast? = some ',' → after.head? ≠ some ' ') :
    breakLines (before ++ after) = breakLines before ++ breakLines after := by
  fun_induction breakLines before with
  | case1 => rfl
  | case2 text ih =>
    rw [List.cons_append, List.cons_append, breakLines, ih, List.append_assoc]
    intro hlast
    refine h ?_
    rw [List.getLast?_cons_cons, List.getLast?_cons, hlast]
    rfl
  | case3 c text hcomma ih =>
    rw [List.cons_append, breakLines.eq_3, ih, List.append_assoc]
    · intro hlast
      refine h ?_
      rw [List.getLast?_cons, hlast]
      rfl
    · intro rest hc htext
      cases text with
      | nil =>
        rw [List.nil_append] at htext
        subst hc htext
        exact h rfl rfl
      | cons d text =>
        cases htext
        exact hcomma text hc rfl

/-! ## Texts that stay as they are -/

/-- A text without a place where a layout breaks the line. -/
def Unbroken (text : List Char) : Prop :=
  '\x7b' ∉ text ∧ '\x7d' ∉ text ∧ ¬ [',', ' '] <:+: text

instance (text : List Char) : Decidable (Unbroken text) :=
  inferInstanceAs (Decidable (_ ∧ _))

/-- What an unbroken text begins with can be left out. -/
theorem Unbroken.tail {c : Char} {text : List Char} (h : Unbroken (c :: text)) : Unbroken text :=
  ⟨fun hmem => h.1 (List.mem_cons_of_mem _ hmem), fun hmem => h.2.1 (List.mem_cons_of_mem _ hmem),
    fun hpart => h.2.2 (hpart.trans (List.suffix_cons c text).isInfix)⟩

/-- A text that asks for no break is left as it is. -/
theorem breakLines_of_unbroken {text : List Char} (h : Unbroken text) : breakLines text = text := by
  fun_induction breakLines text with
  | case1 => rfl
  | case2 text ih => exact absurd ⟨[], text, rfl⟩ h.2.2
  | case3 c text hcomma ih =>
    obtain ⟨hopen, hclose⟩ : c ≠ '\x7b' ∧ c ≠ '\x7d' :=
      ⟨fun hc => h.1 (hc ▸ List.mem_cons_self), fun hc => h.2.1 (hc ▸ List.mem_cons_self)⟩
    rw [ih h.tail, breakAround, if_neg hopen, if_neg hclose]
    rfl

/-! ## What a layout cannot contain -/

/-- Which character may follow which in a layout: a line feed and nothing else after an opening
brace, a closing brace after a line feed only, and no blank after a comma. -/
def MayFollow (c d : Char) : Prop :=
  (c = '\x7b' → d = '\n') ∧ (d = '\x7d' → c = '\n') ∧ (c = ',' → d ≠ ' ')

/-- A layout does not begin with a closing brace, and it begins with a blank only if its text
does. -/
theorem head?_breakLines {text : List Char} {c : Char} (h : (breakLines text).head? = some c) :
    c ≠ '\x7d' ∧ (c = ' ' → text.head? = some ' ') := by
  fun_cases breakLines text with
  | case1 => cases h
  | case2 text =>
    cases h
    simp
  | case3 d text hcomma =>
    rw [breakLines.eq_3 _ _ hcomma, breakAround] at h
    split at h
    · cases h
      simp
    · split at h
      · cases h
        simp
      · cases h
        exact ⟨‹_›, fun hc => hc ▸ rfl⟩

/-- What a break of the line ends in, two blanks, may be followed by any layout. -/
theorem isChain_blanks {laidOut : List Char} (h : laidOut.IsChain MayFollow)
    (hhead : ∀ d ∈ laidOut.head?, d ≠ '\x7d') : (' ' :: ' ' :: laidOut).IsChain MayFollow := by
  refine List.isChain_cons_cons.2 ⟨by simp [MayFollow], List.isChain_cons.2 ⟨fun d hd => ?_, h⟩⟩
  exact ⟨by simp, fun hd' => absurd hd' (hhead d hd), by simp⟩

/-- In a text with its lines broken every character may follow the one before it. -/
theorem isChain_breakLines (text : List Char) : (breakLines text).IsChain MayFollow := by
  fun_induction breakLines text with
  | case1 => exact .nil
  | case2 text ih =>
    have hblanks := isChain_blanks ih fun d hd => (head?_breakLines hd).1
    exact List.isChain_cons_cons.2 ⟨by simp [MayFollow],
      List.isChain_cons_cons.2 ⟨by simp [MayFollow], hblanks⟩⟩
  | case3 c text hcomma ih =>
    have hnext : ∀ d ∈ (breakLines text).head?, d ≠ '\x7d' := fun d hd => (head?_breakLines hd).1
    unfold breakAround
    split
    · exact List.isChain_cons_cons.2 ⟨by simp [MayFollow],
        List.isChain_cons_cons.2 ⟨by simp [MayFollow], isChain_blanks ih hnext⟩⟩
    · split
      · refine List.isChain_cons_cons.2 ⟨by simp [MayFollow], List.isChain_cons.2 ⟨?_, ih⟩⟩
        exact fun d hd => ⟨by simp, fun hd' => absurd hd' (hnext d hd), by simp⟩
      · rename_i hopen hclose
        refine List.isChain_cons.2 ⟨fun d hd => ⟨fun hc => absurd hc hopen,
          fun hd' => absurd hd' (hnext d hd), ?_⟩, ih⟩
        rintro rfl rfl
        obtain ⟨rest, rfl⟩ : ∃ rest, text = ' ' :: rest := by
          simpa [List.head?_eq_some_iff] using (head?_breakLines hd).2 rfl
        exact hcomma rest rfl rfl

/-- A part of a layout that stands on one line is unbroken, unless it was cut at a brace. -/
theorem unbroken_of_infix_breakLines {piece text : List Char} (h : piece <:+: breakLines text)
    (hline : '\n' ∉ piece) (hhead : piece.head? ≠ some '\x7d')
    (hlast : piece.getLast? ≠ some '\x7b') : Unbroken piece := by
  have hchain : piece.IsChain MayFollow := List.IsChain.infix (isChain_breakLines text) h
  have hfollow := List.isChain_iff_forall_rel_of_append_cons_cons.1 hchain
  refine ⟨fun hopen => ?_, fun hclose => ?_, ?_⟩
  · obtain ⟨before, after, rfl⟩ := List.append_of_mem hopen
    cases after with
    | nil => simp at hlast
    | cons d after =>
      have hd : d = '\n' := (hfollow rfl).1 rfl
      simp [hd] at hline
  · obtain ⟨before, after, rfl⟩ := List.append_of_mem hclose
    rcases List.eq_nil_or_concat' before with rfl | ⟨before, c, rfl⟩
    · simp at hhead
    · have hc : c = '\n' := (hfollow (List.append_assoc before [c] _)).2.1 rfl
      simp [hc] at hline
  · rintro ⟨before, after, rfl⟩
    exact (hfollow (List.append_assoc before [',', ' '] after)).2.2 rfl rfl

/-! ## The pieces that a grammar carries -/

/-- The piece of text that marks a name, literal or pattern in the grammar of a schema. What stands
in an object without properties is not written, nor is the name of a reference. -/
inductive Schema.Shows : Schema → List Char → Prop
  | literal {literal : String} {literals : List String} (h : literal ∈ literals) :
    Shows (.string (.enum literals)) (inQuotes literal)
  | pattern (expression : String) :
    Shows (.string (.pattern expression)) ("<pattern ".toList ++ expression.toList ++ ['>'])
  | items {items : Schema} {cardinality : Cardinality} {piece : List Char}
    (h : Shows items piece) : Shows (.array items cardinality) piece
  | name {properties : List (String × Property)} {additional : Additional} {name : String}
    {schema : Schema} {required : Bool} (h : (name, .typed schema required) ∈ properties) :
    Shows (.object properties additional) (inQuotes name ++ [' ', ':', ' '])
  | property {properties : List (String × Property)} {additional : Additional} {name : String}
    {schema : Schema} {required : Bool} {piece : List Char}
    (hmem : (name, .typed schema required) ∈ properties) (h : Shows schema piece) :
    Shows (.object properties additional) piece
  | additional {properties : List (String × Property)} {schema : Schema} {piece : List Char}
    (hne : properties ≠ []) (h : Shows schema piece) :
    Shows (.object properties (.schema schema)) piece

/-- Each literal stands among the alternatives. -/
theorem inQuotes_infix_alternatives {literal : String} {literals : List String}
    (h : literal ∈ literals) : inQuotes literal <:+: alternatives literals := by
  fun_induction alternatives literals with
  | case1 => cases h
  | case2 only =>
    rw [List.mem_singleton.1 h]
  | case3 first literals hne ih =>
    rcases List.mem_cons.1 h with rfl | hmem
    · exact ⟨[], [' ', '|', ' '] ++ alternatives literals, by simp⟩
    · exact (ih hmem).trans (List.suffix_append _ _).isInfix

/-- Each property stands in the text of its object as a member. -/
theorem member_infix_fragment {properties : List (String × Property)} {name : String}
    {property : Property} (h : (name, property) ∈ properties) (additional : Additional) :
    property.member name <:+: (Schema.object properties additional).fragment := by
  obtain ⟨ps, qs, rfl⟩ := List.append_of_mem h
  obtain ⟨pre, post, htext⟩ := exists_fragment_member ps qs name additional
  exact ⟨pre, post, (htext property).symm⟩

/-- Each piece stands in the text of the schema. -/
theorem Schema.Shows.infix_fragment {schema : Schema} {piece : List Char}
    (h : schema.Shows piece) : piece <:+: schema.fragment := by
  induction h with
  | literal h =>
    exact (inQuotes_infix_alternatives h).trans ⟨['['], [']'], rfl⟩
  | pattern expression => exact List.infix_rfl
  | @items items cardinality piece h ih =>
    exact ih.trans ⟨['['], cardinality.quantifier ++ [']'], by rw [Schema.fragment_array]; simp⟩
  | @name _ additional name schema required h =>
    refine List.IsInfix.trans ?_ (member_infix_fragment h additional)
    rw [Property.member, List.append_assoc]
    exact (List.prefix_append _ _).isInfix
  | @property _ _ name schema required _ hmem h ih =>
    refine (ih.trans ?_).trans (member_infix_fragment hmem _)
    exact ⟨inQuotes name ++ [' ', ':', ' '], if required then [] else optionalMark, rfl⟩
  | additional hne h ih =>
    obtain ⟨pre, post, htext⟩ := exists_fragment_additional hne
    exact ih.trans ⟨pre, post, (htext _).symm⟩

/-- A piece begins and ends with the marks around what it shows. -/
theorem Schema.Shows.ends {schema : Schema} {piece : List Char} (h : schema.Shows piece) :
    piece.head? ≠ some ' ' ∧ piece.head? ≠ some '\x7d' ∧
      piece.getLast? ≠ some ',' ∧ piece.getLast? ≠ some '\x7b' := by
  induction h with
  | literal h => simp [inQuotes, List.getLast?_cons]
  | pattern expression => simp [List.getLast?_cons]
  | name h => simp [inQuotes, List.getLast?_cons]
  | items h ih => exact ih
  | property hmem h ih => exact ih
  | additional hne h ih => exact ih

/-- The layout of a text carries each part of it laid out, unless a comma was cut from its blank. -/
theorem breakLines_isInfix {piece text : List Char} (h : piece <:+: text)
    (hhead : piece.head? ≠ some ' ') (hlast : piece.getLast? ≠ some ',') :
    breakLines piece <:+: breakLines text := by
  obtain ⟨before, after, rfl⟩ := h
  rcases List.eq_nil_or_concat' piece with rfl | ⟨front, c, rfl⟩
  · exact List.nil_infix
  · have hafter : (before ++ (front ++ [c])).getLast? ≠ some ',' := by simpa using hlast
    rw [breakLines_append fun hcomma => absurd hcomma hafter, breakLines_append fun _ => hhead]
    exact List.infix_append _ _ _

/-- **What a layout carries.** The layout of a grammar carries each name, literal and pattern laid
out by itself. A piece without a brace and without a comma before a blank is therefore carried as it
is; a piece on one line that has one of these is not carried as it is anywhere. -/
theorem layout_carries (document : Document) (schema : Schema) (grammar : String)
    (hschema : (lowerRoot document).result = .ok schema) (hgrammar : compile document = .ok grammar)
    (piece : List Char) (hpiece : schema.Shows piece) :
    layoutChars piece <:+: (layout grammar).toList ∧
      (Unbroken piece → piece <:+: (layout grammar).toList) ∧
      ('\n' ∉ piece → piece <:+: (layout grammar).toList → Unbroken piece) := by
  have htext : (layout grammar).toList = breakLines schema.fragment := by
    rw [compile, hschema] at hgrammar
    cases hgrammar
    rw [layout, Schema.grammar, String.toList_ofList, String.toList_ofList,
      layoutChars_eq_breakLines]
  obtain ⟨hblank, hclose, hcomma, hopen⟩ := hpiece.ends
  have hlaid := breakLines_isInfix hpiece.infix_fragment hblank hcomma
  rw [htext, layoutChars_eq_breakLines]
  refine ⟨hlaid, fun hunbroken => ?_, fun hline hverbatim => ?_⟩
  · rwa [breakLines_of_unbroken hunbroken] at hlaid
  · exact unbroken_of_infix_breakLines hverbatim hline hclose hopen

/-- A document with a repetition count in a pattern. -/
def codeDocument : Document :=
  .object [("type", .string "object"), ("properties", .object [("code", .object
    [("type", .string "string"), ("pattern", .string "^[a-z]\x7b2\x7d$")])])]

/-- The schema of `codeDocument`. -/
def codeSchema : Schema :=
  .object [("code", .typed (.string (.pattern "^[a-z]\x7b2\x7d$")) false)] .closed

/-- The document describes `codeSchema`. -/
theorem lowerRoot_codeDocument : (lowerRoot codeDocument).result = .ok codeSchema := rfl

/-- The document compiles to the grammar of `codeSchema`. -/
theorem compile_codeDocument : compile codeDocument = .ok codeSchema.grammar := by
  rw [compile, lowerRoot_codeDocument]
  rfl

/-- The name of `codeDocument` is carried as it is, its pattern with the lines broken. -/
theorem codeDocument_layout_carries :
    (lowerRoot codeDocument).result = .ok codeSchema ∧
      compile codeDocument = .ok codeSchema.grammar ∧
      "\"code\" : ".toList <:+: (layout codeSchema.grammar).toList ∧
      "<pattern ^[a-z]\x7b\n  2\n\x7d$>".toList <:+: (layout codeSchema.grammar).toList := by
  have hname := layout_carries codeDocument codeSchema _ lowerRoot_codeDocument
    compile_codeDocument "\"code\" : ".toList (.name List.mem_cons_self)
  have hpattern := layout_carries codeDocument codeSchema _ lowerRoot_codeDocument
    compile_codeDocument "<pattern ^[a-z]\x7b2\x7d$>".toList
    (.property List.mem_cons_self (.pattern "^[a-z]\x7b2\x7d$"))
  have hbroken : layoutChars "<pattern ^[a-z]\x7b2\x7d$>".toList =
      "<pattern ^[a-z]\x7b\n  2\n\x7d$>".toList := by decide +kernel
  have hunbroken : Unbroken "\"code\" : ".toList := by decide +kernel
  rw [hbroken] at hpattern
  exact ⟨lowerRoot_codeDocument, compile_codeDocument, hname.2.1 hunbroken, hpattern.1⟩

/-- A layout need not carry a pattern as it is: that of `codeDocument` does not. -/
theorem codeDocument_layout_breaks_pattern :
    (lowerRoot codeDocument).result = .ok codeSchema ∧
      compile codeDocument = .ok codeSchema.grammar ∧
      codeSchema.Shows "<pattern ^[a-z]\x7b2\x7d$>".toList ∧
      ¬ "<pattern ^[a-z]\x7b2\x7d$>".toList <:+: (layout codeSchema.grammar).toList := by
  refine ⟨lowerRoot_codeDocument, compile_codeDocument,
    .property List.mem_cons_self (.pattern "^[a-z]\x7b2\x7d$"), ?_⟩
  decide +kernel

end SchemaGrammar
