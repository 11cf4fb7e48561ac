import Mathlib.Data.List.Perm.Basic
import SchemaGrammar.Proofs.Layout

/-!
# Breaking lines and joining them again

A layout is three substitutions, one after another. Two results are proved about it here.

* The substitutions do not interfere: in whatever order they are made, they come to the one pass of
  `breakLines` (`foldl_substitutions`). They commute two by two, and both that break at braces
  commute with the one that breaks at commas for the same reason, which `SparesCommas` names: what
  they put in neither is nor hides a comma before a blank.
* A layout can be undone: `joinLines` takes out of a layout what was put in, as long as the text was
  on one line (`joinLines_breakLines`). The grammar of a schema is on one line unless a name,
  literal or pattern in it is not (`newline_mem_fragment_iff`), so for such schemas the layout tells
  apart what the text tells apart.
-/

namespace SchemaGrammar

/-! ## The order of the substitutions -/

/-- The substitutions of a layout, in the order in which it makes them. -/
def substitutions : List (List Char → List Char) :=
  [breakAfterOpening, breakBeforeClosing, breakAfterComma]

/-- `SparesCommas f`: putting `f c` for each character `c` neither makes nor takes away a comma
before a blank, and it leaves line breaks as they are. -/
structure SparesCommas (f : Char → List Char) : Prop where
  comma : f ',' = [',']
  blank : f ' ' = [' ']
  newline : f '\n' = ['\n']
  not_mem : ∀ c, c ≠ ',' → ',' ∉ f c
  head : ∀ c, c ≠ ' ' → ∃ d rest, f c = d :: rest ∧ d ≠ ' '

section
variable {f : Char → List Char}

/-- A text begins with a blank only if it did before. -/
theorem SparesCommas.head?_flatMap (hf : SparesCommas f) {text : List Char}
    (h : (text.flatMap f).head? = some ' ') : text.head? = some ' ' := by
  cases text with
  | nil => cases h
  | cons c text =>
    by_cases hc : c = ' '
    · rw [hc]
      rfl
    · obtain ⟨d, rest, hd, hne⟩ := hf.head c hc
      rw [List.flatMap_cons, hd] at h
      exact absurd (Option.some.inj h) hne

/-- A text without a comma stays as it is in front of another. -/
theorem breakAfterComma_append {s : List Char} (h : ',' ∉ s) (text : List Char) :
    breakAfterComma (s ++ text) = s ++ breakAfterComma text := by
  induction s with
  | nil => rfl
  | cons c s ih =>
    rw [List.mem_cons, not_or] at h
    rw [List.cons_append, breakAfterComma_cons fun hc => absurd hc.symm h.1, ih h.2]
    rfl

/-- A substitution that spares commas may be made before or after the lines are broken at them. -/
theorem SparesCommas.comm (hf : SparesCommas f) (text : List Char) :
    breakAfterComma (text.flatMap f) = (breakAfterComma text).flatMap f := by
  fun_induction breakAfterComma text with
  | case1 => rfl
  | case2 text ih =>
    simp only [List.flatMap_cons, hf.comma, hf.blank, hf.newline, ← ih]
    rfl
  | case3 c text hblank ih =>
    rw [List.flatMap_cons, List.flatMap_cons, ← ih]
    -- only a comma could become one before a blank, and no blank comes to stand after it
    by_cases hc : c = ','
    · subst hc
      rw [hf.comma]
      refine breakAfterComma_cons fun _ hhead => ?_
      obtain ⟨rest, hrest⟩ := List.head?_eq_some_iff.1 (hf.head?_flatMap hhead)
      exact hblank rest rfl hrest
    · exact breakAfterComma_append (hf.not_mem c hc) _

end

/-- Putting a text for one mark spares commas, if the text has none and does not begin with a
blank. -/
theorem sparesCommas_of_mark {mark first : Char} {rest : List Char}
    (hmark : mark ∉ [',', ' ', '\n']) (hcomma : ',' ∉ first :: rest) (hfirst : first ≠ ' ') :
    SparesCommas fun c => if c = mark then first :: rest else [c] := by
  simp only [List.mem_cons, List.not_mem_nil, or_false, not_or] at hmark
  refine ⟨if_neg (Ne.symm hmark.1), if_neg (Ne.symm hmark.2.1), if_neg (Ne.symm hmark.2.2), ?_, ?_⟩
  · intro c hc
    split
    · exact hcomma
    · exact fun hmem => hc (List.mem_singleton.1 hmem).symm
  · intro c hc
    split
    · exact ⟨first, rest, rfl, hfirst⟩
    · exact ⟨c, [], rfl, hc⟩

/-- Lines are broken after opening braces and at commas in either order. -/
theorem breakAfterOpening_comm (text : List Char) :
    breakAfterComma (breakAfterOpening text) = breakAfterOpening (breakAfterComma text) :=
  (sparesCommas_of_mark (by decide) (by decide) (by decide)).comm text

/-- Lines are broken before closing braces and at commas in either order. -/
theorem breakBeforeClosing_comm (text : List Char) :
    breakAfterComma (breakBeforeClosing text) = breakBeforeClosing (breakAfterComma text) :=
  (sparesCommas_of_mark (by decide) (by decide) (by decide)).comm text

/-- Opening and closing braces are broken at in either order. -/
theorem breakBraces_comm (text : List Char) :
    breakBeforeClosing (breakAfterOpening text) = breakAfterOpening (breakBeforeClosing text) := by
  rw [breakBraces_eq_flatMap, breakAfterOpening, breakBeforeClosing, List.flatMap_assoc]
  congr 1
  funext c
  unfold breakAround
  split
  · next hopen => simp [hopen]
  · split <;> simp [*]

/-- Two substitutions may change places. -/
theorem substitutions_comm {f g : List Char → List Char} (hf : f ∈ substitutions)
    (hg : g ∈ substitutions) (text : List Char) : g (f text) = f (g text) := by
  have hopening := breakAfterOpening_comm text
  have hclosing := breakBeforeClosing_comm text
  have hbraces := breakBraces_comm text
  simp only [substitutions, List.mem_cons, List.not_mem_nil, or_false] at hf hg
  rcases hf with rfl | rfl | rfl <;> rcases hg with rfl | rfl | rfl
  · rfl
  · exact hbraces
  · exact hopening
  · exact hbraces.symm
  · rfl
  · exact hclosing
  · exact hopening.symm
  · exact hclosing.symm
  · rfl

/-- The substitutions in any order are one pass. -/
theorem foldl_substitutions {order : List (List Char → List Char)}
    (h : order.Perm substitutions) (text : List Char) :
    order.foldl (fun t substitute => substitute t) text = breakLines text := by
  have hperm : order.foldl (fun t substitute => substitute t) text =
      substitutions.foldl (fun t substitute => substitute t) text := by
    refine h.foldl_eq' ?_ text
    intro f hf g hg t
    exact substitutions_comm (h.mem_iff.1 hf) (h.mem_iff.1 hg) t
  rw [hperm, ← layoutChars_eq_breakLines]
  rfl

/-- The layout of a text is the text with its lines broken. -/
theorem toList_layout (text : String) : (layout text).toList = breakLines text.toList := by
  rw [layout, String.toList_ofList, layoutChars_eq_breakLines]

/-! ## What a layout keeps -/

/-- Whether a character is neither a blank nor a line feed. -/
def isInk (c : Char) : Bool := c != ' ' && c != '\n'

/-- A layout changes blanks and line feeds only. -/
theorem filter_isInk_breakLines (text : List Char) :
    (breakLines text).filter isInk = text.filter isInk := by
  fun_induction breakLines text with
  | case1 => rfl
  | case2 text ih =>
    rw [List.filter_append, ih]
    rfl
  | case3 c text hcomma ih =>
    have hc : (breakAround c).filter isInk = [c].filter isInk := by
      unfold breakAround
      split
      · next hopen => rw [hopen]; rfl
      · split
        · next hclose => rw [hclose]; rfl
        · rfl
    rw [List.filter_append, ih, hc, ← List.filter_append]
    rfl

/-- A layout can be cut exactly where no comma is parted from its blank: there the pieces lack the
line break. -/
theorem breakLines_append_iff {before after : List Char} :
    breakLines (before ++ after) = breakLines before ++ breakLines after ↔
      ¬ (before.getLast? = some ',' ∧ after.head? = some ' ') := by
  constructor
  · rintro h ⟨hlast, hhead⟩
    obtain ⟨front, rfl⟩ := List.getLast?_eq_some_iff.1 hlast
    obtain ⟨rest, rfl⟩ := List.head?_eq_some_iff.1 hhead
    have hfront : ∀ s, breakLines (front ++ ',' :: s) = breakLines front ++ breakLines (',' :: s) :=
      fun s => breakLines_append fun _ hcomma => by cases hcomma
    rw [List.append_assoc, List.singleton_append, hfront, hfront, List.append_assoc] at h
    cases List.append_cancel_left h
  · intro h
    exact breakLines_append fun hlast hhead => h ⟨hlast, hhead⟩

/-- **The substitutions of a layout do not interfere.** In any order they come to one pass over the
text, which is its layout. So a layout changes blanks and line feeds only, and it can be cut
anywhere but between a comma and its blank. -/
theorem layout_order_independent (text : String) :
    (∀ order : List (List Char → List Char), order.Perm substitutions →
      order.foldl (fun t substitute => substitute t) text.toList = breakLines text.toList) ∧
    (layout text).toList = breakLines text.toList ∧
    (layout text).toList.filter isInk = text.toList.filter isInk ∧
    ∀ rest : String, layout (text ++ rest) = layout text ++ layout rest ↔
      ¬ (text.toList.getLast? = some ',' ∧ rest.toList.head? = some ' ') := by
  refine ⟨fun order h => foldl_substitutions h _, toList_layout text, ?_, fun rest => ?_⟩
  · rw [toList_layout, filter_isInk_breakLines]
  · rw [← breakLines_append_iff, ← String.toList_inj, String.toList_append, toList_layout,
      toList_layout, toList_layout, String.toList_append]

/-- Braces and a comma that touch, laid out with the substitutions in the opposite order. The cut
between the comma and its blank is the one place where the layout cannot be put together. -/
theorem touching_layout_order_independent :
    [breakAfterComma, breakBeforeClosing, breakAfterOpening].foldl
        (fun t substitute => substitute t)
        "\x7b, \x7d\x7b\x7d".toList = "\x7b\n  ,\n  \n\x7d\x7b\n  \n\x7d".toList ∧
      layout "\x7b, \x7d" = layout "\x7b" ++ layout ", \x7d" ∧
      layout "\x7b, \x7d" ≠ layout "\x7b," ++ layout " \x7d" := by
  have horder := (layout_order_independent "\x7b, \x7d\x7b\x7d").1
    [breakAfterComma, breakBeforeClosing, breakAfterOpening] (List.reverse_perm substitutions)
  have hcut := (layout_order_independent "\x7b").2.2.2 ", \x7d"
  have hparted := (layout_order_independent "\x7b,").2.2.2 " \x7d"
  exact ⟨horder, hcut.2 (by decide), fun h => absurd (hparted.1 h) (by decide)⟩

/-! ## Joining lines -/

/-- Takes out of a layout what was put in. -/
def joinLines : List Char → List Char
  | [] => []
  | '\x7b' :: '\n' :: ' ' :: ' ' :: text => '\x7b' :: joinLines text
  | ',' :: '\n' :: ' ' :: ' ' :: text => ',' :: ' ' :: joinLines text
  | '\n' :: '\x7d' :: text => '\x7d' :: joinLines text
  | c :: text => c :: joinLines text

/-- A layout on one line again. -/
def unlayout (text : String) : String := String.ofList (joinLines text.toList)

/-- A character stays where none of the three breaks begins. -/
theorem joinLines_cons {c : Char} {text : List Char} (hopen : c ≠ '\x7b') (hline : c ≠ '\n')
    (hcomma : c = ',' → ¬ ['\n', ' '] <+: text) : joinLines (c :: text) = c :: joinLines text := by
  rw [joinLines.eq_5]
  · intro rest hc
    exact absurd hc hopen
  · intro rest hc htext
    exact absurd ⟨' ' :: rest, htext.symm⟩ (hcomma hc)
  · intro rest hc
    exact absurd hc hline

/-- A line feed that begins the layout of a text on one line stands before a closing brace. -/
theorem not_prefix_breakLines {text : List Char} (h : '\n' ∉ text) :
    ¬ ['\n', ' '] <+: breakLines text := by
  intro hprefix
  fun_cases breakLines text with
  | case1 => simp [breakLines] at hprefix
  | case2 text => simp [breakLines] at hprefix
  | case3 c text hcomma =>
    rw [breakLines.eq_3 _ _ hcomma, breakAround] at hprefix
    split at hprefix
    · simp at hprefix
    · split at hprefix
      · simp at hprefix
      · have hc : '\n' = c := (List.cons_prefix_cons.1 hprefix).1
        exact h (hc ▸ List.mem_cons_self)

/-- Joining the lines of a layout gives the text back, if it was on one line. -/
theorem joinLines_breakLines {text : List Char} (h : '\n' ∉ text) :
    joinLines (breakLines text) = text := by
  fun_induction breakLines text with
  | case1 => rfl
  | case2 text ih =>
    have htext : '\n' ∉ text := fun hmem => h (by simp [hmem])
    show joinLines (',' :: '\n' :: ' ' :: ' ' :: breakLines text) = _
    rw [joinLines, ih htext]
  | case3 c text hcomma ih =>
    rw [List.mem_cons, not_or] at h
    unfold breakAround
    split
    · next hopen =>
      show joinLines ('\x7b' :: '\n' :: ' ' :: ' ' :: breakLines text) = _
      rw [joinLines, ih h.2, hopen]
    · next hopen =>
      split
      · next hclose =>
        show joinLines ('\n' :: '\x7d' :: breakLines text) = _
        rw [joinLines, ih h.2, hclose]
      · -- a comma here has no blank after it, and what follows begins no break of its own
        rw [List.singleton_append,
          joinLines_cons hopen (Ne.symm h.1) fun _ => not_prefix_breakLines h.2, ih h.2]

/-! ## Schemas on one line -/

/-- A line feed among alternatives stands in a literal. -/
theorem newline_mem_alternatives {literals : List String} (h : '\n' ∈ alternatives literals) :
    ∃ literal ∈ literals, '\n' ∈ inQuotes literal := by
  fun_induction alternatives literals with
  | case1 => cases h
  | case2 literal => exact ⟨literal, List.mem_cons_self, h⟩
  | case3 literal literals hne ih =>
    rw [List.append_assoc, List.mem_append, List.mem_append] at h
    rcases h with h | h | h
    · exact ⟨literal, List.mem_cons_self, h⟩
    · simp at h
    · obtain ⟨other, hmem, hother⟩ := ih h
      exact ⟨other, List.mem_cons_of_mem _ hmem, hother⟩

/-- A line feed among members stands in one of them. -/
theorem newline_mem_furtherMembers {properties : List (String × Property)}
    (h : '\n' ∈ furtherMembers properties) :
    ∃ name property, (name, property) ∈ properties ∧ '\n' ∈ property.member name := by
  induction properties with
  | nil => cases h
  | cons first properties ih =>
    obtain ⟨name, property⟩ := first
    rw [furtherMembers, List.append_assoc, List.mem_append, List.mem_append] at h
    rcases h with h | h | h
    · simp [memberSeparator] at h
    · exact ⟨name, property, List.mem_cons_self, h⟩
    · obtain ⟨n, p, hmem, hp⟩ := ih h
      exact ⟨n, p, List.mem_cons_of_mem _ hmem, hp⟩

/-- A line feed in the member of a typed property stands in its name or in its schema. -/
theorem newline_mem_typed {name : String} {schema : Schema} {required : Bool}
    (h : '\n' ∈ (Property.typed schema required).member name) :
    '\n' ∈ inQuotes name ∨ '\n' ∈ schema.fragment := by
  have hmark : '\n' ∉ if required then [] else optionalMark := by cases required <;> decide
  simpa only [Property.member, List.mem_append, List.mem_cons, List.not_mem_nil, hmark,
    Char.reduceEq, or_false] using h

/-- A line feed in what else an object admits stands in its schema. -/
theorem newline_mem_additional {additional : Additional} (h : '\n' ∈ additional.member) :
    ∃ schema, additional = .schema schema ∧ '\n' ∈ schema.fragment := by
  cases additional with
  | closed => cases h
  | any => exact absurd h (by decide)
  | schema schema =>
    have hfixed : '\n' ∉ memberSeparator ++ inQuotes wildcardName ++ [' ', ':', ' '] := by decide
    exact ⟨schema, rfl, (List.mem_append.1 h).resolve_left hfixed⟩

/-- A line feed in the text of an object stands in a member or in what else it admits. -/
theorem newline_mem_object {properties : List (String × Property)} {additional : Additional}
    (h : '\n' ∈ (Schema.object properties additional).fragment) :
    (∃ name property, (name, property) ∈ properties ∧ '\n' ∈ property.member name) ∨
      properties ≠ [] ∧ '\n' ∈ additional.member := by
  cases properties with
  | nil => simp [Schema.fragment_object_nil] at h
  | cons first properties =>
    obtain ⟨name, property⟩ := first
    simp only [Schema.fragment_object_cons, List.mem_append] at h
    rcases h with (((h | h) | h) | h) | h
    · simp at h
    · exact .inl ⟨name, property, List.mem_cons_self, h⟩
    · obtain ⟨n, p, hmem, hp⟩ := newline_mem_furtherMembers h
      exact .inl ⟨n, p, List.mem_cons_of_mem _ hmem, hp⟩
    · exact .inr ⟨List.cons_ne_nil _ _, h⟩
    · simp at h

/-- A line feed in the text of a string node stands in a literal or in the pattern. -/
theorem newline_mem_constraint {constraint : StringConstraint} (h : '\n' ∈ constraint.fragment) :
    ∃ piece, (Schema.string constraint).Shows piece ∧ '\n' ∈ piece := by
  cases constraint with
  | unconstrained => exact absurd h (by decide)
  | enum literals =>
    have hmem : '\n' ∈ alternatives literals := by
      simpa only [StringConstraint.fragment_enum, List.cons_append, List.mem_cons, List.mem_append,
        List.not_mem_nil, Char.reduceEq, false_or, or_false] using h
    obtain ⟨literal, hliteral, hline⟩ := newline_mem_alternatives hmem
    exact ⟨_, .literal hliteral, hline⟩
  | pattern expression => exact ⟨_, .pattern expression, h⟩
  | format named => cases named <;> exact absurd h (by decide)

/-- A grammar is on one line unless it shows a piece that is not. -/
theorem newline_mem_fragment_iff {schema : Schema} :
    '\n' ∈ schema.fragment ↔ ∃ piece, schema.Shows piece ∧ '\n' ∈ piece := by
  constructor
  · intro h
    induction schema using Schema.induction with
    | null | boolean | integer | number => exact absurd h (by decide)
    | string constraint =>
      rw [Schema.fragment_string] at h
      exact newline_mem_constraint h
    | array items cardinality ih =>
      have hquantifier : '\n' ∉ cardinality.quantifier := by cases cardinality <;> decide
      have hmem : '\n' ∈ items.fragment := by
        rw [Schema.fragment_array] at h
        simpa only [List.cons_append, List.mem_cons, List.mem_append, List.not_mem_nil,
          hquantifier, Char.reduceEq, false_or, or_false] using h
      obtain ⟨piece, hshows, hline⟩ := ih hmem
      exact ⟨piece, .items hshows, hline⟩
    | object properties additional ihp iha =>
      rcases newline_mem_object h with ⟨name, property, hmem, hmember⟩ | ⟨hne, hadditional⟩
      · cases property with
        | ref target =>
          have hfixed : '\n' ∉ refToken := by decide
          exact absurd hmember hfixed
        | typed schema required =>
          rcases newline_mem_typed hmember with hname | hschema
          · exact ⟨_, .name hmem, List.mem_append_left _ hname⟩
          · obtain ⟨piece, hshows, hline⟩ := ihp name schema required hmem hschema
            exact ⟨piece, .property hmem hshows, hline⟩
      · obtain ⟨schema, rfl, hschema⟩ := newline_mem_additional hadditional
        obtain ⟨piece, hshows, hline⟩ := iha schema rfl hschema
        exact ⟨piece, .additional hne hshows, hline⟩
  · rintro ⟨piece, hshows, hline⟩
    exact hshows.infix_fragment.subset hline

/-- A schema whose names, literals and patterns, as far as they are written, are each on one
line. -/
def Schema.OnOneLine (schema : Schema) : Prop := ∀ piece, schema.Shows piece → '\n' ∉ piece

/-- The grammar of a schema without line feeds has none. -/
theorem Schema.OnOneLine.not_mem_grammar {schema : Schema} (h : schema.OnOneLine) :
    '\n' ∉ schema.grammar.toList := by
  rw [Schema.grammar, String.toList_ofList, newline_mem_fragment_iff]
  rintro ⟨piece, hshows, hline⟩
  exact h piece hshows hline

/-- A text without line feeds is recovered from its layout. -/
theorem unlayout_layout {text : String} (h : '\n' ∉ text.toList) :
    unlayout (layout text) = text := by
  rw [unlayout, toList_layout, joinLines_breakLines h, String.ofList_toList]

/-- **A layout can be undone.** Of a text on one line, the text is recovered from its layout, so the
layout tells such texts apart. A schema whose names, literals and patterns are each on one line has
its text on one line, so its text is recovered from the layout, and the layouts of two such schemas
are equal exactly when their texts are. -/
theorem layout_recoverable :
    (∀ text : String, '\n' ∉ text.toList → unlayout (layout text) = text) ∧
    (∀ text text' : String, '\n' ∉ text.toList → '\n' ∉ text'.toList →
      layout text = layout text' → text = text') ∧
    (∀ schema : Schema, schema.OnOneLine → '\n' ∉ schema.grammar.toList ∧
      unlayout (layout schema.grammar) = schema.grammar) ∧
    ∀ schema schema' : Schema, schema.OnOneLine → schema'.OnOneLine →
      (layout schema.grammar = layout schema'.grammar ↔ schema.grammar = schema'.grammar) := by
  have hinjective : ∀ text text' : String, '\n' ∉ text.toList → '\n' ∉ text'.toList →
      layout text = layout text' → text = text' := by
    intro text text' h h' heq
    rw [← unlayout_layout h, heq, unlayout_layout h']
  refine ⟨fun text => unlayout_layout, hinjective, ?_, ?_⟩
  · intro schema h
    exact ⟨h.not_mem_grammar, unlayout_layout h.not_mem_grammar⟩
  · intro schema schema' h h'
    constructor
    · exact hinjective _ _ h.not_mem_grammar h'.not_mem_grammar
    · intro heq
      rw [heq]

/-- No text of `codeSchema` has a line feed in it. -/
theorem codeSchema_onOneLine : codeSchema.OnOneLine := by
  intro piece h
  cases h with
  | name hmem =>
    cases List.mem_singleton.1 hmem
    decide
  | property hmem h =>
    cases List.mem_singleton.1 hmem
    cases h with
    | pattern => decide

/-- The grammar with braces inside a pattern is recovered from its layout. -/
theorem codeSchema_layout_recoverable :
    codeSchema.OnOneLine ∧ '\n' ∉ codeSchema.grammar.toList ∧
      unlayout (layout codeSchema.grammar) = codeSchema.grammar :=
  ⟨codeSchema_onOneLine, layout_recoverable.2.2.1 codeSchema codeSchema_onOneLine⟩

/-- On more lines than one, texts that differ can have the same layout. -/
example : layout ", " = layout ",\n  " := by decide

end SchemaGrammar
