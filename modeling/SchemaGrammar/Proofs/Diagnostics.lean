import SchemaGrammar.Command.Program
import SchemaGrammar.Proofs.Position
import SchemaGrammar.Proofs.Saving

/-!
# Line breaks in diagnostics

The diagnostic of a document that is no schema is meant to be one line. It is put together from
fixed texts, from the compact text of values, in which everything below the blank is escaped, and
from two things that stand in it as they are: the names of the properties on the way to the fault,
and the name of an unknown type. The main result says that these two are the only source of line
breaks, and of any other character below the blank, and that each such character in them is shown;
so a diagnostic is one line exactly when they are.
-/

namespace SchemaGrammar

/-! ## Texts without control characters -/

/-- Nothing lies below the blank, so nothing breaks the line. -/
def NoControl (text : List Char) : Prop := ∀ c ∈ text, 0x20 ≤ c.toNat

@[simp] theorem noControl_nil : NoControl [] := nofun

@[simp] theorem noControl_cons {c : Char} {text : List Char} :
    NoControl (c :: text) ↔ 0x20 ≤ c.toNat ∧ NoControl text :=
  List.forall_mem_cons

@[simp] theorem noControl_append {s t : List Char} :
    NoControl (s ++ t) ↔ NoControl s ∧ NoControl t :=
  List.forall_mem_append

/-- A text has no control character if another with all its characters has none. -/
theorem NoControl.of_subset {s t : List Char} (h : NoControl t) (hst : s ⊆ t) : NoControl s :=
  fun c hc => h c (hst hc)

/-- A character repeated is as free of control characters as it is alone. -/
theorem noControl_replicate {c : Char} (h : 0x20 ≤ c.toNat) (n : Nat) :
    NoControl (List.replicate n c) := by
  intro x hx
  rw [List.eq_of_mem_replicate hx]
  exact h

/-- No character below the blank is in a text without control characters. -/
theorem NoControl.not_mem {c : Char} {text : List Char} (h : NoControl text)
    (hc : c.toNat < 0x20) : c ∉ text :=
  fun hmem => absurd (h c hmem) (Nat.not_le.2 hc)

/-- Two texts without control characters make one without. -/
theorem NoControl.concat {s t : String} (hs : NoControl s.toList) (ht : NoControl t.toList) :
    NoControl (s ++ t).toList := by
  rw [String.toList_append]
  exact noControl_append.2 ⟨hs, ht⟩

/-- After a text without control characters, those of the rest are all there are. -/
theorem NoControl.mem_append_iff {s : String} (h : NoControl s.toList) {c : Char}
    (hc : c.toNat < 0x20) (t : String) : c ∈ (s ++ t).toList ↔ c ∈ t.toList := by
  rw [String.toList_append, List.mem_append, or_iff_right (h.not_mem hc)]

/-! ## Numbers -/

/-- Digits are no control characters. -/
theorem noControl_natText (n : Nat) : NoControl (natText n) := by
  intro c hc
  have hdigit := Nat.isDigit_of_mem_toDigits (by decide) (by decide) hc
  rw [Char.isDigit, Bool.and_eq_true, decide_eq_true_eq] at hdigit
  have hzero : ('0' : Char).toNat ≤ c.toNat := hdigit.1
  exact Nat.le_trans (by decide) hzero

/-- An exponent is written without control characters. -/
theorem noControl_exponentText (x : Int) : NoControl (exponentText x) := by
  rw [exponentText, noControl_cons]
  refine ⟨?_, noControl_natText _⟩
  split <;> decide

/-- Digits around a point are written without control characters. -/
theorem noControl_positionalText {digits : List Char} (h : NoControl digits) (lead : Int) :
    NoControl (positionalText digits lead) := by
  have hzeros := noControl_replicate (c := '0') (by decide)
  unfold positionalText
  split
  · simp [hzeros, h]
  · rw [noControl_append, noControl_cons]
    refine ⟨?_, by decide, ?_⟩
    · exact (noControl_append.2 ⟨h, hzeros _⟩).of_subset (List.take_subset _ _)
    · split
      · simp
      · exact h.of_subset (List.drop_subset _ _)

/-- Digits with an exponent are written without control characters. -/
theorem noControl_scientificText {digits : List Char} (h : NoControl digits) (lead : Int) :
    NoControl (scientificText digits lead) := by
  have hexponent := noControl_exponentText lead
  unfold scientificText
  split
  · exact noControl_nil
  · have hd := (noControl_cons.1 h).1
    simp [hd, hexponent]
  · obtain ⟨hd, hrest⟩ := noControl_cons.1 h
    simp [hd, hrest, hexponent]

/-- A decimal is written without control characters in every style. -/
theorem Decimal.noControl_text (style : DecimalStyle) (d : Decimal) :
    NoControl (d.text style) := by
  unfold Decimal.text
  dsimp only
  split
  · exact noControl_positionalText (noControl_natText _) _
  · exact noControl_scientificText (noControl_natText _) _

/-- A number is written without control characters. -/
theorem Number.noControl_text (n : Number) : NoControl n.text := by
  cases n with
  | natural n => exact noControl_natText n
  | negative n => exact noControl_cons.2 ⟨by decide, noControl_natText _⟩
  | float x =>
    refine noControl_append.2 ⟨?_, Decimal.noControl_text _ _⟩
    split <;> simp

/-! ## Documents -/

/-- A hexadecimal digit is no control character. -/
theorem hexDigit_toNat (n : Nat) : 0x20 ≤ (hexDigit n).toNat := by
  have hdigits : ∀ m < 16, 0x20 ≤ (Nat.digitChar m).toNat := by decide
  exact hdigits _ (Nat.mod_lt n (by decide))

/-- An escaped character is written without control characters: those are the ones escaped. -/
theorem noControl_escapedChar (c : Char) : NoControl (escapedChar c) := by
  unfold escapedChar
  -- the characters with an escape of their own
  iterate 7
    split
    · simp
  split
  · have hhigh := hexDigit_toNat (c.toNat / 16)
    have hlow := hexDigit_toNat c.toNat
    simp [hhigh, hlow]
  · next hc => exact noControl_cons.2 ⟨Nat.not_lt.1 hc, noControl_nil⟩

/-- A quoted text has no control characters, whatever is quoted. -/
theorem noControl_quotedText (s : String) : NoControl (quotedText s) := by
  have hescaped : NoControl (s.toList.flatMap escapedChar) := by
    intro c hc
    obtain ⟨c', -, hc'⟩ := List.mem_flatMap.1 hc
    exact noControl_escapedChar c' c hc'
  simp [quotedText, hescaped]

namespace Document

mutual
/-- The compact text of a document has no control characters. -/
theorem noControl_chars : ∀ d : Document, NoControl d.chars
  | .null => by simp [chars]
  | .bool true => by simp [chars]
  | .bool false => by simp [chars]
  | .number n => n.noControl_text
  | .string s => noControl_quotedText s
  | .list [] => by simp [chars]
  | .list (item :: items) => by
    simp [chars, noControl_chars item, noControl_itemsChars items]
  | .object [] => by simp [chars]
  | .object ((name, value) :: members) => by
    simp [chars, noControl_quotedText, noControl_chars value, noControl_membersChars members]

/-- The further items of a list are written without control characters. -/
theorem noControl_itemsChars : ∀ items : List Document, NoControl (itemsChars items)
  | [] => by simp [itemsChars]
  | item :: items => by
    simp [itemsChars, noControl_chars item, noControl_itemsChars items]

/-- The further members of an object are written without control characters. -/
theorem noControl_membersChars :
    ∀ members : List (String × Document), NoControl (membersChars members)
  | [] => by simp [membersChars]
  | (name, value) :: members => by
    simp [membersChars, noControl_quotedText, noControl_chars value,
      noControl_membersChars members]
end

/-- The compact text of a document has no control character, whatever its strings hold. -/
theorem noControl_text (d : Document) : NoControl d.text.toList := by
  rw [text, String.toList_ofList]
  exact d.noControl_chars

end Document

/-! ## Messages -/

namespace CompileError

/-- An error is shown as the properties on the way to its innermost cause, and then that cause. -/
theorem chain_eq (e : CompileError) :
    e.chain = e.propertyPath.map (fun name => "error processing property '" ++ name ++ "'") ++
      [e.rootCause.message] := by
  induction e with
  | inProperty name cause ih => exact congrArg (_ :: ·) ih
  | invalidSchema | missingType | unsupportedType | missingItems | invalidDefinition => rfl

end CompileError

/-- What stands between the parts of a diagnostic adds no control character. -/
theorem mem_intercalate_iff {separator : String} (h : NoControl separator.toList) {c : Char}
    (hc : c.toNat < 0x20) (parts : List String) :
    c ∈ (separator.intercalate parts).toList ↔ ∃ part ∈ parts, c ∈ part.toList := by
  induction parts with
  | nil => simp
  | cons part parts ih =>
    cases parts with
    | nil => simp
    | cons next parts =>
      rw [String.intercalate_cons_cons, String.append_assoc, String.toList_append, List.mem_append,
        h.mem_append_iff hc, ih]
      simp only [List.mem_cons, exists_eq_or_imp]

/-- The control characters of a diagnostic are those of the property names in it and of the message
of the innermost cause. -/
theorem control_mem_message_iff (e : CompileError) {c : Char} (hc : c.toNat < 0x20) :
    c ∈ (RunError.compile e).message.toList ↔
      (∃ name ∈ e.propertyPath, c ∈ name.toList) ∨ c ∈ e.rootCause.message.toList := by
  have hname : ∀ name : String,
      c ∈ ("error processing property '" ++ name ++ "'").toList ↔ c ∈ name.toList := by
    intro name
    have hquote : c ∉ "'".toList := NoControl.not_mem (by simp) hc
    rw [String.append_assoc, NoControl.mem_append_iff (by simp) hc, String.toList_append,
      List.mem_append, or_iff_left hquote]
  have hstart : c ∉ "error processing schema".toList := NoControl.not_mem (by simp) hc
  rw [RunError.message, mem_intercalate_iff (by simp) hc, CompileError.chain_eq]
  simp only [List.mem_cons, List.mem_append, List.mem_map, List.not_mem_nil, or_false, or_and_right,
    exists_or, exists_eq_left, exists_exists_and_eq_and, hstart, false_or, hname]

/-! ## Defects -/

/-- The message of a missing type has no control characters. -/
theorem noControl_missingType : NoControl CompileError.missingType.message.toList := by
  show NoControl "missing type in definition".toList
  simp

/-- The message of missing items has no control characters. -/
theorem noControl_missingItems : NoControl CompileError.missingItems.message.toList := by
  show NoControl "array definition missing items".toList
  simp

/-- The message of an invalid schema has none but those of its detail. -/
theorem noControl_invalidSchema {detail : String} (h : NoControl detail.toList) :
    NoControl (CompileError.invalidSchema detail).message.toList := by
  have hfixed : NoControl "invalid schema: ".toList := by simp
  exact hfixed.concat h

/-- A value that a message quotes brings no control character into it. -/
theorem noControl_invalidDefinition {what : String} (h : NoControl what.toList) (d : Document) :
    NoControl (CompileError.invalidDefinition (what ++ d.text)).message.toList := by
  have hfixed : NoControl "invalid definition for ".toList := by simp
  exact hfixed.concat (h.concat d.noControl_text)

namespace Position

/-- A defect of `properties` quotes a value by its compact text. -/
theorem noControl_of_propertiesDefect? {node : List (String × Document)} {cause : CompileError}
    (h : propertiesDefect? node = some cause) : NoControl cause.message.toList := by
  unfold propertiesDefect? at h
  split at h
  · cases h
  · cases h
  · split at h
    · cases h
      exact noControl_invalidDefinition (by simp) _
    · cases h

/-- A defect of a node is shown without control characters, or it names an unknown type. -/
theorem noControl_of_nodeDefect? {node : List (String × Document)} {cause : CompileError}
    (h : nodeDefect? node = some cause) :
    NoControl cause.message.toList ∨ ∃ name, cause = .unsupportedType name := by
  unfold nodeDefect? at h
  split at h
  · cases h
    exact .inl noControl_missingType
  · split at h
    · exact .inl (noControl_of_propertiesDefect? h)
    · split at h
      · split at h <;> cases h
        exact .inl noControl_missingItems
      · split at h <;> cases h
        exact .inr ⟨_, rfl⟩
  · cases h
    exact .inr ⟨_, rfl⟩

/-- A defect is shown without control characters, or it names an unknown type or the property that
it is the definition of. -/
theorem noControl_of_defect? {p : Position} {cause : CompileError} (h : p.defect? = some cause) :
    NoControl cause.message.toList ∨ (∃ name, cause = .unsupportedType name) ∨
      ∃ name ∈ p.role.names, cause = .invalidDefinition name := by
  unfold defect? at h
  split at h
  · split at h
    · split at h
      · exact .inl (noControl_of_propertiesDefect? h)
      · cases h
        exact .inl (noControl_invalidSchema (by simp))
    · cases h
      exact .inl (noControl_invalidSchema (by simp))
  · cases h
    exact .inl (noControl_invalidSchema (by simp))
  · split at h
    · cases h
    · exact (noControl_of_nodeDefect? h).imp_right .inl
  · cases h
    exact .inr (.inr ⟨_, List.mem_singleton_self _, rfl⟩)
  · exact (noControl_of_nodeDefect? h).imp_right .inl
  · cases h
    exact .inl (noControl_invalidDefinition (by simp) _)
  · split at h
    · split at h
      · cases h
      · exact (noControl_of_nodeDefect? h).imp_right .inl
      · cases h
        exact .inl (noControl_invalidDefinition (by simp) _)
    · cases h

/-- A route from the root to the definition of a property passes that property. -/
theorem Reaches.names_subset {p q : Position} {route : List Nat} {names : List String}
    (h : Reaches p route names q) : q.role.names ⊆ p.role.names ++ names := by
  induction h with
  | here p => exact List.subset_append_left _ _
  | step _ _ ih => exact List.subset_append_of_subset_right _ ih

end Position

/-- The innermost cause of a failure is shown without control characters, or it names an unknown
type or a property on the way to it. -/
theorem rootCause_cases {d : Document} {e : CompileError} (h : compile d = .error e) :
    NoControl e.rootCause.message.toList ∨ (∃ name, e.rootCause = .unsupportedType name) ∨
      ∃ name ∈ e.propertyPath, e.rootCause = .invalidDefinition name := by
  have herror : (Position.mk .root d).error? = some e :=
    Lowering.error?_eq_some_iff.2 (error_of_map h)
  obtain ⟨route, names, cause, ⟨q, hreaches, hdefect, -⟩, rfl⟩ :=
    Position.exists_firstDefect_of_error? herror
  have hpath := Position.propertyPath_defect? hdefect
  rw [CompileError.rootCause_along, CompileError.rootCause_of_propertyPath hpath,
    CompileError.propertyPath_along, hpath, List.append_nil]
  refine (Position.noControl_of_defect? hdefect).imp_right (Or.imp_right ?_)
  rintro ⟨name, hname, hcause⟩
  exact ⟨name, hreaches.names_subset hname, hcause⟩

/-! ## Diagnostics -/

/-- A run on a document that does not compile ends with its error, and reports it. -/
theorem run_of_compile_error {d : Document} {e : CompileError} (h : compile d = .error e)
    {arguments : List String} {i : Invocation} (hi : Invocation.ofArguments arguments = .ok i)
    {t : FileTree} (hload : t.load i.input = .ok d) (environment : Option String) :
    (i.run t).result = .error (.compile e) ∧
      (execute arguments environment t).report = (RunError.compile e).report := by
  rw [FileTree.load] at hload
  have hresult : (i.run t).result = .error (.compile e) := by
    rcases convert_cases i (t.find? i.input) with
      ⟨e', hload', -⟩ | ⟨d', e', hload', he', hconvert⟩ | ⟨d', grammar, hload', hgrammar, -⟩
    · rw [hload] at hload'
      cases hload'
    · rw [hload] at hload'
      cases hload'
      rw [h] at he'
      cases he'
      exact (run_of_error hconvert).2.2
    · rw [hload] at hload'
      cases hload'
      rw [h] at hgrammar
      cases hgrammar
  refine ⟨hresult, ?_⟩
  simp only [execute_eq, hi, hresult]

/-- **What breaks a diagnostic.** A document that does not compile makes the run end with its error,
whose diagnostic is reported. A character below the blank, and so a line feed or a carriage return,
stands in the diagnostic exactly when it stands in the name of a property on the way to the fault or
in the name of the unknown type that is the fault. No other value of the document can break the
line. -/
theorem control_mem_diagnostic_iff (d : Document) (e : CompileError) (h : compile d = .error e) :
    (∀ arguments environment t i, Invocation.ofArguments arguments = .ok i →
      t.load i.input = .ok d →
      (i.run t).result = .error (.compile e) ∧
        (execute arguments environment t).report =
          "Error: " ++ (RunError.compile e).message ++ "\n") ∧
    ∀ c : Char, c.toNat < 0x20 →
      (c ∈ (RunError.compile e).message.toList ↔
        (∃ name ∈ e.propertyPath, c ∈ name.toList) ∨
          ∃ name, e.rootCause = .unsupportedType name ∧ c ∈ name.toList) := by
  refine ⟨fun _ environment _ _ hi hload => run_of_compile_error h hi hload environment, ?_⟩
  intro c hc
  have htype : ∀ name, c ∈ (CompileError.unsupportedType name).message.toList ↔ c ∈ name.toList :=
    fun name => NoControl.mem_append_iff (by simp) hc name
  rw [control_mem_message_iff e hc]
  refine ⟨?_, Or.imp_right ?_⟩
  · rintro (hname | hcause)
    · exact .inl hname
    rcases rootCause_cases h with hclean | ⟨name, hroot⟩ | ⟨name, hname, hroot⟩
    · exact absurd hcause (hclean.not_mem hc)
    · rw [hroot, htype] at hcause
      exact .inr ⟨name, hroot, hcause⟩
    · rw [hroot] at hcause
      have hsubject : c ∈ name.toList := (NoControl.mem_append_iff (by simp) hc name).1 hcause
      exact .inl ⟨name, hname, hsubject⟩
  · rintro ⟨name, hroot, hmem⟩
    rw [hroot, htype]
    exact hmem

/-- A document whose items are of a type with a line feed in its name. -/
def brokenType : Document :=
  .object [("type", .string "object"), ("properties", .object [("xs", .object
    [("type", .string "array"), ("items", .object [("type", .string "a\nb")])])])]

/-- A working directory with a file that holds `brokenType`. -/
def brokenTypeTree : FileTree where
  nodes := [(["work"], .directory), (["work", "schema.json"], .file
    ("\x7b\"type\":\"object\",\"properties\":\x7b\"xs\":\x7b\"type\":\"array\"," ++
      "\"items\":\x7b\"type\":\"a\\nb\"\x7d\x7d\x7d\x7d").toUTF8)]
  home := ["work"]
  coherent := ⟨rfl, List.forall_mem_cons.2 ⟨rfl, List.forall_mem_singleton.2 rfl⟩⟩

/-- The line feed of the type is in the diagnostic that is reported, and nothing else breaks its
line. -/
theorem brokenType_diagnostic :
    compile brokenType = .error (.inProperty "xs" (.unsupportedType "a\nb")) ∧
      brokenTypeTree.load "schema.json" = .ok brokenType ∧
      (execute ["schema.json", "out.gbnf"] none brokenTypeTree).report =
        "Error: " ++ (RunError.compile
          (.inProperty "xs" (.unsupportedType "a\nb"))).message ++ "\n" ∧
      '\n' ∈ (RunError.compile
        (.inProperty "xs" (.unsupportedType "a\nb"))).message.toList ∧
      '\r' ∉ (RunError.compile
        (.inProperty "xs" (.unsupportedType "a\nb"))).message.toList := by
  have hcompile : compile brokenType = .error (.inProperty "xs" (.unsupportedType "a\nb")) := rfl
  have hload : brokenTypeTree.load "schema.json" = .ok brokenType := by with_unfolding_all rfl
  obtain ⟨hrun, hiff⟩ := control_mem_diagnostic_iff _ _ hcompile
  have hreport := (hrun ["schema.json", "out.gbnf"] none brokenTypeTree
    ⟨"schema.json", "out.gbnf", false, false⟩ rfl hload).2
  refine ⟨hcompile, hload, hreport, ?_, ?_⟩
  · exact (hiff '\n' (by decide)).2 (.inr ⟨"a\nb", rfl, by decide⟩)
  · rw [hiff '\r' (by decide)]
    rintro (⟨name, hname, hmem⟩ | ⟨name, hroot, hmem⟩)
    · rw [List.mem_singleton.1 hname] at hmem
      exact absurd hmem (by decide)
    · cases hroot
      exact absurd hmem (by decide)

/-- A document with a line feed in the name of a property that has no type. -/
def brokenName : Document :=
  .object [("type", .string "object"), ("properties", .object [("a\nb", .object [])])]

/-- A diagnostic need not be one line: that of `brokenName` has a line feed in it. -/
theorem brokenName_diagnostic_two_lines :
    compile brokenName = .error (.inProperty "a\nb" .missingType) ∧
      (RunError.compile (.inProperty "a\nb" .missingType)).message =
        "error processing schema: error processing property 'a\nb': missing type in definition" ∧
      '\n' ∈ (RunError.compile (.inProperty "a\nb" .missingType)).message.toList := by
  have hmessage : (RunError.compile (.inProperty "a\nb" .missingType)).message =
      "error processing schema: error processing property 'a\nb': missing type in definition" := by
    decide +kernel
  refine ⟨rfl, hmessage, ?_⟩
  rw [hmessage]
  decide +kernel

end SchemaGrammar
