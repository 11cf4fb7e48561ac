import SchemaGrammar.Document.Text
import SchemaGrammar.Source

/-!
# The compact text of a document reads back

The compact text of a document is JSON, and the reader gives the document back from it, with the
members of each object in their order (`Json.read_text`). This asks for three things. The reader
does not always give a floating-point number its nearest value, so there may be none
(`Document.FloatFree`); of a repeated name it keeps one member, so names are distinct; and it
refuses containers that nest too deep, so `Document.depth` is bounded by what it allows.

Each part of a text is read back whatever stands behind it, as long as that does not continue a
number (`Json.Reads`): a string by the escapes of its characters, an integer by its digits, lists
and objects by one lemma for both (`Json.readContainer_container`). For values the induction is on
how deep the reader may nest.
-/

namespace SchemaGrammar

/-- No number in the document is a floating-point number. -/
inductive Document.FloatFree : Document → Prop
  | null : FloatFree .null
  | bool (b : Bool) : FloatFree (.bool b)
  | number {n : Number} (h : ∀ x, n ≠ .float x) : FloatFree (.number n)
  | string (s : String) : FloatFree (.string s)
  | list {items : List Document} (hitems : ∀ item ∈ items, FloatFree item) :
      FloatFree (.list items)
  | object {members : List (String × Document)}
      (hmembers : ∀ member ∈ members, FloatFree member.2) : FloatFree (.object members)

namespace Document

mutual
/-- How deep the containers of a document nest. -/
def depth : Document → Nat
  | .list items => itemsDepth items + 1
  | .object members => membersDepth members + 1
  | _ => 0

/-- How deep the containers among the items of a list nest. -/
def itemsDepth : List Document → Nat
  | [] => 0
  | item :: items => max item.depth (itemsDepth items)

/-- How deep the containers among the members of an object nest. -/
def membersDepth : List (String × Document) → Nat
  | [] => 0
  | (_, value) :: members => max value.depth (membersDepth members)
end

/-- An item nests no deeper than the list of items. -/
theorem depth_le_itemsDepth {items : List Document} {item : Document} (h : item ∈ items) :
    item.depth ≤ itemsDepth items := by
  induction items with
  | nil => cases h
  | cons first items ih =>
    rw [itemsDepth]
    rcases List.mem_cons.1 h with rfl | h
    · exact Nat.le_max_left _ _
    · exact Nat.le_trans (ih h) (Nat.le_max_right _ _)

/-- Members nest as deep as their values. -/
theorem membersDepth_eq (members : List (String × Document)) :
    membersDepth members = itemsDepth (members.map Prod.snd) := by
  induction members with
  | nil => rfl
  | cons member members ih => rw [membersDepth, List.map_cons, itemsDepth, ih]

/-- The value of a member nests no deeper than the list of members. -/
theorem depth_le_membersDepth {members : List (String × Document)} {member : String × Document}
    (h : member ∈ members) : member.2.depth ≤ membersDepth members := by
  rw [membersDepth_eq]
  exact depth_le_itemsDepth (List.mem_map_of_mem h)

end Document

namespace Json

/-! ## Strings -/

/-- The escape of a control character spells its code. -/
theorem codeUnit?_hexDigit {n : Nat} (h : n < 0x20) :
    codeUnit? '0' '0' (hexDigit (n / 16)) (hexDigit n) = some n := by
  revert n
  decide

/-- A control character is read from its code. -/
theorem readQuoted_code {c : Char} (h : c.toNat < 0x20) (rest : List Char) :
    readQuoted ('\\' :: 'u' :: '0' :: '0' :: hexDigit (c.toNat / 16) :: hexDigit c.toNat :: rest) =
      (readQuoted rest).map fun (s, rest) => (c :: s, rest) := by
  have hleading : isLeading c.toNat = false := by
    simp only [isLeading, Bool.and_eq_false_iff, decide_eq_false_iff_not]
    omega
  have htrailing : isTrailing c.toNat = false := by
    simp only [isTrailing, Bool.and_eq_false_iff, decide_eq_false_iff_not]
    omega
  simp [readQuoted, codeUnit?_hexDigit h, hleading, htrailing]

/-- A character that needs no escape stands for itself. -/
theorem readQuoted_raw {c : Char} (hquote : c ≠ '"') (hbackslash : c ≠ '\\')
    (h : ¬ c.toNat < 0x20) (rest : List Char) :
    readQuoted (c :: rest) = (readQuoted rest).map fun (s, rest) => (c :: s, rest) := by
  rw [readQuoted]
  · simp [hbackslash, h]
  · exact hquote
  · exact fun _ _ _ _ _ hc => absurd hc hbackslash
  · exact fun _ _ hc => absurd hc hbackslash

/-- A character is read from its escaped form. -/
theorem readQuoted_escapedChar (c : Char) (rest : List Char) :
    readQuoted (escapedChar c ++ rest) =
      (readQuoted rest).map fun (s, rest) => (c :: s, rest) := by
  by_cases hquote : c = '"'
  · subst hquote
    rfl
  by_cases hbackslash : c = '\\'
  · subst hbackslash
    rfl
  rw [escapedChar, if_neg hquote, if_neg hbackslash]
  -- the five control characters with a letter of their own
  iterate 5
    split
    · next h =>
      subst h
      rfl
  split
  · next h => exact readQuoted_code h rest
  · next h => exact readQuoted_raw hquote hbackslash h rest

/-- A string is read from its escaped form, up to the closing quote. -/
theorem readQuoted_escaped (s rest : List Char) :
    readQuoted (s.flatMap escapedChar ++ '"' :: rest) = some (s, rest) := by
  induction s with
  | nil => rfl
  | cons c s ih =>
    rw [List.flatMap_cons, List.append_assoc, readQuoted_escapedChar, ih]
    rfl

/-! ## Numbers -/

/-- What does not continue a number: the end of the text, or a character that is no digit, no point
and no mark of an exponent. -/
def EndsNumber (rest : List Char) : Prop :=
  ∀ c ∈ rest.head?, c.isDigit = false ∧ c ≠ '.' ∧ c ≠ 'e' ∧ c ≠ 'E'

/-- Digits are read up to what does not continue them. -/
theorem readDigits_append {digits rest : List Char} (hne : digits ≠ [])
    (hdigits : ∀ c ∈ digits, c.isDigit = true) (hrest : EndsNumber rest) :
    readDigits (digits ++ rest) = some (digits, rest) := by
  have htake : rest.takeWhile Char.isDigit = [] := by
    cases rest with
    | nil => rfl
    | cons c rest => exact List.takeWhile_cons_of_neg (by simp [(hrest c rfl).1])
  have hdrop : rest.dropWhile Char.isDigit = rest := by
    cases rest with
    | nil => rfl
    | cons c rest => exact List.dropWhile_cons_of_neg (by simp [(hrest c rfl).1])
  unfold readDigits
  rw [List.takeWhile_append_of_pos hdigits, List.dropWhile_append_of_pos hdigits, htake, hdrop,
    List.append_nil]
  cases digits with
  | nil => exact absurd rfl hne
  | cons d digits => rfl

/-- A natural number is written in digits. -/
theorem isDigit_of_mem_natText {n : Nat} {c : Char} (h : c ∈ natText n) : c.isDigit = true :=
  Nat.isDigit_of_mem_toDigits (by decide) (by decide) h

/-- The text of a natural number begins with a digit, which is zero only if the number is. -/
theorem natText_start (n : Nat) :
    ∃ d digits, natText n = d :: digits ∧ d.isDigit = true ∧ (d = '0' → n = 0) := by
  induction n using Nat.strongRecOn with
  | ind n ih =>
    by_cases hn : n < 10
    · have hdigits : ∀ m < 10,
          m.digitChar.isDigit = true ∧ (m.digitChar = '0' → m = 0) := by decide
      exact ⟨n.digitChar, [], Nat.toDigits_of_lt_base hn, hdigits n hn⟩
    · obtain ⟨d, digits, htext, hdigit, hzero⟩ := ih (n / 10) (by omega)
      have hsplit : natText n = natText (n / 10) ++ [(n % 10).digitChar] :=
        Nat.toDigits_of_base_le (by decide) (Nat.not_lt.1 hn)
      refine ⟨d, digits ++ [(n % 10).digitChar], ?_, hdigit, ?_⟩
      · rw [hsplit, htext, List.cons_append]
      · intro hd
        have := hzero hd
        omega

/-- A zero stands alone, and no other number begins with one; so the digits are read as they are. -/
theorem readWhole_natText (n : Nat) {rest : List Char} (h : EndsNumber rest) :
    readWhole (natText n ++ rest) = some (natText n, rest) := by
  obtain ⟨d, digits, htext, -, hzero⟩ := natText_start n
  by_cases hd : d = '0'
  · rw [hzero hd]
    cases rest with
    | nil => rfl
    | cons c rest =>
      have hc : c.isDigit = false := (h c rfl).1
      simp [natText, readWhole, hc]
  · have hdigits : readDigits (natText n ++ rest) = some (natText n, rest) :=
      readDigits_append Nat.toDigits_ne_nil (fun _ => isDigit_of_mem_natText) h
    rw [htext, List.cons_append] at hdigits ⊢
    unfold readWhole
    split
    · next heq => exact absurd (List.cons.inj heq).1 hd
    · exact hdigits

/-- The digits of a natural number spell it. -/
theorem digitsValue_natText (n : Nat) : Text.digitsValue (natText n) = n := by
  have hvalue := @Nat.ofDigitChars_ten_toDigits n
  rw [Nat.ofDigitChars_eq_foldl] at hvalue
  simp only [Nat.mul_comm 10] at hvalue
  exact hvalue

/-- No fraction is read from what ends a number. -/
theorem readFraction_of_ends {rest : List Char} (h : EndsNumber rest) :
    readFraction rest = some (none, rest) := by
  unfold readFraction
  split
  · exact absurd rfl (h '.' rfl).2.1
  · rfl

/-- No exponent is read from what ends a number. -/
theorem readExponent_of_ends {rest : List Char} (h : EndsNumber rest) :
    readExponent rest = some (none, rest) := by
  unfold readExponent
  split
  · next c rest =>
    obtain ⟨-, -, he, hE⟩ := h c rfl
    rw [if_neg (by simp [he, hE])]
  · rfl

/-- A natural number is read back, and all that follows it is left. -/
theorem readUnsigned_natText (negative : Bool) (n : Nat) {rest : List Char}
    (h : EndsNumber rest) :
    readUnsigned negative (natText n ++ rest) = some (⟨negative, natText n, none, none⟩, rest) := by
  simp [readUnsigned, readWhole_natText n h, readFraction_of_ends h, readExponent_of_ends h]

/-- A number that begins with a digit has no sign. -/
theorem readSpelling_of_isDigit {c : Char} (h : c.isDigit = true) (rest : List Char) :
    NumberSpelling.read (c :: rest) = readUnsigned false (c :: rest) := by
  unfold NumberSpelling.read
  split
  · next heq =>
    cases heq
    cases h
  · rfl

/-- A reader returns a value from its text and leaves what follows, if that does not continue the
text. -/
def Reads {α : Type} (read : List Char → Option (α × List Char)) (text : List Char) (x : α) :
    Prop :=
  ∀ rest, EndsNumber rest → read (text ++ rest) = some (x, rest)

/-- An integer is read from its text. -/
theorem readNumber_text {n : Number} (hn : ∀ x, n ≠ .float x) : Reads readNumber n.text n := by
  intro rest h
  cases n with
  | natural n =>
    obtain ⟨d, digits, htext, hd, -⟩ := natText_start n
    have hread := readUnsigned_natText false n h
    rw [htext, List.cons_append, ← readSpelling_of_isDigit hd, ← List.cons_append, ← htext] at hread
    have hvalue : NumberSpelling.value ⟨false, natText n, none, none⟩ = some (.natural n) := by
      simp [NumberSpelling.value, digitsValue_natText]
    rw [Number.text, readNumber, hread]
    simp [hvalue]
  | negative n =>
    have hread := readUnsigned_natText true (n + 1) h
    have hvalue :
        NumberSpelling.value ⟨true, natText (n + 1), none, none⟩ = some (.negative n) := by
      simp [NumberSpelling.value, digitsValue_natText]
    rw [Number.text, readNumber, List.cons_append, NumberSpelling.read, hread]
    simp [hvalue]
  | float x => exact absurd rfl (hn x)

/-! ## Containers -/

/-- Nothing is skipped before a character that is no blank. -/
theorem skipBlanks_cons {c : Char} (h : isBlank c = false) (rest : List Char) :
    skipBlanks (c :: rest) = c :: rest :=
  List.dropWhile_cons_of_neg (by simp [h])

section
variable {α : Type}

/-- The texts of the items after the first, each behind a comma, and the closing mark. -/
def furtherText (write : α → List Char) (close : Char) : List α → List Char
  | [] => [close]
  | x :: xs => ',' :: write x ++ furtherText write close xs

/-- The texts of the items with commas between them, and the closing mark. -/
def containerText (write : α → List Char) (close : Char) : List α → List Char
  | [] => [close]
  | x :: xs => write x ++ furtherText write close xs

/-- Items may be replaced by what they are written as. -/
theorem containerText_map {β : Type} (write : β → List Char) (f : α → β) (close : Char)
    (xs : List α) :
    containerText write close (xs.map f) = containerText (fun x => write (f x)) close xs := by
  have hfurther : ∀ xs : List α,
      furtherText write close (xs.map f) = furtherText (fun x => write (f x)) close xs := by
    intro xs
    induction xs with
    | nil => rfl
    | cons x xs ih => rw [List.map_cons, furtherText, furtherText, ih]
  cases xs with
  | nil => rfl
  | cons x xs => rw [List.map_cons, containerText, containerText, hfurther]

variable {item : List Char → Option (α × List Char)} {write : α → List Char} {close : Char}

/-- The text of further elements is longer than their number, so that number bounds its reader. -/
theorem length_lt_furtherText (write : α → List Char) (close : Char) (xs : List α) :
    xs.length < (furtherText write close xs).length := by
  induction xs with
  | nil => exact Nat.zero_lt_one
  | cons x xs ih =>
    simp only [furtherText, List.length_cons, List.length_append]
    omega

/-- What follows an item of a container does not continue it. -/
theorem endsNumber_furtherText (write : α → List Char) (hclose : close = ']' ∨ close = '\x7d')
    (xs : List α) (rest : List Char) : EndsNumber (furtherText write close xs ++ rest) := by
  intro c hc
  cases xs with
  | nil =>
    cases hc
    rcases hclose with rfl | rfl <;> decide
  | cons x xs =>
    cases hc
    decide

/-- Items are read one after another up to the closing mark, if the bound allows for all. -/
theorem readSeparated_further (hclose : close = ']' ∨ close = '\x7d') {x : α} {xs : List α}
    (hitem : ∀ y ∈ x :: xs, Reads item (write y) y) {bound : Nat} (hbound : xs.length < bound)
    (rest : List Char) :
    readSeparated item close bound (write x ++ (furtherText write close xs ++ rest)) =
      some (x :: xs, rest) := by
  have hblank : isBlank close = false := by rcases hclose with rfl | rfl <;> rfl
  have hcomma : ',' ≠ close := by rcases hclose with rfl | rfl <;> decide
  induction xs generalizing x bound with
  | nil =>
    cases bound with
    | zero => cases hbound
    | succ bound =>
      have hfirst := hitem x List.mem_cons_self _ (endsNumber_furtherText write hclose [] rest)
      rw [readSeparated, hfirst]
      simp [furtherText, skipBlanks_cons hblank]
  | cons y xs ih =>
    cases bound with
    | zero => cases hbound
    | succ bound =>
      have hfirst := hitem x List.mem_cons_self _
        (endsNumber_furtherText write hclose (y :: xs) rest)
      have hothers := ih (fun z hz => hitem z (List.mem_cons_of_mem _ hz))
        (Nat.lt_of_succ_lt_succ hbound)
      rw [readSeparated, hfirst]
      simp [furtherText, skipBlanks_cons (c := ',') rfl, hcomma, hothers]

/-- The items of a container are read from its text. -/
theorem readContainer_container (hclose : close = ']' ∨ close = '\x7d') {xs : List α}
    (hitem : ∀ x ∈ xs, Reads item (write x) x)
    (hstart : ∀ x ∈ xs, ∃ c cs, write x = c :: cs ∧ isBlank c = false ∧ c ≠ close)
    (rest : List Char) :
    readContainer item close (containerText write close xs ++ rest) = some (xs, rest) := by
  have hblank : isBlank close = false := by rcases hclose with rfl | rfl <;> rfl
  unfold readContainer
  cases xs with
  | nil =>
    rw [containerText, List.singleton_append, skipBlanks_cons hblank]
    exact if_pos rfl
  | cons x xs =>
    obtain ⟨c, cs, htext, hc, hne⟩ := hstart x List.mem_cons_self
    have hbound : xs.length < (write x ++ (furtherText write close xs ++ rest)).length := by
      have := length_lt_furtherText write close xs
      simp only [List.length_append]
      omega
    have hread := readSeparated_further hclose hitem hbound rest
    rw [containerText, List.append_assoc]
    rw [htext, List.cons_append] at hread ⊢
    rw [skipBlanks_cons hc]
    exact (if_neg hne).trans hread

end

end Json

/-! ## Values -/

namespace Document

/-- The text of a member. -/
def memberChars (member : String × Document) : List Char :=
  quotedText member.1 ++ ':' :: member.2.chars

/-- The text after the first item of a list is that of further elements. -/
theorem itemsChars_eq (items : List Document) :
    itemsChars items = Json.furtherText chars ']' items := by
  induction items with
  | nil => rfl
  | cons item items ih => rw [itemsChars, Json.furtherText, ih]

/-- The text after the first member of an object is that of further elements. -/
theorem membersChars_eq (members : List (String × Document)) :
    membersChars members = Json.furtherText memberChars '\x7d' members := by
  induction members with
  | nil => rfl
  | cons member members ih =>
    rw [membersChars, Json.furtherText, ih, memberChars]
    simp

/-- The text of a list is that of a container in brackets. -/
theorem chars_list (items : List Document) :
    (list items).chars = '[' :: Json.containerText chars ']' items := by
  cases items with
  | nil => rfl
  | cons item items =>
    rw [chars, itemsChars_eq]
    rfl

/-- The text of an object is that of a container in braces. -/
theorem chars_object (members : List (String × Document)) :
    (object members).chars = '\x7b' :: Json.containerText memberChars '\x7d' members := by
  cases members with
  | nil => rfl
  | cons member members =>
    rw [chars, membersChars_eq, Json.containerText, memberChars]
    simp

end Document

namespace Json

/-- A member is read from its text, if its value is. -/
theorem readMember_memberChars {value : List Char → Option (DistinctDocument × List Char)}
    {name : String} {d : DistinctDocument} (h : Reads value d.value.chars d) :
    Reads (readMember value) (Document.memberChars (name, d.value)) (name, d) := by
  intro rest hrest
  have htext : Document.memberChars (name, d.value) ++ rest =
      '"' :: (name.toList.flatMap escapedChar ++ '"' :: ':' :: (d.value.chars ++ rest)) := by
    simp [Document.memberChars, quotedText]
  rw [htext, readMember, skipBlanks_cons rfl]
  simp only [readQuoted_escaped]
  rw [skipBlanks_cons rfl]
  simp [h rest hrest]

/-- A digit is no blank. -/
theorem isBlank_of_isDigit {c : Char} (h : c.isDigit = true) : isBlank c = false := by
  simp only [isBlank, Bool.or_eq_false_iff, beq_eq_false_iff_ne]
  refine ⟨⟨⟨?_, ?_⟩, ?_⟩, ?_⟩
  all_goals
    rintro rfl
    cases h

/-- A digit or a sign begins the text of an integer. -/
theorem integerText_start {n : Number} (hn : ∀ x, n ≠ .float x) :
    ∃ c cs, n.text = c :: cs ∧ isBlank c = false ∧ (c.isDigit = true ∨ c = '-') := by
  cases n with
  | natural n =>
    obtain ⟨d, digits, htext, hd, -⟩ := natText_start n
    exact ⟨d, digits, htext, isBlank_of_isDigit hd, .inl hd⟩
  | negative n => exact ⟨'-', natText (n + 1), rfl, rfl, .inr rfl⟩
  | float x => exact absurd rfl (hn x)

/-- The text of a value begins with a character that neither is skipped nor closes a list. -/
theorem chars_start {d : Document} (h : d.FloatFree) :
    ∃ c cs, d.chars = c :: cs ∧ isBlank c = false ∧ c ≠ ']' := by
  cases h with
  | null => exact ⟨_, _, rfl, rfl, by decide⟩
  | bool b => cases b <;> exact ⟨_, _, rfl, rfl, by decide⟩
  | @number n hn =>
    obtain ⟨c, cs, htext, hblank, hc⟩ := integerText_start hn
    refine ⟨c, cs, htext, hblank, ?_⟩
    rintro rfl
    exact absurd hc (by decide)
  | string s => exact ⟨_, _, rfl, rfl, by decide⟩
  | @list items _ => exact ⟨_, _, Document.chars_list items, rfl, by decide⟩
  | @object members _ => exact ⟨_, _, Document.chars_object members, rfl, by decide⟩

/-- A number is read where a value begins with a digit or a sign. -/
theorem readValue_of_number {c : Char} (hblank : isBlank c = false)
    (h : c.isDigit = true ∨ c = '-') (depth : Nat) (rest : List Char) :
    readValue depth (c :: rest) =
      (readNumber (c :: rest)).map fun (n, rest) => (.number n, rest) := by
  unfold readValue
  rw [skipBlanks_cons hblank]
  split
  case h_7 => rfl
  -- every other form of value begins with a mark of its own
  all_goals
    next heq =>
    cases heq
    exact absurd h (by decide)

/-- A list is read from its text by a reader that may nest one level deeper than its items need. -/
theorem reads_list {depth : Nat} {items : List DistinctDocument}
    (hfloat : ∀ item ∈ items, item.value.FloatFree)
    (hread : ∀ item ∈ items, Reads (readValue depth) item.value.chars item) :
    Reads (readValue (depth + 1)) (DistinctDocument.list items).value.chars (.list items) := by
  intro rest _
  have hitems := readContainer_container (.inl rfl) hread
    (fun item hmem => chars_start (hfloat item hmem)) rest
  rw [DistinctDocument.list, Document.chars_list, containerText_map, List.cons_append, readValue,
    skipBlanks_cons rfl]
  simp only [hitems, Option.map_some, DistinctDocument.list]

/-- An object is read from its text in the same way. -/
theorem reads_object {depth : Nat} {members : List (String × DistinctDocument)}
    (hread : ∀ member ∈ members, Reads (readValue depth) member.2.value.chars member.2)
    (rest : List Char) :
    readValue (depth + 1)
        ((Document.object (DistinctDocument.memberValues members)).chars ++ rest) =
      some (.object members, rest) := by
  have hmembers := readContainer_container (.inr rfl)
    (fun member hmem => readMember_memberChars (hread member hmem))
    (fun member _ => ⟨'"', _, rfl, rfl, by decide⟩) rest
  rw [Document.chars_object, DistinctDocument.memberValues, containerText_map, List.cons_append,
    readValue, skipBlanks_cons rfl]
  simp only [hmembers, Option.map_some]

/-- **A value is read from its compact text.** The induction is on how deep the reader may nest. -/
theorem readValue_chars {d : DistinctDocument} (hfloat : d.value.FloatFree) {depth : Nat}
    (hdepth : d.value.depth ≤ depth) : Reads (readValue depth) d.value.chars d := by
  induction depth using Nat.strongRecOn generalizing d with
  | ind depth ih =>
    obtain ⟨value, hdistinct⟩ := d
    cases hfloat with
    | null =>
      intro rest _
      rw [readValue]
      rfl
    | bool b =>
      intro rest _
      rw [readValue]
      cases b <;> rfl
    | @number n hn =>
      intro rest hrest
      obtain ⟨c, cs, htext, hblank, hc⟩ := integerText_start hn
      have hread := readNumber_text hn rest hrest
      show readValue depth ((Document.number n).chars ++ rest) = _
      rw [Document.chars]
      rw [htext, List.cons_append] at hread ⊢
      rw [readValue_of_number hblank hc, hread]
      rfl
    | string s =>
      intro rest _
      have htext : (Document.string s).chars ++ rest =
          '"' :: (s.toList.flatMap escapedChar ++ '"' :: rest) := by
        simp [Document.chars, quotedText]
      rw [htext, readValue, skipBlanks_cons rfl]
      simp [readQuoted_escaped, DistinctDocument.string]
    | @list items hitems =>
      obtain ⟨ds, rfl⟩ := DistinctDocument.exists_items hdistinct
      have hle : Document.itemsDepth (ds.map DistinctDocument.value) + 1 ≤ depth := by
        rwa [Document.depth] at hdepth
      obtain ⟨inner, rfl⟩ : ∃ inner, depth = inner + 1 := ⟨depth - 1, by omega⟩
      refine reads_list (fun d hd => hitems _ (List.mem_map_of_mem hd)) fun d hd => ?_
      have hmem := List.mem_map_of_mem (f := DistinctDocument.value) hd
      have hd := Document.depth_le_itemsDepth hmem
      exact ih inner (Nat.lt_succ_self _) (hitems _ hmem) (by omega)
    | @object members hmembers =>
      obtain ⟨ds, rfl⟩ := DistinctDocument.exists_members hdistinct
      have hle : Document.membersDepth (DistinctDocument.memberValues ds) + 1 ≤ depth := by
        rwa [Document.depth] at hdepth
      obtain ⟨inner, rfl⟩ : ∃ inner, depth = inner + 1 := ⟨depth - 1, by omega⟩
      intro rest _
      refine (reads_object (fun d hd => ?_) rest).trans ?_
      · have hmem : (d.1, d.2.value) ∈ DistinctDocument.memberValues ds :=
          List.mem_map_of_mem (f := fun m : String × DistinctDocument => (m.1, m.2.value)) hd
        have hd : d.2.value.depth ≤ _ := Document.depth_le_membersDepth hmem
        exact ih inner (Nat.lt_succ_self _) (hmembers _ hmem) (by omega)
      · -- the names being distinct, every member stays in its place
        have hnames := (Document.distinct_object_iff.1 hdistinct).1
        simp only [DistinctDocument.object, Entries.ofList_of_nodup hnames]

/-- The compact text of a document spells that document. -/
theorem read_text {d : DistinctDocument} (hfloat : d.value.FloatFree)
    (hdepth : d.value.depth ≤ maxDepth) : read d.value.text = some d := by
  have hread := readValue_chars hfloat hdepth [] (by nofun)
  rw [List.append_nil] at hread
  rw [read, Document.text, String.toList_ofList, hread]
  rfl

end Json

end SchemaGrammar
