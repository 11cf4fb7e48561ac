import Mathlib.Data.List.Basic
import Mathlib.Data.List.TakeWhile
import SchemaGrammar.Path

/-!
# Parents of paths

A path is cut into components wherever a slash stands, and its parent is found by taking characters
off its end. `parent?_eq_some` says that the two agree: the parent of a path has the components of
the path without the last, and it begins where the path begins.
-/

namespace SchemaGrammar

/-! ## Cutting at a mark -/

/-- A text has a part, if only an empty one. -/
theorem Text.parts_ne_nil (mark : Char) (text : List Char) : parts mark text ≠ [] := by
  fun_cases parts mark text <;> simp

/-- A mark parts what stands before it from what stands after it. -/
theorem Text.parts_append (mark : Char) (before after : List Char) :
    parts mark (before ++ mark :: after) = parts mark before ++ parts mark after := by
  fun_induction parts mark before with
  | case1 => simp [parts]
  | case2 cs ih => simp [parts, ih]
  | case3 c cs hne hnil ih => exact absurd hnil (parts_ne_nil mark cs)
  | case4 c cs hne part rest hparts ih =>
    simp [parts, hne, ih, hparts]

/-- A text without marks is one part. -/
theorem Text.parts_of_not_mem {mark : Char} {text : List Char} (h : mark ∉ text) :
    parts mark text = [text] := by
  induction text with
  | nil => rfl
  | cons c text ih =>
    obtain ⟨hc, htext⟩ : mark ≠ c ∧ mark ∉ text := by simpa using h
    simp [parts, hc.symm, ih htext]

namespace Path

/-- The components of a path as lists of characters. -/
def words (path : List Char) : List (List Char) := (Text.parts '/' path).filter (!isIdle ·)

/-- The components of a path are its words. -/
theorem components_eq (path : String) :
    components path = (words path.toList).map String.ofList := rfl

/-- **Words are parted at slashes.** The other facts about `words` follow from this one. -/
theorem words_append (before after : List Char) :
    words (before ++ '/' :: after) = words before ++ words after := by
  rw [words, Text.parts_append, List.filter_append]
  rfl

/-- The empty path has no words. -/
theorem words_nil : words [] = [] := rfl

/-- A slash at the end adds no word. -/
theorem words_concat_slash (path : List Char) : words (path ++ ['/']) = words path := by
  rw [words_append, words_nil, List.append_nil]

/-- A slash and a point at the end add no word. -/
theorem words_concat_slash_point (path : List Char) : words (path ++ ['/', '.']) = words path := by
  have hpoint : words ['.'] = [] := rfl
  rw [words_append, hpoint, List.append_nil]

/-- A text without slashes that says something is one word. -/
theorem words_of_not_mem {word : List Char} (h : '/' ∉ word) (hidle : isIdle word = false) :
    words word = [word] := by
  rw [words, Text.parts_of_not_mem h]
  simp [hidle]

/-! ## Trimming -/

/-- Trimming leaves something of a path unless there is nothing. -/
theorem trimReversed_eq_nil {path : List Char} (h : trimReversed path = []) : path = [] := by
  fun_cases trimReversed path <;> simp_all [trimReversed]

/-- Trimming keeps the components. -/
theorem words_trimReversed (path : List Char) :
    words (trimReversed path).reverse = words path.reverse := by
  fun_induction trimReversed path with
  | case1 rest hnil ih =>
    rw [trimReversed_eq_nil hnil]
  | case2 rest trimmed ih =>
    rw [List.reverse_cons, words_concat_slash, ih]
  | case3 rest hnil ih =>
    rw [trimReversed_eq_nil hnil]
    rfl
  | case4 rest trimmed ih =>
    rw [ih, List.reverse_cons, List.reverse_cons, List.append_assoc]
    exact (words_concat_slash_point rest.reverse).symm
  | case5 cs => rfl

/-- Trimming keeps the beginning. -/
theorem getLast?_trimReversed (path : List Char) :
    (trimReversed path).getLast? = path.getLast? := by
  fun_induction trimReversed path with
  | case1 rest hnil ih => rw [trimReversed_eq_nil hnil]
  | case2 rest trimmed ih =>
    obtain ⟨c, cs, rfl⟩ := List.exists_cons_of_ne_nil fun h : rest = [] => trimmed (by rw [h]; rfl)
    rw [ih, List.getLast?_cons_cons]
  | case3 rest hnil ih =>
    rw [trimReversed_eq_nil hnil]
    rfl
  | case4 rest trimmed ih =>
    obtain ⟨c, cs, rfl⟩ := List.exists_cons_of_ne_nil fun h : rest = [] => trimmed (by rw [h]; rfl)
    rw [ih, List.getLast?_cons_cons, List.getLast?_cons_cons]
  | case5 cs => rfl

/-- What is left by trimming: nothing, the root, a point, or a path whose last component says
something. -/
theorem trimReversed_cases (path : List Char) :
    trimReversed path = [] ∨ trimReversed path = ['/'] ∨ trimReversed path = ['.'] ∨
      isIdle ((trimReversed path).takeWhile (· != '/')).reverse = false := by
  fun_induction trimReversed path with
  | case1 | case3 => exact .inr (.inl rfl)
  | case2 _ _ ih => exact ih
  | case4 _ _ ih => exact ih
  | case5 cs hslash hpoint =>
    rcases cs with _ | ⟨c, cs⟩
    · exact .inl rfl
    have hc : c ≠ '/' := fun hc => hslash cs (hc ▸ rfl)
    rcases cs with _ | ⟨d, cs⟩
    · by_cases hdot : c = '.'
      · exact .inr (.inr (.inl (hdot ▸ rfl)))
      · exact .inr (.inr (.inr (by simp [isIdle, hc, hdot])))
    · refine .inr (.inr (.inr ?_))
      -- Either a second character stands in the last component, or that component is no point.
      by_cases hd : d = '/'
      · have hdot : c ≠ '.' := fun hdot => hpoint cs (by rw [hd, hdot])
        simp [isIdle, hc, hd, hdot]
      · have hlong : (List.takeWhile (· != '/') cs).reverse ++ [d, c] ≠ ['.'] :=
          fun h => by simpa using congrArg List.length h
        simp [isIdle, hc, hd, hlong]

/-! ## Parents -/

/-- A path given in reverse is absolute if it ends in a slash. -/
theorem isAbsolute_ofList_reverse (path : List Char) :
    isAbsolute (String.ofList path.reverse) = (path.getLast? == some '/') := by
  rw [isAbsolute, String.toList_ofList, List.head?_reverse]

/-- The components of a path given in reverse are its words. -/
theorem components_ofList_reverse (path : List Char) :
    components (String.ofList path.reverse) = (words path.reverse).map String.ofList := by
  rw [components_eq, String.toList_ofList]

/-- A reversed path is cut into its last word and what stands before it, which ends in a slash. -/
theorem exists_lastWord (path : List Char) :
    ∃ word rest, path.takeWhile (· != '/') = word ∧ path.dropWhile (· != '/') = rest ∧
      path = word ++ rest ∧ '/' ∉ word ∧ (rest = [] ∨ ∃ front, rest = '/' :: front) := by
  refine ⟨_, _, rfl, rfl, List.takeWhile_append_dropWhile.symm, fun hmem => ?_, ?_⟩
  · simpa using List.mem_takeWhile_imp hmem
  · cases hrest : path.dropWhile (· != '/') with
    | nil => exact .inl rfl
    | cons c front =>
      have hc := List.head?_dropWhile_not (· != '/') path
      rw [hrest] at hc
      exact .inr ⟨front, by simpa using hc⟩

/-- Without its last component a path has one word less. -/
theorem words_dropWhile {path : List Char}
    (h : isIdle (path.takeWhile (· != '/')).reverse = false) :
    words (path.dropWhile (· != '/')).reverse = (words path.reverse).dropLast := by
  obtain ⟨word, rest, hword, hrest, hpath, hslash, hcut⟩ := exists_lastWord path
  rw [hword] at h
  have hwords : words word.reverse = [word.reverse] :=
    words_of_not_mem (fun hmem => hslash (List.mem_reverse.1 hmem)) h
  rw [hrest, hpath]
  rcases hcut with rfl | ⟨front, rfl⟩
  · rw [List.append_nil, hwords]
    rfl
  · rw [List.reverse_append, List.reverse_cons, words_concat_slash, List.append_assoc,
      List.singleton_append, words_append, hwords, List.dropLast_concat]

/-- Without its last component a path begins where it did. -/
theorem getLast?_dropWhile (path : List Char) :
    ((path.dropWhile (· != '/')).getLast? == some '/') = (path.getLast? == some '/') := by
  obtain ⟨word, rest, -, hrest, hpath, hslash, rfl | ⟨front, rfl⟩⟩ := exists_lastWord path
  · have hlast : path.getLast? ≠ some '/' := by
      rw [hpath, List.append_nil]
      exact fun h => hslash (List.mem_of_getLast? h)
    rw [hrest, beq_false_of_ne hlast]
    rfl
  · rw [hrest, hpath, List.getLast?_append_of_ne_nil _ (List.cons_ne_nil _ _)]

/-- The parent of a path has its components but the last, and begins where the path does. -/
theorem parent?_eq_some {path parent : String} (h : parent? path = some parent) :
    components parent = (components path).dropLast ∧ isAbsolute parent = isAbsolute path := by
  have hwords := words_trimReversed path.toList.reverse
  have hlast := getLast?_trimReversed path.toList.reverse
  rw [List.reverse_reverse] at hwords
  rw [List.getLast?_reverse] at hlast
  rw [components_eq path, ← hwords, isAbsolute.eq_1 path, ← hlast]
  rw [parent?] at h
  rcases trimReversed_cases path.toList.reverse with hnil | hroot | hpoint | hword
  · rw [hnil] at h
    cases h
  · rw [hroot] at h
    cases h
  · rw [hpoint] at h ⊢
    cases h
    exact ⟨rfl, rfl⟩
  · split at h
    · cases h
    · cases h
    · cases h
      rw [components_ofList_reverse, words_trimReversed, words_dropWhile hword, List.map_dropLast,
        isAbsolute_ofList_reverse, getLast?_trimReversed, getLast?_dropWhile]
      exact ⟨rfl, rfl⟩

end Path

end SchemaGrammar
