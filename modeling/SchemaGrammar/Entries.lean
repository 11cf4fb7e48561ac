/-!
# Named entries in insertion order

The members of a document's object and the properties of a schema's object are lists of names with
values. Such a list is read with `List.lookup` and built with `Entries.insert`, which keeps the
place of a name that is already there and replaces its value; so the names of a list built by
insertion are distinct and stand in the order of their first appearance.
-/

namespace SchemaGrammar.Entries

variable {α : Type}

/-- The names of a list of entries, in order. -/
def names (entries : List (String × α)) : List String := entries.map Prod.fst

/-- Binds a name: in its old place when it has one, else at the end. -/
def insert (name : String) (value : α) : List (String × α) → List (String × α)
  | [] => [(name, value)]
  | (other, old) :: rest =>
    if other = name then (name, value) :: rest else (other, old) :: insert name value rest

/-- Inserts the given entries one after another into an empty list. -/
def ofList (entries : List (String × α)) : List (String × α) :=
  entries.foldl (fun built entry => insert entry.1 entry.2 built) []

/-- Looking a name up compares it with the first entry. -/
theorem lookup_cons (key name : String) (value : α) (rest : List (String × α)) :
    ((name, value) :: rest).lookup key = if key = name then some value else rest.lookup key := by
  by_cases h : key = name
  · simp [h]
  · simp [List.lookup_cons, beq_eq_false_iff_ne.2 h, h]

/-- Inserting binds the name and leaves every other name alone. -/
theorem lookup_insert (name : String) (value : α) (entries : List (String × α)) (key : String) :
    (insert name value entries).lookup key =
      if key = name then some value else entries.lookup key := by
  induction entries with
  | nil => simp [insert, lookup_cons]
  | cons entry rest ih =>
    obtain ⟨other, old⟩ := entry
    by_cases ho : other = name
    · subst ho
      by_cases hk : key = other <;> simp [insert, lookup_cons, hk]
    · by_cases hk : key = other
      · subst hk
        simp [insert, ho]
      · simp [insert, lookup_cons, ho, hk, ih]

/-- Inserting adds a name only if it is new, and then at the end. -/
theorem names_insert (name : String) (value : α) (entries : List (String × α)) :
    names (insert name value entries) =
      if name ∈ names entries then names entries else names entries ++ [name] := by
  induction entries with
  | nil => simp [insert, names]
  | cons entry rest ih =>
    obtain ⟨other, old⟩ := entry
    by_cases ho : other = name
    · subst ho
      simp [insert, names]
    · have hne : ¬ name = other := fun h => ho h.symm
      simp only [names] at ih
      by_cases hm : name ∈ rest.map Prod.fst <;> simp [insert, names, ho, hne, ih, hm]

/-- Names that were distinct stay distinct. -/
theorem nodup_names_insert {name : String} {value : α} {entries : List (String × α)}
    (h : (names entries).Nodup) : (names (insert name value entries)).Nodup := by
  rw [names_insert]
  split
  · exact h
  · next hm =>
    refine List.nodup_append.2 ⟨h, by simp, fun a ha b hb => ?_⟩
    rw [List.mem_singleton.1 hb]
    exact fun hab => hm (hab ▸ ha)

/-- A list built by insertion has distinct names. -/
theorem nodup_names_ofList (entries : List (String × α)) : (names (ofList entries)).Nodup := by
  have extended : ∀ built : List (String × α), (names built).Nodup →
      (names (entries.foldl (fun built entry => insert entry.1 entry.2 built) built)).Nodup := by
    induction entries with
    | nil => exact fun _ h => h
    | cons entry rest ih => exact fun built h => ih _ (nodup_names_insert h)
  exact extended [] (by simp [names])

/-- After an insertion there is the inserted entry and what was there before. -/
theorem mem_insert {name : String} {value : α} {entries : List (String × α)} {entry : String × α}
    (h : entry ∈ insert name value entries) : entry = (name, value) ∨ entry ∈ entries := by
  induction entries with
  | nil => exact .inl (List.mem_singleton.1 h)
  | cons first rest ih =>
    rw [insert] at h
    split at h
    · rcases List.mem_cons.1 h with rfl | hrest
      · exact .inl rfl
      · exact .inr (List.mem_cons_of_mem _ hrest)
    · rcases List.mem_cons.1 h with rfl | hrest
      · exact .inr List.mem_cons_self
      · exact (ih hrest).imp_right (List.mem_cons_of_mem _)

/-- A list built by insertion holds only entries that were inserted. -/
theorem mem_of_mem_ofList {entries : List (String × α)} {entry : String × α}
    (h : entry ∈ ofList entries) : entry ∈ entries := by
  have extended : ∀ built : List (String × α),
      entry ∈ entries.foldl (fun built entry => insert entry.1 entry.2 built) built →
        entry ∈ built ∨ entry ∈ entries := by
    clear h
    induction entries with
    | nil => exact fun _ h => .inl h
    | cons first rest ih =>
      intro built h
      rcases ih _ h with hbuilt | hrest
      · rcases mem_insert hbuilt with rfl | hbuilt
        · exact .inr List.mem_cons_self
        · exact .inl hbuilt
      · exact .inr (List.mem_cons_of_mem _ hrest)
  exact (extended [] h).resolve_left List.not_mem_nil

/-- A new name is put at the end. -/
theorem insert_of_not_mem {name : String} {entries : List (String × α)}
    (h : name ∉ names entries) (value : α) :
    insert name value entries = entries ++ [(name, value)] := by
  induction entries with
  | nil => rfl
  | cons entry rest ih =>
    obtain ⟨other, old⟩ := entry
    have hother : other ≠ name := by
      intro heq
      exact h (heq ▸ List.mem_cons_self)
    have hrest : name ∉ names rest := fun hmem => h (List.mem_cons_of_mem _ hmem)
    rw [insert, if_neg hother, ih hrest, List.cons_append]

/-- Inserting entries with distinct names one after another gives them in their order. -/
theorem ofList_of_nodup {entries : List (String × α)} (h : (names entries).Nodup) :
    ofList entries = entries := by
  have extended : ∀ built : List (String × α), (names (built ++ entries)).Nodup →
      entries.foldl (fun built entry => insert entry.1 entry.2 built) built = built ++ entries := by
    clear h
    induction entries with
    | nil =>
      intro built _
      rw [List.foldl_nil, List.append_nil]
    | cons entry rest ih =>
      intro built hnodup
      have hnew : entry.1 ∉ names built := by
        intro hmem
        rw [names, List.map_append] at hnodup
        exact (List.nodup_append.1 hnodup).2.2 _ hmem _ List.mem_cons_self rfl
      rw [List.append_cons] at hnodup ⊢
      rw [List.foldl_cons, insert_of_not_mem hnew, ih _ hnodup]
  exact extended [] h

end SchemaGrammar.Entries
