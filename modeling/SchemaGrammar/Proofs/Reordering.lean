import Mathlib.Data.List.Forall2
import Mathlib.Data.List.Perm.Subperm
import SchemaGrammar.Proofs.RoundTrip
import SchemaGrammar.Schema.Equivalence

/-!
# The order of declarations

`Reordered` relates two documents that differ only in the order in which schema nodes declare their
properties, at any depth and at any number of nodes at once. A node declares properties wherever it
has a map under `properties`, also where its type or a reference keeps that map from being read. The
main result is that the order matters for nothing but the order of the result: both documents are
lowered or none is, the schemas are equivalent, and their texts are equal once the properties of
every object are sorted by name. The order itself is kept: each schema lists its properties as its
own document declares them (`InOrder`).

Which error a document ends with does depend on the order, so lowerings are compared by the value
that they have, if any, seen through a function (`Lowering.view`). The induction on `Reordered`
compares them through `Schema.sorted`. That sorting forgets no more than equivalence does is a fact
about schemas (`Schema.equiv_of_sorted_eq`).
-/

namespace SchemaGrammar

/-! ## Entries up to order -/

namespace Entries

variable {α : Type}

/-- The entries in the order of their names. -/
def sorted (entries : List (String × α)) : List (String × α) :=
  entries.mergeSort fun a b => decide (a.1 ≤ b.1)

/-- An entry is found under its name if no other entry has it. -/
theorem lookup_of_mem {entries : List (String × α)} (hnames : (names entries).Nodup)
    {name : String} {value : α} (h : (name, value) ∈ entries) :
    entries.lookup name = some value := by
  induction entries with
  | nil => cases h
  | cons first rest ih =>
    obtain ⟨other, v⟩ := first
    obtain ⟨hother, hrest⟩ := List.nodup_cons.1 hnames
    rw [lookup_cons]
    rcases List.mem_cons.1 h with heq | hmem
    · cases heq
      exact if_pos rfl
    · have hne : name ≠ other := by
        rintro rfl
        exact hother (List.mem_map.2 ⟨_, hmem, rfl⟩)
      rw [if_neg hne, ih hrest hmem]

/-- Entries with the same distinct names and the same value under each name are the same up to
order. -/
theorem perm_of_names {entries entries' : List (String × α)} (hnodup : (names entries).Nodup)
    (hnames : (names entries).Perm (names entries'))
    (h : ∀ name value value', (name, value) ∈ entries → (name, value') ∈ entries' →
      value = value') : entries.Perm entries' := by
  have hsubset : entries ⊆ entries' := by
    rintro ⟨name, value⟩ hmem
    have hname : name ∈ names entries' := hnames.subset (List.mem_map_of_mem hmem)
    obtain ⟨⟨other, value'⟩, hmem', rfl⟩ := List.mem_map.1 hname
    rw [h _ _ _ hmem hmem']
    exact hmem'
  have hlength : entries.length = entries'.length := by simpa [names] using hnames.length_eq
  have hsubperm := List.subperm_of_subset (List.Nodup.of_map Prod.fst hnodup) hsubset
  exact hsubperm.perm_of_length_le (Nat.le_of_eq hlength.symm)

/-- Entries with distinct names are sorted into one list, whatever order they come in. -/
theorem sorted_eq_of_perm {entries entries' : List (String × α)} (hnodup : (names entries).Nodup)
    (h : entries.Perm entries') : sorted entries = sorted entries' := by
  have hpairwise : ∀ l : List (String × α),
      (sorted l).Pairwise fun a b => decide (a.1 ≤ b.1) = true := by
    refine List.pairwise_mergeSort (fun a b c hab hbc => ?_) fun a b => ?_
    · rw [decide_eq_true_iff] at hab hbc ⊢
      exact String.le_trans hab hbc
    · rw [Bool.or_eq_true, decide_eq_true_iff, decide_eq_true_iff]
      exact String.le_total a.1 b.1
  have hperm : (sorted entries).Perm (sorted entries') :=
    (List.mergeSort_perm _ _).trans (h.trans (List.mergeSort_perm _ _).symm)
  refine List.Perm.eq_of_pairwise (fun a b ha hb hab hba => ?_) (hpairwise entries)
    (hpairwise entries') hperm
  rw [decide_eq_true_iff] at hab hba
  have ha' : a ∈ entries := List.mem_mergeSort.1 ha
  have hb' : b ∈ entries := h.mem_iff.2 (List.mem_mergeSort.1 hb)
  exact List.inj_on_of_nodup_map hnodup ha' hb' (String.le_antisymm hab hba)

/-- What is sorted alike was the same up to order. -/
theorem perm_of_sorted_eq {entries entries' : List (String × α)}
    (h : sorted entries = sorted entries') : entries.Perm entries' := by
  have hleft : (sorted entries).Perm entries := List.mergeSort_perm _ _
  have hright : (sorted entries').Perm entries' := List.mergeSort_perm _ _
  rw [h] at hleft
  exact hleft.symm.trans hright

end Entries

/-! ## Schemas with sorted properties -/

mutual
/-- The schema with the properties of every object in the order of their names. -/
def Schema.sorted : Schema → Schema
  | .null => .null
  | .boolean => .boolean
  | .integer => .integer
  | .number => .number
  | .string constraint => .string constraint
  | .array items cardinality => .array items.sorted cardinality
  | .object properties additional =>
    .object (Entries.sorted (sortedInside properties)) additional.sorted

/-- `Schema.sorted` inside a property. -/
def Property.sorted : Property → Property
  | .ref target => .ref target
  | .typed schema required => .typed schema.sorted required

/-- `Schema.sorted` inside what else an object admits. -/
def Additional.sorted : Additional → Additional
  | .closed => .closed
  | .any => .any
  | .schema schema => .schema schema.sorted

/-- `Schema.sorted` inside each property of a list, which keeps its order. -/
def sortedInside : List (String × Property) → List (String × Property)
  | [] => []
  | (name, property) :: properties => (name, property.sorted) :: sortedInside properties
end

/-- `sortedInside` in the natural per-element form. -/
theorem sortedInside_eq_map (properties : List (String × Property)) :
    sortedInside properties = properties.map fun entry => (entry.1, entry.2.sorted) := by
  induction properties with
  | nil => rfl
  | cons first properties ih => rw [sortedInside, ih, List.map_cons]

/-- Sorting inside properties keeps their names. -/
theorem names_sortedInside (properties : List (String × Property)) :
    Entries.names (sortedInside properties) = Entries.names properties := by
  rw [sortedInside_eq_map, Entries.names, List.map_map]
  rfl

/-- What stands in a list sorted inside is a property of the list, sorted. -/
theorem mem_sortedInside {properties : List (String × Property)} {name : String} {p : Property} :
    (name, p) ∈ sortedInside properties ↔ ∃ q, (name, q) ∈ properties ∧ q.sorted = p := by
  rw [sortedInside_eq_map]
  simp

/-- Whether each property is found, in the natural per-element form. -/
theorem foundIn_iff {ps qs : List (String × Property)} :
    foundIn ps qs = true ↔
      ∀ name p, (name, p) ∈ ps → ∃ q, qs.lookup name = some q ∧ p.equiv q = true := by
  induction ps with
  | nil => simp [foundIn]
  | cons first ps ih =>
    obtain ⟨name, p⟩ := first
    rw [foundIn, Bool.and_eq_true, ih]
    constructor
    · rintro ⟨hfirst, hrest⟩ n r hmem
      rcases List.mem_cons.1 hmem with heq | hmem
      · cases heq
        split at hfirst
        · next q hq => exact ⟨q, hq, hfirst⟩
        · cases hfirst
      · exact hrest n r hmem
    · intro h
      refine ⟨?_, fun n r hmem => h n r (List.mem_cons_of_mem _ hmem)⟩
      obtain ⟨q, hq, hequiv⟩ := h name p List.mem_cons_self
      rw [hq]
      exact hequiv

/-! ## Sorting and equivalence -/

/-- Properties that are sorted alike are equivalent if the schemas in them are. -/
theorem Property.equiv_of_sorted_eq {p q : Property} (heq : p.sorted = q.sorted)
    (h : ∀ schema required, p = .typed schema required → ∀ schema', schema.sorted = schema'.sorted →
      schema.equiv schema' = true) : p.equiv q = true := by
  cases p with
  | ref target =>
    cases q with
    | ref target' =>
      cases heq
      rw [Property.equiv, beq_self_eq_true]
    | typed schema required => cases heq
  | typed schema required =>
    cases q with
    | ref target => cases heq
    | typed schema' required' =>
      obtain ⟨hschema, rfl⟩ := Property.typed.inj heq
      rw [Property.equiv, h schema required rfl schema' hschema, beq_self_eq_true]
      rfl

/-- Additional properties that are the same when sorted are equivalent, if that holds of their
schemas. -/
theorem Additional.equiv_of_sorted_eq {a b : Additional} (heq : a.sorted = b.sorted)
    (h : ∀ schema, a = .schema schema → ∀ schema', schema.sorted = schema'.sorted →
      schema.equiv schema' = true) : a.equiv b = true := by
  cases a with
  | closed | any =>
    cases b <;> cases heq
    rw [Additional.equiv]
  | schema schema =>
    cases b with
    | closed | any => cases heq
    | schema schema' =>
      rw [Additional.equiv]
      exact h schema rfl schema' (Additional.schema.inj heq)

/-- **Sorting forgets no more than equivalence does.** A schema without repeated names is equivalent
to every schema that is sorted alike. -/
theorem Schema.equiv_of_sorted_eq {s s' : Schema} (h : s.Normal) (heq : s.sorted = s'.sorted) :
    s.equiv s' = true := by
  induction s using Schema.induction generalizing s' with
  | null | boolean | integer | number =>
    cases s' <;> cases heq
    rw [Schema.equiv]
  | string constraint =>
    cases s' with
    | string constraint' =>
      cases heq
      rw [Schema.equiv, beq_self_eq_true]
    | null | boolean | integer | number | array | object => cases heq
  | array items cardinality ih =>
    cases s' with
    | array items' cardinality' =>
      obtain ⟨hitems, rfl⟩ := Schema.array.inj heq
      rw [Schema.equiv, ih h hitems, beq_self_eq_true]
      rfl
    | null | boolean | integer | number | string | object => cases heq
  | object ps a ihp iha =>
    cases s' with
    | object qs b =>
      obtain ⟨hproperties, hadditional⟩ := Schema.object.inj heq
      obtain ⟨hnodup, -, hps, ha⟩ := Schema.normal_object_iff.1 h
      have hperm := Entries.perm_of_sorted_eq hproperties
      have hnames : (Entries.names ps).Perm (Entries.names qs) := by
        have hmap := hperm.map Prod.fst
        rwa [← Entries.names, ← Entries.names, names_sortedInside, names_sortedInside] at hmap
      have hlength : ps.length = qs.length := by simpa [Entries.names] using hnames.length_eq
      have hfound : foundIn ps qs = true := by
        refine foundIn_iff.2 fun name p hp => ?_
        have hmem : (name, p.sorted) ∈ sortedInside qs :=
          hperm.subset (mem_sortedInside.2 ⟨p, hp, rfl⟩)
        obtain ⟨q, hq, hsorted⟩ := mem_sortedInside.1 hmem
        refine ⟨q, Entries.lookup_of_mem (hnames.nodup_iff.1 hnodup) hq,
          Property.equiv_of_sorted_eq hsorted.symm ?_⟩
        rintro schema required rfl schema' hs
        exact ihp name schema required hp (hps name schema required hp) hs
      have hrest : a.equiv b = true := by
        refine Additional.equiv_of_sorted_eq hadditional ?_
        rintro schema rfl schema' hs
        exact iha schema rfl (ha schema rfl) hs
      rw [Schema.equiv, hlength, beq_self_eq_true, hfound, hrest]
      rfl
    | null | boolean | integer | number | string | array => cases heq

/-! ## Reordered documents -/

/-- The nodes have the same keywords, with the same values but for the keywords listed. -/
structure SameBut (keys : List String) (node node' : List (String × Document)) : Prop where
  present : ∀ key, (node.lookup key).isSome = (node'.lookup key).isSome
  values : ∀ key, key ∉ keys → node.lookup key = node'.lookup key

section
variable {keys keys' : List String} {node node' : List (String × Document)}

/-- Which of the nodes comes first does not matter. -/
theorem SameBut.symm (h : SameBut keys node node') : SameBut keys node' node :=
  ⟨fun key => (h.present key).symm, fun key hkey => (h.values key hkey).symm⟩

/-- Further keywords may be left out of the comparison. -/
theorem SameBut.mono (h : SameBut keys node node') (hkeys : keys ⊆ keys') :
    SameBut keys' node node' :=
  ⟨h.present, fun key hkey => h.values key fun hmem => hkey (hkeys hmem)⟩

/-- A node with the keywords of an empty one is empty. -/
theorem SameBut.eq_nil (h : SameBut keys [] node') : node' = [] := by
  cases node' with
  | nil => rfl
  | cons member members =>
    have hpresent := h.present member.1
    rw [Entries.lookup_cons, if_pos rfl] at hpresent
    cases hpresent

end

/-- `Reordered d d'`: the documents are the same but for the order in which nodes declare their
properties. The order may differ at the node itself, whatever its type and whatever else it holds,
and at every node below it that is reached through property definitions, `items` and
`additionalProperties`. -/
inductive Reordered : Document → Document → Prop
  | same (value : Document) : Reordered value value
  /-- What the node holds under `properties` is the same, be it a map or not. -/
  | inside {node node' : List (String × Document)}
      (hnode : SameBut ["items", "additionalProperties"] node node')
      (hbelow : ∀ key ∈ ["items", "additionalProperties"], ∀ value value',
        node.lookup key = some value → node'.lookup key = some value' → Reordered value value') :
      Reordered (.object node) (.object node')
  /-- The same names are declared in any order, each with its own definition. -/
  | declarations {node node' definitions definitions' : List (String × Document)}
      (hnode : SameBut ["properties", "items", "additionalProperties"] node node')
      (hbelow : ∀ key ∈ ["items", "additionalProperties"], ∀ value value',
        node.lookup key = some value → node'.lookup key = some value' → Reordered value value')
      (h : node.lookup "properties" = some (.object definitions))
      (h' : node'.lookup "properties" = some (.object definitions'))
      (hnames : (Entries.names definitions).Perm (Entries.names definitions'))
      (hdefinitions : ∀ name value value', (name, value) ∈ definitions →
        (name, value') ∈ definitions' → Reordered value value') :
      Reordered (.object node) (.object node')

/-- Documents in which anything is reordered are nodes, which agree on every keyword that does not
lead to other nodes. -/
theorem Reordered.eq_or_nodes {d d' : Document} (h : Reordered d d') :
    d = d' ∨ ∃ node node', d = .object node ∧ d' = .object node' ∧ node ≠ [] ∧ node' ≠ [] ∧
      SameBut ["properties", "items", "additionalProperties"] node node' := by
  have hnodes : ∀ {node node' : List (String × Document)},
      SameBut ["properties", "items", "additionalProperties"] node node' →
      Document.object node = .object node' ∨ node ≠ [] ∧ node' ≠ [] := by
    intro node node' hnode
    by_cases hnil : node = []
    · subst hnil
      rw [hnode.eq_nil]
      exact .inl rfl
    · refine .inr ⟨hnil, ?_⟩
      rintro rfl
      exact hnil hnode.symm.eq_nil
  cases h with
  | same => exact .inl rfl
  | inside hnode =>
    have hsame := hnode.mono (List.subset_cons_self "properties" _)
    exact (hnodes hsame).imp_right fun hne => ⟨_, _, rfl, rfl, hne.1, hne.2, hsame⟩
  | declarations hnode =>
    exact (hnodes hnode).imp_right fun hne => ⟨_, _, rfl, rfl, hne.1, hne.2, hnode⟩

/-! ## Values of lowerings -/

namespace Lowering

variable {α β γ δ : Type}

/-- The value of a lowering seen through a function, if it has a value. -/
def view (f : α → β) (x : Lowering α) : Option β := x.result.toOption.map f

/-- What is seen of a lowering is what is seen of its result. -/
theorem view_eq_some_iff {f : α → β} {x : Lowering α} {b : β} :
    x.view f = some b ↔ ∃ a, x.result = .ok a ∧ f a = b := by
  unfold view
  cases x.result <;> simp [Except.toOption]

/-- A result is seen. -/
theorem view_of_ok {x : Lowering α} {a : α} (h : x.result = .ok a) (f : α → β) :
    x.view f = some (f a) :=
  view_eq_some_iff.2 ⟨a, h, rfl⟩

/-- Something is seen of a lowering exactly if it has a result. -/
theorem isSome_view {f : α → β} {x : Lowering α} :
    (x.view f).isSome = true ↔ ∃ a, x.result = .ok a := by
  unfold view
  cases x.result <;> simp [Except.toOption]

/-- A value computed from another is seen through `f'` as `g'` makes it of what `f` shows. -/
theorem view_bind_pure {f : α → β} {g : α → γ} {f' : γ → δ} (g' : β → δ)
    (hcomm : ∀ a, f' (g a) = g' (f a)) (x : Lowering α) :
    (x.bind fun a => pure (g a)).view f' = (x.view f).map g' := by
  unfold view
  rw [result_bind_pure]
  cases x.result with
  | error e => rfl
  | ok a => exact congrArg some (hcomm a)

/-- Completing a node does not change what is seen of it. -/
theorem view_completed (f : Schema → β) (x : Lowering Schema) : x.completed.view f = x.view f := by
  rw [view, result_completed, view]

end Lowering

/-! ## Reordered definitions -/

/-- A definition is lowered to an entry of its name. -/
def Yields (required : List String) (definition : String × Document) (entry : String × Property) :
    Prop :=
  entry.1 = definition.1 ∧ (propertyWith definition.1 (required.contains definition.1)
    (lowerNode definition.2) definition.2).result = .ok entry.2

/-- Definitions are lowered one by one, each to the property in its place. -/
theorem lowerDefinitions_eq_ok_iff {required : List String}
    {definitions : List (String × Document)} {properties : List (String × Property)} :
    (lowerDefinitions required definitions).result = .ok properties ↔
      List.Forall₂ (Yields required) definitions properties := by
  induction definitions generalizing properties with
  | nil =>
    rw [List.forall₂_nil_left_iff]
    exact ⟨fun h => (Except.ok.inj h).symm, fun h => h ▸ rfl⟩
  | cons first rest ih =>
    obtain ⟨name, definition⟩ := first
    rw [result_lowerDefinitions_cons, List.forall₂_cons_left_iff]
    constructor
    · intro h
      obtain ⟨property, hproperty, hmap⟩ := ok_of_bind h
      obtain ⟨others, hothers, rfl⟩ := ok_of_map hmap
      exact ⟨(name, property), others, ⟨rfl, ok_of_mapError hproperty⟩, ih.1 hothers, rfl⟩
    · rintro ⟨⟨_, property⟩, others, ⟨rfl, hproperty⟩, hothers, rfl⟩
      rw [hproperty, ih.2 hothers]
      rfl

/-- Definitions that can be lowered one by one can be lowered together. -/
theorem exists_lowerDefinitions {required : List String} {definitions : List (String × Document)}
    (h : ∀ definition ∈ definitions, ∃ entry, Yields required definition entry) :
    ∃ properties, (lowerDefinitions required definitions).result = .ok properties := by
  simp only [lowerDefinitions_eq_ok_iff]
  induction definitions with
  | nil => exact ⟨[], .nil⟩
  | cons first rest ih =>
    obtain ⟨entry, hentry⟩ := h first List.mem_cons_self
    obtain ⟨others, hothers⟩ := ih fun d hd => h d (List.mem_cons_of_mem _ hd)
    exact ⟨entry :: others, .cons hentry hothers⟩

/-- Each of two lists related element by element has its counterpart in the other. -/
theorem exists_mem_of_forall₂ {α β : Type} {R : α → β → Prop} {xs : List α} {ys : List β}
    (h : List.Forall₂ R xs ys) {x : α} (hx : x ∈ xs) : ∃ y ∈ ys, R x y := by
  induction h with
  | nil => cases hx
  | cons hr _ ih =>
    rcases List.mem_cons.1 hx with rfl | hx
    · exact ⟨_, List.mem_cons_self, hr⟩
    · obtain ⟨y, hy, hxy⟩ := ih hx
      exact ⟨y, List.mem_cons_of_mem _ hy, hxy⟩

/-- The properties of an object in the order of their names, and sorted inside. -/
def sortedProperties (properties : List (String × Property)) : List (String × Property) :=
  Entries.sorted (sortedInside properties)

section
variable {required : List String} {definitions definitions' : List (String × Document)}

/-- Definitions whose counterparts in another order are lowered to the same are lowered to the same
properties. -/
theorem view_lowerDefinitions_of_some (hnodup : (Entries.names definitions).Nodup)
    (hnames : (Entries.names definitions).Perm (Entries.names definitions'))
    (h : ∀ name value value', (name, value) ∈ definitions → (name, value') ∈ definitions' →
      ∀ r, (propertyWith name r (lowerNode value) value).view Property.sorted =
        (propertyWith name r (lowerNode value') value').view Property.sorted)
    {sorted : List (String × Property)}
    (hsorted : (lowerDefinitions required definitions).view sortedProperties = some sorted) :
    (lowerDefinitions required definitions').view sortedProperties = some sorted := by
  obtain ⟨properties, hok, rfl⟩ := Lowering.view_eq_some_iff.1 hsorted
  have hyields := lowerDefinitions_eq_ok_iff.1 hok
  -- each definition of the second list is lowered because its counterpart is
  have hevery : ∀ definition ∈ definitions', ∃ entry, Yields required definition entry := by
    rintro ⟨name, value'⟩ hmem'
    have hname : name ∈ Entries.names definitions := hnames.symm.subset (List.mem_map_of_mem hmem')
    obtain ⟨⟨_, value⟩, hmem, rfl⟩ := List.mem_map.1 hname
    obtain ⟨⟨_, property⟩, -, -, hproperty⟩ := exists_mem_of_forall₂ hyields hmem
    have hview := Lowering.view_of_ok hproperty Property.sorted
    rw [h _ value value' hmem hmem'] at hview
    obtain ⟨property', hproperty', -⟩ := Lowering.view_eq_some_iff.1 hview
    exact ⟨(_, property'), rfl, hproperty'⟩
  obtain ⟨properties', hok'⟩ := exists_lowerDefinitions hevery
  have hyields' := lowerDefinitions_eq_ok_iff.1 hok'
  refine Lowering.view_eq_some_iff.2 ⟨properties', hok', ?_⟩
  have hps : Entries.names properties = Entries.names definitions := names_of_lowerDefinitions hok
  have hps' : Entries.names properties' = Entries.names definitions' :=
    names_of_lowerDefinitions hok'
  refine (Entries.sorted_eq_of_perm (by rwa [names_sortedInside, hps]) ?_).symm
  refine Entries.perm_of_names (by rwa [names_sortedInside, hps])
    (by rwa [names_sortedInside, names_sortedInside, hps, hps']) ?_
  intro name p p' hp hp'
  obtain ⟨property, hmem, rfl⟩ := mem_sortedInside.1 hp
  obtain ⟨property', hmem', rfl⟩ := mem_sortedInside.1 hp'
  obtain ⟨⟨_, value⟩, hvalue, rfl, hproperty⟩ :=
    exists_mem_of_forall₂ (List.Forall₂.flip hyields) hmem
  obtain ⟨⟨_, value'⟩, hvalue', rfl, hproperty'⟩ :=
    exists_mem_of_forall₂ (List.Forall₂.flip hyields') hmem'
  have hview := h _ value value' hvalue hvalue' (required.contains name)
  rw [Lowering.view_of_ok hproperty, Lowering.view_of_ok hproperty'] at hview
  exact Option.some.inj hview

/-- Reordered definitions are lowered to the same properties up to order, or neither list is. -/
theorem view_lowerDefinitions (hnodup : (Entries.names definitions).Nodup)
    (hnames : (Entries.names definitions).Perm (Entries.names definitions'))
    (h : ∀ name value value', (name, value) ∈ definitions → (name, value') ∈ definitions' →
      ∀ r, (propertyWith name r (lowerNode value) value).view Property.sorted =
        (propertyWith name r (lowerNode value') value').view Property.sorted) :
    (lowerDefinitions required definitions).view sortedProperties =
      (lowerDefinitions required definitions').view sortedProperties := by
  refine Option.ext fun sorted => ⟨view_lowerDefinitions_of_some hnodup hnames h, ?_⟩
  refine view_lowerDefinitions_of_some (hnames.nodup_iff.1 hnodup) hnames.symm ?_
  exact fun name value value' hvalue hvalue' r => (h name value' value hvalue' hvalue r).symm

end

/-! ## Reordered nodes -/

/-- Reordered definitions of a property are lowered to the same if they are as nodes. -/
theorem Reordered.view_propertyWith {d d' : Document} (h : Reordered d d')
    (hnode : (lowerNode d).view Schema.sorted = (lowerNode d').view Schema.sorted)
    (name : String) (required : Bool) :
    (propertyWith name required (lowerNode d) d).view Property.sorted =
      (propertyWith name required (lowerNode d') d').view Property.sorted := by
  rcases h.eq_or_nodes with rfl | ⟨node, node', rfl, rfl, -, -, hsame⟩
  · rfl
  · simp only [propertyWith, ← hsame.values "$ref" (by decide)]
    cases node.lookup "$ref" with
    | some target => rfl
    | none =>
      have hcomm : ∀ schema, Property.sorted (.typed schema required) =
          .typed schema.sorted required := fun _ => rfl
      rw [Lowering.view_bind_pure (.typed · required) hcomm,
        Lowering.view_bind_pure (.typed · required) hcomm, hnode]

/-- Reordered values of `additionalProperties` admit the same if they are lowered to the same as
nodes. -/
theorem Reordered.view_additionalWith {d d' : Document} (h : Reordered d d')
    (hnode : (lowerNode d).view Schema.sorted = (lowerNode d').view Schema.sorted) :
    (additionalWith (lowerNode d) d).view Additional.sorted =
      (additionalWith (lowerNode d') d').view Additional.sorted := by
  rcases h.eq_or_nodes with rfl | ⟨node, node', rfl, rfl, hne, hne', -⟩
  · rfl
  · have hlower : ∀ {node : List (String × Document)}, node ≠ [] → ∀ lowered : Lowering Schema,
        (additionalWith lowered (.object node)).view Additional.sorted =
          (lowered.view Schema.sorted).map .schema := by
      intro node hne lowered
      rw [Lowering.view, result_additionalWith hne, Lowering.view]
      cases lowered.result <;> rfl
    rw [hlower hne, hlower hne', hnode]

/-- A keyword that both nodes have or none has is lowered to the same if its values are. -/
theorem Lowering.view_elim {α β : Type} {f : α → β} {found found' : Option Document}
    {absent : Lowering α} {lower : Document → Lowering α}
    (hpresent : found.isSome = found'.isSome)
    (h : ∀ value value', found = some value → found' = some value' →
      (lower value).view f = (lower value').view f) :
    (found.elim absent lower).view f = (found'.elim absent lower).view f := by
  cases found with
  | none =>
    cases found' with
    | none => rfl
    | some value' => cases hpresent
  | some value =>
    cases found' with
    | none => cases hpresent
    | some value' => exact h value value' rfl rfl

/-- Reordered definitions under `properties` are lowered to the same if they are as lists. -/
theorem view_lowerDeclared {required : List String}
    {definitions definitions' : List (String × Document)}
    (hnames : (Entries.names definitions).Perm (Entries.names definitions'))
    (h : (lowerDefinitions required definitions).view sortedProperties =
      (lowerDefinitions required definitions').view sortedProperties) :
    (lowerDeclared required (.object definitions)).view (Option.map sortedProperties) =
      (lowerDeclared required (.object definitions')).view (Option.map sortedProperties) := by
  cases definitions with
  | nil =>
    cases definitions' with
    | nil => rfl
    | cons => cases hnames.symm.eq_nil
  | cons =>
    cases definitions' with
    | nil => cases hnames.eq_nil
    | cons =>
      have hcomm : ∀ properties, Option.map sortedProperties (some properties) =
          some (sortedProperties properties) := fun _ => rfl
      show (Lowering.bind _ _).view _ = (Lowering.bind _ _).view _
      rw [Lowering.view_bind_pure some hcomm, Lowering.view_bind_pure some hcomm, h]

/-- An object is lowered to the same if its properties and what else it admits are. -/
theorem view_objectWith {declared declared' : Lowering (Option (List (String × Property)))}
    {additional additional' : Lowering Additional}
    (hdeclared : declared.view (Option.map sortedProperties) =
      declared'.view (Option.map sortedProperties))
    (hadditional : additional.view Additional.sorted = additional'.view Additional.sorted) :
    (objectWith declared additional).view Schema.sorted =
      (objectWith declared' additional').view Schema.sorted := by
  have hview : ∀ (declared : Lowering (Option (List (String × Property)))) additional,
      (objectWith declared additional).view Schema.sorted =
        (declared.view (Option.map sortedProperties)).bind fun found =>
          found.elim (some Schema.emptyObject.sorted) fun properties =>
            (additional.view Additional.sorted).map (.object properties) := by
    intro declared additional
    unfold Lowering.view objectWith
    rw [Lowering.result_bind]
    cases declared.result with
    | error e => rfl
    | ok found =>
      cases found with
      | none => rfl
      | some properties =>
        show Option.map _ (Lowering.bind _ _).result.toOption = _
        rw [Lowering.result_bind_pure]
        cases additional.result <;> rfl
  rw [hview, hview, hdeclared, hadditional]

/-- Nodes that agree on every keyword that does not lead to other nodes are lowered to the same if
what these keywords lead to is. -/
theorem SameBut.view_lowerNode {node node' : List (String × Document)}
    (h : SameBut ["properties", "items", "additionalProperties"] node node')
    (hitems : ∀ value value', node.lookup "items" = some value →
      node'.lookup "items" = some value' →
      (lowerNode value).view Schema.sorted = (lowerNode value').view Schema.sorted)
    (hadditional : ∀ value value', node.lookup "additionalProperties" = some value →
      node'.lookup "additionalProperties" = some value' →
      (additionalWith (lowerNode value) value).view Additional.sorted =
        (additionalWith (lowerNode value') value').view Additional.sorted)
    (hproperties : ∀ required,
      (lowerProperties required node).view (Option.map sortedProperties) =
        (lowerProperties required node').view (Option.map sortedProperties)) :
    (lowerNode (.object node)).view Schema.sorted =
      (lowerNode (.object node')).view Schema.sorted := by
  have hkind : kindOf node' = kindOf node := by
    rw [kindOf, ← h.values "type" (by decide), kindOf]
  rw [lowerNode, lowerNode, hkind]
  cases kindOf node with
  | error e => rfl
  | ok kind =>
    cases kind with
    | object =>
      have hrequired : requiredNames node = requiredNames node' := by
        rw [requiredNames, h.values "required" (by decide), requiredNames]
      rw [Lowering.view_completed, Lowering.view_completed, hrequired, lowerAdditional_eq,
        lowerAdditional_eq]
      exact view_objectWith (hproperties _) (Lowering.view_elim (h.present _) hadditional)
    | array =>
      have hcardinality : cardinalityOf node = cardinalityOf node' := by
        rw [cardinalityOf, h.values "maxItems" (by decide), h.values "minItems" (by decide),
          cardinalityOf]
      have hcomm : ∀ items, Schema.sorted (.array items (cardinalityOf node')) =
          .array items.sorted (cardinalityOf node') := fun _ => rfl
      rw [Lowering.view_completed, Lowering.view_completed, hcardinality,
        Lowering.view_bind_pure (.array · (cardinalityOf node')) hcomm,
        Lowering.view_bind_pure (.array · (cardinalityOf node')) hcomm, lowerItems_eq,
        lowerItems_eq, Lowering.view_elim (h.present _) hitems]
    | string =>
      have hconstraint : stringConstraint node = stringConstraint node' := by
        rw [stringConstraint, h.values "enum" (by decide), h.values "pattern" (by decide),
          h.values "format" (by decide), stringConstraint]
      rw [hconstraint]
    | null | boolean | integer | number => rfl

/-- **Reordered documents are lowered alike.** The induction is on how they are reordered. -/
theorem Reordered.view_lowerNode {d d' : Document} (h : Reordered d d') (hd : d.Distinct) :
    (lowerNode d).view Schema.sorted = (lowerNode d').view Schema.sorted := by
  induction h with
  | same value => rfl
  | @inside node node' hnode hbelow ih =>
    refine (hnode.mono (List.subset_cons_self _ _)).view_lowerNode
      (fun value value' hv hv' => ?_) (fun value value' hv hv' => ?_) fun required => ?_
    · exact ih "items" (by decide) value value' hv hv' (hd.of_lookup hv)
    · exact (hbelow _ (by decide) value value' hv hv').view_additionalWith
        (ih _ (by decide) value value' hv hv' (hd.of_lookup hv))
    · rw [lowerProperties_eq, lowerProperties_eq, hnode.values "properties" (by decide)]
  | @declarations node node' definitions definitions' hnode hbelow h h' hnames hdefinitions ih
      ihdefinitions =>
    have hdistinct := Document.distinct_object_iff.1 (hd.of_lookup h)
    refine hnode.view_lowerNode
      (fun value value' hv hv' => ?_) (fun value value' hv hv' => ?_) fun required => ?_
    · exact ih "items" (by decide) value value' hv hv' (hd.of_lookup hv)
    · exact (hbelow _ (by decide) value value' hv hv').view_additionalWith
        (ih _ (by decide) value value' hv hv' (hd.of_lookup hv))
    · rw [lowerProperties_eq, lowerProperties_eq, h, h']
      refine view_lowerDeclared hnames (view_lowerDefinitions hdistinct.1 hnames ?_)
      intro name value value' hv hv' r
      exact (hdefinitions name value value' hv hv').view_propertyWith
        (ihdefinitions name value value' hv hv' (hdistinct.2 _ hv)) name r

/-- Reordered documents are lowered alike as whole documents. -/
theorem Reordered.view_lowerRoot {d d' : Document} (h : Reordered d d') (hd : d.Distinct) :
    (lowerRoot d).view Schema.sorted = (lowerRoot d').view Schema.sorted := by
  have hview := h.view_lowerNode hd
  rcases h.eq_or_nodes with rfl | ⟨node, node', rfl, rfl, -, -, hsame⟩
  · rfl
  · have htype := hsame.values "type" (by decide)
    unfold Lowering.view at hview ⊢
    by_cases hobject : node.lookup "type" = some (.string "object")
    · rwa [result_lowerRoot_of_object hobject, result_lowerRoot_of_object (htype ▸ hobject)]
    · rw [result_lowerRoot_of_ne hobject, result_lowerRoot_of_ne (htype ▸ hobject)]

/-! ## Declaration order -/

/-- The property definitions of a node. -/
def definitionsOf (node : List (String × Document)) : List (String × Document) :=
  match node.lookup "properties" with
  | some (.object definitions) => definitions
  | _ => []

/-- `InOrder d schema`: every object of the schema lists its properties in the order in which the
node of the document that it comes from declares them. -/
inductive InOrder : Document → Schema → Prop
  | leaf (value : Document) {schema : Schema} (harray : schema.kind ≠ .array)
      (hobject : schema.kind ≠ .object) : InOrder value schema
  | array {node : List (String × Document)} {item : Document} {items : Schema}
      {cardinality : Cardinality} (h : node.lookup "items" = some item)
      (hitems : InOrder item items) : InOrder (.object node) (.array items cardinality)
  | object {node : List (String × Document)} {properties : List (String × Property)}
      {additional : Additional}
      (hnames : Entries.names properties = Entries.names (definitionsOf node))
      (hproperties : ∀ (i : Nat) name definition schema required,
        (definitionsOf node)[i]? = some (name, definition) →
        properties[i]? = some (name, .typed schema required) → InOrder definition schema)
      (hadditional : ∀ value schema, node.lookup "additionalProperties" = some value →
        additional = .schema schema → InOrder value schema) :
      InOrder (.object node) (.object properties additional)

/-- Each property stands in the place of the definition that it is lowered from. -/
theorem lowerNode_of_getElem? {required : List String} {definitions : List (String × Document)}
    {properties : List (String × Property)}
    (h : (lowerDefinitions required definitions).result = .ok properties) {i : Nat} {name : String}
    {definition : Document} {schema : Schema} {r : Bool}
    (hdefinition : definitions[i]? = some (name, definition))
    (hproperty : properties[i]? = some (name, .typed schema r)) :
    (lowerNode definition).result = .ok schema := by
  obtain ⟨hi, hget⟩ := List.getElem?_eq_some_iff.1 hdefinition
  obtain ⟨hi', hget'⟩ := List.getElem?_eq_some_iff.1 hproperty
  have hyields := (lowerDefinitions_eq_ok_iff.1 h).get hi hi'
  rw [List.get_eq_getElem, List.get_eq_getElem, hget, hget'] at hyields
  exact (ok_of_propertyWith hyields.2).1

/-- The schema of an object node keeps the order of the document if those of its parts do. -/
theorem inOrder_of_lowerObject {node : List (String × Document)} {schema : Schema}
    (ih : ∀ value, PartOf node value →
      ∀ schema, (lowerNode value).result = .ok schema → InOrder value schema)
    (h : (lowerObject node).result = .ok schema) : InOrder (.object node) schema := by
  rcases properties_cases node with hp | ⟨definition, definitions, hp⟩ | ⟨value, hp, ht, hv⟩
  · have hnone : definitionsOf node = [] := by
      rw [definitionsOf]
      split
      · next definitions hd => simpa [declares, hd, Document.truthy] using hp
      · rfl
    rw [lowerObject_of_not_declares hp] at h
    cases h
    exact .object (by rw [hnone]; rfl) (fun _ _ _ _ _ _ h => by cases h) nofun
  · have hdefinitions : definitionsOf node = definition :: definitions := by
      rw [definitionsOf, hp]
    rw [result_lowerObject_of_definitions hp (List.cons_ne_nil _ _)] at h
    obtain ⟨properties, hproperties, hmap⟩ := ok_of_bind h
    obtain ⟨additional, hadditional, rfl⟩ := ok_of_map hmap
    refine .object ?_ (fun i name d s r hd hs => ?_) fun value s hvalue hs => ?_
    · rw [hdefinitions, names_of_lowerDefinitions hproperties]
    · rw [hdefinitions] at hd
      exact ih d (.definition hp (List.mem_of_getElem? hd)) s
        (lowerNode_of_getElem? hproperties hd hs)
    · subst hs
      obtain ⟨value', hvalue', hok⟩ := ok_of_lowerAdditional hadditional
      rw [hvalue] at hvalue'
      cases hvalue'
      exact ih value (.keyword hvalue) s hok
  · rw [lowerObject_of_other hp ht hv] at h
    cases h

/-- **A schema keeps the order of its document.** -/
theorem inOrder_of_lowerNode {value : Document} {schema : Schema}
    (h : (lowerNode value).result = .ok schema) : InOrder value schema := by
  induction value using Document.node_induction generalizing schema with
  | node node ih =>
    obtain ⟨_, ⟨⟩, hobject | ⟨item, items, hitem, hok, rfl⟩ | hleaf⟩ := ok_of_lowerNode h
    · exact inOrder_of_lowerObject (fun v hpart s hs => ih v hpart hs) hobject
    · exact .array hitem (ih item (.keyword hitem) hok)
    · rcases hleaf with rfl | rfl | rfl | rfl | rfl <;> exact .leaf _ nofun nofun
  | other value hother =>
    obtain ⟨node, hnode, -⟩ := ok_of_lowerNode h
    exact absurd hnode (hother node)

/-- **The order of declarations affects the order of the result only.** Of two documents that differ
in the order in which nodes declare properties, both are lowered or none is. Their schemas are
equivalent, have the same text once the properties of every object are sorted by name, and each
lists its properties in the order of its own document. -/
theorem lowerRoot_reordered (d d' : Document) (hd : d.Distinct) (h : Reordered d d') :
    ((∃ schema, (lowerRoot d).result = .ok schema) ↔
      ∃ schema, (lowerRoot d').result = .ok schema) ∧
    ∀ schema schema', (lowerRoot d).result = .ok schema → (lowerRoot d').result = .ok schema' →
      schema.equiv schema' = true ∧ schema.sorted.grammar = schema'.sorted.grammar ∧
      InOrder d schema ∧ InOrder d' schema' := by
  have hview := h.view_lowerRoot hd
  refine ⟨?_, fun schema schema' hok hok' => ?_⟩
  · rw [← Lowering.isSome_view, hview, Lowering.isSome_view]
  · rw [Lowering.view_of_ok hok, Lowering.view_of_ok hok'] at hview
    have hsorted : schema.sorted = schema'.sorted := Option.some.inj hview
    have hnormal : schema.Normal := normal_of_lowerNode hd (ok_of_lowerRoot hok)
    refine ⟨Schema.equiv_of_sorted_eq hnormal hsorted, by rw [hsorted], ?_, ?_⟩
    · exact inOrder_of_lowerNode (ok_of_lowerRoot hok)
    · exact inOrder_of_lowerNode (ok_of_lowerRoot hok')

/-- A node of the given type. -/
def typeNode (type : String) : Document := .object [("type", .string type)]

/-- A node that declares two properties, with the given members besides. -/
def pairNode (others : List (String × Document)) (first second : String × Document) : Document :=
  .object (("properties", .object [first, second]) :: others)

/-- Two declarations may change places, whatever else the node holds. -/
theorem pairNode_reordered (others : List (String × Document)) {m n : String} (hne : m ≠ n)
    {v v' w w' : Document} (hv : Reordered v v') (hw : Reordered w w') :
    Reordered (pairNode others (m, v) (n, w)) (pairNode others (n, w') (m, v')) := by
  have hothers : ∀ (map map' : Document) (key : String), key ≠ "properties" →
      (("properties", map) :: others).lookup key = (("properties", map') :: others).lookup key := by
    intro map map' key hkey
    rw [Entries.lookup_cons, Entries.lookup_cons, if_neg hkey, if_neg hkey]
  refine .declarations ⟨fun key => ?_, fun key hkey => hothers _ _ key ?_⟩ ?_ rfl rfl
    (List.Perm.swap n m []) ?_
  · by_cases hkey : key = "properties"
    · rw [Entries.lookup_cons, Entries.lookup_cons, if_pos hkey, if_pos hkey]
      rfl
    · rw [hothers _ _ key hkey]
  · rintro rfl
    exact hkey List.mem_cons_self
  · intro key hkey value value' hvalue hvalue'
    have hne : key ≠ "properties" := by
      rintro rfl
      exact absurd hkey (by decide)
    rw [hothers _ _ key hne, hvalue'] at hvalue
    cases hvalue
    exact .same _
  · intro name value value' hmem hmem'
    simp only [List.mem_cons, Prod.mk.injEq, List.not_mem_nil, or_false] at hmem hmem'
    rcases hmem with ⟨rfl, rfl⟩ | ⟨rfl, rfl⟩
    · rcases hmem' with ⟨heq, -⟩ | ⟨-, rfl⟩
      · exact absurd heq hne
      · exact hv
    · rcases hmem' with ⟨-, rfl⟩ | ⟨heq, -⟩
      · exact hw
      · exact absurd heq.symm hne

/-- A root that declares two properties, an array and a reference, and beside each of these a pair
of properties that nothing reads. -/
def besideUnread (x y : String × Document) : Document :=
  pairNode [("type", .string "object")]
    ("a", pairNode [("type", .string "array"), ("items", typeNode "null")] x y)
    ("b", pairNode [("$ref", .string "#/b")] x y)

/-- The root of `besideUnread` with its own two properties in the other order. -/
def besideUnreadSwapped (x y : String × Document) : Document :=
  pairNode [("type", .string "object")] ("b", pairNode [("$ref", .string "#/b")] x y)
    ("a", pairNode [("type", .string "array"), ("items", typeNode "null")] x y)

/-- Declarations change places at the root, at an array and at a reference. -/
theorem besideUnread_lowerRoot_reordered :
    Reordered (besideUnread ("x", typeNode "null") ("y", typeNode "integer"))
        (besideUnreadSwapped ("y", typeNode "integer") ("x", typeNode "null")) ∧
    ∃ schema schema',
      (lowerRoot (besideUnread ("x", typeNode "null") ("y", typeNode "integer"))).result =
        .ok schema ∧
      (lowerRoot (besideUnreadSwapped ("y", typeNode "integer") ("x", typeNode "null"))).result =
        .ok schema' ∧
      schema.grammar ≠ schema'.grammar ∧ schema.equiv schema' = true ∧
      schema.sorted.grammar = schema'.sorted.grammar := by
  have hpair : ∀ others : List (String × Document),
      Reordered (pairNode others ("x", typeNode "null") ("y", typeNode "integer"))
        (pairNode others ("y", typeNode "integer") ("x", typeNode "null")) :=
    fun others => pairNode_reordered others (by decide) (.same _) (.same _)
  have hreordered := pairNode_reordered [("type", .string "object")] (m := "a") (n := "b")
    (by decide) (hpair [("type", .string "array"), ("items", typeNode "null")])
    (hpair [("$ref", .string "#/b")])
  have hdistinct : (besideUnread ("x", typeNode "null") ("y", typeNode "integer")).Distinct := by
    simp [besideUnread, pairNode, typeNode, Document.distinct_object_iff, Entries.names,
      Document.Distinct.string]
  obtain ⟨hequiv, hgrammar, -, -⟩ := (lowerRoot_reordered _ _ hdistinct hreordered).2 _ _ rfl rfl
  exact ⟨hreordered, _, _, rfl, rfl, by decide +kernel, hequiv, hgrammar⟩

end SchemaGrammar
