import SchemaGrammar.Document.Basic

/-!
# Documents with distinct names

The type of documents lets an object repeat a name, but no text denotes such an object: of members
with the same name one is kept. A `DistinctDocument` is a document without repeated names, at any
depth. The readers build their values with the functions of this module, one for each form of
document, so what they return has distinct names by its type.
-/

namespace SchemaGrammar

/-- No object in the document repeats a name. -/
inductive Document.Distinct : Document → Prop
  | null : Distinct .null
  | bool (b : Bool) : Distinct (.bool b)
  | number (n : Number) : Distinct (.number n)
  | string (s : String) : Distinct (.string s)
  | list {items : List Document} (hitems : ∀ item ∈ items, Distinct item) : Distinct (.list items)
  | object {members : List (String × Document)} (hnames : (Entries.names members).Nodup)
      (hmembers : ∀ member ∈ members, Distinct member.2) : Distinct (.object members)

/-- A list is distinct if its items are. -/
theorem Document.distinct_list_iff {items : List Document} :
    (list items).Distinct ↔ ∀ item ∈ items, item.Distinct := by
  constructor
  · intro h
    cases h with
    | list hitems => exact hitems
  · exact .list

/-- An object is distinct if its names are and its members have distinct documents. -/
theorem Document.distinct_object_iff {members : List (String × Document)} :
    (object members).Distinct ↔
      (Entries.names members).Nodup ∧ ∀ member ∈ members, member.2.Distinct := by
  constructor
  · intro h
    cases h with
    | object hnames hmembers => exact ⟨hnames, hmembers⟩
  · rintro ⟨hnames, hmembers⟩
    exact .object hnames hmembers

/-- A document no object of which repeats a name. -/
@[ext] structure DistinctDocument where
  value : Document
  distinct : value.Distinct

namespace DistinctDocument

/-- The document `null`. -/
def null : DistinctDocument := ⟨.null, .null⟩

/-- A truth value. -/
def bool (b : Bool) : DistinctDocument := ⟨.bool b, .bool b⟩

/-- A number. -/
def number (n : Number) : DistinctDocument := ⟨.number n, .number n⟩

/-- A string. -/
def string (s : String) : DistinctDocument := ⟨.string s, .string s⟩

/-- A list of documents. -/
def list (items : List DistinctDocument) : DistinctDocument where
  value := .list (items.map value)
  distinct := .list fun item hitem => by
    obtain ⟨d, -, rfl⟩ := List.mem_map.1 hitem
    exact d.distinct

/-- The members of an object as they are in a document. -/
def memberValues (members : List (String × DistinctDocument)) : List (String × Document) :=
  members.map fun member => (member.1, member.2.value)

/-- The object of the given members, inserted one after another: of members with the same name the
last is kept, in the place of the first. -/
def object (members : List (String × DistinctDocument)) : DistinctDocument where
  value := .object (Entries.ofList (memberValues members))
  distinct := .object (Entries.nodup_names_ofList _) fun member hmember => by
    obtain ⟨d, -, rfl⟩ := List.mem_map.1 (Entries.mem_of_mem_ofList hmember)
    exact d.2.distinct

/-- The items of a distinct list are distinct documents. -/
theorem exists_items {items : List Document} (h : (Document.list items).Distinct) :
    ∃ ds : List DistinctDocument, ds.map value = items := by
  refine ⟨items.pmap mk (Document.distinct_list_iff.1 h), ?_⟩
  simp [List.map_pmap]

/-- The members of a distinct object have distinct documents. -/
theorem exists_members {members : List (String × Document)}
    (h : (Document.object members).Distinct) :
    ∃ ds : List (String × DistinctDocument), memberValues ds = members := by
  obtain ⟨-, hmembers⟩ := Document.distinct_object_iff.1 h
  refine ⟨members.pmap (fun member hmember => (member.1, mk member.2 hmember)) hmembers, ?_⟩
  simp [memberValues, List.map_pmap]

end DistinctDocument

end SchemaGrammar
