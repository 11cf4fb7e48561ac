import SchemaGrammar.Path

/-!
# File trees

A file tree is what a program sees of a file system: at each place a directory, a file with its
bytes, or nothing. A place is the list of names that lead to it from the root; the root itself is
the empty list and always a directory. A tree is coherent: whatever stands in it stands in a
directory, and the working directory is one. Coherence is part of the type, so a node can be put
only where the tree admits it (`FileTree.Admits`).

A path leads from the root or from the working directory, and it is followed name by name through
directories that exist. Operations that change the tree return the new tree.
-/

namespace SchemaGrammar

/-- Why the system refuses an operation on a path. -/
inductive OsError where
  | notFound
  | alreadyExists
  | notDirectory
  | isDirectory
  /-- Any other refusal, in the system's own words. -/
  | other (text : String)
deriving DecidableEq

/-- What the system calls the error. -/
def OsError.message : OsError → String
  | .notFound => "No such file or directory (os error 2)"
  | .alreadyExists => "File exists (os error 17)"
  | .notDirectory => "Not a directory (os error 20)"
  | .isDirectory => "Is a directory (os error 21)"
  | .other text => text

/-- A place in a file tree: the names that lead to it. -/
abbrev Place := List String

/-- What stands at a place. -/
inductive FileNode where
  | directory
  | file (content : ByteArray)

namespace FileTree

/-- What stands at a place, given the nodes below the root. -/
def nodeAt (nodes : List (Place × FileNode)) (place : Place) : Option FileNode :=
  if place = [] then some .directory else nodes.lookup place

/-- The working directory is a directory, and each node stands in one. -/
structure Coherent (nodes : List (Place × FileNode)) (home : Place) : Prop where
  home : nodeAt nodes home = some .directory
  parents : ∀ entry ∈ nodes, nodeAt nodes entry.1.dropLast = some .directory

end FileTree

/-- The files and directories below the root. -/
structure FileTree where
  nodes : List (Place × FileNode)
  /-- The working directory. -/
  home : Place
  coherent : FileTree.Coherent nodes home

namespace FileTree

/-- The tree without any file or directory. The working directory is the root. -/
def empty : FileTree := ⟨[], [], rfl, nofun⟩

/-- What stands at a place. -/
def node? (t : FileTree) (place : Place) : Option FileNode := nodeAt t.nodes place

/-- The root is a directory. -/
@[simp] theorem node?_root (t : FileTree) : t.node? [] = some .directory := rfl

/-- Whatever stands in the tree stands in a directory. -/
theorem node?_dropLast (t : FileTree) {place : Place} (h : t.node? place ≠ none) :
    t.node? place.dropLast = some .directory := by
  by_cases hroot : place = []
  · subst hroot
    rfl
  · rw [node?, nodeAt, if_neg hroot] at h
    obtain ⟨node, hnode⟩ := Option.ne_none_iff_exists'.1 h
    obtain ⟨before, after, hnodes, -⟩ := List.lookup_eq_some_iff.1 hnode
    exact t.coherent.parents (place, node) (by simp [hnodes])

/-! ## Changing one place -/

/-- A node may be put at a place that stands in a directory, but no file in place of a directory. -/
structure Admits (t : FileTree) (place : Place) (node : FileNode) : Prop where
  below : place ≠ []
  parent : t.node? place.dropLast = some .directory
  free : t.node? place = some .directory → node = .directory

/-- What stands at other places does not matter for what is found. -/
theorem lookup_filter_ne {place other : Place} (h : other ≠ place)
    (nodes : List (Place × FileNode)) :
    (nodes.filter (·.1 != place)).lookup other = nodes.lookup other := by
  induction nodes with
  | nil => rfl
  | cons first nodes ih =>
    obtain ⟨here, node⟩ := first
    by_cases hhere : here = place
    · rw [List.filter_cons_of_neg (by simpa using hhere), ih, List.lookup_cons,
        beq_false_of_ne (hhere ▸ h)]
    · rw [List.filter_cons_of_pos (by simpa using hhere), List.lookup_cons, List.lookup_cons, ih]

/-- The nodes with the given one in place of what stood at its place. -/
def replace (nodes : List (Place × FileNode)) (place : Place) (node : FileNode) :
    List (Place × FileNode) :=
  (place, node) :: nodes.filter (·.1 != place)

/-- After a node is put at a place, it stands there and nothing else has changed. -/
theorem nodeAt_replace {place : Place} (h : place ≠ []) (nodes : List (Place × FileNode))
    (node : FileNode) (other : Place) :
    nodeAt (replace nodes place node) other =
      if other = place then some node else nodeAt nodes other := by
  rw [nodeAt, nodeAt]
  by_cases hroot : other = []
  · have hother : other ≠ place := fun heq => h (heq.symm.trans hroot)
    rw [if_pos hroot, if_pos hroot, if_neg hother]
  · rw [if_neg hroot, if_neg hroot, replace, List.lookup_cons]
    by_cases hother : other = place
    · rw [if_pos hother, beq_iff_eq.2 hother]
    · rw [if_neg hother, beq_false_of_ne hother, lookup_filter_ne hother]

/-- A tree stays coherent where it admits the node. -/
theorem Admits.coherent {t : FileTree} {place : Place} {node : FileNode} (h : t.Admits place node) :
    Coherent (replace t.nodes place node) t.home := by
  -- a directory stays one, since only a directory is put in its place
  have hkept : ∀ other, nodeAt t.nodes other = some .directory →
      nodeAt (replace t.nodes place node) other = some .directory := by
    intro other hother
    rw [nodeAt_replace h.below]
    split
    · next heq =>
      subst heq
      rw [h.free hother]
    · exact hother
  refine ⟨hkept _ t.coherent.home, fun entry hentry => hkept _ ?_⟩
  rcases List.mem_cons.1 hentry with rfl | hentry
  · exact h.parent
  · exact t.coherent.parents entry (List.mem_filter.1 hentry).1

/-- The tree with the given node at a place that admits it. -/
def put (t : FileTree) (place : Place) (node : FileNode) (h : t.Admits place node) : FileTree where
  nodes := replace t.nodes place node
  home := t.home
  coherent := h.coherent

/-- A tree stays coherent without a place and everything below it, unless the working directory is
there. -/
theorem coherent_filter (t : FileTree) {place : Place} (h : ¬ place <+: t.home ∨ t.home = []) :
    Coherent (t.nodes.filter fun entry => ¬ place <+: entry.1) t.home := by
  have hkept : ∀ other, ¬ place <+: other →
      nodeAt (t.nodes.filter fun entry => ¬ place <+: entry.1) other =
        nodeAt t.nodes other := by
    intro other hother
    rw [nodeAt, nodeAt]
    congr 1
    induction t.nodes with
    | nil => rfl
    | cons first nodes ih =>
      obtain ⟨here, node⟩ := first
      by_cases hhere : place <+: here
      · have hne : other ≠ here := fun heq => hother (heq ▸ hhere)
        rw [List.filter_cons_of_neg (by simpa using hhere), ih, List.lookup_cons,
          beq_false_of_ne hne]
      · rw [List.filter_cons_of_pos (by simpa using hhere), List.lookup_cons, List.lookup_cons, ih]
  refine ⟨?_, fun entry hentry => ?_⟩
  · rcases h with hhome | hhome
    · rw [hkept _ hhome]
      exact t.coherent.home
    · rw [hhome]
      rfl
  · obtain ⟨hmem, hprefix⟩ := List.mem_filter.1 hentry
    have hentry : ¬ place <+: entry.1 := by simpa using hprefix
    rw [hkept _ fun hparent => hentry (hparent.trans (List.dropLast_prefix entry.1))]
    exact t.coherent.parents entry hmem

/-- The tree without the given place and everything below it. A place that the working directory is
in stays. -/
def removeBelow (t : FileTree) (place : Place) : FileTree :=
  if h : ¬ place <+: t.home ∨ t.home = [] then
    { nodes := t.nodes.filter fun entry => ¬ place <+: entry.1
      home := t.home
      coherent := t.coherent_filter h }
  else t

/-! ## Following paths -/

/-- Where a path begins. -/
def start (t : FileTree) (path : String) : Place :=
  if Path.isAbsolute path then [] else t.home

/-- A path begins at a directory. -/
theorem node?_start (t : FileTree) (path : String) : t.node? (t.start path) = some .directory := by
  rw [start]
  split
  · rfl
  · exact t.coherent.home

/-- One name further, upwards for two points. -/
def step (here : Place) (name : String) : Place :=
  if name = ".." then here.dropLast else here ++ [name]

/-- Follows names from a place. Each place that is left has to be a directory; the place that is
reached need not exist. -/
def descend (t : FileTree) (here : Place) : List String → Except OsError Place
  | [] => .ok here
  | name :: names =>
    match t.node? here with
    | none => .error .notFound
    | some (.file _) => .error .notDirectory
    | some .directory => descend t (step here name) names

/-- Names lead from a directory to a directory, or to a place that stands in one. -/
theorem parent_of_descend {t : FileTree} {here place : Place} {names : List String}
    (hhere : t.node? here = some .directory) (h : t.descend here names = .ok place) :
    t.node? place = some .directory ∨
      place ≠ [] ∧ t.node? place.dropLast = some .directory := by
  have hall : ∀ {here : Place}, t.node? here = some .directory ∨
      here ≠ [] ∧ t.node? here.dropLast = some .directory → t.descend here names = .ok place →
      t.node? place = some .directory ∨
        place ≠ [] ∧ t.node? place.dropLast = some .directory := by
    clear h hhere
    induction names with
    | nil =>
      rintro here hhere ⟨⟩
      exact hhere
    | cons name names ih =>
      intro here _ h
      rw [descend] at h
      split at h
      · cases h
      · cases h
      · next hdirectory =>
        refine ih ?_ h
        rw [step]
        split
        · exact .inl (t.node?_dropLast (by simp [hdirectory]))
        · exact .inr ⟨by simp, by rwa [List.dropLast_concat]⟩
  exact hall (.inl hhere) h

/-- What a path names, if it exists. A path that ends in a slash or a point names directories only,
and the empty path names nothing. -/
def find? (t : FileTree) (path : String) : Option FileNode :=
  if path = "" then none
  else
    match t.descend (t.start path) (Path.components path) with
    | .error _ => none
    | .ok place =>
      match t.node? place with
      | some (.file content) => if Path.namesDirectory path then none else some (.file content)
      | found => found

/-- Whether the names lead to a directory. -/
def isDirectory (t : FileTree) (here : Place) (names : List String) : Bool :=
  match t.descend here names with
  | .ok place =>
    match t.node? place with
    | some .directory => true
    | _ => false
  | .error _ => false

/-! ## Changing the tree -/

/-- Makes a directory where nothing is, in a directory. -/
def makeDirectory (t : FileTree) (here : Place) (names : List String) : Except OsError FileTree :=
  match t.descend here names with
  | .error e => .error e
  | .ok place =>
    match hplace : t.node? place, hparent : t.node? place.dropLast with
    | none, some .directory =>
      .ok (t.put place .directory ⟨fun hroot => by simp [hroot] at hplace, hparent, fun _ => rfl⟩)
    | none, _ => .error .notFound
    | some _, _ => .error .alreadyExists

/-- The place at which a path lets a file be written. A path that ends in a slash names no file,
nor does one that leads to a directory; a path that ends in a point has to lead to a directory. -/
def writePlace (t : FileTree) (path : String) : Except OsError Place :=
  if path = "" then .error .notFound
  else
    match t.descend (t.start path) (Path.components path) with
    | .error e => .error e
    | .ok place =>
      match Path.ending path, t.node? place with
      | _, some .directory => .error .isDirectory
      | .slash, _ => .error .isDirectory
      | .point, none => .error .notFound
      | .point, some (.file _) => .error .notDirectory
      | .name, _ => .ok place

/-- A file is written to the place that a path leads to, if it does not ask for a directory and none
is there. -/
theorem writePlace_eq_ok {t : FileTree} {path : String} {place : Place}
    (h : t.writePlace path = .ok place) :
    path ≠ "" ∧ t.descend (t.start path) (Path.components path) = .ok place ∧
      t.node? place ≠ some .directory ∧ Path.ending path = .name := by
  rw [writePlace] at h
  split at h
  · cases h
  next hpath =>
  split at h
  · cases h
  next found hdescend =>
  split at h
  · cases h
  · cases h
  · cases h
  · cases h
  · next hending hnode =>
    cases h
    exact ⟨hpath, hdescend, hnode, hending⟩

/-- The tree admits a file at a place to which one is written. -/
theorem admits_of_writePlace {t : FileTree} {path : String} {place : Place}
    (h : t.writePlace path = .ok place) (content : ByteArray) : t.Admits place (.file content) := by
  obtain ⟨-, hdescend, hnode, -⟩ := writePlace_eq_ok h
  obtain ⟨hbelow, hparent⟩ := (parent_of_descend (t.node?_start path) hdescend).resolve_left hnode
  exact ⟨hbelow, hparent, fun hdirectory => absurd hdirectory hnode⟩

/-- Writes a file, replacing what it held. -/
def writeFile (t : FileTree) (path : String) (content : ByteArray) : Except OsError FileTree :=
  match h : t.writePlace path with
  | .error e => .error e
  | .ok place => .ok (t.put place (.file content) (admits_of_writePlace h content))

/-- The tree without what a path names and everything below it. -/
def remove (t : FileTree) (path : String) : FileTree :=
  match t.descend (t.start path) (Path.components path) with
  | .ok place => t.removeBelow place
  | .error _ => t

/-! ## Listing -/

/-- A place as a text, with a slash after a directory. -/
def entryText : Place × FileNode → String
  | (place, .directory) => "/".intercalate place ++ "/"
  | (place, .file _) => "/".intercalate place

/-- All files and directories, in the order of their texts. -/
def entries (t : FileTree) : List String :=
  (t.nodes.map entryText).mergeSort fun a b => decide (a ≤ b)

end FileTree

end SchemaGrammar
