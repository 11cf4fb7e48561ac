import Mathlib.Data.List.Induction
import SchemaGrammar.Proofs.Saving

/-!
# Independent runs

Two runs that write to different places can be carried out in either order, even if they make some
directories in common, read from directories that the other makes, or fail. The main result says
so for every tree: the trees that result are the same, and each run reports the same.

Trees are coherent, so plain paths can be told by their places alone. What a path finds is what
stands at its place (`find?_of_plain`), and saving has three cases, of which the tree at the place
and above it decides: a file above the place is in the way (`save_of_blocked`), the place is a
directory (`save_of_directory`), or the file is written and directories lead to it
(`save_of_clear`). So a run is described by what it writes, if it writes anything (`Gains`).
Everything about two runs follows from that description.
-/

namespace SchemaGrammar

/-! ## Plain paths -/

namespace Path

/-- A path of plain names: it does not lead upwards, and it ends in a name. -/
structure Plain (path : String) : Prop where
  downwards : ".." ∉ components path
  ending : ending path = .name

/-- A path that ends in a name has a component. -/
theorem components_ne_nil {path : String} (h : ending path = .name) : components path ≠ [] := by
  intro hnil
  rw [components, List.map_eq_nil_iff, List.filter_eq_nil_iff] at hnil
  rw [Path.ending] at h
  split at h
  · split at h <;> cases h
  · cases h
  · next hempty hpoint =>
    obtain ⟨parts, part, hparts⟩ : ∃ parts part, Text.parts '/' path.toList = parts ++ [part] :=
      ⟨_, _, (List.dropLast_concat_getLast (Text.parts_ne_nil '/' path.toList)).symm⟩
    have hidle := hnil part (by simp [hparts])
    rw [hparts, List.reverse_append] at hempty hpoint
    have hnone : part ≠ [] := by
      rintro rfl
      exact hempty _ rfl
    have hdot : part ≠ ['.'] := by
      rintro rfl
      exact hpoint _ rfl
    simp [isIdle, hnone, hdot] at hidle

/-- The empty path is not plain. -/
theorem Plain.ne_empty {path : String} (h : Plain path) : path ≠ "" := by
  rintro rfl
  exact components_ne_nil h.ending rfl

/-- A plain path does not ask for a directory. -/
theorem Plain.namesDirectory {path : String} (h : Plain path) : namesDirectory path = false := by
  rw [Path.namesDirectory, h.ending]
  rfl

/-- A path with a component has a parent. -/
theorem exists_parent? {path : String} (h : components path ≠ []) :
    ∃ parent, parent? path = some parent := by
  have hwords := words_trimReversed path.toList.reverse
  rw [List.reverse_reverse] at hwords
  rw [components_eq, Ne, List.map_eq_nil_iff, ← hwords] at h
  rw [parent?]
  split
  · next hnil =>
    rw [hnil] at h
    exact absurd rfl h
  · next hroot =>
    rw [hroot] at h
    exact absurd rfl h
  · exact ⟨_, rfl⟩

end Path

namespace FileTree

/-- Names that do not lead upwards are added to the place where they begin. -/
theorem walk_eq_append {names : List String} (h : ".." ∉ names) (here : Place) :
    walk here names = here ++ names := by
  induction names generalizing here with
  | nil => exact (List.append_nil here).symm
  | cons name names ih =>
    obtain ⟨hname, hnames⟩ : ".." ≠ name ∧ ".." ∉ names := by simpa using h
    rw [walk, List.foldl_cons, ← walk, ih hnames, step, if_neg hname.symm, List.append_assoc,
      List.singleton_append]

/-- Where a path begins depends on the working directory only. -/
theorem placeOf_of_plain {path : String} (h : Path.Plain path) (t : FileTree) :
    t.placeOf path = t.start path ++ Path.components path :=
  walk_eq_append h.downwards _

/-! ## Following plain names -/

/-- What stands above something is a directory. -/
theorem directory_above (t : FileTree) {place below : Place} (habove : place <+: below)
    (hne : place ≠ below) (hbelow : t.node? below ≠ none) : t.node? place = some .directory := by
  obtain ⟨names, rfl⟩ := habove
  induction names using List.reverseRecOn with
  | nil => exact absurd (List.append_nil place).symm hne
  | append_singleton names name ih =>
    have hparent := t.node?_dropLast hbelow
    rw [← List.append_assoc, List.dropLast_concat] at hparent
    cases names with
    | nil => rwa [List.append_nil] at hparent
    | cons first names => exact ih (by simp) (by simp [hparent])

/-- What stands above a directory, or is it, is a directory. -/
theorem directory_of_prefix (t : FileTree) {place below : Place} (habove : place <+: below)
    (hbelow : t.node? below = some .directory) : t.node? place = some .directory := by
  by_cases hne : place = below
  · rw [hne, hbelow]
  · exact t.directory_above habove hne (by simp [hbelow])

section
variable {t : FileTree} {here : Place} {names front : List String}

/-- Names lead to their place through directories. -/
theorem descend_of_directories (hdown : ".." ∉ names)
    (h : ∀ q, q <+: here ++ names → q ≠ here ++ names → t.node? q = some .directory) :
    t.descend here names = .ok (here ++ names) := by
  refine descend_eq_ok_iff.2 ⟨(walk_eq_append hdown here).symm, fun front hfront hne => ?_⟩
  rw [walk_eq_append fun hmem => hdown (hfront.subset hmem)]
  exact h _ ((List.prefix_append_right_inj here).2 hfront) fun heq =>
    hne (List.append_cancel_left heq)

/-- Names that lead into a file cannot be followed. -/
theorem descend_of_file {content : ByteArray} (hdown : ".." ∉ names)
    (hfront : front <+: names) (hne : front ≠ names)
    (hfile : t.node? (here ++ front) = some (.file content)) :
    t.descend here names = .error .notDirectory := by
  induction front generalizing here names with
  | nil =>
    obtain ⟨name, names, rfl⟩ := List.exists_cons_of_ne_nil hne.symm
    rw [List.append_nil] at hfile
    rw [descend, hfile]
  | cons name front ih =>
    obtain ⟨rest, rfl⟩ := hfront
    obtain ⟨hname, hnames⟩ : ".." ≠ name ∧ ".." ∉ front ++ rest := by simpa using hdown
    have hhere : t.node? here = some .directory :=
      t.directory_above (List.prefix_append here (name :: front)) (by simp) (by simp [hfile])
    have hrest : front ≠ front ++ rest := fun heq => hne (congrArg (name :: ·) heq)
    rw [List.cons_append, descend, hhere]
    show t.descend (step here name) (front ++ rest) = _
    rw [step, if_neg hname.symm]
    exact ih hnames (List.prefix_append front rest) hrest (by rwa [List.append_assoc])

/-- Names that lead over a place where nothing is, and into no file, lead nowhere. -/
theorem descend_of_missing (hdown : ".." ∉ names) (hfront : front <+: names) (hne : front ≠ names)
    (hmissing : t.node? (here ++ front) = none)
    (hclear : ∀ q, q <+: here ++ names → ∀ content, t.node? q ≠ some (.file content)) :
    t.descend here names = .error .notFound := by
  induction front generalizing here names with
  | nil =>
    obtain ⟨name, names, rfl⟩ := List.exists_cons_of_ne_nil hne.symm
    rw [List.append_nil] at hmissing
    rw [descend, hmissing]
  | cons name front ih =>
    obtain ⟨rest, rfl⟩ := hfront
    obtain ⟨hname, hnames⟩ : ".." ≠ name ∧ ".." ∉ front ++ rest := by simpa using hdown
    have hrest : front ≠ front ++ rest := fun heq => hne (congrArg (name :: ·) heq)
    rw [List.cons_append, descend]
    split
    · rfl
    · next content hhere => exact absurd hhere (hclear here (List.prefix_append here _) content)
    · rw [step, if_neg hname.symm]
      refine ih hnames (List.prefix_append front rest) hrest (by rwa [List.append_assoc]) ?_
      rwa [List.append_assoc]

end

/-- What a plain path finds is what stands at its place. -/
theorem find?_of_plain (t : FileTree) {path : String} (h : Path.Plain path) :
    t.find? path = t.node? (t.placeOf path) := by
  rw [find?, if_neg h.ne_empty, placeOf_of_plain h]
  cases hnode : t.node? (t.start path ++ Path.components path) with
  | none =>
    split
    · rfl
    · next place hdescend =>
      obtain ⟨hplace, -⟩ := descend_eq_ok_iff.1 hdescend
      rw [walk_eq_append h.downwards] at hplace
      rw [hplace, hnode]
  | some node =>
    have hdescend : t.descend (t.start path) (Path.components path) =
        .ok (t.start path ++ Path.components path) :=
      descend_of_directories h.downwards fun q hq hne =>
        t.directory_above hq hne (by simp [hnode])
    rw [hdescend]
    simp only [hnode, h.namesDirectory]
    cases node <;> rfl

/-! ## Making directories on a plain way -/

/-- A place before the last of some names is the place before the last name, or stands above it. -/
theorem prefix_concat_of_ne {here q : Place} {names : List String} {name : String}
    (h : q <+: here ++ (names ++ [name])) (hne : q ≠ here ++ (names ++ [name])) :
    q <+: here ++ names := by
  rw [← List.append_assoc] at h hne
  exact (List.prefix_concat_iff.1 h).resolve_left hne

section
variable {t : FileTree} {here : Place} {names : List String}

/-- A directory is made where nothing is and the tree admits it. -/
theorem makeDirectory_eq_put {place : Place} (hdescend : t.descend here names = .ok place)
    (hnode : t.node? place = none) (h : t.Admits place .directory) :
    t.makeDirectory here names = .ok (t.put place .directory h) := by
  rw [makeDirectory, hdescend]
  dsimp only
  split
  · rfl
  · next hparent => exact absurd h.parent hparent
  · next hsome => cases hnode.symm.trans hsome

/-- No directory is made where something is. -/
theorem makeDirectory_eq_alreadyExists {place : Place} {node : FileNode}
    (hdescend : t.descend here names = .ok place) (hnode : t.node? place = some node) :
    t.makeDirectory here names = .error .alreadyExists := by
  rw [makeDirectory, hdescend]
  dsimp only
  split
  · next hnone _ => cases hnode.symm.trans hnone
  · next hnone _ => cases hnode.symm.trans hnone
  · rfl

/-- Where directories lead to the last name and no file has it, its directory is ensured. -/
theorem ensureDirectory_of_directories (hdown : ".." ∉ names)
    (hway : ∀ q, q <+: here ++ names → q ≠ here ++ names → t.node? q = some .directory)
    (hlast : ∀ content, t.node? (here ++ names) ≠ some (.file content)) :
    (t.ensureDirectory here names).2 = .ok () ∧
      ∀ q, q <+: here ++ names →
        (t.ensureDirectory here names).1.node? q = some .directory := by
  have hdescend := descend_of_directories hdown hway
  rw [ensureDirectory]
  cases hnode : t.node? (here ++ names) with
  | none =>
    have hroot : here ++ names ≠ [] := fun h => by simp [h] at hnode
    have hshort : (here ++ names).dropLast ≠ here ++ names := by
      intro heq
      have hlength := congrArg List.length heq
      have hpos := List.length_pos_iff.2 hroot
      rw [List.length_dropLast] at hlength
      omega
    have hparent := hway _ (List.dropLast_prefix _) hshort
    have hadmits : t.Admits (here ++ names) .directory := ⟨hroot, hparent, fun _ => rfl⟩
    rw [makeDirectory_eq_put hdescend hnode hadmits]
    refine ⟨rfl, fun q hq => ?_⟩
    rw [node?_put]
    split
    · rfl
    · next hne => exact hway q hq hne
  | some node =>
    cases node with
    | file content => exact absurd hnode (hlast content)
    | directory =>
      have hdirectory : t.isDirectory here names = true := by
        rw [isDirectory, hdescend]
        simp only [hnode]
      rw [makeDirectory_eq_alreadyExists hdescend hnode]
      exact ⟨if_pos hdirectory, fun q hq => t.directory_of_prefix hq hnode⟩

/-- **A clear way.** Where no file is in the way, all directories are made. The induction takes the
names from the end, as directories are made. -/
theorem makeDirectories_of_clear (hhere : t.node? here = some .directory) (hdown : ".." ∉ names)
    (hclear : ∀ q, q <+: here ++ names → ∀ content, t.node? q ≠ some (.file content)) :
    (t.makeDirectories here names.reverse).2 = .ok () ∧
      ∀ q, q <+: here ++ names →
        (t.makeDirectories here names.reverse).1.node? q = some .directory := by
  induction names using List.reverseRecOn with
  | nil =>
    refine ⟨rfl, fun q hq => t.directory_of_prefix ?_ hhere⟩
    rwa [List.append_nil] at hq
  | append_singleton names name ih =>
    have hnames : here ++ names <+: here ++ (names ++ [name]) :=
      (List.prefix_append_right_inj here).2 (List.prefix_append names [name])
    have hlast : ∀ content, t.node? (here ++ (names ++ [name])) ≠ some (.file content) :=
      hclear _ List.prefix_rfl
    have hreverse : (name :: names.reverse).reverse = names ++ [name] := by simp
    rw [List.reverse_concat, makeDirectories_cons, hreverse]
    split
    · -- The first attempt fails; the directories before the last are made, and then the last.
      obtain ⟨hok, hmade⟩ := ih (fun hmem => hdown (List.mem_append_left _ hmem))
        fun q hq => hclear q (hq.trans hnames)
      have hkept := (makeDirectories_extends t here names.reverse).kept (here ++ (names ++ [name]))
      rcases hrun : t.makeDirectories here names.reverse with ⟨t₁, result⟩
      rw [hrun] at hok hmade hkept
      cases hok
      refine ensureDirectory_of_directories hdown
        (fun q hq hne => hmade q (prefix_concat_of_ne hq hne)) fun content hfile => ?_
      rcases hkept with hsame | ⟨-, hnew, -⟩
      · exact hlast content (hsame ▸ hfile)
      · rw [hnew] at hfile
        cases hfile
    · next hfirst =>
      refine ensureDirectory_of_directories hdown (fun q hq hne => ?_) hlast
      have hq' := prefix_concat_of_ne hq hne
      cases hparent : t.node? (here ++ names) with
      | none =>
        refine absurd ?_ hfirst
        rw [makeDirectory, descend_of_missing hdown (List.prefix_append names [name]) (by simp)
          hparent hclear]
      | some node =>
        cases node with
        | file content => exact absurd hparent (hclear _ hnames content)
        | directory => exact t.directory_of_prefix hq' hparent

/-- **A blocked way.** A file in the way is left alone, and so is everything else. -/
theorem makeDirectories_of_file {front : List String} {content : ByteArray}
    (hdown : ".." ∉ names) (hfront : front <+: names) (hne : front ≠ [])
    (hfile : t.node? (here ++ front) = some (.file content)) :
    t.makeDirectories here names.reverse =
      (t, .error (if front = names then .alreadyExists else .notDirectory)) := by
  obtain ⟨name, above, hreversed⟩ : ∃ name above, names.reverse = name :: above := by
    refine List.exists_cons_of_ne_nil fun hnil => hne ?_
    rw [List.reverse_eq_nil_iff.1 hnil] at hfront
    exact List.prefix_nil.1 hfront
  have hnames : (name :: above).reverse = names := by rw [← hreversed, List.reverse_reverse]
  rw [hreversed, makeDirectories_cons, hnames, ensureDirectory, isDirectory]
  by_cases heq : front = names
  · subst heq
    have hdescend : t.descend here front = .ok (here ++ front) :=
      descend_of_directories hdown fun q hq hne =>
        t.directory_above hq hne (by simp [hfile])
    simp [makeDirectory_eq_alreadyExists hdescend hfile, hdescend, hfile]
  · have hdescend := descend_of_file hdown hfront heq hfile
    simp [makeDirectory, hdescend, heq]

end

/-! ## Saving at a plain path -/

section
variable {t : FileTree} {path : String}

/-- The components of a plain path are those of its parent and a last one. -/
theorem components_eq_concat (h : Path.Plain path) :
    ∃ name, Path.components path = (Path.components path).dropLast ++ [name] :=
  ⟨_, (List.dropLast_concat_getLast (Path.components_ne_nil h.ending)).symm⟩

/-- The parent of a plain path begins where the path does and has its components but the last. -/
theorem parent?_of_plain (h : Path.Plain path) :
    ∃ parent, Path.parent? path = some parent ∧
      Path.components parent = (Path.components path).dropLast ∧
      ∀ t : FileTree, t.start parent = t.start path := by
  obtain ⟨parent, hparent⟩ := Path.exists_parent? (Path.components_ne_nil h.ending)
  obtain ⟨hcomponents, habsolute⟩ := Path.parent?_eq_some hparent
  exact ⟨parent, hparent, hcomponents, fun t => by rw [start, start, habsolute]⟩

/-- The places before that of a plain path lie on the way to the last component. -/
theorem prefix_placeOf_iff (h : Path.Plain path) {q : Place} :
    q <+: t.placeOf path ∧ q ≠ t.placeOf path ↔
      q <+: t.start path ++ (Path.components path).dropLast := by
  obtain ⟨name, hname⟩ := components_eq_concat h
  rw [placeOf_of_plain h]
  constructor
  · rintro ⟨hq, hne⟩
    rw [hname] at hq hne
    exact prefix_concat_of_ne hq hne
  · intro hq
    have habove : t.start path ++ (Path.components path).dropLast <+:
        t.start path ++ Path.components path :=
      (List.prefix_append_right_inj _).2 (List.dropLast_prefix _)
    refine ⟨hq.trans habove, fun heq => ?_⟩
    have hlength := hq.length_le
    have hpos := List.length_pos_iff.2 (Path.components_ne_nil h.ending)
    rw [heq, List.length_append, List.length_append, List.length_dropLast] at hlength
    omega

/-- The places that a plain path leads through stand above its own. -/
theorem IsAncestor.prefix_of_plain (h : Path.Plain path) {q : Place} (hq : t.IsAncestor path q) :
    q <+: t.placeOf path ∧ q ≠ t.placeOf path := by
  obtain ⟨names, hnames, hne, rfl⟩ := hq
  rw [walk_eq_append fun hmem => h.downwards (hnames.subset hmem), placeOf_of_plain h]
  exact ⟨(List.prefix_append_right_inj _).2 hnames, fun heq => hne (List.append_cancel_left heq)⟩

/-- A file above the place of a plain path lies on the way from where the path begins. -/
theorem exists_front (h : Path.Plain path) {q : Place} {content : ByteArray}
    (hq : q <+: t.placeOf path) (hne : q ≠ t.placeOf path)
    (hfile : t.node? q = some (.file content)) :
    ∃ front, front <+: (Path.components path).dropLast ∧ front ≠ [] ∧
      q = t.start path ++ front := by
  have hway := (prefix_placeOf_iff h).1 ⟨hq, hne⟩
  rcases List.prefix_or_prefix_of_prefix hway (List.prefix_append (t.start path) _) with
    habove | ⟨front, rfl⟩
  · rw [t.directory_of_prefix habove (t.node?_start path)] at hfile
    cases hfile
  · refine ⟨front, (List.prefix_append_right_inj _).1 hway, ?_, rfl⟩
    rintro rfl
    rw [List.append_nil, t.node?_start] at hfile
    cases hfile

/-- A file on the way to a plain path keeps it from being saved, and nothing changes. -/
theorem save_of_blocked (h : Path.Plain path) {front : List String}
    {blocking : ByteArray} (hfront : front <+: (Path.components path).dropLast) (hne : front ≠ [])
    (hfile : t.node? (t.start path ++ front) = some (.file blocking)) {parent : String}
    (hparent : Path.parent? path = some parent) (content : ByteArray) :
    t.save path content = (t, .error (.create parent
      (if front = (Path.components path).dropLast then .alreadyExists else .notDirectory))) := by
  obtain ⟨parent', hparent', hcomponents, hstart⟩ := parent?_of_plain h
  cases hparent.symm.trans hparent'
  have hdown : ".." ∉ (Path.components path).dropLast :=
    fun hmem => h.downwards (List.dropLast_subset _ hmem)
  have hblocked := makeDirectories_of_file hdown hfront hne hfile
  simp only [save_eq, makeParents_eq, hparent, hcomponents, hstart, hblocked]

/-- Where no file is in the way, the parents of a plain path become directories and nothing else
changes. -/
theorem makeParents_of_clear (h : Path.Plain path)
    (hclear : ∀ q, q <+: t.placeOf path → q ≠ t.placeOf path →
      ∀ content, t.node? q ≠ some (.file content)) :
    ∃ t₁, t.makeParents path = (t₁, .ok ()) ∧ t₁.home = t.home ∧
      (∀ q, q <+: t.placeOf path → q ≠ t.placeOf path → t₁.node? q = some .directory) ∧
      ∀ q, ¬ (q <+: t.placeOf path ∧ q ≠ t.placeOf path) → t₁.node? q = t.node? q := by
  obtain ⟨parent, hparent, hcomponents, hstart⟩ := parent?_of_plain h
  have hextends := makeParents_extends t path
  have hdown : ".." ∉ (Path.components path).dropLast :=
    fun hmem => h.downwards (List.dropLast_subset _ hmem)
  have hway : ∀ q, q <+: t.start path ++ (Path.components path).dropLast →
      ∀ content, t.node? q ≠ some (.file content) := by
    intro q hq
    obtain ⟨habove, hne⟩ := (prefix_placeOf_iff h).2 hq
    exact hclear q habove hne
  have hmade := makeDirectories_of_clear (t.node?_start path) hdown hway
  rcases hrun : t.makeDirectories (t.start path) (Path.components path).dropLast.reverse with
    ⟨t₁, result⟩
  rw [hrun] at hmade
  obtain ⟨rfl, hdirectories⟩ := hmade
  have hparents : t.makeParents path = (t₁, .ok ()) := by
    simp only [makeParents_eq, hparent, hcomponents, hstart, hrun]
  rw [hparents] at hextends
  refine ⟨t₁, hparents, hextends.home, fun q hq hne => ?_, fun q hq => ?_⟩
  · exact hdirectories q ((prefix_placeOf_iff h).1 ⟨hq, hne⟩)
  · rcases hextends.kept q with hsame | ⟨-, -, hancestor⟩
    · exact hsame
    · exact absurd (hancestor.prefix_of_plain h) hq

/-- After its parents were made, a plain path leads to its place. -/
theorem descend_of_parents {t₁ : FileTree} (h : Path.Plain path) (hhome : t₁.home = t.home)
    (hway : ∀ q, q <+: t.placeOf path → q ≠ t.placeOf path → t₁.node? q = some .directory) :
    t₁.descend (t₁.start path) (Path.components path) = .ok (t.placeOf path) := by
  rw [placeOf_of_plain h] at hway ⊢
  rw [start_congr hhome, descend_of_directories h.downwards hway]

/-- Where a path lets no file be written, none is. -/
theorem writeFile_eq_error {e : OsError} (h : t.writePlace path = .error e) {content : ByteArray} :
    t.writeFile path content = .error e := by
  rw [writeFile]
  split
  · next h' =>
    cases h.symm.trans h'
    rfl
  · next h' => cases h.symm.trans h'

/-- A file is written to the place at which the path lets it be. -/
theorem writeFile_eq_put {place : Place} (h : t.writePlace path = .ok place) (content : ByteArray) :
    t.writeFile path content =
      .ok (t.put place (.file content) (admits_of_writePlace h content)) := by
  rw [writeFile]
  split
  · next h' => cases h.symm.trans h'
  · next h' =>
    cases h.symm.trans h'
    rfl

/-- A directory at the place of a plain path keeps it from being saved, and nothing changes. -/
theorem save_of_directory (h : Path.Plain path)
    (hdirectory : t.node? (t.placeOf path) = some .directory) (content : ByteArray) :
    (t.save path content).2 = .error (.write path .isDirectory) ∧
      (t.save path content).1.home = t.home ∧
      ∀ q, (t.save path content).1.node? q = t.node? q := by
  have habove : ∀ q, q <+: t.placeOf path → t.node? q = some .directory :=
    fun q hq => t.directory_of_prefix hq hdirectory
  obtain ⟨t₁, hparents, hhome, hmade, hothers⟩ :=
    makeParents_of_clear (t := t) h fun q hq _ content => by simp [habove q hq]
  have hplace : t₁.node? (t.placeOf path) = some .directory := by
    rw [hothers _ fun hne => hne.2 rfl, hdirectory]
  have hwrite : t₁.writePlace path = .error .isDirectory := by
    rw [writePlace, if_neg h.ne_empty, descend_of_parents h hhome hmade]
    simp only [hplace]
  simp only [save_eq, hparents, writeFile_eq_error hwrite]
  refine ⟨trivial, hhome, fun q => ?_⟩
  by_cases hq : q <+: t.placeOf path ∧ q ≠ t.placeOf path
  · rw [hmade q hq.1 hq.2, habove q hq.1]
  · exact hothers q hq

/-- With nothing in the way a plain path is saved. -/
theorem save_of_clear (h : Path.Plain path)
    (hclear : ∀ q, q <+: t.placeOf path → q ≠ t.placeOf path →
      ∀ content, t.node? q ≠ some (.file content))
    (hplace : t.node? (t.placeOf path) ≠ some .directory) (content : ByteArray) :
    (t.save path content).2 = .ok () ∧ (t.save path content).1.home = t.home ∧
      ∀ q, (t.save path content).1.node? q =
        if q = t.placeOf path then some (.file content)
        else if q <+: t.placeOf path then some .directory
        else t.node? q := by
  obtain ⟨t₁, hparents, hhome, hmade, hothers⟩ := makeParents_of_clear h hclear
  have hplace₁ : t₁.node? (t.placeOf path) ≠ some .directory := by
    rwa [hothers _ fun hne => hne.2 rfl]
  have hwrite : t₁.writePlace path = .ok (t.placeOf path) := by
    rw [writePlace, if_neg h.ne_empty, descend_of_parents h hhome hmade]
    simp only [h.ending]
  simp only [save_eq, hparents, writeFile_eq_put hwrite]
  refine ⟨trivial, hhome, fun q => ?_⟩
  rw [node?_put]
  by_cases hq : q = t.placeOf path
  · rw [if_pos hq, if_pos hq]
  · rw [if_neg hq, if_neg hq]
    split
    · next habove => exact hmade q habove hq
    · next habove => exact hothers q fun hway => habove hway.1

end

/-! ## What is gained by saving -/

/-- What stands at a place `q` after content was saved at `place`, if any was: the content itself,
a directory that leads to it, or what was there before. -/
def savedNode (place : Place) (written : Option ByteArray) (before : Place → Option FileNode)
    (q : Place) : Option FileNode :=
  match written with
  | none => before q
  | some content =>
    if q = place then some (.file content)
    else if q <+: place then some .directory
    else before q

/-- Contents saved at places of which none lies on the way to the other can be saved in either
order. -/
theorem savedNode_comm {place place' : Place} (h : ¬ place <+: place') (h' : ¬ place' <+: place)
    (written written' : Option ByteArray) (before : Place → Option FileNode) :
    savedNode place written (savedNode place' written' before) =
      savedNode place' written' (savedNode place written before) := by
  funext q
  cases written with
  | none => rfl
  | some content =>
    cases written' with
    | none => rfl
    | some content' =>
      unfold savedNode
      by_cases hq : q = place
      · subst hq
        have hne : q ≠ place' := fun heq => h (heq ▸ List.prefix_rfl)
        simp [h, hne]
      · by_cases hq' : q = place'
        · subst hq'
          simp [hq, h']
        · by_cases hway : q <+: place <;> simp [hq, hq', hway]

/-- The tree `t'` is `t` with content saved at a place where it can be, or unchanged. -/
structure Gains (t t' : FileTree) (place : Place) (written : Option ByteArray) : Prop where
  home : t'.home = t.home
  /-- No file was in the way. -/
  clear : written ≠ none → ∀ q, q <+: place → q ≠ place →
    ∀ content, t.node? q ≠ some (.file content)
  /-- The place was no directory. -/
  free : written ≠ none → t.node? place ≠ some .directory
  nodes : t'.node? = savedNode place written t.node?

section
variable {t t' : FileTree} {place : Place} {written : Option ByteArray} {path : String}

/-- A tree that is as it was gains nothing. -/
theorem gains_none (hhome : t'.home = t.home) (hnodes : ∀ q, t'.node? q = t.node? q) :
    t.Gains t' place none where
  home := hhome
  clear hwritten := absurd rfl hwritten
  free hwritten := absurd rfl hwritten
  nodes := funext hnodes

/-- Saving does not move the place that a path spells. -/
theorem Gains.placeOf (h : t.Gains t' place written) (path : String) :
    t'.placeOf path = t.placeOf path := by
  rw [FileTree.placeOf, FileTree.placeOf, start_congr h.home]

/-- A place that does not lie on the way to where content is saved is as it was. -/
theorem Gains.node?_of_not_prefix (h : t.Gains t' place written) {q : Place} (hq : ¬ q <+: place) :
    t'.node? q = t.node? q := by
  have hne : q ≠ place := fun heq => hq (heq ▸ List.prefix_rfl)
  rw [h.nodes]
  cases written with
  | none => rfl
  | some content => rw [savedNode, if_neg hne, if_neg hq]

/-- A place on the way to where content is saved is as it was, or becomes a directory and was no
file. -/
theorem Gains.node?_of_ne (h : t.Gains t' place written) {q : Place} (hq : q ≠ place) :
    t'.node? q = t.node? q ∨
      t'.node? q = some .directory ∧ ∀ content, t.node? q ≠ some (.file content) := by
  by_cases habove : q <+: place
  · have hnodes := congrFun h.nodes q
    cases written with
    | none => exact .inl hnodes
    | some content =>
      rw [savedNode, if_neg hq, if_pos habove] at hnodes
      exact .inr ⟨hnodes, h.clear nofun q habove hq⟩
  · exact .inl (h.node?_of_not_prefix habove)

/-- A directory stays a directory. -/
theorem Gains.directory (h : t.Gains t' place written) {q : Place}
    (hq : t.node? q = some .directory) : t'.node? q = some .directory := by
  cases hwritten : written with
  | none =>
    rw [h.nodes, hwritten]
    exact hq
  | some content =>
    have hne : q ≠ place := by
      rintro rfl
      exact h.free (by simp [hwritten]) hq
    rcases h.node?_of_ne hne with hsame | ⟨hdirectory, -⟩
    · rw [hsame, hq]
    · exact hdirectory

/-- The three ways in which saving at a plain path can go. -/
theorem save_trichotomy (h : Path.Plain path) :
    (∃ front blocking, front <+: (Path.components path).dropLast ∧ front ≠ [] ∧
      t.node? (t.start path ++ front) = some (.file blocking)) ∨
    t.node? (t.placeOf path) = some .directory ∨
    (∀ q, q <+: t.placeOf path → q ≠ t.placeOf path →
      ∀ content, t.node? q ≠ some (.file content)) ∧
      t.node? (t.placeOf path) ≠ some .directory := by
  by_cases hdirectory : t.node? (t.placeOf path) = some .directory
  · exact .inr (.inl hdirectory)
  by_cases hclear : ∀ q, q <+: t.placeOf path → q ≠ t.placeOf path →
      ∀ content, t.node? q ≠ some (.file content)
  · exact .inr (.inr ⟨hclear, hdirectory⟩)
  · push Not at hclear
    obtain ⟨q, hq, hne, content, hfile⟩ := hclear
    obtain ⟨front, hfront, hfrontne, rfl⟩ := exists_front h hq hne hfile
    exact .inl ⟨front, content, hfront, hfrontne, hfile⟩

/-- Saving at a plain path gains the content if it succeeds, and nothing if it fails. -/
theorem gains_save (h : Path.Plain path) (content : ByteArray) :
    t.Gains (t.save path content).1 (t.placeOf path)
      (match (t.save path content).2 with
        | .ok () => some content
        | .error _ => none) := by
  rcases t.save_trichotomy h with
    ⟨front, blocking, hfront, hne, hfile⟩ | hdirectory | ⟨hclear, hfree⟩
  · obtain ⟨parent, hparent, -⟩ := parent?_of_plain h
    rw [save_of_blocked h hfront hne hfile hparent]
    exact gains_none rfl fun _ => rfl
  · obtain ⟨hresult, hhome, hnodes⟩ := save_of_directory h hdirectory content
    rw [hresult]
    exact gains_none hhome hnodes
  · obtain ⟨hresult, hhome, hnodes⟩ := save_of_clear h hclear hfree content
    rw [hresult]
    exact ⟨hhome, fun _ => hclear, fun _ => hfree, funext hnodes⟩

/-- What was saved elsewhere does not change how saving at a plain path goes. -/
theorem save_of_gains (hgains : t.Gains t' place written) (h : Path.Plain path)
    (hpath : ¬ t.placeOf path <+: place)
    (hplace : ¬ place <+: t.placeOf path) (content : ByteArray) :
    (t'.save path content).2 = (t.save path content).2 := by
  have hplaceOf := hgains.placeOf path
  have hsame : t'.node? (t.placeOf path) = t.node? (t.placeOf path) :=
    hgains.node?_of_not_prefix hpath
  have hne : ∀ {q}, q <+: t.placeOf path → q ≠ place := by
    rintro q hq rfl
    exact hplace hq
  rcases t.save_trichotomy h with
    ⟨front, blocking, hfront, hfrontne, hfile⟩ | hdirectory | ⟨hclear, hfree⟩
  · obtain ⟨parent, hparent, -⟩ := parent?_of_plain h
    have hway := (prefix_placeOf_iff h).2 ((List.prefix_append_right_inj (t.start path)).2 hfront)
    have hfile' : t'.node? (t'.start path ++ front) = some (.file blocking) := by
      rw [start_congr hgains.home]
      rcases hgains.node?_of_ne (hne hway.1) with hsame | ⟨-, hnofile⟩
      · rw [hsame, hfile]
      · exact absurd hfile (hnofile blocking)
    rw [save_of_blocked h hfront hfrontne hfile hparent,
      save_of_blocked h hfront hfrontne hfile' hparent]
  · have hdirectory' : t'.node? (t'.placeOf path) = some .directory := by
      rw [hplaceOf, hsame, hdirectory]
    rw [(save_of_directory h hdirectory content).1, (save_of_directory h hdirectory' content).1]
  · have hclear' : ∀ q, q <+: t'.placeOf path → q ≠ t'.placeOf path →
        ∀ content, t'.node? q ≠ some (.file content) := by
      rw [hplaceOf]
      intro q hq hqne content hfile
      rcases hgains.node?_of_ne (hne hq) with hsame | ⟨hdirectory, -⟩
      · exact hclear q hq hqne content (hsame ▸ hfile)
      · rw [hdirectory] at hfile
        cases hfile
    have hfree' : t'.node? (t'.placeOf path) ≠ some .directory := by rwa [hplaceOf, hsame]
    rw [(save_of_clear h hclear hfree content).1, (save_of_clear h hclear' hfree' content).1]

end

end FileTree

/-! ## Runs -/

namespace Invocation

/-- What a run writes to its output, if it writes anything. -/
def written (i : Invocation) (t : FileTree) : Option ByteArray :=
  match (i.convert (t.find? i.input)).result with
  | .error _ => none
  | .ok grammar =>
    match (t.save i.output grammar.toUTF8).2 with
    | .ok () => some grammar.toUTF8
    | .error _ => none

/-- A run gains what it writes and changes nothing else. -/
theorem gains_run (i : Invocation) (t : FileTree) (h : Path.Plain i.output) :
    t.Gains (i.run t).tree (t.placeOf i.output) (i.written t) := by
  cases hconvert : (i.convert (t.find? i.input)).result with
  | error e =>
    simp only [run_eq, written, hconvert]
    exact FileTree.gains_none rfl fun _ => rfl
  | ok grammar =>
    have hsave := t.gains_save h grammar.toUTF8
    rcases hrun : t.save i.output grammar.toUTF8 with ⟨t₁, result⟩
    rw [hrun] at hsave
    cases result with
    | error e =>
      simp only [run_eq, written, hconvert, hrun]
      exact hsave
    | ok =>
      simp only [run_eq, written, hconvert, hrun]
      exact hsave

/-- A run depends on what its input is and on how saving to its output goes. -/
theorem run_congr (i : Invocation) {t t' : FileTree} (hfind : t'.find? i.input = t.find? i.input)
    (hsave : ∀ content, (t'.save i.output content).2 = (t.save i.output content).2) :
    (i.run t').toRunAnswer = (i.run t).toRunAnswer ∧ i.written t' = i.written t := by
  cases hconvert : (i.convert (t.find? i.input)).result with
  | error e => simp only [run_eq, written, hfind, hconvert, and_self]
  | ok grammar =>
    have hresult := hsave grammar.toUTF8
    rcases hrun : t.save i.output grammar.toUTF8 with ⟨t₁, result⟩
    rcases hrun' : t'.save i.output grammar.toUTF8 with ⟨t₁', result'⟩
    rw [hrun, hrun'] at hresult
    obtain rfl : result' = result := hresult
    cases result' <;>
      simp only [run_eq, written, hfind, hconvert, hrun, hrun', and_self]

/-- A run writes neither to a place that the other reads or writes nor to a place below one. -/
def Spares (i j : Invocation) (t : FileTree) : Prop :=
  ¬ t.placeOf j.input <+: t.placeOf i.output ∧ ¬ t.placeOf j.output <+: t.placeOf i.output

/-- A run does not notice that another was made before. -/
theorem run_after (i j : Invocation) {t : FileTree} (hinput : Path.Plain i.input)
    (houtput : Path.Plain i.output) (houtput' : Path.Plain j.output) (hij : i.Spares j t)
    (hji : j.Spares i t) :
    (i.run (j.run t).tree).toRunAnswer = (i.run t).toRunAnswer ∧
      i.written (j.run t).tree = i.written t := by
  have hgains := j.gains_run t houtput'
  refine i.run_congr ?_ fun content =>
    FileTree.save_of_gains hgains houtput hji.2 hij.2 content
  rw [FileTree.find?_of_plain _ hinput, FileTree.find?_of_plain _ hinput, hgains.placeOf]
  exact hgains.node?_of_not_prefix hji.1

end Invocation

/-- Two trees hold the same. -/
structure FileTree.Same (t t' : FileTree) : Prop where
  home : t.home = t'.home
  nodes : ∀ place, t.node? place = t'.node? place

/-- **Independent runs commute.** If neither run writes to a place that the other reads or writes,
nor below one, then both orders leave the same tree, and each run reports the same in both. -/
theorem runs_commute (t : FileTree) (i j : Invocation)
    (hi : Path.Plain i.input ∧ Path.Plain i.output) (hj : Path.Plain j.input ∧ Path.Plain j.output)
    (hij : i.Spares j t) (hji : j.Spares i t) :
    (j.run (i.run t).tree).tree.Same (i.run (j.run t).tree).tree ∧
      (i.run (j.run t).tree).toRunAnswer = (i.run t).toRunAnswer ∧
      (j.run (i.run t).tree).toRunAnswer = (j.run t).toRunAnswer := by
  obtain ⟨hanswer, hwritten⟩ := i.run_after j hi.1 hi.2 hj.2 hij hji
  obtain ⟨hanswer', hwritten'⟩ := j.run_after i hj.1 hj.2 hi.2 hji hij
  have hgi := i.gains_run t hi.2
  have hgj := j.gains_run t hj.2
  have hgji := j.gains_run (i.run t).tree hj.2
  have hgij := i.gains_run (j.run t).tree hi.2
  rw [hwritten', hgi.placeOf] at hgji
  rw [hwritten, hgj.placeOf] at hgij
  refine ⟨⟨?_, fun place => ?_⟩, hanswer, hanswer'⟩
  · rw [hgji.home, hgi.home, hgij.home, hgj.home]
  · rw [hgji.nodes, hgi.nodes, hgij.nodes, hgj.nodes,
      FileTree.savedNode_comm hij.2 hji.2]

/-- Converts the schema of `oneSchema` to a file of the given name in a directory that is not
there yet. -/
def convertTo (name : String) : Invocation := ⟨"schema.json", "out/" ++ name, false, false⟩

/-- Two runs that make the same directory commute. -/
theorem convertTo_commute :
    ((convertTo "a").run oneSchema).result = .ok () ∧
      ((convertTo "b").run ((convertTo "a").run oneSchema).tree).toRunAnswer =
        ((convertTo "b").run oneSchema).toRunAnswer ∧
      ((convertTo "b").run ((convertTo "a").run oneSchema).tree).tree.Same
        ((convertTo "a").run ((convertTo "b").run oneSchema).tree).tree := by
  have hinput : Path.Plain "schema.json" := ⟨by decide +kernel, by decide +kernel⟩
  have hcommute := runs_commute oneSchema (convertTo "a") (convertTo "b")
    ⟨hinput, ⟨by decide +kernel, by decide +kernel⟩⟩
    ⟨hinput, ⟨by decide +kernel, by decide +kernel⟩⟩
    ⟨by decide +kernel, by decide +kernel⟩ ⟨by decide +kernel, by decide +kernel⟩
  exact ⟨by decide +kernel, hcommute.2.2, hcommute.1⟩

end SchemaGrammar
