import SchemaGrammar.Command.Run
import SchemaGrammar.Proofs.Keywords
import SchemaGrammar.Proofs.Paths

/-!
# What a run does to the file tree

Only saving changes a file tree, and it can fail after it has changed something: the directories
that lead to the output path are made one by one before the file is written. The main result says
what a run leaves behind in each case. A run that cannot load or compile leaves the tree as it was;
one that cannot save leaves at most new directories on the way to the output; one that succeeds
leaves besides these the grammar of what the input held at the start, also where input and output
are one file.

`node?_put` says what one change does to the tree and `descend_eq_ok_iff` when a path can be
followed. Everything else is told place by place with `Kept`: a place is as it was, or holds a new
directory where such a directory may be.
-/

namespace SchemaGrammar

namespace FileTree

/-! ## Places of a path -/

/-- The place that names spell, from a place on. -/
def walk (here : Place) (names : List String) : Place := names.foldl step here

/-- The place that a path spells. -/
def placeOf (t : FileTree) (path : String) : Place := walk (t.start path) (Path.components path)

/-- The places that a path leads through before its own. -/
def IsAncestor (t : FileTree) (path : String) (place : Place) : Prop :=
  ∃ names, names <+: Path.components path ∧ names ≠ Path.components path ∧
    place = walk (t.start path) names

/-- Names can be followed exactly if all places before the last are directories; they lead to the
place that they spell. -/
theorem descend_eq_ok_iff {t : FileTree} {here place : Place} {names : List String} :
    t.descend here names = .ok place ↔
      place = walk here names ∧
        ∀ front, front <+: names → front ≠ names → t.node? (walk here front) = some .directory := by
  induction names generalizing here with
  | nil =>
    simp only [descend, Except.ok.injEq, walk, List.foldl_nil, List.prefix_nil]
    exact ⟨fun h => ⟨h.symm, fun front hfront hne => absurd hfront hne⟩, fun h => h.1.symm⟩
  | cons name names ih =>
    constructor
    · intro h
      rw [descend] at h
      split at h
      · cases h
      · cases h
      · next hhere =>
        obtain ⟨hplace, hway⟩ := ih.1 h
        refine ⟨hplace, fun front hfront hne => ?_⟩
        rcases List.prefix_cons_iff.1 hfront with rfl | ⟨front, rfl, hrest⟩
        · exact hhere
        · exact hway front hrest fun heq => hne (heq ▸ rfl)
    · rintro ⟨hplace, hway⟩
      have hhere : t.node? here = some .directory :=
        hway [] List.nil_prefix (List.cons_ne_nil _ _).symm
      rw [descend, hhere]
      refine ih.2 ⟨hplace, fun front hfront hne => ?_⟩
      exact hway (name :: front) (List.prefix_cons_iff.2 (.inr ⟨front, rfl, hfront⟩))
        fun heq => hne (List.cons.inj heq).2

/-! ## One change -/

/-- After a node is put at a place, it stands there and nothing else has changed. -/
theorem node?_put (t : FileTree) {place : Place} {node : FileNode} (h : t.Admits place node)
    (other : Place) :
    (t.put place node h).node? other = if other = place then some node else t.node? other :=
  nodeAt_replace h.below t.nodes node other

/-- The place is as it was, or holds a directory where nothing was and a new one may be. -/
def Kept (t t' : FileTree) (mayBeNew : Place → Prop) (place : Place) : Prop :=
  t'.node? place = t.node? place ∨
    t.node? place = none ∧ t'.node? place = some .directory ∧ mayBeNew place

/-- A tree that differs from another in new directories only. -/
structure Extends (t t' : FileTree) (mayBeNew : Place → Prop) : Prop where
  home : t'.home = t.home
  kept : ∀ place, t.Kept t' mayBeNew place

section
variable {t t₁ t₂ : FileTree} {mayBeNew : Place → Prop}

/-- A tree extends itself. -/
theorem Extends.refl (t : FileTree) (mayBeNew : Place → Prop) : t.Extends t mayBeNew :=
  ⟨rfl, fun _ => .inl rfl⟩

/-- New directories after new directories are new directories. -/
theorem Extends.trans (h₁ : t.Extends t₁ mayBeNew) (h₂ : t₁.Extends t₂ mayBeNew) :
    t.Extends t₂ mayBeNew := by
  refine ⟨h₂.home.trans h₁.home, fun place => ?_⟩
  rcases h₁.kept place with hold | ⟨hnone, hnew, hmay⟩
  · rcases h₂.kept place with hold' | ⟨hnone, hnew, hmay⟩
    · exact .inl (hold'.trans hold)
    · exact .inr ⟨hold ▸ hnone, hnew, hmay⟩
  · rcases h₂.kept place with hold' | ⟨hnone', -, -⟩
    · exact .inr ⟨hnone, hold'.trans hnew, hmay⟩
    · rw [hnew] at hnone'
      cases hnone'

/-- More places may be said to be new. -/
theorem Extends.mono {mayBeNew' : Place → Prop} (h : t.Extends t₁ mayBeNew)
    (hmono : ∀ place, mayBeNew place → mayBeNew' place) : t.Extends t₁ mayBeNew' :=
  ⟨h.home, fun place => (h.kept place).imp_right fun hnew => ⟨hnew.1, hnew.2.1, hmono _ hnew.2.2⟩⟩

end

/-! ## Making directories -/

/-- A directory is made where nothing was. -/
theorem extends_of_makeDirectory {t t' : FileTree} {here : Place} {names : List String}
    (h : t.makeDirectory here names = .ok t') : t.Extends t' (· = walk here names) := by
  rw [makeDirectory] at h
  split at h
  · cases h
  · next place hdescend =>
    split at h
    · next hnone hparent =>
      cases h
      obtain ⟨rfl, -⟩ := descend_eq_ok_iff.1 hdescend
      refine ⟨rfl, fun place => ?_⟩
      by_cases hplace : place = walk here names
      · exact .inr ⟨hplace ▸ hnone, by rw [node?_put, if_pos hplace], hplace⟩
      · exact .inl (by rw [node?_put, if_neg hplace])
    · cases h
    · cases h

/-- No directory is new but the one that is ensured. -/
theorem ensureDirectory_extends (t : FileTree) (here : Place) (names : List String) :
    t.Extends (t.ensureDirectory here names).1 (· = walk here names) := by
  rw [ensureDirectory]
  split
  · next h => exact extends_of_makeDirectory h
  · exact .refl t _

/-- The places that names lead to one after another, the place they begin at left out. -/
def LeadsOver (here : Place) (names : List String) (place : Place) : Prop :=
  ∃ front, front ≠ [] ∧ front <+: names ∧ place = walk here front

/-- Longer names lead over what their beginning leads over. -/
theorem LeadsOver.mono {here place : Place} {names names' : List String}
    (h : LeadsOver here names place) (hnames : names <+: names') : LeadsOver here names' place :=
  h.imp fun _ hfront => ⟨hfront.1, hfront.2.1.trans hnames, hfront.2.2⟩

/-- The places that a path leads over before its last component are its ancestors. -/
theorem LeadsOver.isAncestor {t : FileTree} {path : String} {place : Place}
    (h : LeadsOver (t.start path) (Path.components path).dropLast place) :
    t.IsAncestor path place := by
  obtain ⟨front, hne, hfront, hplace⟩ := h
  refine ⟨front, hfront.trans (List.dropLast_prefix _), fun heq => ?_, hplace⟩
  have hlength := hfront.length_le
  rw [List.length_dropLast, ← heq] at hlength
  have hpos := List.length_pos_iff.2 hne
  omega

/-- Making directories one by one makes none but those that the names lead over. -/
theorem makeDirectories_extends (t : FileTree) (here : Place) (reversed : List String) :
    t.Extends (t.makeDirectories here reversed).1 (LeadsOver here reversed.reverse) := by
  induction reversed with
  | nil => exact .refl t _
  | cons name above ih =>
    have habove := ih.mono fun place hplace =>
      hplace.mono (List.reverse_cons ▸ List.prefix_append above.reverse [name])
    -- The last directory, which the first or the second attempt makes.
    have hlast : ∀ t₁ : FileTree, t₁.Extends (t₁.ensureDirectory here (name :: above).reverse).1
        (LeadsOver here (name :: above).reverse) :=
      fun t₁ => (t₁.ensureDirectory_extends here _).mono fun place hplace =>
        ⟨_, by simp, List.prefix_rfl, hplace⟩
    rw [makeDirectories_cons]
    split
    · split
      · next h => rwa [h] at habove
      · next h =>
        rw [h] at habove
        exact habove.trans (hlast _)
    · exact hlast t

/-- Making the parents of a path makes none but directories that the path leads through. -/
theorem makeParents_extends (t : FileTree) (path : String) :
    t.Extends (t.makeParents path).1 (t.IsAncestor path) := by
  rw [makeParents_eq]
  split
  · exact .refl t _
  · next parent hparent =>
    obtain ⟨hcomponents, habsolute⟩ := Path.parent?_eq_some hparent
    have hstart : t.start parent = t.start path := by rw [start, start, habsolute]
    have hmade := makeDirectories_extends t (t.start parent) (Path.components parent).reverse
    rw [List.reverse_reverse, hcomponents, hstart] at hmade
    have hancestors := hmade.mono fun _ hplace => hplace.isAncestor
    rw [hcomponents, hstart]
    split
    · next h => rwa [h] at hancestors
    · next h => rwa [h] at hancestors

/-! ## Writing -/

/-- A file is written to the place that the path spells, if everything before it is a directory. -/
theorem ancestors_of_writePlace {t : FileTree} {path : String} {place : Place}
    (h : t.writePlace path = .ok place) :
    place = t.placeOf path ∧
      ∀ ancestor, t.IsAncestor path ancestor → t.node? ancestor = some .directory := by
  obtain ⟨-, hdescend, -, -⟩ := writePlace_eq_ok h
  obtain ⟨hplace, hway⟩ := descend_eq_ok_iff.1 hdescend
  refine ⟨hplace, ?_⟩
  rintro ancestor ⟨names, hfront, hne, rfl⟩
  exact hway names hfront hne

/-- A file is found at the place that a path spells if everything before it is a directory and the
path does not ask for one. -/
theorem find?_eq_file {t : FileTree} {path : String} {content : ByteArray} (hpath : path ≠ "")
    (hway : ∀ ancestor, t.IsAncestor path ancestor → t.node? ancestor = some .directory)
    (hnode : t.node? (t.placeOf path) = some (.file content))
    (hname : Path.namesDirectory path = false) : t.find? path = some (.file content) := by
  have hdescend : t.descend (t.start path) (Path.components path) = .ok (t.placeOf path) :=
    descend_eq_ok_iff.2 ⟨rfl, fun front hfront hne => hway _ ⟨front, hfront, hne, rfl⟩⟩
  rw [find?, if_neg hpath, hdescend]
  simp only [hnode, hname, Bool.false_eq_true, if_false]

/-- What saving under a path leaves behind: the content at the path, directories all the way to it,
and everywhere else what was there. -/
structure Saved (t t' : FileTree) (path : String) (content : ByteArray) : Prop where
  home : t'.home = t.home
  found : t'.find? path = some (.file content)
  ancestors : ∀ place, t.IsAncestor path place → t'.node? place = some .directory
  others : ∀ place, place ≠ t.placeOf path → t.Kept t' (t.IsAncestor path) place

/-- Where a path begins depends on the working directory only. -/
theorem start_congr {t t' : FileTree} (h : t'.home = t.home) (path : String) :
    t'.start path = t.start path := by
  rw [start, start, h]

/-- Writing a file saves it, if only directories were made before. -/
theorem saved_put {t t₁ : FileTree} {path : String} {place : Place} (content : ByteArray)
    (hmade : t.Extends t₁ (t.IsAncestor path)) (hplace : t₁.writePlace path = .ok place) :
    t.Saved (t₁.put place (.file content) (admits_of_writePlace hplace content)) path content := by
  obtain ⟨rfl, hway⟩ := ancestors_of_writePlace hplace
  obtain ⟨hpath, -, hnode, hending⟩ := writePlace_eq_ok hplace
  have hname : Path.namesDirectory path = false := by rw [Path.namesDirectory, hending]; rfl
  have hput := t₁.node?_put (admits_of_writePlace hplace content)
  have hplaceOf : t₁.placeOf path = t.placeOf path := by
    rw [placeOf, placeOf, start_congr hmade.home]
  have hancestor : ∀ ancestor, t.IsAncestor path ancestor → t₁.IsAncestor path ancestor := by
    rintro ancestor ⟨names, hfront, hne, hspelled⟩
    exact ⟨names, hfront, hne, by rw [start_congr hmade.home, hspelled]⟩
  have hkept : ∀ ancestor, t₁.IsAncestor path ancestor →
      (t₁.put (t₁.placeOf path) (.file content) (admits_of_writePlace hplace content)).node?
        ancestor = some .directory := by
    intro ancestor h
    have hdirectory := hway ancestor h
    have hne : ancestor ≠ t₁.placeOf path := fun heq => hnode (heq ▸ hdirectory)
    rwa [hput, if_neg hne]
  refine ⟨hmade.home, find?_eq_file hpath hkept ?_ hname,
    fun ancestor h => hkept _ (hancestor _ h), ?_⟩
  · exact (hput (t₁.placeOf path)).trans (if_pos rfl)
  · intro other hne
    have hother : other ≠ t₁.placeOf path := hplaceOf ▸ hne
    rw [Kept, hput, if_neg hother]
    exact hmade.kept other

/-- Saving fails with new directories at most, or it saves. -/
theorem save_cases (t : FileTree) (path : String) (content : ByteArray) :
    ((t.save path content).2 = .ok () ∧ t.Saved (t.save path content).1 path content) ∨
      ∃ e, (t.save path content).2 = .error e ∧
        t.Extends (t.save path content).1 (t.IsAncestor path) := by
  have hparents := t.makeParents_extends path
  rw [save_eq]
  split
  · next e h =>
    rw [h] at hparents
    exact .inr ⟨e, rfl, hparents⟩
  · next t₁ h =>
    rw [h] at hparents
    split
    · next t₂ hwrite =>
      rw [writeFile] at hwrite
      split at hwrite
      · cases hwrite
      · next place hplace =>
        cases hwrite
        exact .inl ⟨rfl, saved_put content hparents hplace⟩
    · next e hwrite => exact .inr ⟨_, rfl, hparents⟩

end FileTree

/-! ## Loading -/

/-- A document is loaded from a file that is text, by the format that its path names. -/
theorem loadNode_eq_ok {path : String} {found : Option FileNode} {document : Document}
    (h : loadNode path found = .ok document) :
    ∃ content text format, found = some (.file content) ∧
      String.fromUTF8? content = some text ∧ SourceFormat.ofPath path = .ok format ∧
      format.parse text = .ok document := by
  rw [loadNode] at h
  obtain ⟨⟨format, node⟩, hformat, hrest⟩ := ok_of_bind h
  obtain ⟨text, htext, hparse⟩ := ok_of_bind hrest
  cases found with
  | none => cases hformat
  | some found =>
    obtain ⟨format', hpath, heq⟩ := ok_of_map hformat
    cases heq
    cases node with
    | directory => cases htext
    | file content =>
      rw [FileNode.readText] at htext
      split at htext
      · next text' hutf8 =>
        cases htext
        exact ⟨content, text, format, rfl, hutf8, hpath, hparse⟩
      · cases htext

/-- A conversion fails to load, fails to compile, or ends with the grammar, laid out if it was asked
to be. -/
theorem convert_cases (i : Invocation) (found : Option FileNode) :
    (∃ e, loadNode i.input found = .error e ∧ (i.convert found).result = .error (.load e)) ∨
    (∃ document e, loadNode i.input found = .ok document ∧ compile document = .error e ∧
      (i.convert found).result = .error (.compile e)) ∨
    ∃ document grammar, loadNode i.input found = .ok document ∧ compile document = .ok grammar ∧
      (i.convert found).result = .ok (if i.pretty then layout grammar else grammar) := by
  rw [Invocation.convert]
  cases loadNode i.input found with
  | error e => exact .inl ⟨e, rfl, rfl⟩
  | ok document =>
    cases hlower : (lowerRoot document).result with
    | error e =>
      refine .inr (.inl ⟨document, e, rfl, ?_, by simp only [hlower]⟩)
      rw [compile, hlower]
      rfl
    | ok schema =>
      refine .inr (.inr ⟨document, schema.grammar, rfl, ?_, by simp only [hlower]⟩)
      rw [compile, hlower]
      rfl

/-! ## Running -/

/-- A successful run does not print nothing. -/
theorem successLine_ne_empty (i : Invocation) : i.successLine ≠ "" := by
  delta Invocation.successLine
  intro h
  rw [← String.toList_inj, String.toList_append, String.toList_empty,
    List.append_eq_nil_iff] at h
  exact absurd h.2 (by decide)

/-- Without a grammar nothing is done. -/
theorem run_of_error {i : Invocation} {t : FileTree} {e : RunError}
    (h : (i.convert (t.find? i.input)).result = .error e) :
    (i.run t).tree = t ∧ (i.run t).printed = "" ∧ (i.run t).result = .error e := by
  rw [Invocation.run_eq, h]
  exact ⟨rfl, rfl, rfl⟩

/-- With a grammar it is saved, or saving it fails. -/
theorem run_of_ok {i : Invocation} {t : FileTree} {grammar : String}
    (h : (i.convert (t.find? i.input)).result = .ok grammar) :
    (i.run t).result = .ok () ∧ (i.run t).printed = i.successLine ∧
        t.Saved (i.run t).tree i.output grammar.toUTF8 ∨
      ∃ e, (i.run t).result = .error (.save e) ∧ (i.run t).printed = "" ∧
        t.Extends (i.run t).tree (t.IsAncestor i.output) := by
  have hcases := t.save_cases i.output grammar.toUTF8
  rcases hsave : t.save i.output grammar.toUTF8 with ⟨t₁, saved⟩
  rw [hsave] at hcases
  simp only [Invocation.run_eq, h, hsave]
  rcases hcases with ⟨hok, hsaved⟩ | ⟨e, herror, hmade⟩
  · cases hok
    exact .inl ⟨rfl, rfl, hsaved⟩
  · cases herror
    exact .inr ⟨e, rfl, rfl, hmade⟩

/-- **A run is all or nothing.** If the input cannot be loaded or compiled, nothing is touched. If
the run succeeds, the output holds the grammar of what the input held before, laid out if it was
asked to be, and the only other change is that directories lead to it. If the grammar cannot be
saved, no more than such directories are new. The success line is printed when the run succeeds, and
only then. -/
theorem run_all_or_nothing (i : Invocation) (t : FileTree) :
    (∀ e, t.load i.input = .error e →
      (i.run t).tree = t ∧ (i.run t).printed = "" ∧ (i.run t).result = .error (.load e)) ∧
    (∀ document e, t.load i.input = .ok document → compile document = .error e →
      (i.run t).tree = t ∧ (i.run t).printed = "" ∧ (i.run t).result = .error (.compile e)) ∧
    (∀ document grammar, t.load i.input = .ok document → compile document = .ok grammar →
      (i.run t).result = .ok () ∨ ∃ e, (i.run t).result = .error (.save e)) ∧
    ((i.run t).result = .ok () → ∃ content text format document grammar,
      t.find? i.input = some (.file content) ∧ String.fromUTF8? content = some text ∧
      SourceFormat.ofPath i.input = .ok format ∧ format.parse text = .ok document ∧
      compile document = .ok grammar ∧
      t.Saved (i.run t).tree i.output (if i.pretty then layout grammar else grammar).toUTF8) ∧
    (∀ e, (i.run t).result = .error (.save e) →
      (i.run t).printed = "" ∧ t.Extends (i.run t).tree (t.IsAncestor i.output)) ∧
    ((i.run t).printed = i.successLine ↔ (i.run t).result = .ok ()) := by
  have hsilent : "" ≠ i.successLine := (successLine_ne_empty i).symm
  rw [FileTree.load]
  rcases convert_cases i (t.find? i.input) with
    ⟨e, hload, hconvert⟩ | ⟨document, e, hload, hcompile, hconvert⟩ |
      ⟨document, grammar, hload, hcompile, hconvert⟩
  · obtain ⟨htree, hprinted, hresult⟩ := run_of_error hconvert
    rw [hload, htree, hprinted, hresult]
    refine ⟨?_, nofun, nofun, nofun, nofun, fun h => absurd h hsilent, nofun⟩
    rintro _ ⟨⟩
    exact ⟨rfl, rfl, rfl⟩
  · obtain ⟨htree, hprinted, hresult⟩ := run_of_error hconvert
    rw [hload, htree, hprinted, hresult]
    refine ⟨nofun, ?_, ?_, nofun, nofun, fun h => absurd h hsilent, nofun⟩
    · rintro _ e' ⟨⟩ hcompile'
      cases hcompile.symm.trans hcompile'
      exact ⟨rfl, rfl, rfl⟩
    · rintro _ grammar ⟨⟩ hcompile'
      cases hcompile.symm.trans hcompile'
  · rcases run_of_ok hconvert with ⟨hresult, hprinted, hsaved⟩ | ⟨e, hresult, hprinted, hmade⟩
    · rw [hload, hprinted, hresult]
      refine ⟨nofun, ?_, fun _ _ _ _ => .inl rfl, fun _ => ?_, nofun, fun _ => rfl, fun _ => rfl⟩
      · rintro _ e ⟨⟩ hcompile'
        cases hcompile.symm.trans hcompile'
      · obtain ⟨content, text, format, hfound, htext, hformat, hparse⟩ := loadNode_eq_ok hload
        exact ⟨content, text, format, document, grammar, hfound, htext, hformat, hparse, hcompile,
          hsaved⟩
    · rw [hload, hprinted, hresult]
      refine ⟨nofun, ?_, fun _ _ _ _ => .inr ⟨e, rfl⟩, nofun, fun _ _ => ⟨rfl, hmade⟩,
        fun h => absurd h hsilent, nofun⟩
      rintro _ e ⟨⟩ hcompile'
      cases hcompile.symm.trans hcompile'

/-- A working directory with one schema in it. -/
def oneSchema : FileTree where
  nodes := [(["work"], .directory),
    (["work", "schema.json"], .file "\x7b\"type\":\"object\"\x7d".toUTF8)]
  home := ["work"]
  coherent := ⟨rfl, List.forall_mem_cons.2 ⟨rfl, List.forall_mem_singleton.2 rfl⟩⟩

/-- Converts the schema of `oneSchema` in its own place, by a path through a directory that is not
there yet. -/
def convertInPlace : Invocation := ⟨"schema.json", "sub/../schema.json", true, false⟩

/-- The schema is replaced by its grammar and the directory is made. -/
theorem run_convertInPlace :
    (convertInPlace.run oneSchema).result = .ok () ∧
      (convertInPlace.run oneSchema).printed = convertInPlace.successLine ∧
      (convertInPlace.run oneSchema).tree.node? ["work", "sub"] = some .directory := by
  have hresult : (convertInPlace.run oneSchema).result = .ok () := by decide +kernel
  obtain ⟨-, -, -, hsaved, -, hprinted⟩ := run_all_or_nothing convertInPlace oneSchema
  obtain ⟨_, _, _, _, _, -, -, -, -, -, hsaved⟩ := hsaved hresult
  have hsub : oneSchema.IsAncestor convertInPlace.output ["work", "sub"] :=
    ⟨["sub"], by decide +kernel, by decide +kernel, by decide +kernel⟩
  exact ⟨hresult, hprinted.2 hresult, hsaved.ancestors _ hsub⟩

end SchemaGrammar
