import LogSieve.World
import Mathlib.Data.List.Induction

/-!
# Settings are found layer by layer

The specification and the strategy have layers, and the first layer that has something decides. What
is said here about the nearest project file is said about the bytes that are at its place.

* `FileTree.IsGrown`: whatever is there is in a directory, so a file that is found can be opened
  (`contents_of_look`);
* `FileTree.IsTooLong`: the places that the system does not take. A search fails where it comes to
  one of them before it comes to a file (`search_eq_error_iff`);
* `World.layeredSpec?`, `World.layeredStrategy`: what the layers come to;
* `World.SharesFile`: two worlds that agree on the layer of the project file;
* `World.layers_decide`: what is found, when nothing is found, and that the layers below do not
  matter.
-/

namespace LogSieve

/-! ## 1. Names on the way -/

namespace Path

/-- What is on the way after some steps was there before, or is the name of a step. -/
theorem mem_foldl_step {names : List Text} {p : Path} {n : Text} (h : n ∈ names.foldl step p) :
    n ∈ p ∨ (n ∈ names ∧ n ≠ [] ∧ n ≠ ['.'] ∧ n ≠ ['.', '.']) := by
  induction names generalizing p with
  | nil => exact .inl h
  | cons name rest ih =>
    rcases ih h with hp | ⟨hrest, hname⟩
    · unfold step at hp
      split at hp
      · exact .inl hp
      · rename_i hsame
        split at hp
        · exact .inl (List.dropLast_subset p hp)
        · rename_i hback
          rcases List.mem_append.mp hp with hp | hp
          · exact .inl hp
          · rw [List.mem_singleton.mp hp]
            simp only [Bool.or_eq_true, decide_eq_true_eq, not_or] at hsame
            exact .inr ⟨List.mem_cons_self, hsame.1, hsame.2, hback⟩
    · exact .inr ⟨List.mem_cons_of_mem _ hrest, hname⟩

theorem prefix_of_mem_placesOf {names : List Text} {q : Path} (h : q ∈ placesOf names) :
    q <+: names.reverse := by
  induction names with
  | nil =>
    rw [placesOf, List.mem_singleton] at h
    rw [h]
    exact List.prefix_refl _
  | cons name rest ih =>
    rcases List.mem_cons.mp h with rfl | h
    · exact List.prefix_refl _
    · rw [List.reverse_cons]
      exact (ih h).trans (List.prefix_append _ _)

theorem prefix_of_mem_ancestors {p q : Path} (h : q ∈ p.ancestors) : q <+: p := by
  have hfront := prefix_of_mem_placesOf h
  rwa [List.reverse_reverse] at hfront

/-- A name that can stand in a path that is opened. -/
def IsPlain (n : Text) : Prop := IsName n ∧ '\x00' ∉ n

theorem isPlain_of_mem_ofText {start : Path} {t n : Text} (hs : ∀ n ∈ start, IsPlain n)
    (ht : '\x00' ∉ t) (h : n ∈ ofText start t) : IsPlain n := by
  rcases mem_foldl_step h with hstart | ⟨hpiece, hne, hdot, hdots⟩
  · split at hstart
    · cases hstart
    · exact hs n hstart
  · exact ⟨⟨hne, hdot, hdots, Text.not_mem_of_mem_splitOn hpiece⟩,
      fun hc => ht (Text.mem_of_mem_splitOn hpiece hc).2⟩

theorem not_mem_text {p : Path} (h : ∀ n ∈ p, IsPlain n) : '\x00' ∉ p.text := by
  unfold text
  split
  · decide
  · intro hmem
    obtain ⟨n, hn, hc⟩ := List.mem_flatMap.mp hmem
    rcases List.mem_cons.mp hc with hc | hc
    · cases hc
    · exact (h n hn).2 hc

end Path

/-! ## 2. Trees -/

namespace FileTree

variable {tree : FileTree}

/-- Whatever is there is in a directory. -/
def IsGrown (tree : FileTree) : Prop :=
  ∀ p name, (tree.nodeAt? (p ++ [name])).isSome = true → tree.nodeAt? p = some .directory

theorem IsGrown.directory_of_prefix (h : tree.IsGrown) {p q : Path}
    (hp : (tree.nodeAt? p).isSome = true) (hq : q <+: p) (hne : q ≠ p) :
    tree.nodeAt? q = some .directory := by
  obtain ⟨more, rfl⟩ := hq
  induction more using List.reverseRecOn with
  | nil => exact absurd (List.append_nil q).symm hne
  | append_singleton rest name ih =>
    rw [← List.append_assoc] at hp
    have hrest := h _ _ hp
    by_cases hnil : rest = []
    · rw [hnil, List.append_nil] at hrest
      exact hrest
    · refine ih (by rw [hrest]; rfl) ?_
      intro heq
      exact hnil (List.append_cancel_left (heq.symm.trans (List.append_nil q).symm))

/-- It is enough to look at what is there. -/
theorem isGrown_of_entries
    (h : ∀ e ∈ tree.entries, tree.nodeAt? e.1.dropLast = some .directory) : tree.IsGrown := by
  intro p name hsome
  unfold nodeAt? at hsome
  rw [if_neg (by rw [List.isEmpty_iff]; exact List.append_ne_nil_of_right_ne_nil p nofun)] at hsome
  obtain ⟨e, he, hkey⟩ := List.lookup_isSome_iff.mp hsome
  have hp := h e he
  rwa [← eq_of_beq hkey, List.dropLast_concat] at hp

/-- The walk comes to a name that is too long to be looked up. -/
def MeetsLongName (tree : FileTree) (p : Path) (names : List Text) : Prop :=
  ∃ before name after, names = before ++ name :: after ∧
    (∀ q, q <+: before → tree.nodeAt? (p ++ q) = some .directory) ∧
    nameLimit < Text.byteLength name

theorem walk_eq_nameTooLong_iff {names : List Text} (h : ∀ n ∈ names, Path.IsName n) (p : Path) :
    tree.walk p names = .error .nameTooLong ↔ tree.MeetsLongName p names := by
  -- along the names; the walk has come to `p`, and the long name is the next one or further on
  induction names generalizing p with
  | nil =>
    constructor
    · intro hw
      cases hw
    · rintro ⟨before, name, after, heq, _⟩
      cases before <;> cases heq
  | cons n rest ih =>
    obtain ⟨hn, hrest⟩ := List.forall_mem_cons.mp h
    have hhere : tree.MeetsLongName p (n :: rest) → tree.nodeAt? p = some .directory := by
      rintro ⟨before, _, _, _, hdirectory, _⟩
      have hp := hdirectory [] List.nil_prefix
      rwa [List.append_nil] at hp
    rw [walk]
    split
    · rename_i hnone
      refine iff_of_false (fun hw => by cases hw) fun hmeets => ?_
      rw [hhere hmeets] at hnone
      cases hnone
    · rename_i hfile
      refine iff_of_false (fun hw => by cases hw) fun hmeets => ?_
      rw [hhere hmeets] at hfile
      cases hfile
    · rename_i hdir
      split
      · rename_i hlong
        refine iff_of_true rfl ⟨[], n, rest, rfl, ?_, hlong⟩
        intro q hq
        rw [List.prefix_nil.mp hq, List.append_nil]
        exact hdir
      · rename_i hshort
        rw [Path.step_of_isName hn, ih hrest]
        constructor
        · rintro ⟨before, name, after, rfl, hdirectory, hlong⟩
          refine ⟨n :: before, name, after, rfl, ?_, hlong⟩
          intro q hq
          rcases List.prefix_cons_iff.mp hq with rfl | ⟨r, rfl, hr⟩
          · rw [List.append_nil]
            exact hdir
          · have hnode := hdirectory r hr
            rwa [List.append_assoc] at hnode
        · rintro ⟨before, name, after, heq, hdirectory, hlong⟩
          cases before with
          | nil =>
            cases heq
            exact absurd hlong hshort
          | cons m before =>
            cases heq
            refine ⟨before, name, after, rfl, ?_, hlong⟩
            intro q hq
            rw [List.append_assoc]
            exact hdirectory (n :: q) (List.cons_prefix_cons.mpr ⟨rfl, hq⟩)

/-- The system takes no such place. -/
def IsTooLong (tree : FileTree) (p : Path) : Prop :=
  pathLimit < Text.byteLength p.text ∨ tree.MeetsLongName [] p

/-- Looking for a file has an answer wherever the place is not too long. -/
theorem look_cases (tree : FileTree) {p : Path} (h : ∀ n ∈ p, Path.IsName n) :
    (tree.IsTooLong p ∧ tree.look p = .error .nameTooLong) ∨
      (¬ tree.IsTooLong p ∧ tree.look p = .ok (tree.isFile p)) := by
  unfold look
  split
  · rename_i hlong
    exact .inl ⟨.inl hlong, rfl⟩
  · rename_i hshort
    split
    · rename_i hwalk
      exact .inl ⟨.inr ((walk_eq_nameTooLong_iff h []).mp hwalk), rfl⟩
    · rename_i hwalk
      refine .inr ⟨?_, rfl⟩
      rintro (hlong | hmeets)
      · exact hshort hlong
      · exact hwalk ((walk_eq_nameTooLong_iff h []).mpr hmeets)

/-- The search ends without an answer where it comes to a place that is too long. -/
theorem search_eq_error_iff {places : List Path} (h : ∀ p ∈ places, ∀ n ∈ p, Path.IsName n) :
    (∃ fault, tree.search places = .error fault) ↔
      ∃ before p after, places = before ++ p :: after ∧ (∀ q ∈ before, tree.isFile q = false) ∧
        tree.IsTooLong p := by
  induction places with
  | nil =>
    constructor
    · rintro ⟨_, hs⟩
      cases hs
    · rintro ⟨before, p, after, heq, _⟩
      cases before <;> cases heq
  | cons p rest ih =>
    obtain ⟨hp, hrest⟩ := List.forall_mem_cons.mp h
    rw [search]
    rcases look_cases tree hp with ⟨hlong, hlook⟩ | ⟨hshort, hlook⟩
    · rw [hlook]
      exact iff_of_true ⟨_, rfl⟩ ⟨[], p, rest, rfl, nofun, hlong⟩
    · rw [hlook]
      cases hfile : tree.isFile p with
      | true =>
        refine iff_of_false nofun ?_
        rintro ⟨before, q, after, heq, hbefore, hlong⟩
        cases before with
        | nil =>
          cases heq
          exact hshort hlong
        | cons r before =>
          cases heq
          rw [hbefore p List.mem_cons_self] at hfile
          cases hfile
      | false =>
        refine (ih hrest).trans ?_
        constructor
        · rintro ⟨before, q, after, rfl, hbefore, hlong⟩
          exact ⟨p :: before, q, after, rfl, List.forall_mem_cons.mpr ⟨hfile, hbefore⟩, hlong⟩
        · rintro ⟨before, q, after, heq, hbefore, hlong⟩
          cases before with
          | nil =>
            cases heq
            exact absurd hlong hshort
          | cons r before =>
            cases heq
            exact ⟨before, q, after, rfl, (List.forall_mem_cons.mp hbefore).2, hlong⟩

/-- A walk through directories gets through, if each name can be looked up. -/
theorem walk_of_directories {names : List Text} (h : ∀ n ∈ names, Path.IsName n)
    (hshort : ∀ n ∈ names, ¬ nameLimit < Text.byteLength n) {p : Path}
    (hdir : ∀ q, q <+: names → q ≠ names → tree.nodeAt? (p ++ q) = some .directory) :
    tree.walk p names = .ok (p ++ names) := by
  induction names generalizing p with
  | nil => rw [walk, List.append_nil]
  | cons n rest ih =>
    have hp := hdir [] List.nil_prefix (List.cons_ne_nil n rest).symm
    rw [List.append_nil] at hp
    rw [walk, hp]
    dsimp only
    rw [if_neg (hshort n List.mem_cons_self), Path.step_of_isName (h n List.mem_cons_self),
      ih (fun m hm => h m (List.mem_cons_of_mem _ hm))
        (fun m hm => hshort m (List.mem_cons_of_mem _ hm)), List.append_assoc]
    · rfl
    · intro q hq hne
      rw [List.append_assoc]
      refine hdir (n :: q) (List.cons_prefix_cons.mpr ⟨rfl, hq⟩) ?_
      exact fun heq => hne (List.cons.inj heq).2

/-- A file that is found can be opened from anywhere, and has the bytes that are there. -/
theorem contents_of_look (hg : tree.IsGrown) {p : Path} (h : ∀ n ∈ p, Path.IsPlain n)
    (hne : p ≠ []) (hshort : ¬ tree.IsTooLong p) {bytes : List UInt8}
    (hfile : tree.nodeAt? p = some (.file bytes)) (start : Path) :
    tree.contents start p.text = .ok bytes := by
  have hnames : ∀ n ∈ p, Path.IsName n := fun n hn => (h n hn).1
  have hdir : ∀ q, q <+: p → q ≠ p → tree.nodeAt? q = some .directory := fun q hq hqne =>
    hg.directory_of_prefix (by rw [hfile]; rfl) hq hqne
  have hlengths : ∀ n ∈ p, ¬ nameLimit < Text.byteLength n := by
    intro n hn hlong
    obtain ⟨before, after, rfl⟩ := List.append_of_mem hn
    refine hshort (.inr ⟨before, n, after, rfl, ?_, hlong⟩)
    intro q hq
    refine hdir q (hq.trans (List.prefix_append _ _)) ?_
    rintro rfl
    have hlength := hq.length_le
    rw [List.length_append, List.length_cons] at hlength
    omega
  -- the text starts with a slash: the walk starts at the top, with an empty step
  have htext : p.text = p.flatMap ('/' :: ·) := by
    unfold Path.text
    rw [if_neg (by rwa [List.isEmpty_iff])]
  have hsplit : p.text.splitOn '/' = [] :: p := by
    rw [htext]
    exact Path.splitOn_names (fun n hn => (hnames n hn).2.2.2) List.not_mem_nil
  have hhead : p.text.head? = some '/' ∧ p.text.isEmpty = false := by
    rw [htext]
    cases p with
    | nil => exact absurd rfl hne
    | cons n rest => exact ⟨rfl, rfl⟩
  have hwalk : tree.walk [] ([] :: p) = .ok p := walk_of_directories hnames hlengths hdir
  have hnul : p.text.contains '\x00' = false := by
    rw [List.contains_eq_mem, decide_eq_false (Path.not_mem_text h)]
  unfold contents
  rw [hnul, hhead.2, hhead.1, if_neg (fun hlong => hshort (.inl hlong)), if_pos rfl, hsplit, hwalk]
  simp only [bind, Except.bind, pure, Except.pure, hfile]
  rfl

end FileTree

/-! ## 3. Layers -/

namespace World

/-- The place where the program runs has names that can be opened, and whatever is there is in a
directory. -/
structure IsRegular (w : World) : Prop where
  place : ∀ n ∈ w.place, Path.IsPlain n
  files : w.files.IsGrown

/-- The text under a key in the document in a file. A file without a document has none. -/
def textUnder? (w : World) (key : Text) (p : Path) : Option Text :=
  match w.files.nodeAt? p with
  | some (.file bytes) =>
    match Text.decodeUtf8 bytes with
    | .error _ => none
    | .ok t =>
      match Json.read (Text.unifyNewlines t) with
      | .ok (.mapping entries) =>
        match entries.lookup key with
        | some (.text s) => some s
        | _ => none
      | _ => none
  | _ => none

/-- The specification of the first layer that has one. -/
def layeredSpec? (w : World) (given variableName start : Option Text) : Option Text :=
  (given.or (w.lookUp? variableName)).or ((w.projectFile? start).bind (w.textUnder? "spec"))

/-- The text, unless it is empty. -/
def unlessEmpty (t : Option Text) : Option Text := t.filter fun t => !t.isEmpty

/-- The name of the strategy in the first layer that has one which is not empty. Below what is
given, names are trimmed and put into small letters. -/
def layeredStrategy (w : World) (given variableName start : Option Text) : Text :=
  match unlessEmpty given with
  | some name => name
  | none =>
    match (unlessEmpty (w.lookUp? variableName)).or
        (unlessEmpty ((w.projectFile? start).bind (w.textUnder? "strategy"))) with
    | some name => Text.lower (Text.trim name)
    | none => "regex"

/-- Before any project file a place is too long to be looked at. -/
def IsOutOfReach (w : World) (start : Option Text) : Prop :=
  ∃ before p after, w.projectPlaces start = before ++ p :: after ∧
    (∀ q ∈ before, w.files.isFile q = false) ∧ w.files.IsTooLong p

/-- Two worlds have the same nearest project file, with the same in it, or none for the same
reason. -/
def SharesFile (w w' : World) (start : Option Text) : Prop :=
  w.searchProjectFile start = w'.searchProjectFile start ∧
    ∀ p, w.projectFile? start = some p → w.files.nodeAt? p = w'.files.nodeAt? p

variable {w w' : World} {start : Option Text}

theorem isPlain_of_mem_projectPlaces (hw : w.IsRegular) (hs : ∀ t ∈ start, '\x00' ∉ t) {p : Path}
    (hp : p ∈ w.projectPlaces start) : p ≠ [] ∧ ∀ n ∈ p, Path.IsPlain n := by
  have hstart : ∀ n ∈ w.startAt start, Path.IsPlain n := by
    unfold startAt
    split
    · exact hw.place
    · exact hw.place
    · exact fun n hn => Path.isPlain_of_mem_ofText hw.place (hs _ rfl) hn
  obtain ⟨q, hq, rfl⟩ := List.mem_map.mp hp
  have hfront := Path.prefix_of_mem_ancestors (List.mem_of_mem_take hq)
  refine ⟨List.append_ne_nil_of_right_ne_nil _ (List.cons_ne_nil _ _), ?_⟩
  intro n hn
  rcases List.mem_append.mp hn with hn | hn
  · exact hstart n (hfront.subset hn)
  · rw [List.mem_singleton.mp hn]
    exact ⟨⟨by decide, by decide, by decide, by decide⟩, by decide⟩

/-- The search fails where project files are out of reach, and nowhere else. -/
theorem searchProjectFile_eq_error_iff (hw : w.IsRegular) (hs : ∀ t ∈ start, '\x00' ∉ t) :
    (∃ fault, w.searchProjectFile start = .error fault) ↔ w.IsOutOfReach start := by
  have hnul : (start.getD []).contains '\x00' = false := by
    rw [List.contains_eq_mem, decide_eq_false_iff_not]
    cases start with
    | none => exact List.not_mem_nil
    | some t => exact hs t rfl
  have hsearch : w.searchProjectFile start = w.files.search (w.projectPlaces start) := by
    unfold searchProjectFile
    dsimp only
    rw [hnul, if_neg Bool.noConfusion]
  rw [hsearch]
  exact FileTree.search_eq_error_iff fun p hp n hn =>
    ((isPlain_of_mem_projectPlaces hw hs hp).2 n hn).1

/-- A search that has an answer has come to no place that is too long. -/
theorem not_isOutOfReach_of_search (hw : w.IsRegular) (hs : ∀ t ∈ start, '\x00' ∉ t)
    {found : Option Path} (h : w.searchProjectFile start = .ok found) : ¬ w.IsOutOfReach start := by
  intro hout
  obtain ⟨fault, hfault⟩ := (searchProjectFile_eq_error_iff hw hs).mpr hout
  rw [h] at hfault
  cases hfault

theorem exists_searchProjectFile (hw : w.IsRegular) (hs : ∀ t ∈ start, '\x00' ∉ t)
    (hreach : ¬ w.IsOutOfReach start) :
    w.searchProjectFile start = .ok (w.projectFile? start) := by
  cases hsearch : w.searchProjectFile start with
  | error fault => exact absurd ((searchProjectFile_eq_error_iff hw hs).mp ⟨fault, hsearch⟩) hreach
  | ok found => rw [projectFile?_of_search hsearch]

/-- The bytes of the nearest file are what is read. -/
theorem exists_contents (hw : w.IsRegular) (hs : ∀ t ∈ start, '\x00' ∉ t)
    (hreach : ¬ w.IsOutOfReach start) {p : Path} (hp : w.projectFile? start = some p) :
    ∃ bytes, w.files.nodeAt? p = some (.file bytes) ∧
      w.files.contents w.place p.text = .ok bytes := by
  obtain ⟨hfile, before, after, hplaces, hbefore⟩ := projectFile?_eq_some hp
  obtain ⟨hne, hplain⟩ := isPlain_of_mem_projectPlaces hw hs (p := p) (by rw [hplaces]; simp)
  have hshort : ¬ w.files.IsTooLong p := fun hlong =>
    hreach ⟨before, p, after, hplaces, hbefore, hlong⟩
  unfold FileTree.isFile at hfile
  split at hfile
  · rename_i bytes hnode
    exact ⟨bytes, hnode, FileTree.contents_of_look hw.files hplain hne hshort hnode w.place⟩
  · cases hfile

/-- What is loaded from the nearest file is what is in it. -/
theorem lookup_loadEntries (hw : w.IsRegular) (hs : ∀ t ∈ start, '\x00' ∉ t)
    (hreach : ¬ w.IsOutOfReach start) {p : Path} (hp : w.projectFile? start = some p) (key : Text) :
    (match (w.loadEntries p.text).value.lookup key with
      | some (.text t) => some t
      | _ => none) = w.textUnder? key p := by
  obtain ⟨bytes, hnode, hcontents⟩ := exists_contents hw hs hreach hp
  have hread : w.readFile p.text =
      match Text.decodeUtf8 bytes with
      | .error fault => .error (.undecoded fault)
      | .ok t =>
        (Json.read (Text.unifyNewlines t)).mapError (.unread (Text.unifyNewlines t)) := by
    unfold readFile
    rw [hcontents]
    simp only [Except.mapError, bind, Except.bind]
    cases Text.decodeUtf8 bytes <;> rfl
  unfold textUnder? loadEntries
  rw [hnode, hread]
  dsimp only
  cases Text.decodeUtf8 bytes with
  | error fault => rfl
  | ok t =>
    dsimp only
    cases Json.read (Text.unifyNewlines t) with
    | error fault => rfl
    | ok v => cases v <;> rfl

theorem value_specText (hw : w.IsRegular) (hs : ∀ t ∈ start, '\x00' ∉ t)
    {given variableName : Option Text}
    (hreach : w.leavesSpecToFile given variableName = true → ¬ w.IsOutOfReach start) :
    (w.specText given variableName start).value = w.layeredSpec? given variableName start := by
  unfold specText layeredSpec?
  unfold leavesSpecToFile at hreach
  cases given with
  | some t => rfl
  | none =>
    cases hv : w.lookUp? variableName with
    | some t => rfl
    | none =>
      rw [hv] at hreach
      unfold projectEntries
      cases hp : w.projectFile? start with
      | none => rfl
      | some p =>
        have hlookup := lookup_loadEntries hw hs (hreach rfl) hp "spec"
        simp only [Reported.value_bind, Reported.value_pure, Option.none_or, Option.bind_some]
        rw [← hlookup]
        cases (w.loadEntries p.text).value.lookup "spec".toList with
        | none => rfl
        | some v => cases v <;> rfl

theorem unlessEmpty_cases (t : Option Text) :
    (t.all List.isEmpty = true ∧ unlessEmpty t = none) ∨
      ∃ c rest, t = some (c :: rest) ∧ unlessEmpty t = some (c :: rest) := by
  rcases t with _ | _ | ⟨c, rest⟩
  · exact .inl ⟨rfl, rfl⟩
  · exact .inl ⟨rfl, rfl⟩
  · exact .inr ⟨c, rest, rfl, rfl⟩

theorem strategyName_of_all_isEmpty {given : Option Text} (h : given.all List.isEmpty = true)
    (w : World) (variableName start : Option Text) :
    w.strategyName given variableName start = w.strategyName none variableName start := by
  rcases given with _ | _ | ⟨c, rest⟩
  · rfl
  · rfl
  · cases h

/-- Below what is given and the variable, the strategy is the nearest project file's. -/
theorem strategyName_of_leaves {given variableName : Option Text}
    (h : w.leavesStrategyToFile given variableName = true) :
    w.strategyName given variableName start = (do
      let (entries, _) ← w.projectEntries start
      match entries.lookup "strategy".toList with
      | some (.text (c :: rest)) => return Text.lower (Text.trim (c :: rest))
      | _ => return "regex".toList) := by
  unfold leavesStrategyToFile at h
  rw [Bool.and_eq_true] at h
  rw [strategyName_of_all_isEmpty h.1]
  unfold strategyName
  dsimp only
  split
  · rename_i hv
    rw [hv] at h
    cases h.2
  · rfl

theorem value_strategyName (hw : w.IsRegular) (hs : ∀ t ∈ start, '\x00' ∉ t)
    {given variableName : Option Text}
    (hreach : w.leavesStrategyToFile given variableName = true → ¬ w.IsOutOfReach start) :
    (w.strategyName given variableName start).value =
      w.layeredStrategy given variableName start := by
  rcases unlessEmpty_cases given with ⟨hgiven, hnone⟩ | ⟨c, rest, rfl, hsome⟩
  · rcases unlessEmpty_cases (w.lookUp? variableName) with ⟨hvariable, hunset⟩ | ⟨c, rest, hv, hset⟩
    · have hleaves : w.leavesStrategyToFile given variableName = true := by
        rw [leavesStrategyToFile, hgiven, hvariable]
        rfl
      rw [strategyName_of_leaves hleaves, layeredStrategy, hnone, hunset]
      unfold projectEntries
      cases hp : w.projectFile? start with
      | none => rfl
      | some p =>
        have hlookup := lookup_loadEntries hw hs (hreach hleaves) hp "strategy"
        simp only [Reported.value_bind, Reported.value_pure, Option.none_or, Option.bind_some]
        rw [← hlookup]
        cases (w.loadEntries p.text).value.lookup "strategy".toList with
        | none => rfl
        | some v =>
          cases v with
          | text t => cases t <;> rfl
          | _ => rfl
    · rw [strategyName_of_all_isEmpty hgiven, layeredStrategy, hnone, hset]
      unfold strategyName
      rw [hv]
      rfl
  · rfl

/-! ## 4. Searching -/

/-- What rests on the project file fails where that is reached and out of reach, and only there. -/
theorem afterSearch_cases (hw : w.IsRegular) (hs : ∀ t ∈ start, '\x00' ∉ t) {α : Type}
    (isReached : Bool) (r : Reported α) :
    (isReached = true ∧ w.IsOutOfReach start →
      ∃ fault, (w.afterSearch start isReached r).run = ⟨[], .error fault⟩) ∧
    (¬ (isReached = true ∧ w.IsOutOfReach start) →
      (w.afterSearch start isReached r).run = ⟨r.notices, .ok r.value⟩) := by
  rw [run_afterSearch]
  cases isReached with
  | false => exact ⟨fun h => Bool.noConfusion h.1, fun _ => rfl⟩
  | true =>
    rw [if_pos rfl]
    constructor
    · rintro ⟨_, hout⟩
      obtain ⟨fault, hfault⟩ := (searchProjectFile_eq_error_iff hw hs).mpr hout
      exact ⟨fault, by rw [hfault]⟩
    · intro hreach
      rw [exists_searchProjectFile hw hs fun hout => hreach ⟨rfl, hout⟩]

/-- Worlds with the same nearest project file find the same in it. -/
theorem projectEntries_eq (hw : w.IsRegular) (hw' : w'.IsRegular) (hs : ∀ t ∈ start, '\x00' ∉ t)
    (h : w.SharesFile w' start) (hreach : ¬ w.IsOutOfReach start) :
    w.projectEntries start = w'.projectEntries start := by
  have hsearch := exists_searchProjectFile hw hs hreach
  have hsearch' : w'.searchProjectFile start = .ok (w.projectFile? start) := h.1.symm.trans hsearch
  have hreach' := not_isOutOfReach_of_search hw' hs hsearch'
  have hfile := projectFile?_of_search hsearch'
  unfold projectEntries
  cases hp : w.projectFile? start with
  | none => rw [hfile, hp]
  | some p =>
    obtain ⟨bytes, hnode, hcontents⟩ := exists_contents hw hs hreach hp
    obtain ⟨bytes', hnode', hcontents'⟩ := exists_contents hw' hs hreach' (hfile.trans hp)
    have hbytes : bytes' = bytes := by
      have hnodes := (hnode'.symm.trans (h.2 p hp).symm).trans hnode
      exact FileNode.file.inj (Option.some.inj hnodes)
    have hload : w.loadEntries p.text = w'.loadEntries p.text := by
      unfold loadEntries readFile
      rw [hcontents, hcontents', hbytes]
    rw [hfile, hp]
    dsimp only
    rw [hload]

theorem run_afterSearch_eq (hw : w.IsRegular) (hw' : w'.IsRegular) (hs : ∀ t ∈ start, '\x00' ∉ t)
    {α : Type} {isReached : Bool} {r r' : Reported α}
    (hfile : isReached = true → w.SharesFile w' start)
    (h : (isReached = true → w.projectEntries start = w'.projectEntries start) → r = r') :
    (w.afterSearch start isReached r).run = (w'.afterSearch start isReached r').run := by
  rw [run_afterSearch, run_afterSearch]
  cases isReached with
  | false => rw [h nofun]; rfl
  | true =>
    -- the search fails in both worlds or in neither, and only in the latter case is `r` asked for
    rw [if_pos rfl, if_pos rfl, ← (hfile rfl).1]
    cases hsearch : w.searchProjectFile start with
    | error fault => rfl
    | ok found =>
      have hreach := not_isOutOfReach_of_search hw hs hsearch
      rw [h fun _ => projectEntries_eq hw hw' hs (hfile rfl) hreach]

theorem specText_eq {given variableName : Option Text}
    (hvariable : given = none → w.lookUp? variableName = w'.lookUp? variableName)
    (hentries : w.leavesSpecToFile given variableName = true →
      w.projectEntries start = w'.projectEntries start) :
    w.specText given variableName start = w'.specText given variableName start := by
  cases given with
  | some t => rfl
  | none =>
    unfold specText
    dsimp only
    rw [← hvariable rfl]
    split
    · rfl
    · rename_i hv
      rw [hentries (by rw [leavesSpecToFile, hv]; rfl)]

theorem strategyName_eq {given variableName : Option Text}
    (hvariable : given.all List.isEmpty = true → w.lookUp? variableName = w'.lookUp? variableName)
    (hentries : w.leavesStrategyToFile given variableName = true →
      w.projectEntries start = w'.projectEntries start) :
    w.strategyName given variableName start = w'.strategyName given variableName start := by
  rcases unlessEmpty_cases given with ⟨hgiven, _⟩ | ⟨c, rest, rfl, _⟩
  · rcases unlessEmpty_cases (w.lookUp? variableName) with ⟨hunset, _⟩ | ⟨c, rest, hv, _⟩
    · have hleaves : w.leavesStrategyToFile given variableName = true := by
        rw [leavesStrategyToFile, hgiven, hunset]
        rfl
      have hleaves' : w'.leavesStrategyToFile given variableName = true := by
        rw [leavesStrategyToFile, hgiven, ← hvariable hgiven, hunset]
        rfl
      rw [strategyName_of_leaves hleaves, strategyName_of_leaves hleaves', hentries hleaves]
    · rw [strategyName_of_all_isEmpty hgiven, strategyName_of_all_isEmpty hgiven]
      unfold strategyName
      rw [← hvariable hgiven, hv]
  · rfl

/-- **Settings are found layer by layer.** Whatever the world is and whatever is asked, the
specification and the strategy are those of the first layer that has one: what is given, a variable,
and the nearest project file, be it broken or not. The search for that file fails at a place that is
too long to be looked at, and what is looked for then fails with it, if it has come to the project
file; nothing else fails. Worlds that agree on the layers down to the one that decides give the same
answer with the same notices. -/
theorem layers_decide (hw : w.IsRegular) (hs : ∀ t ∈ start, '\x00' ∉ t)
    (given variableName : Option Text) :
    ((w.leavesSpecToFile given variableName = true ∧ w.IsOutOfReach start →
        ∃ fault, (w.findSpec given variableName start).run.value = .error fault) ∧
      (¬ (w.leavesSpecToFile given variableName = true ∧ w.IsOutOfReach start) →
        (w.findSpec given variableName start).run.value =
          .ok (w.layeredSpec? given variableName start))) ∧
    ((w.leavesStrategyToFile given variableName = true ∧ w.IsOutOfReach start →
        ∃ fault, (w.findStrategy given variableName start).run.value = .error fault) ∧
      (¬ (w.leavesStrategyToFile given variableName = true ∧ w.IsOutOfReach start) →
        (w.findStrategy given variableName start).run.value =
          .ok (w.layeredStrategy given variableName start))) ∧
    ∀ w' : World, w'.IsRegular →
      ((given = none → w.lookUp? variableName = w'.lookUp? variableName) →
        (w.leavesSpecToFile given variableName = true → w.SharesFile w' start) →
        (w.findSpec given variableName start).run =
          (w'.findSpec given variableName start).run) ∧
      ((given.all List.isEmpty = true → w.lookUp? variableName = w'.lookUp? variableName) →
        (w.leavesStrategyToFile given variableName = true → w.SharesFile w' start) →
        (w.findStrategy given variableName start).run =
          (w'.findStrategy given variableName start).run) := by
  obtain ⟨hspec, hspec'⟩ := afterSearch_cases hw hs (w.leavesSpecToFile given variableName)
    (w.specText given variableName start)
  obtain ⟨hstrategy, hstrategy'⟩ := afterSearch_cases hw hs
    (w.leavesStrategyToFile given variableName) (w.strategyName given variableName start)
  refine ⟨⟨?_, ?_⟩, ⟨?_, ?_⟩, ?_⟩
  · intro hout
    obtain ⟨fault, hfault⟩ := hspec hout
    exact ⟨fault, congrArg Reported.value hfault⟩
  · intro hreach
    refine (congrArg Reported.value (hspec' hreach)).trans (congrArg Except.ok ?_)
    exact value_specText hw hs fun hleaves hout => hreach ⟨hleaves, hout⟩
  · intro hout
    obtain ⟨fault, hfault⟩ := hstrategy hout
    exact ⟨fault, congrArg Reported.value hfault⟩
  · intro hreach
    refine (congrArg Reported.value (hstrategy' hreach)).trans (congrArg Except.ok ?_)
    exact value_strategyName hw hs fun hleaves hout => hreach ⟨hleaves, hout⟩
  · intro w' hw'
    constructor
    · intro hvariable hfile
      have hleaves : w.leavesSpecToFile given variableName =
          w'.leavesSpecToFile given variableName := by
        cases given with
        | some t => rfl
        | none => rw [leavesSpecToFile, leavesSpecToFile, hvariable rfl]
      unfold findSpec
      rw [← hleaves]
      exact run_afterSearch_eq hw hw' hs hfile fun hentries => specText_eq hvariable hentries
    · intro hvariable hfile
      have hleaves : w.leavesStrategyToFile given variableName =
          w'.leavesStrategyToFile given variableName := by
        unfold leavesStrategyToFile
        cases hgiven : given.all List.isEmpty with
        | false => rfl
        | true => rw [hvariable hgiven]
      unfold findStrategy
      rw [← hleaves]
      exact run_afterSearch_eq hw hw' hs hfile fun hentries => strategyName_eq hvariable hentries

/-- **A broken file above a good one.** The variable has the strategy, with blanks around it; the
nearest project file breaks off, and the one in the directory above is not asked. -/
theorem layers_decide_broken :
    let file := fun t : String => FileNode.file (t.toList.map fun c => c.toNat.toUInt8)
    let above := ({} : FileTree).put [projectFileName] (file "\x7b\"spec\":\"info\"\x7d")
    let w : World :=
      { environment := [(strategyVariable, " Substring ".toList)]
        files := above.put ["app".toList, projectFileName] (file "\x7b\"spec\"")
        place := ["app".toList] }
    (w.findSpec none (some specVariable) none).run.value = .ok none ∧
      (w.findStrategy none (some strategyVariable) none).run.value = .ok "substring".toList ∧
      (w.findSpec none (some specVariable) (some "..")).run.value = .ok (some "info".toList) := by
  intro file above w
  have hw : w.IsRegular := by
    refine ⟨List.forall_mem_singleton.mpr ?_, FileTree.isGrown_of_entries (by decide +kernel)⟩
    exact ⟨⟨by decide, by decide, by decide, by decide⟩, by decide⟩
  have hreach : ∀ start, (∀ t ∈ start, '\x00' ∉ t) → (w.searchProjectFile start).isOk = true →
      ¬ w.IsOutOfReach start := by
    intro start hs hok
    cases hsearch : w.searchProjectFile start with
    | error fault =>
      rw [hsearch] at hok
      cases hok
    | ok found => exact not_isOutOfReach_of_search hw hs hsearch
  have hs : ∀ t ∈ (none : Option Text), '\x00' ∉ t := nofun
  have hs' : ∀ t ∈ some "..".toList, '\x00' ∉ t := by
    intro t ht
    cases ht
    decide
  have hhere := hreach none hs (by decide +kernel)
  have habove := hreach (some "..".toList) hs' (by decide +kernel)
  have hspec := ((layers_decide hw hs none (some specVariable)).1.2 fun h => hhere h.2)
  have hstrategy := (layers_decide hw hs none (some strategyVariable)).2.1.2 fun h => hhere h.2
  have hfarther := ((layers_decide hw hs' none (some specVariable)).1.2 fun h => habove h.2)
  refine ⟨hspec.trans ?_, hstrategy.trans ?_, hfarther.trans ?_⟩
  · exact congrArg Except.ok (by decide +kernel)
  · exact congrArg Except.ok (by decide +kernel)
  · exact congrArg Except.ok (by decide +kernel)

/-- **A long name.** A directory whose name has 256 letters cannot be asked for a project file, and
there is no answer, although no file is meant to be there. -/
theorem not_found_of_long_name :
    ∃ fault, (({} : World).findSpec none none (some ('/' :: List.replicate 256 'a'))).run.value =
      .error fault := by
  have hok : (({} : World).findSpec none none
      (some ('/' :: List.replicate 256 'a'))).run.value.isOk = false := by decide +kernel
  cases h : (({} : World).findSpec none none (some ('/' :: List.replicate 256 'a'))).run.value with
  | error fault => exact ⟨fault, rfl⟩
  | ok found =>
    rw [h] at hok
    cases hok

end World

end LogSieve
