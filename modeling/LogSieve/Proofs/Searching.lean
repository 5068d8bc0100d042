import LogSieve.Proofs.Layering
import Mathlib.Logic.Relation

/-!
# The nearest project file

A start is written in many ways. What it means is said here by rewriting: a blank step or one to the
same place is left out, a step back takes the step before it along, and at the root it is left out.
A written path has one normal form (`Path.normalizesTo_iff`), the place that its steps lead to.

From there the search goes up, a place at a time:

* `Path.above`, `Path.ancestors_eq_map`: the place, the one that holds it, and so on;
* `FileTree.search_endsIn`: a search ends at the first place that is too long, or at the first one
  with a file;
* `World.search_of_normalizesTo`: what is found from a start, however it is written.
-/

namespace LogSieve

open Relation (ReflTransGen)

/-! ## 1. Normal forms -/

namespace Path

/-- Steps from the root made fewer without leading elsewhere. -/
inductive Tidies : List Text → List Text → Prop where
  /-- A step that stays in place is left out. -/
  | stay (before after : List Text) {step : Text} (h : step = [] ∨ step = ['.']) :
      Tidies (before ++ step :: after) (before ++ after)
  /-- A step to a name and the one back from it are left out. -/
  | back (before after : List Text) {name : Text} (h : IsName name) :
      Tidies (before ++ name :: ['.', '.'] :: after) (before ++ after)
  /-- A step back from the root is left out. -/
  | root (after : List Text) : Tidies (['.', '.'] :: after) after

/-- The steps are tidied until there are only names. -/
def NormalizesTo (steps : List Text) (p : Path) : Prop :=
  ReflTransGen Tidies steps p ∧ ∀ n ∈ p, IsName n

theorem step_stay {name : Text} (h : name = [] ∨ name = ['.']) (p : Path) : p.step name = p := by
  rcases h with rfl | rfl
  · rfl
  · rfl

theorem step_back (p : Path) : p.step ['.', '.'] = p.dropLast := rfl

/-- Tidied steps lead where they led. -/
theorem foldl_step_eq_of_tidies {steps steps' : List Text} (h : ReflTransGen Tidies steps steps') :
    steps.foldl step [] = steps'.foldl step [] := by
  induction h with
  | refl => rfl
  | tail _ htidies ih =>
    rw [ih]
    cases htidies with
    | stay before after hstay =>
      rw [List.foldl_append, List.foldl_append, List.foldl_cons, step_stay hstay]
    | back before after hname =>
      rw [List.foldl_append, List.foldl_append, List.foldl_cons, List.foldl_cons,
        step_of_isName hname, step_back, List.dropLast_concat]
    | root after => rfl

/-- Steps are tidied up to where they lead, from the left: what is behind has become names. -/
theorem tidies_foldl_step {steps : List Text} (h : ∀ n ∈ steps, '/' ∉ n) {p : Path}
    (hp : ∀ n ∈ p, IsName n) :
    ReflTransGen Tidies (p ++ steps) (steps.foldl step p) ∧ ∀ n ∈ steps.foldl step p, IsName n := by
  induction steps generalizing p with
  | nil =>
    rw [List.append_nil]
    exact ⟨.refl, hp⟩
  | cons name rest ih =>
    obtain ⟨hname, hrest⟩ := List.forall_mem_cons.mp h
    by_cases hstay : name = [] ∨ name = ['.']
    · obtain ⟨htidies, hnames⟩ := ih hrest hp
      rw [List.foldl_cons, step_stay hstay]
      exact ⟨.head (.stay p rest hstay) htidies, hnames⟩
    · by_cases hback : name = ['.', '.']
      · subst hback
        obtain ⟨htidies, hnames⟩ := ih hrest (p := p.dropLast)
          fun n hn => hp n (List.dropLast_subset p hn)
        rw [List.foldl_cons, step_back]
        refine ⟨.head ?_ htidies, hnames⟩
        rcases List.eq_nil_or_concat p with rfl | ⟨before, last, rfl⟩
        · exact .root rest
        · rw [List.concat_eq_append] at hp ⊢
          have hlast := hp last (List.mem_append_right _ (List.mem_singleton_self last))
          rw [List.dropLast_concat, List.append_assoc]
          exact .back before rest hlast
      · have hisName : IsName name :=
          ⟨fun h => hstay (.inl h), fun h => hstay (.inr h), hback, hname⟩
        obtain ⟨htidies, hnames⟩ := ih hrest (p := p ++ [name])
          fun n hn => (List.mem_append.mp hn).elim (hp n) fun hn =>
            List.mem_singleton.mp hn ▸ hisName
        rw [List.foldl_cons, step_of_isName hisName]
        rw [List.append_assoc] at htidies
        exact ⟨htidies, hnames⟩

/-- **Steps have one normal form**, the place that they lead to. -/
theorem normalizesTo_iff {steps : List Text} (h : ∀ n ∈ steps, '/' ∉ n) (p : Path) :
    NormalizesTo steps p ↔ p = steps.foldl step [] := by
  constructor
  · intro hp
    obtain ⟨htidies, hnames⟩ := hp
    have hself : p.foldl step [] = p := foldl_step_of_isName hnames []
    exact hself.symm.trans (foldl_step_eq_of_tidies htidies).symm
  · intro hp
    rw [hp]
    exact tidies_foldl_step h (p := []) fun _ hn => absurd hn List.not_mem_nil

/-! ## 2. Upward -/

/-- The place that is so many steps above. -/
def above (p : Path) : Nat → Path
  | 0 => p
  | i + 1 => (above p i).dropLast

theorem above_concat (p : Path) (name : Text) (i : Nat) :
    above (p ++ [name]) (i + 1) = above p i := by
  induction i with
  | zero => exact List.dropLast_concat
  | succ i ih => exact congrArg List.dropLast ih

/-- Above the root there is the root. -/
theorem above_of_length_le {p : Path} {i : Nat} (h : p.length ≤ i) : above p i = [] := by
  have hlength : ∀ i, (above p i).length = p.length - i := by
    intro i
    induction i with
    | zero => rfl
    | succ i ih =>
      rw [above, List.length_dropLast, ih]
      omega
  have hzero := hlength i
  rw [Nat.sub_eq_zero_of_le h] at hzero
  exact List.eq_nil_of_length_eq_zero hzero

theorem ancestors_concat (p : Path) (name : Text) :
    ancestors (p ++ [name]) = (p ++ [name]) :: ancestors p := by
  unfold ancestors
  rw [List.reverse_concat, placesOf, List.reverse_cons, List.reverse_reverse]

/-- The place and those above it, up to the root. -/
theorem ancestors_eq_map (p : Path) : ancestors p = (List.range (p.length + 1)).map p.above := by
  induction p using List.reverseRecOn with
  | nil => rfl
  | append_singleton p name ih =>
    have habove : above (p ++ [name]) ∘ Nat.succ = above p := funext (above_concat p name)
    rw [ancestors_concat, ih, List.length_append, List.length_singleton,
      List.range_succ_eq_map (n := p.length + 1), List.map_cons, List.map_map, habove]
    rfl

/-- What holds of all places above holds of those that are looked at, and the other way round. -/
theorem forall_above_iff (p : Path) (limit : Nat) (Q : Path → Prop) :
    (∀ i < min limit (p.length + 1), Q (p.above i)) ↔ ∀ i < limit, Q (p.above i) := by
  constructor
  · intro h i hi
    by_cases hlength : i ≤ p.length
    · exact h i (by omega)
    · have hroot := h p.length (by omega)
      rw [above_of_length_le (Nat.le_refl _)] at hroot
      rwa [above_of_length_le (by omega)]
  · intro h i hi
    exact h i (by omega)

end Path

/-! ## 3. Searches -/

namespace FileTree

variable {tree : FileTree}

/-- Before any file the search comes to a place that is too long, and this is the first one. -/
def FailsAt (tree : FileTree) (place : Nat → Path) (i : Nat) : Prop :=
  tree.IsTooLong (place i) ∧
    ∀ j < i, tree.isFile (place j) = false ∧ ¬ tree.IsTooLong (place j)

/-- The search comes to a file, and this is the first one. -/
def FindsAt (tree : FileTree) (place : Nat → Path) (i : Nat) : Prop :=
  tree.isFile (place i) = true ∧ ¬ tree.IsTooLong (place i) ∧
    ∀ j < i, tree.isFile (place j) = false ∧ ¬ tree.IsTooLong (place j)

/-- The ways in which a search of so many places ends. -/
inductive EndsIn (tree : FileTree) (place : Nat → Path) (limit : Nat) :
    Except SearchFault (Option Path) → Prop where
  | fails {i : Nat} (hi : i < limit) (h : tree.FailsAt place i) :
      EndsIn tree place limit (.error ⟨.nameTooLong, (place i).text⟩)
  | finds {i : Nat} (hi : i < limit) (h : tree.FindsAt place i) :
      EndsIn tree place limit (.ok (some (place i)))
  | nothing (h : ∀ i < limit, tree.isFile (place i) = false ∧ ¬ tree.IsTooLong (place i)) :
      EndsIn tree place limit (.ok none)

/-- One place more at the front, which is neither too long nor has a file. -/
theorem EndsIn.succ {place : Nat → Path} {n : Nat} {found : Except SearchFault (Option Path)}
    (h : tree.EndsIn (place ∘ Nat.succ) n found) (hfile : tree.isFile (place 0) = false)
    (hshort : ¬ tree.IsTooLong (place 0)) : tree.EndsIn place (n + 1) found := by
  have hbefore : ∀ {i : Nat},
      (∀ j < i, tree.isFile ((place ∘ Nat.succ) j) = false ∧
        ¬ tree.IsTooLong ((place ∘ Nat.succ) j)) →
      ∀ j < i + 1, tree.isFile (place j) = false ∧ ¬ tree.IsTooLong (place j) := by
    intro i hi j hj
    cases j with
    | zero => exact ⟨hfile, hshort⟩
    | succ j => exact hi j (Nat.lt_of_succ_lt_succ hj)
  cases h with
  | fails hi h => exact .fails (Nat.succ_lt_succ hi) ⟨h.1, hbefore h.2⟩
  | finds hi h => exact .finds (Nat.succ_lt_succ hi) ⟨h.1, h.2.1, hbefore h.2.2⟩
  | nothing h => exact .nothing (hbefore h)

/-- How a search ends. -/
theorem search_endsIn (tree : FileTree) (place : Nat → Path) (n : Nat)
    (h : ∀ i < n, ∀ m ∈ place i, Path.IsName m) :
    tree.EndsIn place n (tree.search ((List.range n).map place)) := by
  -- along the places; those further up are the places of a shorter search
  induction n generalizing place with
  | zero => exact .nothing fun i hi => absurd hi (Nat.not_lt_zero i)
  | succ n ih =>
    have hfirst := h 0 (Nat.succ_pos n)
    have hrest : ∀ i < n, ∀ m ∈ (place ∘ Nat.succ) i, Path.IsName m :=
      fun i hi => h (i + 1) (Nat.succ_lt_succ hi)
    rw [List.range_succ_eq_map, List.map_cons, List.map_map, search]
    rcases look_cases tree hfirst with ⟨hlong, hlook⟩ | ⟨hshort, hlook⟩
    · rw [hlook]
      exact .fails (Nat.succ_pos n) ⟨hlong, fun j hj => absurd hj (Nat.not_lt_zero j)⟩
    · rw [hlook]
      cases hfile : tree.isFile (place 0) with
      | true =>
        exact .finds (Nat.succ_pos n) ⟨hfile, hshort, fun j hj => absurd hj (Nat.not_lt_zero j)⟩
      | false => exact (ih (place ∘ Nat.succ) hrest).succ hfile hshort

/-- Before any file among so many places there is one that is too long. -/
def IsBlocked (tree : FileTree) (place : Nat → Path) (limit : Nat) : Prop :=
  ∃ i < limit, tree.IsTooLong (place i) ∧ ∀ j < i, tree.isFile (place j) = false

variable {place : Nat → Path} {i limit : Nat}

theorem FailsAt.isBlocked (h : tree.FailsAt place i) (hi : i < limit) :
    tree.IsBlocked place limit :=
  ⟨i, hi, h.1, fun j hj => (h.2 j hj).1⟩

theorem FindsAt.not_isBlocked (h : tree.FindsAt place i) : ¬ tree.IsBlocked place limit := by
  intro hblocked
  obtain ⟨hfile, hshort, hbefore⟩ := h
  obtain ⟨k, _, hlong, hall⟩ := hblocked
  rcases Nat.lt_trichotomy k i with hk | rfl | hk
  · exact (hbefore k hk).2 hlong
  · exact hshort hlong
  · rw [hall i hk] at hfile
    cases hfile

/-- There is one nearest file. -/
theorem FindsAt.eq_of_isFile (h : tree.FindsAt place i) {k : Nat}
    (hfile : tree.isFile (place k) = true) (hall : ∀ j < k, tree.isFile (place j) = false) :
    k = i := by
  obtain ⟨hfound, _, hbefore⟩ := h
  rcases Nat.lt_trichotomy k i with hk | rfl | hk
  · rw [(hbefore k hk).1] at hfile
    cases hfile
  · rfl
  · rw [hall i hk] at hfound
    cases hfound

namespace EndsIn

variable {found : Except SearchFault (Option Path)}

/-- More places are looked at, and there is nothing in them if there was nothing before. -/
theorem extend {n : Nat} (h : tree.EndsIn place n found) (hn : n ≤ limit)
    (hmore : (∀ i < n, tree.isFile (place i) = false ∧ ¬ tree.IsTooLong (place i)) →
      ∀ i < limit, tree.isFile (place i) = false ∧ ¬ tree.IsTooLong (place i)) :
    tree.EndsIn place limit found := by
  cases h with
  | fails hi h => exact .fails (Nat.lt_of_lt_of_le hi hn) h
  | finds hi h => exact .finds (Nat.lt_of_lt_of_le hi hn) h
  | nothing h => exact .nothing (hmore h)

/-- A search that is blocked fails. -/
theorem of_isBlocked (h : tree.EndsIn place limit found) (hblocked : tree.IsBlocked place limit) :
    ∃ i < limit, tree.FailsAt place i ∧ found = .error ⟨.nameTooLong, (place i).text⟩ := by
  cases h with
  | fails hi h => exact ⟨_, hi, h, rfl⟩
  | finds hi h => exact absurd hblocked h.not_isBlocked
  | nothing h =>
    obtain ⟨i, hi, hlong, _⟩ := hblocked
    exact absurd hlong (h i hi).2

/-- A search that is not blocked finds the nearest file. -/
theorem eq_some_iff (h : tree.EndsIn place limit found) (hfree : ¬ tree.IsBlocked place limit)
    (p : Path) :
    found = .ok (some p) ↔ ∃ i < limit, tree.isFile (place i) = true ∧
      (∀ j < i, tree.isFile (place j) = false) ∧ p = place i := by
  cases h with
  | fails hi h => exact absurd (h.isBlocked hi) hfree
  | finds hi h =>
    constructor
    · intro hp
      cases hp
      exact ⟨_, hi, h.1, fun j hj => (h.2.2 j hj).1, rfl⟩
    · intro hp
      obtain ⟨k, _, hfile, hbefore, rfl⟩ := hp
      rw [h.eq_of_isFile hfile hbefore]
  | nothing h =>
    refine iff_of_false nofun ?_
    intro hp
    obtain ⟨k, hk, hfile, _⟩ := hp
    cases (h k hk).1.symm.trans hfile

/-- A search that is not blocked comes to nothing where there is no file. -/
theorem eq_none_iff (h : tree.EndsIn place limit found) (hfree : ¬ tree.IsBlocked place limit) :
    found = .ok none ↔ ∀ i < limit, tree.isFile (place i) = false := by
  cases h with
  | fails hi h => exact absurd (h.isBlocked hi) hfree
  | finds hi h =>
    refine iff_of_false nofun ?_
    intro hnone
    cases (hnone _ hi).symm.trans h.1
  | nothing h => exact iff_of_true rfl fun i hi => (h i hi).1

/-- A file at the first place hides all others. -/
theorem eq_some_of_first (h : tree.EndsIn place limit found) (hlimit : 0 < limit)
    (hfile : tree.isFile (place 0) = true) (hshort : ¬ tree.IsTooLong (place 0)) :
    found = .ok (some (place 0)) := by
  have hfirst : tree.FindsAt place 0 :=
    ⟨hfile, hshort, fun j hj => absurd hj (Nat.not_lt_zero j)⟩
  refine (h.eq_some_iff hfirst.not_isBlocked _).mpr ⟨0, hlimit, hfile, ?_, rfl⟩
  exact fun j hj => absurd hj (Nat.not_lt_zero j)

end EndsIn

/-- A place of short names is not too long. -/
theorem not_isTooLong_of_short {p : Path} (h : Text.byteLength p.text ≤ pathLimit)
    (hn : ∀ n ∈ p, Text.byteLength n ≤ nameLimit) : ¬ tree.IsTooLong p := by
  intro hlong
  rcases hlong with hlong | ⟨before, name, after, rfl, _, hlong⟩
  · exact Nat.not_lt_of_le h hlong
  · have hname := hn name (List.mem_append_right _ List.mem_cons_self)
    exact Nat.not_lt_of_le hname hlong

end FileTree

/-! ## 4. Starts -/

namespace World

variable {w : World} {start : Option Text}

/-- The steps from the root to a start as it is written. -/
def stepsTo (w : World) (start : Option Text) : List Text :=
  match start with
  | none | some [] => w.place
  | some t => if t.head? = some '/' then t.splitOn '/' else w.place ++ t.splitOn '/'

theorem not_mem_of_mem_stepsTo (hw : w.IsRegular) {n : Text} (h : n ∈ w.stepsTo start) :
    '/' ∉ n := by
  have hplace : n ∈ w.place → '/' ∉ n := fun hn => (hw.place n hn).1.2.2.2
  unfold stepsTo at h
  split at h
  · exact hplace h
  · exact hplace h
  · split at h
    · exact Text.not_mem_of_mem_splitOn h
    · exact (List.mem_append.mp h).elim hplace Text.not_mem_of_mem_splitOn

/-- A start stands for where its steps lead. -/
theorem startAt_eq_foldl_step (hw : w.IsRegular) (start : Option Text) :
    w.startAt start = (w.stepsTo start).foldl Path.step [] := by
  have hplace : w.place.foldl Path.step [] = w.place :=
    Path.foldl_step_of_isName (fun n hn => (hw.place n hn).1) []
  cases start with
  | none => exact hplace.symm
  | some t =>
    cases t with
    | nil => exact hplace.symm
    | cons c rest =>
      simp only [startAt, stepsTo, Path.ofText]
      split
      · rfl
      · rw [List.foldl_append, hplace]

theorem normalizesTo_stepsTo_iff (hw : w.IsRegular) (start : Option Text) (p : Path) :
    Path.NormalizesTo (w.stepsTo start) p ↔ p = w.startAt start := by
  rw [startAt_eq_foldl_step hw]
  exact Path.normalizesTo_iff (fun n hn => not_mem_of_mem_stepsTo hw hn) p

/-- The place of the project file so many steps above. -/
def projectPlace (p : Path) (i : Nat) : Path := p.above i ++ [projectFileName]

theorem projectPlaces_eq_map (w : World) (start : Option Text) :
    w.projectPlaces start =
      (List.range (min searchLimit ((w.startAt start).length + 1))).map
        (projectPlace (w.startAt start)) := by
  unfold projectPlaces
  rw [Path.ancestors_eq_map, ← List.map_take, List.take_range, List.map_map]
  rfl

theorem searchProjectFile_eq (hs : ∀ t ∈ start, '\x00' ∉ t) :
    w.searchProjectFile start = w.files.search (w.projectPlaces start) := by
  have hnul : (start.getD []).contains '\x00' = false := by
    rw [List.contains_eq_mem]
    refine decide_eq_false ?_
    cases start with
    | none => exact List.not_mem_nil
    | some t => exact hs t rfl
  unfold searchProjectFile
  dsimp only
  rw [hnul]
  rfl

/-- How the search from a start ends. -/
theorem searchProjectFile_endsIn (hw : w.IsRegular) (hs : ∀ t ∈ start, '\x00' ∉ t) :
    w.files.EndsIn (projectPlace (w.startAt start)) searchLimit (w.searchProjectFile start) := by
  have hlimit : min searchLimit ((w.startAt start).length + 1) ≤ searchLimit :=
    Nat.min_le_left _ _
  have hnames : ∀ i < min searchLimit ((w.startAt start).length + 1),
      ∀ m ∈ projectPlace (w.startAt start) i, Path.IsName m := by
    intro i hi m hm
    have hmem : projectPlace (w.startAt start) i ∈ w.projectPlaces start := by
      rw [projectPlaces_eq_map]
      exact List.mem_map_of_mem (List.mem_range.mpr hi)
    exact ((isPlain_of_mem_projectPlaces hw hs hmem).2 m hm).1
  have hends := w.files.search_endsIn (projectPlace (w.startAt start)) _ hnames
  rw [searchProjectFile_eq hs, projectPlaces_eq_map]
  -- the search stops at the root; where it would go on there is only the root again
  refine hends.extend hlimit fun hnothing => ?_
  exact (Path.forall_above_iff _ _ fun q =>
    w.files.isFile (q ++ [projectFileName]) = false ∧
      ¬ w.files.IsTooLong (q ++ [projectFileName])).mp hnothing

/-- **The nearest project file is found.** However a start is written, its steps have one normal
form, and nothing else about the start matters: another one with the same normal form has the same
outcome. Of the places in it and above, as many as are looked at, the search finds the first one
with a file, and nothing if there is none. Only a place that is too long, with no file before it,
ends the search without an answer. A file in the normal form itself hides all those above. -/
theorem search_of_normalizesTo (hw : w.IsRegular) (hs : ∀ t ∈ start, '\x00' ∉ t) :
    (∃ d, Path.NormalizesTo (w.stepsTo start) d) ∧
    ∀ d, Path.NormalizesTo (w.stepsTo start) d →
      let place := projectPlace d
      (w.files.IsBlocked place searchLimit →
        ∃ i < searchLimit, w.files.FailsAt place i ∧
          w.searchProjectFile start = .error ⟨.nameTooLong, (place i).text⟩) ∧
      (¬ w.files.IsBlocked place searchLimit →
        (∀ p, w.searchProjectFile start = .ok (some p) ↔
          ∃ i < searchLimit, w.files.isFile (place i) = true ∧
            (∀ j < i, w.files.isFile (place j) = false) ∧ p = place i) ∧
        (w.searchProjectFile start = .ok none ↔
          ∀ i < searchLimit, w.files.isFile (place i) = false)) ∧
      (w.files.isFile (d ++ [projectFileName]) = true →
        ¬ w.files.IsTooLong (d ++ [projectFileName]) →
        w.searchProjectFile start = .ok (some (d ++ [projectFileName]))) ∧
      ∀ start' : Option Text, (∀ t ∈ start', '\x00' ∉ t) →
        Path.NormalizesTo (w.stepsTo start') d →
        w.searchProjectFile start' = w.searchProjectFile start := by
  refine ⟨⟨_, (normalizesTo_stepsTo_iff hw start _).mpr rfl⟩, ?_⟩
  intro d hd
  have hstart := (normalizesTo_stepsTo_iff hw start d).mp hd
  have hends := searchProjectFile_endsIn hw hs
  rw [← hstart] at hends
  refine ⟨hends.of_isBlocked, ?_, ?_, ?_⟩
  · intro hfree
    exact ⟨hends.eq_some_iff hfree, hends.eq_none_iff hfree⟩
  · intro hfile hshort
    exact hends.eq_some_of_first (by decide) hfile hshort
  · intro start' hs' hd'
    have hstart' := (normalizesTo_stepsTo_iff hw start' d).mp hd'
    rw [searchProjectFile_eq hs', searchProjectFile_eq hs, projectPlaces, projectPlaces, ← hstart,
      ← hstart']

/-- A start with steps back, blank steps and a name that leads nowhere: on the way up there is a
directory with the name of project files, and a file above it. -/
theorem search_of_normalizesTo_src :
    let file : FileNode := .file []
    let w : World :=
      { files :=
          (({} : FileTree).put ["srv", projectFileName] .directory).put [projectFileName] file
        place := ["srv", "app"] }
    w.searchProjectFile (some "..//lib/./../src/") = .ok (some [projectFileName]) ∧
      w.searchProjectFile (some "/../srv/src") = .ok (some [projectFileName]) := by
  intro file w
  have hw : w.IsRegular := by
    refine ⟨?_, FileTree.isGrown_of_entries (by decide +kernel)⟩
    have hnames : ∀ n ∈ (["srv", "app"] : Path),
        (n ≠ [] ∧ n ≠ ['.'] ∧ n ≠ ['.', '.'] ∧ '/' ∉ n) ∧ '\x00' ∉ n := by decide
    exact hnames
  have hs : ∀ t ∈ some ("..//lib/./../src/" : Text), '\x00' ∉ t := by
    intro t ht
    cases ht
    decide
  have hs' : ∀ t ∈ some ("/../srv/src" : Text), '\x00' ∉ t := by
    intro t ht
    cases ht
    decide
  have hd := (normalizesTo_stepsTo_iff hw (some "..//lib/./../src/") ["srv", "src"]).mpr rfl
  have hd' := (normalizesTo_stepsTo_iff hw (some "/../srv/src") ["srv", "src"]).mpr rfl
  have hlengths : ∀ i < searchLimit,
      Text.byteLength (projectPlace ["srv", "src"] i).text ≤ FileTree.pathLimit ∧
        ∀ n ∈ projectPlace ["srv", "src"] i, Text.byteLength n ≤ FileTree.nameLimit := by
    decide +kernel
  have hfree : ¬ w.files.IsBlocked (projectPlace ["srv", "src"]) searchLimit := by
    intro hblocked
    obtain ⟨i, hi, hlong, _⟩ := hblocked
    exact FileTree.not_isTooLong_of_short (hlengths i hi).1 (hlengths i hi).2 hlong
  obtain ⟨_, hfound, _, hsame⟩ := (search_of_normalizesTo hw hs).2 _ hd
  have hsearch : w.searchProjectFile (some "..//lib/./../src/") = .ok (some [projectFileName]) := by
    refine ((hfound hfree).1 _).mpr ⟨2, by decide, ?_, ?_, rfl⟩
    · decide +kernel
    · decide +kernel
  exact ⟨hsearch, (hsame _ hs' hd').trans hsearch⟩

/-- There is no file anywhere. A search that starts at a name of 256 letters does not come to
nothing, but has no answer. -/
theorem search_of_long_name :
    let w : World := {}
    let start : Option Text := some ('/' :: List.replicate 256 'a')
    (∀ p, w.files.isFile p = false) ∧ w.searchProjectFile start ≠ .ok none := by
  intro w start
  refine ⟨?_, ?_⟩
  · intro p
    cases p with
    | nil => rfl
    | cons name rest => rfl
  · intro hsearch
    have hok : (w.searchProjectFile start).isOk = false := by decide +kernel
    rw [hsearch] at hok
    cases hok

end World

end LogSieve
