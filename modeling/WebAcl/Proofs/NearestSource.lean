import WebAcl.Config.Source
import Mathlib.Data.List.Infix

namespace WebAcl

def FileTree.hasFile (t : FileTree) (l : Location) : Bool :=
  (t.contents? l).isSome

theorem FileTree.has_of_hasFile {t : FileTree} {l : Location} (h : t.hasFile l = true) :
    t.has l = true := by
  rw [hasFile] at h
  rw [has, h, Bool.true_or]

theorem FileTree.hasFile_of_not_has {t : FileTree} {l : Location} (h : t.has l = false) :
    t.hasFile l = false :=
  Bool.eq_false_iff.mpr fun hfile ↦ Bool.eq_false_iff.mp h (has_of_hasFile hfile)

namespace Config

/-- The result of a search of directories, the nearest first: a place that holds something, where no
preferred name in the same directory and no name in a nearer one does, or none if no place does. -/
inductive IsNearest (holds : Location → Bool) (directories : List Location) :
    Option Location → Prop
  | found {nearer farther : List Location} {d : Location} {preferred others : List String}
    {name : String} (directories_eq : directories = nearer ++ d :: farther)
    (names_eq : sourceNames = preferred ++ name :: others) (holds_it : holds (name :: d) = true)
    (none_nearer : ∀ e ∈ nearer, ∀ n ∈ sourceNames, holds (n :: e) = false)
    (none_preferred : ∀ n ∈ preferred, holds (n :: d) = false) :
    IsNearest holds directories (some (name :: d))
  | missing (none_holds : ∀ d ∈ directories, ∀ n ∈ sourceNames, holds (n :: d) = false) :
    IsNearest holds directories none

def sourcesIn (d : Location) : List Location :=
  sourceNames.map (· :: d)

theorem sourcesIn_eq {preferred others : List String} {name : String}
    (h : sourceNames = preferred ++ name :: others) (d : Location) :
    sourcesIn d = preferred.map (· :: d) ++ (name :: d) :: others.map (· :: d) := by
  rw [sourcesIn, h, List.map_append, List.map_cons]

namespace IsNearest

variable {holds : Location → Bool} {directories : List Location} {found found' : Option Location}

theorem eq_find (h : IsNearest holds directories found) :
    found = (directories.flatMap sourcesIn).find? holds := by
  cases h with
  | missing none_holds =>
    refine (List.find?_eq_none.mpr fun l hl ↦ ?_).symm
    obtain ⟨d, hd, hl⟩ := List.mem_flatMap.mp hl
    obtain ⟨n, hn, rfl⟩ := List.mem_map.mp hl
    exact Bool.eq_false_iff.mp (none_holds d hd n hn)
  | @found nearer farther d preferred others name directories_eq names_eq holds_it none_nearer
      none_preferred =>
    have hplaces : directories.flatMap sourcesIn =
        (nearer.flatMap sourcesIn ++ preferred.map (· :: d)) ++
          (name :: d) :: (others.map (· :: d) ++ farther.flatMap sourcesIn) := by
      rw [directories_eq, List.flatMap_append, List.flatMap_cons, sourcesIn_eq names_eq d]
      simp only [List.append_assoc, List.cons_append]
    rw [hplaces, eq_comm, List.find?_eq_some_iff_append]
    refine ⟨holds_it, _, _, rfl, fun l hl ↦ ?_⟩
    rw [Bool.not_eq_true']
    obtain hl | hl := List.mem_append.mp hl
    · obtain ⟨e, he, hl⟩ := List.mem_flatMap.mp hl
      obtain ⟨n, hn, rfl⟩ := List.mem_map.mp hl
      exact none_nearer e he n hn
    · obtain ⟨n, hn, rfl⟩ := List.mem_map.mp hl
      exact none_preferred n hn

theorem unique (h : IsNearest holds directories found) (h' : IsNearest holds directories found') :
    found = found' :=
  h.eq_find.trans h'.eq_find.symm

theorem cons {d : Location} (hnone : ∀ n ∈ sourceNames, holds (n :: d) = false)
    (h : IsNearest holds directories found) : IsNearest holds (d :: directories) found := by
  cases h with
  | missing none_holds => exact .missing (List.forall_mem_cons.mpr ⟨hnone, none_holds⟩)
  | @found nearer farther e preferred others name directories_eq names_eq holds_it none_nearer
      none_preferred =>
    have heq : d :: directories = (d :: nearer) ++ e :: farther := by
      rw [directories_eq, List.cons_append]
    exact .found heq names_eq holds_it (List.forall_mem_cons.mpr ⟨hnone, none_nearer⟩)
      none_preferred

end IsNearest

theorem tails_cons_dropLast (name : String) (outer : Location) :
    (name :: outer).tails.dropLast = (name :: outer) :: outer.tails.dropLast := by
  cases outer <;> simp

/-- The directories from a place outwards are those that are searched, and the root. -/
theorem tails_eq (l : Location) : l.tails = l.tails.dropLast ++ [[]] := by
  induction l with
  | nil => rfl
  | cons name outer ih =>
    rw [tails_cons_dropLast, List.cons_append, ← ih]
    simp

/-- Going outwards, each directory but the root is looked into, until something is found. -/
theorem isNearest_findFrom? (tree : FileTree) (l : Location) :
    IsNearest tree.has l.tails.dropLast (findFrom? tree l) := by
  induction l with
  | nil => exact .missing (by simp)
  | cons name outer ih =>
    rw [tails_cons_dropLast, findFrom?, List.find?_map]
    cases hfound : sourceNames.find? (tree.has ∘ (· :: name :: outer)) with
    | some n =>
      obtain ⟨hholds, preferred, others, hnames, hpreferred⟩ :=
        List.find?_eq_some_iff_append.mp hfound
      refine .found (List.nil_append _).symm hnames hholds (by simp) fun p hp ↦ ?_
      exact (Bool.not_eq_true' _).mp (hpreferred p hp)
    | none =>
      refine .cons (fun n hn ↦ ?_) ih
      exact Bool.eq_false_iff.mpr (List.find?_eq_none.mp hfound n hn)

/-- The search finds the nearest thing that has the name of a configuration, except in the root.
This is the nearest configuration, the root included, if it is a file, or if there is nothing and no
configuration in the root either. -/
theorem find?_nearest (host : Host) (start : Path) :
    let directories := (host.resolve start).tails
    (∀ found, IsNearest host.tree.has directories.dropLast found ↔ found = find? host start) ∧
    (IsNearest host.tree.hasFile directories (find? host start) ↔
      (∀ l, find? host start = some l → host.tree.hasFile l = true) ∧
      (find? host start = none → ∀ n ∈ sourceNames, host.tree.hasFile [n] = false)) := by
  intro directories
  have hnearest : IsNearest host.tree.has directories.dropLast (find? host start) :=
    isNearest_findFrom? host.tree (host.resolve start)
  refine ⟨fun found ↦ ⟨fun h ↦ h.unique hnearest, fun h ↦ h ▸ hnearest⟩, fun h ↦ ?_, ?_⟩
  · generalize find? host start = found at h
    cases h with
    | missing none_holds =>
      refine ⟨nofun, fun _ ↦ none_holds [] ?_⟩
      rw [show directories = _ from tails_eq (host.resolve start)]
      simp
    | found directories_eq names_eq holds_it none_nearer none_preferred =>
      refine ⟨fun l hl ↦ ?_, nofun⟩
      obtain rfl := Option.some.inj hl
      exact holds_it
  · rintro ⟨hfile, hroot⟩
    rw [show directories = _ from tails_eq (host.resolve start)]
    generalize find? host start = found at hnearest hfile hroot
    cases hnearest with
    | missing none_holds =>
      refine .missing (List.forall_mem_append.mpr ⟨fun d hd n hn ↦ ?_, by simpa using hroot rfl⟩)
      exact FileTree.hasFile_of_not_has (none_holds d hd n hn)
    | @found nearer farther d _ _ name directories_eq names_eq _ none_nearer none_preferred =>
      have heq : (host.resolve start).tails.dropLast ++ [[]] =
          nearer ++ d :: (farther ++ [[]]) := by
        rw [directories_eq, List.append_assoc, List.cons_append]
      refine .found heq names_eq (hfile _ rfl) (fun e he n hn ↦ ?_) fun n hn ↦ ?_
      · exact FileTree.hasFile_of_not_has (none_nearer e he n hn)
      · exact FileTree.hasFile_of_not_has (none_preferred n hn)

def rootHost : Host where
  tree := { files := [([".wafpolicy.yml"], "name: acme".toUTF8.toList)] }

def folderHost : Host where
  tree := {
    files := [([".wafpolicy.yaml", "work"], "name: acme".toUTF8.toList)]
    directories := [[".wafpolicy.yml", "work"]] }
  directory := ["work"]

/-- The file in the root is missed, and the directory is taken for a file. -/
theorem find?_misleads :
    find? rootHost {} = none ∧ rootHost.tree.hasFile [".wafpolicy.yml"] = true ∧
    ¬ IsNearest rootHost.tree.hasFile (rootHost.resolve {}).tails (find? rootHost {}) ∧
    find? folderHost {} = some [".wafpolicy.yml", "work"] ∧
    folderHost.tree.hasFile [".wafpolicy.yaml", "work"] = true ∧
    ¬ IsNearest folderHost.tree.hasFile (folderHost.resolve {}).tails (find? folderHost {}) :=
  ⟨rfl, rfl, fun h ↦ absurd h.eq_find (by decide), rfl, rfl,
    fun h ↦ absurd h.eq_find (by decide)⟩

end Config

end WebAcl
