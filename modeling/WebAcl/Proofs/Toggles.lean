import WebAcl.Feature.ManagedGroups
import WebAcl.Proofs.Outcome
import Mathlib.Data.List.Basic

namespace WebAcl.ManagedGroups

open Config

namespace Selection

theorem lookup_cons (a l : String) (b : List String) (s : Selection) :
    List.lookup l ((a, b) :: s) = if l = a then some b else s.lookup l := by
  by_cases h : l = a
  · simp [h]
  · rw [List.lookup_cons, beq_false_of_ne h, if_neg h]

theorem lookup_switchOff (s : Selection) (key l : String) :
    (s.switchOff key).lookup l = if l = key then none else s.lookup l := by
  unfold switchOff
  induction s with
  | nil => simp
  | cons e s ih =>
    obtain ⟨a, b⟩ := e
    rw [List.filter_cons, lookup_cons]
    by_cases ha : a = key
    · simp only [ha, bne_self_eq_false, Bool.false_eq_true, if_false, ih]
      split <;> rfl
    · simp only [bne_iff_ne, ne_eq, ha, not_false_eq_true, if_true, lookup_cons, ih]
      grind

theorem lookup_adjust (s : Selection) (key l : String) (f : List String → List String) :
    List.lookup l (s.map fun e ↦ if e.1 == key then (e.1, f e.2) else e) =
      if l = key then (s.lookup l).map f else s.lookup l := by
  induction s with
  | nil => simp
  | cons e s ih =>
    obtain ⟨a, b⟩ := e
    rw [List.map_cons, lookup_cons]
    by_cases ha : a = key
    · simp only [ha, beq_self_eq_true, if_true, lookup_cons, ih]
      split <;> rfl
    · simp only [ha, beq_iff_eq, if_false, lookup_cons]
      grind

theorem any_key_eq (s : Selection) (key : String) :
    s.any (·.1 == key) = (s.lookup key).isSome := by
  rw [Bool.eq_iff_iff, List.lookup_isSome_iff, List.any_eq_true]
  simp only [beq_iff_eq, @eq_comm _ key]

theorem lookup_switchOn (s : Selection) (key l : String) (excluded : List String) :
    (s.switchOn key excluded).lookup l =
      if l = key then some ((s.lookup key).getD [] ++ excluded) else s.lookup l := by
  unfold switchOn
  rw [any_key_eq]
  cases hk : s.lookup key with
  | some b =>
    rw [Option.isSome_some, if_pos rfl, lookup_adjust s key l (· ++ excluded)]
    split
    · simp [*]
    · rfl
  | none =>
    rw [Option.isSome_none, if_neg Bool.false_ne_true, List.lookup_append, lookup_cons]
    split
    · simp [*]
    · simp

end Selection

/-- What a toggle makes of the exclusions of its group; a group without exclusions is off. -/
def toggled (state : Option (List String)) (t : GroupToggle) : Option (List String) :=
  if t.enabled then some (state.getD [] ++ t.excludedRules) else none

def togglesOf (toggles : List GroupToggle) (key : String) : List GroupToggle :=
  toggles.filter fun t ↦ ManagedGroup.normalizeKey t.name == key

variable {registry : Registry} {s s' : Selection} {i : Nat}

theorem key_of_group? {name : String} {g : ManagedGroup} (h : registry.group? name = some g) :
    g.key = ManagedGroup.normalizeKey name := by
  simpa using List.find?_some h

theorem applyToggle_eq_ok_iff {t : GroupToggle} :
    applyToggle registry s i t = .ok s' ↔ ∃ g, registry.group? t.name = some g ∧
      (t.enabled = true ∨ g.mandatory = false) ∧
      (if t.enabled then s.switchOn g.key t.excludedRules else s.switchOff g.key) = s' := by
  unfold applyToggle
  cases registry.group? t.name with
  | none => simp
  | some g => cases t.enabled <;> cases hm : g.mandatory <;> simp [hm]

theorem lookup_applyToggle {t : GroupToggle} (h : applyToggle registry s i t = .ok s')
    (key : String) : s'.lookup key =
      if ManagedGroup.normalizeKey t.name = key then toggled (s.lookup key) t
      else s.lookup key := by
  obtain ⟨g, hg, -, rfl⟩ := applyToggle_eq_ok_iff.mp h
  rw [← key_of_group? hg]
  cases ht : t.enabled with
  | true =>
    by_cases hk : key = g.key
    · simp [Selection.lookup_switchOn, toggled, ht, hk]
    · simp [Selection.lookup_switchOn, hk, Ne.symm hk]
  | false =>
    by_cases hk : key = g.key
    · simp [Selection.lookup_switchOff, toggled, ht, hk]
    · simp [Selection.lookup_switchOff, hk, Ne.symm hk]

/-- After all toggles, a group is where its own toggles have brought it. -/
theorem lookup_applyToggles {ts : List GroupToggle}
    (h : applyToggles registry s i ts = .ok s') (key : String) :
    s'.lookup key = (togglesOf ts key).foldl toggled (s.lookup key) := by
  induction ts generalizing s i with
  | nil => simp_all [applyToggles, togglesOf]
  | cons t ts ih =>
    obtain ⟨u, hu, h⟩ := Outcome.bind_eq_ok_iff.mp h
    rw [ih h, lookup_applyToggle hu]
    unfold togglesOf
    by_cases hk : ManagedGroup.normalizeKey t.name = key <;> simp [hk]

theorem exists_applyToggles_iff {ts : List GroupToggle} :
    (∃ s', applyToggles registry s i ts = .ok s') ↔ ∀ t ∈ ts, ∃ g,
      registry.group? t.name = some g ∧ (t.enabled = true ∨ g.mandatory = false) := by
  induction ts generalizing s i with
  | nil => simp [applyToggles]
  | cons t ts ih =>
    rw [List.forall_mem_cons]
    constructor
    · rintro ⟨s', h⟩
      obtain ⟨u, hu, h⟩ := Outcome.bind_eq_ok_iff.mp h
      obtain ⟨g, hg, ht, -⟩ := applyToggle_eq_ok_iff.mp hu
      exact ⟨⟨g, hg, ht⟩, ih.mp ⟨s', h⟩⟩
    · rintro ⟨⟨g, hg, ht⟩, hts⟩
      obtain ⟨s', h⟩ := ih.mpr hts
      exact ⟨s', Outcome.bind_eq_ok_iff.mpr ⟨_, applyToggle_eq_ok_iff.mpr ⟨g, hg, ht, rfl⟩, h⟩⟩

def initially (registry : Registry) : Selection :=
  registry.mandatory.map fun g ↦ (g.key, [])

theorem select_eq_ok_iff {toggles : List GroupToggle} {excludedCommon : List String} :
    select registry toggles excludedCommon = .ok s ↔ ∃ u,
      applyToggles registry (initially registry) 0 toggles = .ok u ∧
        (u.map fun e ↦ if e.1 == commonKey then (e.1, excludedCommon ++ e.2) else e) = s := by
  rw [select, Outcome.bind_eq_ok_iff]
  simp [initially]

theorem exists_select_iff (registry : Registry) (toggles : List GroupToggle)
    (excludedCommon : List String) :
    (∃ s, select registry toggles excludedCommon = .ok s) ↔ ∀ t ∈ toggles, ∃ g,
      registry.group? t.name = some g ∧ (t.enabled = true ∨ g.mandatory = false) := by
  rw [← exists_applyToggles_iff (s := initially registry) (i := 0)]
  simp only [select_eq_ok_iff]
  exact ⟨fun ⟨_, u, hu, _⟩ ↦ ⟨u, hu⟩, fun ⟨u, hu⟩ ↦ ⟨_, u, hu, rfl⟩⟩

/-- The exclusions of a group depend on the toggles that name it and on nothing else. -/
theorem lookup_select {toggles : List GroupToggle} {excludedCommon : List String}
    (h : select registry toggles excludedCommon = .ok s) (key : String) :
    s.lookup key = ((togglesOf toggles key).foldl toggled ((initially registry).lookup key)).map
      fun excluded ↦ if key = commonKey then excludedCommon ++ excluded else excluded := by
  obtain ⟨u, hu, rfl⟩ := select_eq_ok_iff.mp h
  rw [Selection.lookup_adjust, ← lookup_applyToggles hu]
  split <;> simp

theorem isSome_foldl_toggled (ts : List GroupToggle) (state : Option (List String)) :
    (ts.foldl toggled state).isSome = (ts.getLast?.map (·.enabled)).getD state.isSome := by
  induction ts generalizing state with
  | nil => rfl
  | cons t ts ih =>
    rw [List.foldl_cons, ih, List.getLast?_cons]
    cases ts.getLast? with
    | none => cases ht : t.enabled <;> simp [toggled, ht]
    | some u => rfl

theorem isSome_lookup_select {toggles : List GroupToggle} {excludedCommon : List String}
    (h : select registry toggles excludedCommon = .ok s) (key : String) :
    (s.lookup key).isSome = ((togglesOf toggles key).getLast?.map (·.enabled)).getD
      ((initially registry).lookup key).isSome := by
  rw [lookup_select h, Option.isSome_map, isSome_foldl_toggled]

end WebAcl.ManagedGroups
