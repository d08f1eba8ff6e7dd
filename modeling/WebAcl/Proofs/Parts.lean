import WebAcl.Proofs.FrozenCopies

namespace WebAcl.Value

def inner : Value → List Value
  | list xs | tuple xs | set xs => xs
  | map es | frozenMap es => es.map (·.1) ++ es.map (·.2)
  | _ => []

/-- A value is some part of another one, at whatever depth, or that one itself. -/
inductive Within (part : Value) : Value → Prop
  | self : Within part part
  | inner {v w : Value} (hw : w ∈ v.inner) (h : Within part w) : Within part v

variable {v w part : Value}

theorem Within.trans (h : Within part w) (h' : Within w v) : Within part v := by
  induction h' with
  | self => exact h
  | inner hmem _ ih => exact .inner hmem ih

theorem Within.eq_of_isAtom (h : Within part v) (hv : v.IsAtom) : part = v := by
  cases h with
  | self => rfl
  | inner hmem =>
    cases v with
    | list | tuple | set | map | frozenMap | endless => exact hv.elim
    | _ => simp [Value.inner] at hmem

/-- Data as it comes from a text, on its first level: what cannot be frozen is a set of atoms, and
the keys of maps are atoms. -/
def IsPlainHere : Value → Prop
  | set xs => ∀ x ∈ xs, x.IsAtom
  | map es => ∀ e ∈ es, e.1.IsAtom
  | frozenMap _ => False
  | _ => True

def IsLoaded (v : Value) : Prop :=
  ∀ part, Within part v → part.IsPlainHere

theorem isLoaded_iff : v.IsLoaded ↔ v.IsPlainHere ∧ ∀ w ∈ v.inner, w.IsLoaded := by
  constructor
  · intro h
    exact ⟨h v .self, fun w hw part hpart ↦ h part (.inner hw hpart)⟩
  · rintro ⟨hhere, hinner⟩ part hpart
    cases hpart with
    | self => exact hhere
    | inner hw hpart => exact hinner _ hw part hpart

theorem IsLoaded.within (h : v.IsLoaded) (hw : Within w v) : w.IsLoaded :=
  fun part hpart ↦ h part (hpart.trans hw)

theorem IsAtom.isLoaded (h : v.IsAtom) : v.IsLoaded := by
  intro part hpart
  obtain rfl := hpart.eq_of_isAtom h
  cases part with
  | list | tuple | set | map | frozenMap | endless => exact h.elim
  | _ => trivial

theorem inner_freeze (h : v.IsPlainHere) : v.freeze.inner = v.inner.map freeze := by
  cases v with
  | list xs | tuple xs => rw [freeze, inner, inner, freezeItems_eq_map]
  | set xs =>
    have hitems : xs.map freeze = xs.map id := List.map_congr_left fun x hx ↦ (h x hx).freeze_eq
    exact (hitems.trans (List.map_id xs)).symm
  | map es =>
    have hkeys : es.map (·.1) = es.map fun e ↦ e.1.freeze :=
      List.map_congr_left fun e he ↦ (h e he).freeze_eq.symm
    simp only [freeze, inner, freezeEntries_eq_map, List.map_append, List.map_map,
      Function.comp_def]
    rw [hkeys]
  | frozenMap es => exact h.elim
  | _ => rfl

/-- The parts of a frozen copy are frozen copies of the parts of the data. -/
theorem within_freeze_iff (h : v.IsLoaded) :
    Within part v.freeze ↔ ∃ w, Within w v ∧ w.freeze = part := by
  constructor
  · intro hpart
    generalize hcopy : v.freeze = copy at hpart
    induction hpart generalizing v with
    | self => exact ⟨v, .self, hcopy⟩
    | inner hmem _ ih =>
      obtain ⟨hhere, hinner⟩ := isLoaded_iff.mp h
      rw [← hcopy, inner_freeze hhere] at hmem
      obtain ⟨u, hu, heq⟩ := List.mem_map.mp hmem
      obtain ⟨w, hw, hpart⟩ := ih (hinner u hu) heq
      exact ⟨w, .inner hu hw, hpart⟩
  · rintro ⟨w, hw, rfl⟩
    induction hw with
    | self => exact .self
    | inner hmem _ ih =>
      obtain ⟨hhere, hinner⟩ := isLoaded_iff.mp h
      refine .inner ?_ (ih (hinner _ hmem))
      rw [inner_freeze hhere]
      exact List.mem_map_of_mem hmem

theorem firstSetOfItems?_eq_none_iff {xs : List Value} :
    firstSetOfItems? xs = none ↔ ∀ x ∈ xs, x.firstSet? = none := by
  induction xs with
  | nil => simp [firstSetOfItems?]
  | cons x xs ih => rw [firstSetOfItems?, Option.or_eq_none_iff, ih, List.forall_mem_cons]

theorem firstSetOfEntries?_eq_none_iff {es : List (Value × Value)} :
    firstSetOfEntries? es = none ↔ ∀ e ∈ es, e.2.firstSet? = none := by
  induction es with
  | nil => simp [firstSetOfEntries?]
  | cons e es ih => rw [firstSetOfEntries?, Option.or_eq_none_iff, ih, List.forall_mem_cons]

theorem IsAtom.firstSet? (h : v.IsAtom) : v.firstSet? = none := by
  cases v with
  | list | tuple | set | map | frozenMap | endless => exact h.elim
  | _ => rfl

theorem firstSet?_of_mem_inner (h : v.IsPlainHere) (hv : v.firstSet? = none) (hw : w ∈ v.inner) :
    w.firstSet? = none := by
  cases v with
  | list xs | tuple xs => exact firstSetOfItems?_eq_none_iff.mp hv w hw
  | set xs => exact (h w hw).firstSet?
  | map es =>
    obtain hkey | hvalue := List.mem_append.mp hw
    · obtain ⟨e, he, rfl⟩ := List.mem_map.mp hkey
      exact (h e he).firstSet?
    · obtain ⟨e, he, rfl⟩ := List.mem_map.mp hvalue
      exact firstSetOfEntries?_eq_none_iff.mp hv e he
  | frozenMap => exact h.elim
  | _ => simp [inner] at hw

theorem not_within_of_firstSet? (h : v.IsLoaded) (hv : v.firstSet? = none) (xs : List Value) :
    ¬ Within (set xs) v := by
  intro hset
  induction hset with
  | self => simp [firstSet?] at hv
  | inner hw _ ih =>
    obtain ⟨hhere, hinner⟩ := isLoaded_iff.mp h
    exact ih (hinner _ hw) (firstSet?_of_mem_inner hhere hv hw)

mutual

theorem within_of_firstSet? : ∀ {v s : Value}, v.firstSet? = some s →
    Within s v ∧ ∃ xs, s = set xs := by
  intro v s h
  cases v with
  | set xs =>
    obtain rfl := Option.some.inj h
    exact ⟨.self, xs, rfl⟩
  | list xs | tuple xs =>
    obtain ⟨x, hx, hs, hset⟩ := exists_of_firstSetOfItems? h
    exact ⟨.inner hx hs, hset⟩
  | map es | frozenMap es =>
    obtain ⟨e, he, hs, hset⟩ := exists_of_firstSetOfEntries? h
    exact ⟨.inner (List.mem_append_right _ (List.mem_map_of_mem he)) hs, hset⟩
  | _ => simp [firstSet?] at h

theorem exists_of_firstSetOfItems? : ∀ {xs : List Value} {s : Value},
    firstSetOfItems? xs = some s → ∃ x ∈ xs, Within s x ∧ ∃ ys, s = set ys
  | x :: xs, s, h => by
    rw [firstSetOfItems?, Option.or_eq_some_iff] at h
    obtain h | ⟨-, h⟩ := h
    · exact ⟨x, List.mem_cons_self, within_of_firstSet? h⟩
    · obtain ⟨y, hy, h⟩ := exists_of_firstSetOfItems? h
      exact ⟨y, List.mem_cons_of_mem _ hy, h⟩

theorem exists_of_firstSetOfEntries? : ∀ {es : List (Value × Value)} {s : Value},
    firstSetOfEntries? es = some s → ∃ e ∈ es, Within s e.2 ∧ ∃ ys, s = set ys
  | (k, v) :: es, s, h => by
    rw [firstSetOfEntries?, Option.or_eq_some_iff] at h
    obtain h | ⟨-, h⟩ := h
    · exact ⟨(k, v), List.mem_cons_self, within_of_firstSet? h⟩
    · obtain ⟨e, he, h⟩ := exists_of_firstSetOfEntries? h
      exact ⟨e, List.mem_cons_of_mem _ he, h⟩

end

theorem firstSet?_eq_none_iff (h : v.IsLoaded) :
    v.firstSet? = none ↔ ∀ xs, ¬ Within (set xs) v := by
  constructor
  · exact not_within_of_firstSet? h
  · intro hnone
    cases hs : v.firstSet? with
    | none => rfl
    | some s =>
      obtain ⟨hwithin, xs, rfl⟩ := within_of_firstSet? hs
      exact absurd hwithin (hnone xs)

end WebAcl.Value
