import WebAcl.Value.Extent
import WebAcl.Value.Frozen
import Mathlib.Logic.Basic

namespace WebAcl.Value

def IsAtom : Value → Prop
  | list _ | tuple _ | set _ | map _ | frozenMap _ | endless => False
  | _ => True

theorem IsAtom.freeze_eq {v : Value} (h : v.IsAtom) : v.freeze = v := by
  cases v with
  | list | tuple | set | map | frozenMap | endless => exact h.elim
  | _ => rfl

mutual

def IsLoose : Value → Prop
  | list xs => ItemsLoose xs
  | map es => EntriesLoose es
  | tuple _ | frozenMap _ => False
  | _ => True

def ItemsLoose : List Value → Prop
  | [] => True
  | x :: xs => IsLoose x ∧ ItemsLoose xs

def EntriesLoose : List (Value × Value) → Prop
  | [] => True
  | (_, v) :: es => IsLoose v ∧ EntriesLoose es

end

mutual

theorem thaw_freeze_of_isLoose : ∀ {v : Value}, v.IsLoose → v.freeze.thaw = v := by
  intro v h
  cases v with
  | list xs => rw [freeze, thaw, thawItems_freezeItems_of_loose h]
  | map es => rw [freeze, thaw, thawEntries_freezeEntries_of_loose h]
  | tuple | frozenMap => exact h.elim
  | _ => rfl

theorem thawItems_freezeItems_of_loose : ∀ {xs : List Value}, ItemsLoose xs →
    thawItems (freezeItems xs) = xs
  | [], _ => rfl
  | x :: xs, ⟨hx, hxs⟩ => by
    rw [freezeItems, thawItems, thaw_freeze_of_isLoose hx, thawItems_freezeItems_of_loose hxs]

theorem thawEntries_freezeEntries_of_loose : ∀ {es : List (Value × Value)}, EntriesLoose es →
    thawEntries (freezeEntries es) = es
  | [], _ => rfl
  | (k, v) :: es, ⟨hv, hes⟩ => by
    rw [freezeEntries, thawEntries, thaw_freeze_of_isLoose hv,
      thawEntries_freezeEntries_of_loose hes]

end

mutual

theorem freeze_freeze : ∀ v : Value, v.freeze.freeze = v.freeze := by
  intro v
  cases v with
  | list xs | tuple xs => rw [freeze, freeze, freezeItems_freezeItems xs]
  | map es | frozenMap es => rw [freeze, freeze, freezeEntries_freezeEntries es]
  | _ => rfl

theorem freezeItems_freezeItems : ∀ xs : List Value,
    freezeItems (freezeItems xs) = freezeItems xs
  | [] => rfl
  | x :: xs => by rw [freezeItems, freezeItems, freeze_freeze x, freezeItems_freezeItems xs]

theorem freezeEntries_freezeEntries : ∀ es : List (Value × Value),
    freezeEntries (freezeEntries es) = freezeEntries es
  | [] => rfl
  | (k, v) :: es => by
    rw [freezeEntries, freezeEntries, freeze_freeze v, freezeEntries_freezeEntries es]

end

mutual

theorem freeze_thaw : ∀ v : Value, v.thaw.freeze = v.freeze := by
  intro v
  cases v with
  | tuple xs => rw [thaw, freeze, freeze, freezeItems_thawItems xs]
  | map es | frozenMap es => rw [thaw, freeze, freeze, freezeEntries_thawEntries es]
  | _ => rfl

theorem freezeItems_thawItems : ∀ xs : List Value, freezeItems (thawItems xs) = freezeItems xs
  | [] => rfl
  | x :: xs => by
    rw [thawItems, freezeItems, freezeItems, freeze_thaw x, freezeItems_thawItems xs]

theorem freezeEntries_thawEntries : ∀ es : List (Value × Value),
    freezeEntries (thawEntries es) = freezeEntries es
  | [] => rfl
  | (k, v) :: es => by
    rw [thawEntries, freezeEntries, freezeEntries, freeze_thaw v, freezeEntries_thawEntries es]

end

theorem freezeItems_eq_map (xs : List Value) : freezeItems xs = xs.map freeze := by
  induction xs with
  | nil => rfl
  | cons x xs ih => rw [freezeItems, ih, List.map_cons]

theorem freezeEntries_eq_map (es : List (Value × Value)) :
    freezeEntries es = es.map fun e ↦ (e.1, e.2.freeze) := by
  induction es with
  | nil => rfl
  | cons e es ih => rw [freezeEntries, ih, List.map_cons]

mutual

def firstSet? : Value → Option Value
  | set xs => some (set xs)
  | list xs | tuple xs => firstSetOfItems? xs
  | map es | frozenMap es => firstSetOfEntries? es
  | _ => none

def firstSetOfItems? : List Value → Option Value
  | [] => none
  | x :: xs => (firstSet? x).or (firstSetOfItems? xs)

def firstSetOfEntries? : List (Value × Value) → Option Value
  | [] => none
  | (_, v) :: es => (firstSet? v).or (firstSetOfEntries? es)

end

mutual

/-- Nothing but sets can be changed in a frozen copy. -/
theorem changeablePart?_freeze : ∀ v : Value, v.freeze.changeablePart? = v.firstSet? := by
  intro v
  cases v with
  | list xs | tuple xs => rw [freeze, changeablePart?, firstSet?, changeableItem?_freezeItems xs]
  | map es | frozenMap es =>
    rw [freeze, changeablePart?, firstSet?, changeableField?_freezeEntries es]
  | _ => rfl

theorem changeableItem?_freezeItems : ∀ xs : List Value,
    changeableItem? (freezeItems xs) = firstSetOfItems? xs
  | [] => rfl
  | x :: xs => by
    rw [freezeItems, changeableItem?, firstSetOfItems?, changeablePart?_freeze x,
      changeableItem?_freezeItems xs]

theorem changeableField?_freezeEntries : ∀ es : List (Value × Value),
    changeableField? (freezeEntries es) = firstSetOfEntries? es
  | [] => rfl
  | (k, v) :: es => by
    rw [freezeEntries, changeableField?, firstSetOfEntries?, changeablePart?_freeze v,
      changeableField?_freezeEntries es]

end

end WebAcl.Value
