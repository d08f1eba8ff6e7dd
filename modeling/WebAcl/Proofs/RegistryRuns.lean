import WebAcl.Managed.Registry
import WebAcl.Proofs.Outcome
import Mathlib.Data.List.Nodup

namespace WebAcl.Registry

variable {r r' : Registry} {g : ManagedGroup}

theorem register_eq_ok_iff : r.register g = .ok r' ↔
    (∀ h ∈ r.groups, h.key ≠ g.key) ∧ (∀ h ∈ r.groups, h.slot ≠ g.slot) ∧
      r' = ⟨r.groups ++ [g]⟩ := by
  unfold register
  by_cases hkey : ∀ h ∈ r.groups, h.key ≠ g.key
  · have hany : r.groups.any (·.key == g.key) = false := by simpa using hkey
    rw [hany, if_neg Bool.false_ne_true]
    cases hfind : r.groups.find? (·.slot == g.slot) with
    | none =>
      have hslot : ∀ h ∈ r.groups, h.slot ≠ g.slot := by
        simpa using List.find?_eq_none.mp hfind
      simp only [Except.ok.injEq, @eq_comm _ r']
      exact ⟨fun h ↦ ⟨hkey, hslot, h⟩, fun h ↦ h.2.2⟩
    | some owner =>
      have howner : owner.slot = g.slot := by simpa using List.find?_some hfind
      have hslot : ¬ ∀ h ∈ r.groups, h.slot ≠ g.slot :=
        fun h ↦ h owner (List.mem_of_find?_eq_some hfind) howner
      simp [hslot]
  · have hany : r.groups.any (·.key == g.key) = true := by simpa using hkey
    rw [hany, if_pos rfl]
    simp [hkey]

def afterCall (r : Registry) (g : ManagedGroup) : Registry :=
  match r.register g with
  | .ok r' => r'
  | .error _ => r

def afterCalls (r : Registry) (gs : List ManagedGroup) : Registry :=
  gs.foldl afterCall r

theorem afterCalls_append (r : Registry) (gs hs : List ManagedGroup) :
    r.afterCalls (gs ++ hs) = (r.afterCalls gs).afterCalls hs :=
  List.foldl_append

/-- A call that is refused might as well not be made. -/
theorem afterCalls_refused {before after : List ManagedGroup} {conflict : Conflict}
    (h : (r.afterCalls before).register g = .error conflict) :
    r.afterCalls (before ++ g :: after) = r.afterCalls (before ++ after) := by
  have hcall : (r.afterCalls before).afterCall g = r.afterCalls before := by
    rw [afterCall, h]
  rw [afterCalls_append, afterCalls_append]
  change ((r.afterCalls before).afterCall g).afterCalls after = _
  rw [hcall]

structure Sound (r : Registry) : Prop where
  keys : (r.groups.map (·.key)).Nodup
  slots : (r.groups.map (·.slot)).Nodup

theorem sound_empty : ({} : Registry).Sound :=
  ⟨List.nodup_nil, List.nodup_nil⟩

theorem Sound.afterCall (h : r.Sound) (g : ManagedGroup) : (r.afterCall g).Sound := by
  unfold Registry.afterCall
  cases hr : r.register g with
  | error c => exact h
  | ok r' =>
    obtain ⟨hkey, hslot, rfl⟩ := register_eq_ok_iff.mp hr
    constructor
    · rw [List.map_append]
      refine List.nodup_append'.mpr ⟨h.keys, List.nodup_singleton _, ?_⟩
      simpa using fun h hh ↦ hkey h hh
    · rw [List.map_append]
      refine List.nodup_append'.mpr ⟨h.slots, List.nodup_singleton _, ?_⟩
      simpa using fun h hh ↦ hslot h hh

theorem Sound.afterCalls (h : r.Sound) (gs : List ManagedGroup) : (r.afterCalls gs).Sound := by
  induction gs generalizing r with
  | nil => exact h
  | cons g gs ih => exact ih (h.afterCall g)

/-- The groups known from the start are registered like any others. -/
theorem builtIn_eq_afterCalls : builtIn = ({} : Registry).afterCalls ManagedGroup.builtIn := by
  decide

end WebAcl.Registry
