import WebAcl.Managed.Group

namespace WebAcl

structure Registry where
  groups : List ManagedGroup := []
  deriving DecidableEq, Repr

inductive Registry.Conflict where
  | key (key : String)
  | slot (slot : Int) (owner : String)
  deriving DecidableEq, Repr

def Registry.Conflict.message : Conflict → String
  | key k => s!"Managed group already registered: {k}"
  | slot n owner => s!"Slot {n} already used by managed group {owner}"

namespace Registry

/-- Adds a group. A taken key is noticed before a taken slot. -/
def register (r : Registry) (g : ManagedGroup) : Except Conflict Registry :=
  if r.groups.any (·.key == g.key) then .error (.key g.key)
  else match r.groups.find? (·.slot == g.slot) with
    | some owner => .error (.slot g.slot owner.key)
    | none => .ok ⟨r.groups ++ [g]⟩

def group? (r : Registry) (key : String) : Option ManagedGroup :=
  r.groups.find? (·.key == ManagedGroup.normalizeKey key)

def inOrder (r : Registry) : List ManagedGroup :=
  r.groups.mergeSort fun g h ↦ g.slot ≤ h.slot

def mandatory (r : Registry) : List ManagedGroup :=
  r.inOrder.filter (·.mandatory)

def keys (r : Registry) : List String :=
  r.inOrder.map (·.key)

def builtIn : Registry :=
  ⟨ManagedGroup.builtIn⟩

end Registry

end WebAcl
