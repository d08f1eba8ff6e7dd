import WebAcl.Problem
import WebAcl.Regex.Node
import WebAcl.Value.Extent
import WebAcl.Value.Slot

namespace WebAcl

/-- What depends on the interpreter and on where it is called: how deep recursive functions can go,
the order in which sets are listed and the release of the engine for patterns. To compare, hash or
show a copy and to write it as JSON takes no more of the stack than to make and thaw it, so these
have no room of their own. -/
class Machine where
  copying : Recursion
  thawing : Recursion
  /-- Writing maps as blocks. -/
  blocks : Recursion
  /-- Writing lists inside an attribute. -/
  expressions : Recursion
  /-- The number of collections that can be open while a text is read. -/
  collections : Nat
  setOrder : List Value → List Value
  setOrder_perm : ∀ items, (setOrder items).Perm items
  release : Regex.Release

/-- Refuses a call that has no room. -/
def Recursion.enter (r : Recursion) (used : Nat) (kind : String) : Except Crash Unit :=
  if r.hasRoom used kind then .ok () else .error .nestedTooDeep

@[simp] theorem Recursion.enter_bind_eq_ok_iff {α : Type} {r : Recursion} {used : Nat}
    {kind : String} {f : Unit → Except Crash α} {a : α} :
    (r.enter used kind >>= f) = .ok a ↔ r.hasRoom used kind = true ∧ f () = .ok a := by
  unfold enter
  cases r.hasRoom used kind <;> simp [bind, Except.bind]

/-- Every value takes up the same, but a map more than other values. -/
def Recursion.even (room step ofMap : Nat) : Recursion where
  room := room
  own kind := if kind = "dict" ∨ kind = "FrozenMapping" then 1 else 0
  step kind := if kind = "dict" ∨ kind = "FrozenMapping" then ofMap else step

namespace UsualMachine

/-- An interpreter with a stack of a thousand frames that is called from an otherwise empty one. -/
scoped instance usual : Machine where
  copying := .even 984 2 4
  thawing := .even 984 2 2
  blocks := .even 994 1 1
  expressions := .even 994 3 3
  collections := 488
  setOrder := Value.inSlotOrder
  setOrder_perm := Value.inSlotOrder_perm
  release := .narrow

end UsualMachine

end WebAcl
