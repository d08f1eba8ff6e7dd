import WebAcl.Priority.Band
import WebAcl.Problem

namespace WebAcl

/-- The priorities claimed so far, each for the category it was claimed for. -/
structure Allocator where
  claimed : List (Int × Category) := []
  deriving DecidableEq, Repr

namespace Allocator

def isClaimed (a : Allocator) (priority : Int) : Bool :=
  a.claimed.any (·.1 == priority)

def claim (a : Allocator) (category : Category) (priorities : List Int) : Allocator :=
  ⟨a.claimed ++ priorities.map (·, category)⟩

def fixedBand (category : Category) : Except Problem Band :=
  let band := Band.of category
  if band.custom then
    .error { cause := .brokenInvariant
             note := s!"Band '{Choice.text category}' has no fixed slots" }
  else .ok band

def free (a : Allocator) (b : Band) : List Int :=
  b.priorities.filter (!a.isClaimed ·)

/-- The first `count` items; a negative count leaves out that many at the end. -/
def takeCount (count : Int) (xs : List Int) : List Int :=
  if 0 ≤ count then xs.take count.toNat else xs.take (xs.length - count.natAbs)

/-- Claims the lowest free priorities of a fixed band, by default as many as the band is wide. -/
def allocate (a : Allocator) (category : Category) (count : Option Int) :
    Except Problem (List Int × Allocator) := do
  let band ← fixedBand category
  let count := count.getD (band.width?.getD 0)
  let free := a.free band
  if free.length < count then
    throw { cause := .bandExhausted (Choice.text category) count free.length }
  let taken := takeCount count free
  return (taken, a.claim category taken)

def slot (a : Allocator) (category : Category) (offset : Int) :
    Except Problem (Int × Allocator) := do
  let band ← fixedBand category
  let width := band.width?.getD 0
  if offset < 0 ∨ width ≤ offset then
    throw { cause := .bandExhausted (Choice.text category) (offset + 1) width }
  let priority := band.first + offset
  if a.isClaimed priority then
    throw { cause := .brokenInvariant
            note := s!"Priority {priority} in band '{Choice.text category}' was allocated twice" }
  return (priority, a.claim category [priority])

/-- Checks a priority chosen by the user: it must lie in the open band and in no fixed one. -/
def checkCustom (category : Category) (priority : Int) (ruleName : String) :
    Except Problem Int := do
  let band := Band.of category
  if !band.custom then
    throw { cause := .brokenInvariant
            note := s!"Band '{Choice.text category}' does not accept custom rules" }
  let collision := Problem.Cause.priorityCollision ruleName priority (Choice.text category)
  if priority < 0 ∨ !band.contains priority then
    throw { cause := collision }
  -- fixed bands are reserved whether or not they are in use
  match Band.fixedOf? priority with
  | some reserved =>
    throw { cause := collision
            note := s!"Rule '{ruleName}' priority {priority} collides with reserved band " ++
              s!"'{Choice.text reserved.category}' ({reserved.label})" }
  | none => return priority

end Allocator

end WebAcl
