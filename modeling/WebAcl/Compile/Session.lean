import WebAcl.Log
import WebAcl.Priority.Allocator
import WebAcl.Value.Text

namespace WebAcl

structure Session where
  allocator : Allocator := {}
  log : List Log.Record := []

abbrev Compiling := ExceptT Failure (StateM Session)

namespace Compiling

def log (level : Log.Level) (logger message : String) : Compiling Unit :=
  modify fun s ↦ { s with log := s.log ++ [⟨level, logger, message⟩] }

def fail {α : Type} (p : Problem) : Compiling α := throw (.ofProblem p)

def ofExcept {α : Type} : Except Failure α → Compiling α
  | .ok a => pure a
  | .error f => throw f

def ofProblem {α : Type} : Except Problem α → Compiling α
  | .ok a => pure a
  | .error p => fail p

def allocate (category : Category) (count : Option Int) : Compiling (List Int) := do
  let (taken, allocator) ← ofProblem ((← get).allocator.allocate category count)
  modify fun s ↦ { s with allocator := allocator }
  let items := Value.tupleText (taken.map toString)
  log .debug "wafpolicy.waf.bands" s!"Allocated {items} in band {Choice.text category}"
  return taken

def slot (category : Category) (offset : Int) : Compiling Int := do
  let (taken, allocator) ← ofProblem ((← get).allocator.slot category offset)
  modify fun s ↦ { s with allocator := allocator }
  return taken

def note (level : Log.Level) (message : String) : Compiling Unit :=
  log level "wafpolicy.waf.builders" message

end Compiling

end WebAcl
