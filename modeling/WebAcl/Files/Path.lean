
namespace WebAcl

/-- A place in a tree of files: the names on the way to it, the innermost first. -/
abbrev Location := List String

/-- A path without empty and `.` steps. A path that is not rooted starts at the working
directory. -/
structure Path where
  rooted : Bool := false
  steps : List String := []
  deriving DecidableEq, Repr

namespace Path

def ofText (s : String) : Path where
  rooted := s.toList.head? == some '/'
  steps := ((s.toList.splitOn '/').map String.ofList).filter fun step ↦
    step != "" && step != "."

def toText (p : Path) : String :=
  let route := "/".intercalate p.steps
  if p.rooted then "/" ++ route else if p.steps.isEmpty then "." else route

def ofLocation (l : Location) : Path where
  rooted := true
  steps := l.reverse

def child (p : Path) (name : String) : Path :=
  { p with steps := p.steps ++ [name] }

def resolveSteps (l : Location) : List String → Location
  | [] => l
  | step :: steps => resolveSteps (if step = ".." then l.tail else step :: l) steps

def resolve (directory : Location) (p : Path) : Location :=
  resolveSteps (if p.rooted then [] else directory) p.steps

end Path

end WebAcl
