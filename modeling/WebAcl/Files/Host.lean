import WebAcl.Files.Tree

namespace WebAcl

structure Host where
  tree : FileTree := {}
  directory : Location := []
  environment : List (String × String) := []

namespace Host

def lookup? (h : Host) (name : String) : Option String :=
  (h.environment.find? (·.1 == name)).map (·.2)

def resolve (h : Host) (p : Path) : Location :=
  p.resolve h.directory

def follow (h : Host) (p : Path) : Except Crash Location :=
  h.tree.follow (if p.rooted then [] else h.directory) p.steps

def holds (h : Host) (p : Path) (test : FileTree → Location → Bool) : Bool :=
  match h.follow p with
  | .ok l => test h.tree l
  | .error _ => false

def has (h : Host) (p : Path) : Bool :=
  h.holds p FileTree.has

def hasDirectory (h : Host) (p : Path) : Bool :=
  h.holds p FileTree.isDirectory

def read (h : Host) (p : Path) : Except Crash (List UInt8) := do
  h.tree.read (← h.follow p)

def write (h : Host) (p : Path) (bytes : List UInt8) : Except Crash Host := do
  return { h with tree := ← h.tree.write (← h.follow p) bytes }

/-- Makes the directory at the end of a path whose other steps, given from the last to the first,
may be missing too. -/
def makeSteps (rooted : Bool) (h : Host) : List String → Except Crash Host
  | [] => .ok h
  | step :: before => do
    let p : Path := ⟨rooted, (step :: before).reverse⟩
    -- a step that is missing is made before the path is followed further
    let h ← match h.follow p with
      | .error .noSuchFile => makeSteps rooted h before
      | _ => .ok h
    let l ← h.follow p
    if h.tree.isDirectory l then return h
    if h.tree.has l then throw .alreadyThere
    return { h with tree := { h.tree with directories := l :: h.tree.directories } }

def makeDirectory (h : Host) (p : Path) : Except Crash Host :=
  h.makeSteps p.rooted p.steps.reverse

end Host

end WebAcl
