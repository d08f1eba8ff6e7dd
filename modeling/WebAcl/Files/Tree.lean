import WebAcl.Files.Path
import WebAcl.Problem

namespace WebAcl

structure FileTree where
  files : List (Location × List UInt8) := []
  directories : List Location := []

namespace FileTree

def contents? (t : FileTree) (l : Location) : Option (List UInt8) :=
  (t.files.find? (·.1 == l)).map (·.2)

def isDirectory (t : FileTree) (l : Location) : Bool :=
  l.isEmpty || t.directories.any (l.isSuffixOf ·) || t.files.any fun f ↦ l.isSuffixOf f.1.tail

def has (t : FileTree) (l : Location) : Bool :=
  (t.contents? l).isSome || t.isDirectory l

def expectDirectory (t : FileTree) (l : Location) : Except Crash Unit :=
  if t.isDirectory l then .ok ()
  else .error (if (t.contents? l).isSome then .notDirectory else .noSuchFile)

/-- Where steps lead. All places on the way have to be directories, but the last one need not be
there. -/
def follow (t : FileTree) (l : Location) : List String → Except Crash Location
  | [] => .ok l
  | step :: steps => do
    t.expectDirectory l
    t.follow (if step = ".." then l.tail else step :: l) steps

def read (t : FileTree) (l : Location) : Except Crash (List UInt8) :=
  match t.contents? l with
  | some bytes => .ok bytes
  | none => .error (if t.isDirectory l then .isDirectory else .noSuchFile)

/-- Fails unless there is a directory at `l`. The outermost place that is none decides. -/
def reach (t : FileTree) : Location → Except Crash Unit
  | [] => .ok ()
  | name :: outer => do
    t.reach outer
    t.expectDirectory (name :: outer)

def write (t : FileTree) (l : Location) (bytes : List UInt8) : Except Crash FileTree := do
  t.reach l.tail
  if t.isDirectory l then throw .isDirectory
  return { t with files := (l, bytes) :: t.files.filter (·.1 != l) }

def append (t : FileTree) (l : Location) (bytes : List UInt8) : Except Crash FileTree :=
  t.write l ((t.contents? l).getD [] ++ bytes)

def changesSince (t before : FileTree) : List (Location × List UInt8) :=
  t.files.filter fun (l, bytes) ↦ before.contents? l != some bytes

end FileTree

end WebAcl
