import WebAcl.Files.Host
import WebAcl.Log.Layout
import WebAcl.Text.LetterCase

namespace WebAcl.Log

structure Sink where
  location : Location
  level : Level
  layout : String

structure Journal where
  level : Level := .warning
  consoles : List String := []
  sinks : List Sink := []
  configured : Bool := false

namespace Journal

def levelOf (text : String) : Except Crash Level :=
  let name := Text.upper text
  match Level.named? name with
  | some level => .ok level
  | none => .error (.badValue ("Unknown level: " ++ Text.quoted name))

/-- The level that a constant of the log stands for. Some of its constants are no levels. -/
def constantLevel (text : String) : Except Crash Level :=
  let name := Text.upper text
  match Level.named? name with
  | some level => .ok level
  | none =>
    if name = "BASIC_FORMAT" then .error (.badValue ("Unknown level: " ++ Text.quoted Layout.basic))
    else if name = "_STYLES" then
      .error (.badType ("Level not an integer or a valid string: " ++ Layout.styles))
    else .error (.noSuchPart "module" name)

/-- Sets the level and, the first time, replaces all outputs by one console. -/
def configure (j : Journal) (level layout : String) : Except Crash Unit × Journal :=
  let withLevel := fun j : Journal ↦
    match levelOf level with
    | .ok l => (.ok (), { j with level := l, configured := true })
    | .error c => (.error c, j)
  if j.configured then withLevel j
  else
    let layout := if layout = "" then Layout.brief else layout
    match Layout.check layout with
    | .error c => (.error c, j)
    -- the outputs are replaced even if the level turns out to be unknown
    | .ok () => withLevel { j with consoles := [layout], sinks := [] }

/-- Adds a file. The file is created even if the level or the layout is faulty. -/
def addFile (j : Journal) (host : Host) (path : Path) (level layout : String) :
    Except Crash Sink × Host × Journal :=
  let location := host.resolve path
  match host.tree.append location [] with
  | .error c => (.error c, host, j)
  | .ok tree =>
    let host := { host with tree := tree }
    let layout := if layout = "" then Layout.full else layout
    match constantLevel level, Layout.check layout with
    | .error c, _ => (.error c, host, j)
    | _, .error c => (.error c, host, j)
    | .ok level, .ok () =>
      let sink : Sink := ⟨location, level, layout⟩
      (.ok sink, host, { j with sinks := j.sinks ++ [sink] })

/-- Adds a line for a record to one file, unless the line cannot be made or encoded. -/
def Sink.take (time : String) (r : Record) (tree : FileTree) (s : Sink) : FileTree :=
  match (Layout.line? s.layout time r).bind fun line ↦ Text.Utf8.encode? (line ++ "\n") with
  | none => tree
  | some bytes =>
    match tree.append s.location bytes with
    | .ok tree => tree
    | .error _ => tree

def record (j : Journal) (time : String) (tree : FileTree) (r : Record) : FileTree :=
  if r.level.severity < j.level.severity then tree
  else (j.sinks.filter fun s ↦ s.level.severity ≤ r.level.severity).foldl (Sink.take time r) tree

end Journal

end WebAcl.Log
