import Std.Time.Format
import Std.Time.Zoned
import WebAcl.Cli.Run

namespace WebAcl.Main

open Cli

def plainMarkup (markup : String) : String :=
  ["bold red", "red", "yellow", "green", "white"].foldl (fun s style ↦
    (s.replace s!"[{style}]" "").replace s!"[/{style}]" "") markup

def tableText (t : Table) : String :=
  "\n".intercalate (t.title :: (t.columns :: t.rows).map fun row ↦
    "  ".intercalate (row.map plainMarkup))

def shownText : Shown → String
  | .line markup => plainMarkup markup
  | .table t => tableText t

def mentioned (words : List String) : List Path :=
  words.flatMap fun word ↦
    [word, "=".intercalate ((word.splitOn "=").drop 1)].filter (· != "") |>.flatMap fun text ↦
      let path := Path.ofText text
      [path, initialFile path]

def outward : Location → List Location
  | [] => [[]]
  | name :: outer => (name :: outer) :: outward outer

/-- The code with which the system refuses to read a directory as a file. -/
def directoryCode : UInt32 := 21

def picture (host : Host) (path : Path) : IO Host := do
  let l := host.resolve path
  try
    let bytes ← IO.FS.readBinFile (Path.ofLocation l).toText
    let files := (l, bytes.toList) :: host.tree.files.filter (·.1 != l)
    return { host with tree := { host.tree with files := files } }
  catch
    | .inappropriateType _ code _ =>
      if code != directoryCode then return host
      return { host with tree := { host.tree with directories := l :: host.tree.directories } }
    | _ => return host

def readHost (words : List String) : IO Host := do
  let directory := (Path.ofText (← IO.currentDir).toString).steps.reverse
  let names := ["ENFORCE", "SCOPE"].map (Config.variableStem ++ ·)
  let environment ← names.filterMapM fun name ↦ do
    return (← IO.getEnv name).map (name, ·)
  let found := (outward directory).flatMap fun l ↦
    Config.sourceNames.map fun name ↦ Path.ofLocation (name :: l)
  let start : Host := ⟨{ directories := [directory] }, directory, environment⟩
  (mentioned words ++ initialFile {} :: found).foldlM picture start

def writeChanges (before after : Host) : IO Unit :=
  (after.tree.changesSince before.tree).reverse.forM fun (l, bytes) ↦ do
    IO.FS.createDirAll (Path.ofLocation l.tail).toText
    IO.FS.writeBinFile (Path.ofLocation l).toText ⟨bytes.toArray⟩

def stopText : Stop → String
  | .exit code => s!"exit {code}"
  | .crash c => c.message

end WebAcl.Main

open WebAcl.UsualMachine in
def main (words : List String) : IO UInt32 := do
  let host ← WebAcl.Main.readHost words
  let now ← Std.Time.PlainDateTime.now
  let outcome := WebAcl.Cli.run host (now.format "uuuu-MM-dd HH:mm:ss,SSS") words
  WebAcl.Main.writeChanges host outcome.host
  IO.print outcome.echo
  outcome.console.forM fun s ↦ IO.println (WebAcl.Main.shownText s)
  if let some stop := outcome.escaped then IO.eprintln (WebAcl.Main.stopText stop)
  return UInt32.ofNat outcome.exitCode
