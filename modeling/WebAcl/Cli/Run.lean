import WebAcl.Cli.Console
import WebAcl.Cli.Switches
import WebAcl.Compile.Basic
import WebAcl.Config.Plain
import WebAcl.Config.Sample
import WebAcl.Config.Source
import WebAcl.Log.Journal
import WebAcl.Render.Basic
import WebAcl.Value.Extent
import WebAcl.Yaml.Flow

namespace WebAcl.Cli

/-- Why a run ends before the end of its command. -/
inductive Stop where
  | exit (code : Nat)
  | crash (c : Crash)
  deriving DecidableEq, Repr

structure Session where
  host : Host
  time : String
  journal : Log.Journal := {}
  console : List Shown := []
  echo : String := ""

abbrev Run := ExceptT Stop (StateM Session)

namespace Run

def exit {α : Type} (code : Nat) : Run α := throw (.exit code)

def misuse {α : Type} : Run α := exit 2

def say (markup : String) : Run Unit :=
  modify fun s ↦ { s with console := s.console ++ [.line markup] }

def showTable (t : Table) : Run Unit :=
  modify fun s ↦ { s with console := s.console ++ [.table t] }

def echo (text : String) : Run Unit :=
  modify fun s ↦ { s with echo := s.echo ++ text }

def log (r : Log.Record) : Run Unit :=
  modify fun s ↦
    { s with host := { s.host with tree := s.journal.record s.time s.host.tree r } }

def host : Run Host := return (← get).host

def alter (change : Host → Except Crash Host) : Run Unit := do
  match change (← host) with
  | .ok h => modify fun s ↦ { s with host := h }
  | .error c => throw (.crash c)

def logger : String := "wafpolicy.cli"

def failed {α : Type} (f : Failure) : Run α := do
  match f with
  | .problem p =>
    say s!"[bold red]Error:[/bold red] {p.message}"
    if p.hint != "" then say s!"[yellow]Hint:[/yellow] {p.hint}"
  | .crash c =>
    say s!"[red]Error: {c.message}[/red]"
    log ⟨.error, logger, "Command failed"⟩
  exit 1

def logged {α : Type} (x : Except Failure α × List Log.Record) : Run (Except Failure α) := do
  x.2.forM log
  return x.1

def load [Machine] (path : Path) : Run (Except Failure Config) := do
  logged (Config.loadLogged (← host) (some path) Config.variableStem)

def compile [Machine] (c : Config) : Run Policy := do
  match ← logged (Config.compileLogged Registry.builtIn c) with
  | .ok p => return p
  | .error f => failed f

def encoded (text : String) : Run (List UInt8) :=
  match Text.Utf8.encode? text with
  | some bytes => return bytes
  | none => throw (.crash .unencodable)

/-- A path in the command line that must not lead to something else than a file. -/
def filePath (text : String) (mustExist : Bool) : Run Path := do
  let path := Path.ofText text
  let h ← host
  if h.hasDirectory path then misuse
  if mustExist && !h.has path then misuse
  return path

def directoryPath (text : String) : Run Path := do
  let path := Path.ofText text
  let h ← host
  if h.has path && !h.hasDirectory path then misuse
  return path

end Run

open Run

def version : String := "0.1.0"

def helpSwitch : Switch := { name := "help" }

def readCommand (known : List Switch) (words : List String) : Run Words := do
  match splitWords? (helpSwitch :: known) true words with
  | none => misuse
  | some w =>
    if w.has helpSwitch.name then exit 0
    return w

def actionLabel (r : Rule) : String :=
  match r.override, r.action with
  | some o, _ => "override " ++ Choice.text o
  | none, some a => Choice.text a
  | none, none => "-"

def holds (part whole : List Char) : Bool :=
  match whole with
  | [] => part.isEmpty
  | _ :: rest => part.isPrefixOf whole || holds part rest

def actionColor (label : String) : String :=
  if holds "BLOCK".toList label.toList then "red"
  else if holds "COUNT".toList label.toList then "yellow"
  else if holds "ALLOW".toList label.toList then "green"
  else "white"

/-- Writes files into a directory. A file whose text cannot be encoded is left empty. -/
def writeFiles (directory : Path) (files : List RenderedFile) : Run Unit := do
  alter (·.makeDirectory directory)
  files.forM fun f ↦ do
    let path := directory.child f.name
    alter (·.write path [])
    let bytes ← encoded f.content
    alter (·.write path bytes)

def echoFiles (files : List RenderedFile) : Run Unit :=
  files.forM fun f ↦ do
    if 1 < files.length then echo s!"# --- {f.name} ---\n"
    let _ ← encoded f.content
    echo f.content

def compileCommand [Machine] (words : List String) : Run Unit := do
  let w ← readCommand [
    { name := "format", letter := some 'f', takesValue := true },
    { name := "output", letter := some 'o', takesValue := true },
    { name := "enforce" },
    { name := "observe" }] words
  let [file] := w.others | misuse
  let path ← filePath file true
  let output ← (w.value? "output").mapM directoryPath
  let formatText := (w.value? "format").getD (Choice.text Format.json)
  let some format := (Choice.parse? (Text.lower formatText) : Option Format) | do
    say s!"[red]Unsupported format: {formatText}[/red]"
    say ("Choose one of: " ++ ", ".intercalate (Choice.texts Format))
    exit 1
  match ← load path with
  | .error f => failed f
  | .ok c =>
    let c := match w.either? "enforce" "observe" with
      | some enforce => { c with enforce := enforce }
      | none => c
    let policy ← compile c
    match policy.render format with
    | .error f => failed (.crash f)
    | .ok files =>
      match output with
      | none => echoFiles files
      | some directory =>
        writeFiles directory files
        say (s!"[green]Compiled[/green] {policy.name}: {policy.rules.length} rules, " ++
          s!"{Policy.modeName policy.enforce} mode")
        files.forM fun f ↦ say s!"  - {(directory.child f.name).toText}"

def ruleRow (r : Rule) : List String :=
  let label := actionLabel r
  let color := actionColor label
  [toString r.priority, r.name, Choice.text r.category, s!"[{color}]{label}[/{color}]"]

def validateCommand [Machine] (words : List String) : Run Unit := do
  let w ← readCommand [] words
  let [file] := w.others | misuse
  match ← load (← filePath file true) with
  | .error f => failed f
  | .ok c =>
    let policy ← compile c
    unless policy.rules.all (Number.isWritable ·.priority) do throw (.crash .hugeInteger)
    showTable {
      title := s!"Web ACL {policy.name} ({Choice.text policy.scope})"
      columns := ["Priority", "Name", "Band", "Action"]
      rows := policy.rules.map ruleRow }
    say (s!"\nDefault action: {Choice.text policy.defaultAction}, " ++
      s!"mode: {Policy.modeName policy.enforce}")
    say "[green]Policy is valid.[/green]"

def bandsCommand (words : List String) : Run Unit := do
  let w ← readCommand [] words
  unless w.others.isEmpty do misuse
  showTable {
    title := "Priority Bands"
    columns := ["Band", "Priorities", "Description"]
    rows := Band.all.map fun b ↦ [Choice.text b.category, b.label, b.description] }

def groupsCommand (words : List String) : Run Unit := do
  let w ← readCommand [] words
  unless w.others.isEmpty do misuse
  let first := (Band.of .managed).first
  showTable {
    title := "Managed Rule Groups"
    columns := ["Key", "Priority", "AWS Name", "Mandatory"]
    rows := Registry.builtIn.inOrder.map fun g ↦
      [g.key, toString (first + g.slot), g.vendorRuleSet, if g.mandatory then "yes" else "no"] }

def initialFile (directory : Path) : Path :=
  directory.child (Config.sourceNames.headD "")

def initCommand (words : List String) : Run Unit := do
  let w ← readCommand [{ name := "force", letter := some 'f' }] words
  if 1 < w.others.length then misuse
  let path := initialFile (Path.ofText (w.others.headD ""))
  if (← host).has path && !w.has "force" then
    say s!"[yellow]Configuration file already exists: {path.toText}[/yellow]"
    say "Use --force to overwrite."
    exit 1
  alter (·.write path (← encoded Config.sample))
  say s!"Created configuration file: {path.toText}"

def settingText : Value → String
  | .null => "(disabled)"
  | .list xs => Text.strip (Yaml.flow (.list xs))
  | v => v.toText

mutual

/-- The settings below a name; settings in groups have compound names. -/
def settings (name : String) : Value → List (List String)
  | .map es => groupSettings (name ++ ".") es
  | v => [[name, settingText v]]

def groupSettings (stem : String) : List (Value × Value) → List (List String)
  | [] => []
  | (k, v) :: es => settings (stem ++ k.toText) v ++ groupSettings stem es

end

def settingRows : Value → List (List String)
  | .map es => groupSettings "" es
  | _ => []

def showCommand [Machine] (words : List String) : Run Unit := do
  let w ← readCommand [{ name := "config", letter := some 'c', takesValue := true }] words
  unless w.others.isEmpty do misuse
  let given ← (w.value? "config").mapM (filePath · true)
  let some path := given.or ((Config.find? (← host) {}).map Path.ofLocation) | do
    say "[yellow]No configuration file found.[/yellow]"
    say "Run 'wafpolicy config init' to create one."
    exit 0
  say s!"Configuration file: {path.toText}\n"
  match ← load path with
  | .error (.crash c) => throw (.crash c)
  | .error f => failed f
  | .ok c =>
    match c.toPlain with
    | .error c => throw (.crash c)
    | .ok v =>
      unless v.isWritable do throw (.crash .hugeInteger)
      showTable {
        title := "Configuration"
        columns := ["Setting", "Value"]
        rows := settingRows v }

abbrev Commands := List (String × (List String → Run Unit))

/-- A group of commands. Its switches come before the name of a command; `prepare` looks at them
once the command is known. -/
def group (known : List Switch) (eager : Given → Run Unit) (check prepare : Words → Run Unit)
    (commands : Commands) (words : List String) : Run Unit := do
  if words.isEmpty then misuse
  let read := fun words ↦ do
    let some w := splitWords? (helpSwitch :: known) false words | misuse
    w.given.forM fun g ↦ if g.1 == helpSwitch.name then exit 0 else eager g
    check w
    return w
  let w ← read words
  match w.others with
  | [] => misuse
  | name :: rest =>
    match commands.lookup name with
    | some command =>
      prepare w
      command rest
    | none =>
      if looksSwitch name.toList then
        let _ ← read w.others
      misuse

def configCommand [Machine] : List String → Run Unit :=
  group [] (fun _ ↦ pure ()) (fun _ ↦ pure ()) (fun _ ↦ pure ()) [
    ("init", initCommand),
    ("show", showCommand)]

def eagerSwitch (g : Given) : Run Unit := do
  if g.1 == "version" then
    say s!"wafpolicy version {version}"
    exit 0

def checkSwitches (w : Words) : Run Unit := do
  if let some file := w.value? "log-file" then
    let _ ← filePath file false

def startJournal (w : Words) : Run Unit := do
  let level := if w.has "verbose" then "DEBUG" else if w.has "quiet" then "WARNING" else "INFO"
  modify fun s ↦ { s with journal := (s.journal.configure level "").2 }
  if let some file := w.value? "log-file" then
    let path := Path.ofText file
    let s ← get
    let (result, host, journal) := s.journal.addFile s.host path "DEBUG" ""
    set { s with host := host, journal := journal }
    match result with
    | .error c => throw (.crash c)
    | .ok _ => log ⟨.debug, logger, s!"Writing logs to {path.toText}"⟩

def mainCommand [Machine] : List String → Run Unit :=
  group [
    { name := "verbose", letter := some 'v' },
    { name := "quiet", letter := some 'q' },
    { name := "log-file", takesValue := true },
    { name := "version", letter := some 'V' }]
    eagerSwitch checkSwitches startJournal [
    ("compile", compileCommand),
    ("validate", validateCommand),
    ("bands", bandsCommand),
    ("groups", groupsCommand),
    ("config", configCommand)]

structure Outcome where
  exitCode : Nat
  console : List Shown
  echo : String
  host : Host
  escaped : Option Stop := none

def outcome (result : Except Stop Unit) (s : Session) : Outcome :=
  match result with
  | .ok () => ⟨0, s.console, s.echo, s.host, none⟩
  | .error (.exit code) => ⟨code, s.console, s.echo, s.host, none⟩
  | .error stop => ⟨1, s.console, s.echo, s.host, some stop⟩

def run [Machine] (host : Host) (time : String) (words : List String) : Outcome :=
  let (result, session) := (mainCommand words).run.run { host := host, time := time }
  outcome result session

end WebAcl.Cli
