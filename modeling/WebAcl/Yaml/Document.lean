import WebAcl.Yaml.Node
import WebAcl.Yaml.Token

namespace WebAcl.Yaml

/-- State of reading nodes. The name of a collection is known, without a node, while its items are
being read. -/
structure Composer where
  tokens : List Token
  fault : Fault
  handles : List (String × String) := []
  anchors : List (String × Option Node) := []
  earlier : List (String × Option Node) := []
  endless : Bool := false
  depth : Nat := 0

abbrev Compose := StateT Composer (Except Fault)

namespace Compose

def refuse {α : Type} : Compose α := throw .malformed

def peek : Compose Token := do
  let s ← get
  match s.tokens with
  | [] => throw s.fault
  | t :: _ => return t

def advance : Compose Unit := modify fun s ↦ { s with tokens := s.tokens.drop 1 }

def accept (t : Token) : Compose Bool := do
  if (← peek) == t then advance *> return true else return false

def require (t : Token) : Compose Unit := do
  if !(← accept t) then refuse

def meets (ts : List Token) : Compose Bool := return ts.contains (← peek)

def declare (name : String) (n : Option Node) : Compose Unit :=
  modify fun s ↦ { s with anchors := (name, n) :: s.anchors }

def named (takers : List String) (name : String) : Compose Node := do
  let s ← get
  match s.anchors.lookup name with
  | some (some n) => return n
  | some none =>
    set { s with endless := true }
    return (((s.earlier.lookup name).join).getD .endless).again (takers.contains name)
  | none => refuse

def expand : TagName → Compose String
  | .verbatim name => return name
  | .under handle suffix => do
    match (← get).handles.lookup handle with
    | some expansion => return expansion ++ suffix
    | none => refuse

structure Properties where
  anchor : Option String := none
  tag : Option String := none

def properties : Compose Properties := do
  match ← peek with
  | .anchor name =>
    advance
    match ← peek with
    | .tag t =>
      advance
      return ⟨some name, some (← expand t)⟩
    | _ => return ⟨some name, none⟩
  | .tag t =>
    advance
    match ← peek with
    | .anchor name =>
      advance
      return ⟨some name, some (← expand t)⟩
    | _ => return ⟨none, some (← expand t)⟩
  | _ => return {}

def Properties.addTo (p : Properties) (takers : List String) : List String :=
  p.anchor.toList ++ takers

/-- The tag `!` stands for no tag. -/
def Properties.tagOr (p : Properties) (default : Tag) : Tag :=
  match p.tag with
  | none | some "!" => default
  | some name => .named name

/-- The type of a scalar. Only one that is plain, or has the tag `!`, takes the type that it looks
like. -/
def Properties.scalarTag (p : Properties) (plain : Bool) (text : String) : Tag :=
  let default := if plain || p.tag.isSome then Tag.ofPlain text else .str
  p.tagOr default

def empty : Node := .scalar .null ""

def begin (p : Properties) (n : Option Node) : Compose Unit :=
  match p.anchor with
  | none => pure ()
  | some name => do
    if (← get).anchors.any (·.1 == name) then refuse
    declare name n

/-- The names of unfinished collections that take over the entries of the value of a key. -/
def takersOf (key : Node) (takers : List String) : List String :=
  if key.tag = .merge then takers else []

section

variable [Machine]

def collection {α : Type} (p : Properties) (make : α → Node) (content : Compose α) :
    Compose Node := do
  begin p none
  if Machine.collections ≤ (← get).depth then throw (.crash .nestedTooDeep)
  modify fun s ↦ { s with depth := s.depth + 1 }
  let n := make (← content)
  modify fun s ↦ { s with depth := s.depth - 1 }
  match p.anchor with
  | none => pure ()
  | some name => declare name n
  return n

mutual

/-- A node. Collections in block style are read only if `block` says so, and entries of a list at
the indentation of the map around it only if `flush` says so. -/
def node (takers : List String) (block flush : Bool) : Nat → Compose Node
  | 0 => refuse
  | fuel + 1 => do
    match ← peek with
    | .alias name =>
      advance
      named takers name
    | _ =>
      let p ← properties
      let inner := p.addTo takers
      match ← peek with
      | .blockEntry =>
        if flush then collection p (.list (p.tagOr .list)) (flushItems inner fuel)
        else emptyNode p
      | .scalar text plain =>
        advance
        let n := Node.scalar (p.scalarTag plain text) text
        begin p (some n)
        return n
      | .flowListStart =>
        advance
        collection p (.list (p.tagOr .list)) (flowItems inner true fuel)
      | .flowMapStart =>
        advance
        collection p (.map (p.tagOr .map)) (flowEntries inner true fuel)
      | .blockListStart =>
        if block then
          advance
          collection p (.list (p.tagOr .list)) (blockItems inner fuel)
        else emptyNode p
      | .blockMapStart =>
        if block then
          advance
          collection p (.map (p.tagOr .map)) (blockEntries inner fuel)
        else emptyNode p
      | _ => emptyNode p

/-- A node without content; it needs a name or a tag. -/
def emptyNode (p : Properties) : Compose Node := do
  if p.anchor.isNone && p.tag.isNone then refuse
  let n := Node.scalar (p.scalarTag true "") ""
  begin p (some n)
  return n

def blockItems (takers : List String) : Nat → Compose (List Node)
  | 0 => refuse
  | fuel + 1 => do
    if ← accept .blockEntry then
      let item ←
        if ← meets [.blockEntry, .blockEnd] then pure empty else node takers true false fuel
      return item :: (← blockItems takers fuel)
    else
      require .blockEnd
      return []

def flushItems (takers : List String) : Nat → Compose (List Node)
  | 0 => refuse
  | fuel + 1 => do
    if ← accept .blockEntry then
      let item ←
        if ← meets [.blockEntry, .key, .value, .blockEnd] then pure empty
        else node takers true false fuel
      return item :: (← flushItems takers fuel)
    else return []

def blockPart (takers : List String) : Nat → Compose Node
  | 0 => refuse
  | fuel + 1 => do
    if ← meets [.key, .value, .blockEnd] then return empty else node takers true true fuel

def blockEntries (takers : List String) : Nat → Compose (List (Node × Node))
  | 0 => refuse
  | fuel + 1 => do
    if ← accept .key then
      let key ← blockPart [] fuel
      let value ← if ← accept .value then blockPart (takersOf key takers) fuel else pure empty
      return (key, value) :: (← blockEntries takers fuel)
    else
      require .blockEnd
      return []

/-- What follows the mark of a key or a value between brackets: nothing if one of `marks` comes
next. -/
def flowPart (takers : List String) (marks : List Token) : Nat → Compose Node
  | 0 => refuse
  | fuel + 1 => do
    if ← meets marks then return empty else node takers false false fuel

def flowItems (takers : List String) (first : Bool) : Nat → Compose (List Node)
  | 0 => refuse
  | fuel + 1 => do
    if ← accept .flowListEnd then return []
    if !first then require .flowEntry
    if ← accept .key then
      let key ← flowPart [] [.value, .flowEntry, .flowListEnd] fuel
      let value ←
        if ← accept .value then
          flowPart (takersOf key takers) [.flowEntry, .flowListEnd] fuel
        else pure empty
      return .map .map [(key, value)] :: (← flowItems takers false fuel)
    else if ← accept .flowListEnd then return []
    else
      let item ← node takers false false fuel
      return item :: (← flowItems takers false fuel)

def flowEntries (takers : List String) (first : Bool) : Nat → Compose (List (Node × Node))
  | 0 => refuse
  | fuel + 1 => do
    if ← accept .flowMapEnd then return []
    if !first then require .flowEntry
    if ← accept .key then
      let key ← flowPart [] [.value, .flowEntry, .flowMapEnd] fuel
      let value ←
        if ← accept .value then
          flowPart (takersOf key takers) [.flowEntry, .flowMapEnd] fuel
        else pure empty
      return (key, value) :: (← flowEntries takers false fuel)
    else if ← accept .flowMapEnd then return []
    else
      let key ← node [] false false fuel
      return (key, empty) :: (← flowEntries takers false fuel)

end

def defaultHandles : List (String × String) := [("!", "!"), ("!!", tagRoot)]

def directives (versioned : Bool) (handles : List (String × String)) : Nat → Compose Unit
  | 0 => refuse
  | fuel + 1 => do
    match ← peek with
    | .directive d =>
      advance
      match d with
      | .version major =>
        if versioned || major != 1 then refuse
        directives true handles fuel
      | .tag handle expansion =>
        if handles.any (·.1 == handle) then refuse
        directives versioned ((handle, expansion) :: handles) fuel
      | .other => directives versioned handles fuel
    | _ => modify fun s ↦ { s with handles := handles ++ defaultHandles }

def skipEnds : Nat → Compose Unit
  | 0 => pure ()
  | fuel + 1 => do
    if ← accept .documentEnd then skipEnds fuel

def markedDocument (fuel : Nat) : Compose (Option Node) := do
  if (← peek) == .textEnd then return none
  directives false [] fuel
  require .documentStart
  match ← peek with
  | .directive _ | .documentStart | .documentEnd | .textEnd => return some empty
  | _ => return some (← node [] true false fuel)

def document (fuel : Nat) : Compose (Option Node) := do
  let root ← match ← peek with
    | .directive _ | .documentStart | .textEnd => markedDocument fuel
    | _ =>
      modify fun s ↦ { s with handles := defaultHandles }
      pure (some (← node [] true false fuel))
  skipEnds fuel
  require .textEnd
  return root

def attempt (ts : Tokens) (earlier : List (String × Option Node)) :
    Except Fault (Option Node × Composer) :=
  (document (4 * ts.list.length + 4)).run
    { tokens := ts.list, fault := ts.fault, earlier := earlier }

def reread (ts : Tokens) (read : Option Node × Composer) : Nat → Except Fault (Option Node)
  | 0 => return read.1
  | times + 1 => do reread ts (← attempt ts read.2.anchors) times

/-- The document of some tokens. If a collection is met inside itself, the text is read again: once
for each name, since a map may take over what a map around it takes over, and once for each of the
levels that have to be known. -/
def root? (levels : Nat) (ts : Tokens) : Except Fault (Option Node) := do
  let read ← attempt ts []
  reread ts read (if read.2.endless then read.2.anchors.length + levels else 0)

end

end Compose

/-- The data of a text, down to some level where it lies inside itself; an empty text stands for
null. -/
def load [Machine] (levels : Nat) (source : Source) : Except Fault Value := do
  match ← Compose.root? levels (Tokens.ofSource source) with
  | none => return .null
  | some root => root.value.mapError (·.2)

end WebAcl.Yaml
