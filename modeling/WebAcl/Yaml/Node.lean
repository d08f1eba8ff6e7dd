import WebAcl.Machine
import WebAcl.Yaml.Scalar

namespace WebAcl.Yaml

/-- A result, or the fault that is found first and its level below the node in question. -/
abbrev Built (α : Type) := Except (Nat × Fault) α

namespace Built

def here {α : Type} : Except Fault α → Built α := Except.mapError (0, ·)

def malformed {α : Type} (level : Nat) : Built α := .error (level, .malformed)

def below {α : Type} : Built α → Built α := Except.mapError fun (level, f) ↦ (level + 1, f)

def pair {α β : Type} : Built α → Built β → Built (α × β)
  | .ok a, .ok b => .ok (a, b)
  | .ok _, .error f => .error f
  | .error e, .ok _ => .error e
  | .error e, .error f => .error (if f.1 < e.1 then f else e)

def all {α : Type} : List (Built α) → Built (List α)
  | [] => .ok []
  | x :: xs => (pair x (all xs)).map fun (a, as) ↦ a :: as

end Built

/-- Lists, sets and maps cannot be keys. -/
def isKey : Value → Bool
  | .list _ | .set _ | .map _ | .endless => false
  | _ => true

/-- A key as such. Only a collection has faults on a deeper level. -/
def Built.asKey : Built Value → Built Value
  | .ok v => if isKey v then .ok v else .malformed 0
  | .error (0, f) => .error (0, f)
  | .error _ => .malformed 0

abbrev BuiltEntry := Built (Value × Value)

def fillMap (entries : List (Value × Value)) : List (Value × Value) :=
  entries.foldl (fun es (k, v) ↦ Value.insert k v es) []

def fillSet [Machine] (entries : List (Value × Value)) : List Value :=
  Machine.setOrder ((fillMap entries).map (·.1))

def isEndless : Value → Bool
  | .endless => true
  | _ => false

/-- What entries make up. It has no end if they are taken over from a map that is not yet known. -/
def collected (make : List (Value × Value) → Value) (entries : List (Value × Value)) : Value :=
  if entries.any (isEndless ·.1) then .endless else make entries

/-- A node: what it stands for in each place where it may be used. -/
structure Node where
  tag : Tag
  value : Built Value
  text : Except Fault String := .error .malformed
  /-- The entries of a map, on one level with the map itself. -/
  entries : Except Fault (List BuiltEntry) := .error .malformed
  /-- The entries that another map takes over from it. -/
  taken : Except Fault (List BuiltEntry) := entries
  /-- Those of them that it has not itself taken over. -/
  own : Except Fault (List BuiltEntry) := entries
  pair : Built Value := .malformed 0

namespace Node

def scalar (tag : Tag) (text : String) : Node where
  tag := tag
  value := match tag with
    | .list | .map | .set | .orderedMap | .pairs => .malformed 1
    | _ => .here (scalarValue tag text)
  text := .ok text

/-- The entries of all maps in a list, the last of them first. -/
def fromAll : List (Except Fault (List BuiltEntry)) → Except Fault (List BuiltEntry)
  | [] => .ok []
  | x :: xs => do
    let head ← x
    return (← fromAll xs) ++ head

def list (tag : Tag) (items : List Node) : Node where
  tag := tag
  value := match tag with
    | .list => (Built.all (items.map (·.value))).below.map .list
    | .orderedMap | .pairs => (Built.all (items.map (·.pair))).below.map .list
    | .map | .set => .malformed 1
    | _ => .malformed 0
  taken := fromAll (items.map (·.entries))
  own := fromAll (items.map (·.own))

/-- The text of a map as a scalar is that of the value under the key `=`. -/
def textOfEntries : List (Node × Node) → Except Fault String
  | [] => .error .malformed
  | (k, v) :: rest => if k.tag = .value then v.text else textOfEntries rest

def flatEntries : List (Node × Node) → Except Fault (List BuiltEntry × List BuiltEntry)
  | [] => .ok ([], [])
  | (k, v) :: rest =>
    if k.tag = .merge then do
      let taken ← v.taken
      let (merged, own) ← flatEntries rest
      return (taken ++ merged, own)
    else do
      let key := if k.tag = .value then .here (k.text.map .str) else k.value.asKey
      let (merged, own) ← flatEntries rest
      return (merged, Built.pair key v.value :: own)

def isScalarTag : Tag → Bool
  | .str | .bool | .int | .float | .null | .binary | .timestamp => true
  | _ => false

def scalarOf (tag : Tag) (text : Except Fault String) : Except Fault Value := do
  let text ← text
  if tag = .timestamp then
    throw (.crash (.badType "expected string or bytes-like object, got 'list'"))
  scalarValue tag text

def map [Machine] (tag : Tag) (entries : List (Node × Node)) : Node :=
  let parts := flatEntries entries
  let all := parts.map fun (merged, own) ↦ merged ++ own
  let built : Built (List (Value × Value)) := .below ((Built.here all).bind Built.all)
  let text := textOfEntries entries
  { tag := tag
    value := match tag with
      | .map => built.map (collected fun es ↦ .map (fillMap es))
      | .set => built.map (collected fun es ↦ .set (fillSet es))
      | .list | .orderedMap | .pairs => .malformed 1
      | _ => if isScalarTag tag then .here (scalarOf tag text) else .malformed 0
    text := text
    entries := all
    own := parts.map (·.2)
    pair := match entries with
      | [(k, v)] => (Built.pair k.value v.value).map fun (a, b) ↦ .tuple [a, b]
      | _ => .malformed 0 }

def endless : Node where
  tag := .map
  value := .ok .endless
  text := .error (.crash .nestedTooDeep)
  entries := .ok [.ok (.endless, .endless)]
  own := .ok []
  pair := .ok .endless

/-- A collection that is met inside itself. Where its entries are taken over by itself, these are
its own ones. -/
def again (n : Node) (taking : Bool) : Node :=
  if taking then
    { n with
      entries := n.entries.bind fun _ ↦ n.own
      taken := n.taken.bind fun _ ↦ n.own }
  else n

end Node

instance : Inhabited Node := ⟨.endless⟩

end WebAcl.Yaml
