namespace WebAcl.Regex

inductive RepeatKind where
  | greedy
  | lazy
  | possessive
  deriving DecidableEq, Repr

inductive Node where
  /-- A literal, a class or a dot: exactly one character. -/
  | unit
  | anchor
  /-- Repetition; an absent upper bound means without limit. -/
  | repeated (kind : RepeatKind) (least : Nat) (most : Option Nat) (body : List Node)
  | group (body : List Node)
  | branch (alternatives : List (List Node))
  | look (behind : Bool) (body : List Node)
  | backreference (least most : Nat)
  | conditional (yes : List Node) (no : Option (List Node))

instance : Inhabited Node := ⟨.unit⟩

def limit : Nat := 0xffffffff

/-- Releases of the engine differ in how wide a pattern they can tell and in what becomes of a
look-behind that reaches too far: either the pattern is refused, or the engine breaks down. -/
inductive Release where
  | narrow
  | wide
  deriving DecidableEq, Repr

namespace Release

/-- The greatest width that is told. As a greatest width it stands for no limit. -/
def widest : Release → Nat
  | narrow => limit
  | wide => 0x10000000000000000

def widestLeast : Release → Nat
  | narrow => limit - 1
  | wide => 0x10000000000000000

def reach : Release → Nat
  | narrow => 0x7fffffff
  | wide => limit

end Release

section

variable (release : Release)

mutual

def Node.width : Node → Nat × Nat
  | .unit => (1, 1)
  | .anchor => (0, 0)
  | .repeated _ least most body =>
    let (lo, hi) := widthOf body
    (lo * least, match most with
      | some most => hi * most
      | none => if hi = 0 then 0 else release.widest)
  | .group body => widthOf body
  | .branch alternatives => widthOfBranches alternatives
  | .look .. => (0, 0)
  | .backreference lo hi => (lo, hi)
  | .conditional yes no =>
    let (lo, hi) := widthOf yes
    match no with
    | some nodes =>
      let (lo', hi') := widthOf nodes
      (min lo lo', max hi hi')
    | none => (0, hi)

def widthOf : List Node → Nat × Nat
  | [] => (0, 0)
  | n :: ns =>
    let (lo, hi) := n.width
    let (lo', hi') := widthOf ns
    (min (lo + lo') release.widestLeast, min (hi + hi') release.widest)

def widthOfBranches : List (List Node) → Nat × Nat
  | [] => (release.widestLeast, 0)
  | ns :: rest =>
    let (lo, hi) := widthOf ns
    let (lo', hi') := widthOfBranches rest
    (min lo lo', max hi hi')

end

/-- Faults that show only when the whole expression is known. -/
inductive LateFault where
  | tooFarBehind
  | behindVaries
  | repeatInTemplate (kind : RepeatKind)
  deriving DecidableEq, Repr

def LateFault.message : LateFault → String
  | tooFarBehind => "looks too much behind"
  | behindVaries => "look-behind requires fixed-width pattern"
  | repeatInTemplate kind => "internal: unsupported template operator " ++ match kind with
    | .greedy => "MAX_REPEAT"
    | .lazy => "MIN_REPEAT"
    | .possessive => "POSSESSIVE_REPEAT"

variable (template : Bool)

mutual

/-- The first fault of a node, outer parts before inner ones. In a template nothing is repeated. -/
def Node.lateFault? : Node → Option LateFault
  | .repeated kind _ _ body =>
    if template then some (.repeatInTemplate kind) else lateFaultOf? body
  | .group body => lateFaultOf? body
  | .branch alternatives => lateFaultOfBranches? alternatives
  | .look behind body =>
    if behind then
      let (lo, hi) := widthOf release body
      if release = .wide ∧ release.reach < lo then some .tooFarBehind
      else if lo ≠ hi then some .behindVaries
      else lateFaultOf? body
    else lateFaultOf? body
  | .conditional yes no =>
    (lateFaultOf? yes).or (match no with
      | some nodes => lateFaultOf? nodes
      | none => none)
  | _ => none

def lateFaultOf? : List Node → Option LateFault
  | [] => none
  | n :: ns => n.lateFault?.or (lateFaultOf? ns)

def lateFaultOfBranches? : List (List Node) → Option LateFault
  | [] => none
  | ns :: rest => (lateFaultOf? ns).or (lateFaultOfBranches? rest)

end

mutual

def Node.looksTooFar : Node → Bool
  | .repeated _ _ _ body | .group body => looksTooFarIn body
  | .branch alternatives => looksTooFarInBranches alternatives
  | .look behind body => (behind && release.reach < (widthOf release body).1) || looksTooFarIn body
  | .conditional yes no =>
    looksTooFarIn yes || (match no with
      | some nodes => looksTooFarIn nodes
      | none => false)
  | _ => false

def looksTooFarIn : List Node → Bool
  | [] => false
  | n :: ns => n.looksTooFar || looksTooFarIn ns

def looksTooFarInBranches : List (List Node) → Bool
  | [] => false
  | ns :: rest => looksTooFarIn ns || looksTooFarInBranches rest

end

end

end WebAcl.Regex
