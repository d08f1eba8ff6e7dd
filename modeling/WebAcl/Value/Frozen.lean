import WebAcl.Value.Basic

namespace WebAcl.Value

mutual

def freeze : Value → Value
  | map es => frozenMap (freezeEntries es)
  | frozenMap es => frozenMap (freezeEntries es)
  | list xs => tuple (freezeItems xs)
  | tuple xs => tuple (freezeItems xs)
  | v => v

def freezeItems : List Value → List Value
  | [] => []
  | x :: xs => freeze x :: freezeItems xs

def freezeEntries : List (Value × Value) → List (Value × Value)
  | [] => []
  | (k, v) :: es => (k, freeze v) :: freezeEntries es

end

mutual

def thaw : Value → Value
  | map es => map (thawEntries es)
  | frozenMap es => map (thawEntries es)
  | tuple xs => list (thawItems xs)
  | v => v

def thawItems : List Value → List Value
  | [] => []
  | x :: xs => thaw x :: thawItems xs

def thawEntries : List (Value × Value) → List (Value × Value)
  | [] => []
  | (k, v) :: es => (k, thaw v) :: thawEntries es

end

mutual

/-- The first part that keeps a value from being an element of a set or a key of a map. -/
def changeablePart? : Value → Option Value
  | list xs => some (list xs)
  | set xs => some (set xs)
  | map es => some (map es)
  | tuple xs => changeableItem? xs
  | frozenMap es => changeableField? es
  | _ => none

def changeableItem? : List Value → Option Value
  | [] => none
  | x :: xs => (changeablePart? x).or (changeableItem? xs)

def changeableField? : List (Value × Value) → Option Value
  | [] => none
  | (_, v) :: es => (changeablePart? v).or (changeableField? es)

end

end WebAcl.Value
