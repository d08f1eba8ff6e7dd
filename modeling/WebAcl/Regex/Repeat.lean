import WebAcl.Regex.Node
import WebAcl.Regex.Reader
import WebAcl.Text.Digit

namespace WebAcl.Regex

open Text Parse

/-- The bounds in braces, or nothing if the braces are meant literally. -/
def repeatBounds? (start : Nat) : Parse (Option (Nat × Option Nat)) := do
  let fuel ← tokensLeft
  let lo ← takeWhile Char.isDigit fuel
  let comma ← accept ','
  let hi ← if comma then takeWhile Char.isDigit fuel else pure lo
  if !(← accept '\x7d') then return none
  let least := numeral 10 lo
  if limit ≤ least then throw .hugeCount
  if hi.isEmpty then return some (least, none)
  let most := numeral 10 hi
  if limit ≤ most then throw .hugeCount
  if most < least then failAt start "min repeat greater than max repeat"
  return some (least, some most)

def repeatKind : Parse RepeatKind := do
  if ← accept '?' then return .lazy
  if ← accept '+' then return .possessive
  return .greedy

/-- Repeats the last of the items read, which are listed last first. The quantifier began just
before `start`. -/
def repeatLast (start : Nat) (least : Nat) (most : Option Nat) (items : List Node) :
    Parse (List Node) := do
  match items with
  | [] | .anchor :: _ => failAt (start - 1) "nothing to repeat"
  | .repeated .. :: _ => failAt (start - 1) "multiple repeat"
  | item :: before =>
    return .repeated (← repeatKind) least most [item] :: before

end WebAcl.Regex
