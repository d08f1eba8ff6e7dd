import WebAcl.Text.Blank
import WebAcl.Text.LetterCase

namespace WebAcl.Text

def halveDashes : List Char → List Char
  | [] => []
  | '-' :: '-' :: cs => '-' :: halveDashes cs
  | c :: cs => c :: halveDashes cs

def hasDoubleDash : List Char → Bool
  | '-' :: '-' :: _ => true
  | _ :: cs => hasDoubleDash cs
  | [] => false

/-- Halves runs of dashes until each is a single dash, but at most `rounds` times. -/
def settleDashes : (rounds : Nat) → List Char → List Char
  | 0, cs => cs
  | rounds + 1, cs => if hasDoubleDash cs then settleDashes rounds (halveDashes cs) else cs

/-- Every round shortens the text, so its length bounds their number. -/
def collapseDashes (cs : List Char) : List Char :=
  settleDashes cs.length cs

def dashFor (c : Char) : Char :=
  if c = '.' ∨ c = '_' ∨ c = ' ' then '-' else c

def dashed (s : String) : String :=
  String.ofList (trimBy (· == '-') (collapseDashes ((lower s).toList.map dashFor)))

def joinIpVersions : List Char → List Char
  | 'I' :: 'P' :: 'v' :: cs =>
    match cs with
    | '4' :: rest => 'I' :: 'p' :: 'v' :: '4' :: joinIpVersions rest
    | '6' :: rest => 'I' :: 'p' :: 'v' :: '6' :: joinIpVersions rest
    | cs => 'I' :: 'P' :: 'v' :: joinIpVersions cs
  | c :: cs => c :: joinIpVersions cs
  | [] => []

/-- A word starts at the capital `c` between `before` and the character after it. -/
def startsWord (before c : Char) (after : Option Char) : Bool :=
  c.isUpper && (before.isLower || before.isDigit || before.isUpper && after.any Char.isLower)

def separateWords (before : Char) : List Char → List Char
  | [] => []
  | c :: cs =>
    if startsWord before c cs.head? then '_' :: c :: separateWords c cs
    else c :: separateWords c cs

def snakeCase (s : String) : String :=
  match joinIpVersions s.toList with
  | [] => ""
  | c :: cs => lower (String.ofList (c :: separateWords c cs))

end WebAcl.Text
