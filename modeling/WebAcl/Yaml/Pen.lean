import WebAcl.Text.Quoted
import WebAcl.Yaml.Cursor
import WebAcl.Yaml.Tag

namespace WebAcl.Yaml

open Text

def lineWidth : Nat := 80

/-- What has been written, the last character first. `spaced` says that a space is not needed before
the next token, `fresh` that nothing but margin has been written on the line. -/
structure Pen where
  written : List Char := []
  column : Nat := 0
  spaced : Bool := true
  fresh : Bool := true

namespace Pen

def write (p : Pen) (cs : List Char) : Pen :=
  { p with written := cs.reverse ++ p.written, column := p.column + cs.length }

def token (p : Pen) (apart : Bool) (cs : List Char) : Pen :=
  { p.write (if apart && !p.spaced then ' ' :: cs else cs) with spaced := false, fresh := false }

def bracket (p : Pen) (c : Char) : Pen :=
  { p.token true [c] with spaced := true }

def lineBreak (p : Pen) : Pen :=
  { written := '\n' :: p.written, column := 0, spaced := true, fresh := true }

def indent (p : Pen) (margin : Nat) : Pen :=
  let p := if !p.fresh || margin < p.column || (p.column == margin && !p.spaced) then p.lineBreak
    else p
  if p.column < margin then
    { p.write (List.replicate (margin - p.column) ' ') with spaced := true }
  else p

def isFull (p : Pen) : Bool := lineWidth < p.column

def resume (p : Pen) (margin : Nat) : Pen :=
  { p.indent margin with spaced := false, fresh := false }

end Pen

/-- Characters that fall into one class, and whether it is the class of the spaces, of the line
breaks or of the rest. -/
inductive Run where
  | spaces (count : Nat)
  | breaks (count : Nat)
  | word (cs : List Char)

def Run.cons (c : Char) (runs : List Run) : List Run :=
  if c = ' ' then match runs with
    | .spaces n :: rest => .spaces (n + 1) :: rest
    | _ => .spaces 1 :: runs
  else if c = '\n' then match runs with
    | .breaks n :: rest => .breaks (n + 1) :: rest
    | _ => .breaks 1 :: runs
  else match runs with
    | .word cs :: rest => .word (c :: cs) :: rest
    | _ => .word [c] :: runs

def runsOf (cs : List Char) : List Run :=
  cs.foldr Run.cons []

namespace Pen

def plainRuns (margin : Nat) (mayBreak : Bool) (p : Pen) : List Run → Pen
  | [] => p
  | .spaces n :: rest =>
    plainRuns margin mayBreak (if n = 1 && p.isFull && mayBreak then p.resume margin
      else p.write (List.replicate n ' ')) rest
  | .breaks n :: rest => plainRuns margin mayBreak (p.write (List.replicate n '\n')) rest
  | .word cs :: rest => plainRuns margin mayBreak (p.write cs) rest

def plain (p : Pen) (margin : Nat) (mayBreak : Bool) (cs : List Char) : Pen :=
  let p := if p.spaced then p else p.write [' ']
  { p with spaced := false, fresh := false }.plainRuns margin mayBreak (runsOf cs)

/-- The inside of single quotes. A quote is doubled, and so is the first of several line breaks. -/
def singleRuns (margin : Nat) (mayBreak isFirst : Bool) (p : Pen) : List Run → Pen
  | [] => p
  | .spaces n :: rest =>
    let inside := !isFirst && !rest.isEmpty
    singleRuns margin mayBreak false (if n = 1 && p.isFull && mayBreak && inside then
      p.indent margin else p.write (List.replicate n ' ')) rest
  | .breaks n :: rest =>
    let p := (List.range (n + 1)).foldl (fun p _ ↦ p.lineBreak) p
    singleRuns margin mayBreak false (p.indent margin) rest
  | .word cs :: rest =>
    let doubled := cs.flatMap fun c ↦ if c = '\'' then ['\'', '\''] else [c]
    singleRuns margin mayBreak false (p.write doubled) rest

def singleQuoted (p : Pen) (margin : Nat) (mayBreak : Bool) (cs : List Char) : Pen :=
  ((p.token true ['\'']).singleRuns margin mayBreak true (runsOf cs)).token false ['\'']

end Pen

def letterEscapes : List (Nat × Char) := [
  (0x00, '0'), (0x07, 'a'), (0x08, 'b'), (0x09, 't'), (0x0a, 'n'), (0x0b, 'v'), (0x0c, 'f'),
  (0x0d, 'r'), (0x1b, 'e'), (0x22, '"'), (0x5c, '\\'), (0x85, 'N'), (0xa0, '_'), (0x2028, 'L'),
  (0x2029, 'P')]

def doubleEscape? (n : Nat) : Option (List Char) :=
  let upperHex := fun width ↦ (hexDigits width n).map Char.toUpper
  match letterEscapes.lookup n with
  | some letter => some ['\\', letter]
  | none =>
    if 0x20 ≤ n ∧ n ≤ 0x7e then none
    else if n < 0x100 then some ('\\' :: 'x' :: upperHex 2)
    else if n < 0x10000 then some ('\\' :: 'u' :: upperHex 4)
    else some ('\\' :: 'U' :: upperHex 8)

namespace Pen

def breakQuoted (p : Pen) (margin : Nat) (pending : List Char) (next : Option Nat) : Pen :=
  let p := (p.write (pending.reverse ++ ['\\'])).resume margin
  if next = some 0x20 then p.write ['\\'] else p

/-- The inside of double quotes; `pending` holds characters not yet written, the last first. -/
def doubleCodes (margin : Nat) (mayBreak isFirst : Bool) (pending : List Char) (p : Pen) :
    List Nat → Pen
  | [] => p.write pending.reverse
  | n :: rest =>
    let inside := mayBreak && !isFirst && !rest.isEmpty
    match doubleEscape? n with
    | some escape =>
      let p := (p.write pending.reverse).write escape
      let p := if inside && lineWidth + 1 < p.column then p.breakQuoted margin [] rest.head? else p
      doubleCodes margin mayBreak false [] p rest
    | none =>
      let c := Char.ofNat n
      if inside && (c = ' ' || pending.isEmpty) && lineWidth < p.column + pending.length then
        doubleCodes margin mayBreak false [c] (p.breakQuoted margin pending (some n)) rest
      else doubleCodes margin mayBreak false (c :: pending) p rest

def doubleQuoted (p : Pen) (margin : Nat) (mayBreak : Bool) (cs : List Char) : Pen :=
  ((p.token true ['"']).doubleCodes margin mayBreak true [] (codesOf cs)).token false ['"']

end Pen

def isSeparator (c : Char) : Bool := isGap c || c == '\r'

def isIndicatorStart (c : Char) (next : Option Char) : Bool :=
  "#,[]{}&*!|>'\"%@\x60?:".toList.contains c || (c == '-' && next.all isSeparator)

def isIndicatorInside (before c : Char) : Bool :=
  ",?[]{}:".toList.contains c || (c == '#' && isSeparator before)

def hasIndicatorInside (before : Char) : List Char → Bool
  | [] => false
  | c :: cs => isIndicatorInside before c || hasIndicatorInside c cs

def hasIndicator : List Char → Bool
  | [] => true
  | c :: cs => isIndicatorStart c cs.head? || hasIndicatorInside c cs

def startsLikeDocument (cs : List Char) : Bool :=
  ['-', '-', '-'].isPrefixOf cs || ['.', '.', '.'].isPrefixOf cs

def breakThenSpace : List Char → Bool
  | '\n' :: ' ' :: _ => true
  | _ :: cs => breakThenSpace cs
  | [] => false

def spaceThenBreak : List Char → Bool
  | ' ' :: '\n' :: _ => true
  | _ :: cs => spaceThenBreak cs
  | [] => false

def isSpaceOrBreak (c : Char) : Bool := c == ' ' || c == '\n'

def allowsPlain (cs : List Char) : Bool :=
  !hasIndicator cs && !startsLikeDocument cs && cs.all (fun c ↦ ' ' ≤ c && c ≤ '~') &&
    !cs.head?.any isSpaceOrBreak && !cs.getLast?.any isSpaceOrBreak

def allowsSingleQuotes (cs : List Char) : Bool :=
  cs.all (fun c ↦ c == '\n' || (' ' ≤ c && c ≤ '~')) && !breakThenSpace cs && !spaceThenBreak cs

def Pen.text (p : Pen) (margin : Nat) (isKey : Bool) (s : String) : Pen :=
  let cs := s.toList
  if Tag.ofPlain s = .str && allowsPlain cs then p.plain margin (!isKey) cs
  else if allowsSingleQuotes cs && !(isKey && cs.contains '\n') then
    p.singleQuoted margin (!isKey) cs
  else p.doubleQuoted margin (!isKey) cs

end WebAcl.Yaml
