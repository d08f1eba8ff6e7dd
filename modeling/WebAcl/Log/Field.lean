import WebAcl.Log
import WebAcl.Number.Notation
import WebAcl.Text.Quoted
import WebAcl.Text.WordPart

namespace WebAcl.Log

open Text Number

inductive NumberStyle where
  | decimal
  | octal
  | hexadecimal
  | scientific
  | fixed
  | general
  deriving DecidableEq, Repr

inductive Conversion where
  | text
  | inspected
  | ascii
  | character
  | number (style : NumberStyle) (capital : Bool)
  deriving DecidableEq, Repr

def Conversion.of? : Char → Option Conversion
  | 's' => some .text
  | 'r' => some .inspected
  | 'a' => some .ascii
  | 'c' => some .character
  | 'd' | 'i' | 'u' => some (.number .decimal false)
  | 'o' => some (.number .octal false)
  | 'x' => some (.number .hexadecimal false)
  | 'X' => some (.number .hexadecimal true)
  | 'e' => some (.number .scientific false)
  | 'E' => some (.number .scientific true)
  | 'f' => some (.number .fixed false)
  | 'F' => some (.number .fixed true)
  | 'g' => some (.number .general false)
  | 'G' => some (.number .general true)
  | _ => none

structure Field where
  name : List Char
  flags : List Char := []
  width : Nat := 0
  precision : Option Nat := none
  conversion : Conversion
  deriving DecidableEq, Repr

inductive Part where
  | text (s : String)
  | number (n : Nat)
  | other (s : String)
  deriving DecidableEq, Repr

namespace Part

/-- The part of a record with a given name. Nothing is known of faults, stacks and arguments; all
records come from one thread. -/
def ofRecord? (time : String) (r : Record) (name : List Char) : Option Part :=
  [("asctime", text time), ("name", text r.logger), ("levelname", text r.level.name),
    ("message", text r.message), ("msg", text r.message), ("levelno", number r.level.severity),
    ("args", other "()"), ("exc_info", other "None"), ("exc_text", other "None"),
    ("stack_info", other "None"), ("threadName", text "MainThread"),
    ("processName", text "MainProcess")].lookup (String.ofList name)

def toText : Part → String
  | text s | other s => s
  | number n => toString n

def inspect : Part → String
  | text s => quoted s
  | p => p.toText

end Part

namespace Field

def isFlag (c : Char) : Bool := "#0+ -".toList.contains c

def has (f : Field) (flag : Char) : Bool := f.flags.contains flag

def sizeLimit : Nat := 0x7fffffff

def takeNumber (cs : List Char) : Nat × List Char :=
  let digits := cs.takeWhile Char.isDigit
  (numeral 10 digits, cs.drop digits.length)

def takeName? (depth : Nat) : List Char → Option (List Char × List Char)
  | [] => none
  | ')' :: cs => match depth with
    | 0 => some ([], cs)
    | depth + 1 => (takeName? depth cs).map fun r ↦ (')' :: r.1, r.2)
  | '(' :: cs => (takeName? (depth + 1) cs).map fun r ↦ ('(' :: r.1, r.2)
  | c :: cs => (takeName? depth cs).map fun r ↦ (c :: r.1, r.2)

def dropSizeLetter : List Char → List Char
  | c :: cs => if c = 'h' ∨ c = 'l' ∨ c = 'L' then cs else c :: cs
  | [] => []

def read? : List Char → Option (Field × List Char)
  | '(' :: cs => do
    let (name, rest) ← takeName? 0 cs
    let flags := rest.takeWhile isFlag
    let (width, rest) := takeNumber (rest.drop flags.length)
    let (precision, rest) := match rest with
      | '.' :: rest => (some (takeNumber rest).1, (takeNumber rest).2)
      | _ => (none, rest)
    if sizeLimit < width ∨ sizeLimit < precision.getD 0 then none
    match dropSizeLetter rest with
    | c :: rest => return (⟨name, flags, width, precision, ← Conversion.of? c⟩, rest)
    | [] => none
  | _ => none

def fill (f : Field) (cs : List Char) : List Char :=
  let padding := List.replicate (f.width - (codesOf cs).length) ' '
  if f.has '-' then cs ++ padding else padding ++ cs

def fillText (f : Field) (s : String) : List Char :=
  let ns := codesOf s.toList
  f.fill ((ns.take (f.precision.getD ns.length)).flatMap charsOfCode)

/-- A number has its sign and the mark of its base before the zeros that fill the field. -/
def fillNumber (f : Field) (mark digits : List Char) : List Char :=
  let sign := if f.has '+' then ['+'] else if f.has ' ' then [' '] else []
  let front := sign ++ mark
  if f.has '0' && !f.has '-' then
    front ++ List.replicate (f.width - front.length - digits.length) '0' ++ digits
  else f.fill (front ++ digits)

def fillInteger (f : Field) (base n : Nat) (mark : String) : List Char :=
  let digits := Nat.toDigits base n
  let zeros := List.replicate (f.precision.getD 0 - digits.length) '0'
  f.fillNumber (if f.has '#' then mark.toList else []) (zeros ++ digits)

def fillReal (f : Field) (write : (keep : Bool) → (precision n : Nat) → List Char) (n : Nat) :
    List Char :=
  f.fillNumber [] (write (f.has '#') (f.precision.getD 6) n)

def showNumber (f : Field) (n : Nat) : NumberStyle → List Char
  | .decimal => f.fillInteger 10 n ""
  | .octal => f.fillInteger 8 n "0o"
  | .hexadecimal => f.fillInteger 16 n "0x"
  | .scientific => f.fillReal scientificText n
  | .fixed => f.fillReal fixedText n
  | .general => f.fillReal generalText n

def show? (f : Field) (p : Part) : Option (List Char) :=
  match f.conversion, p with
  | .text, p => some (f.fillText p.toText)
  | .inspected, p => some (f.fillText p.inspect)
  | .ascii, p => some (f.fillText (asciiOnly p.inspect))
  -- a number stands for the character with its code
  | .character, .number n => some (f.fill (charsOfCode n))
  | .character, .text s =>
    if (codesOf s.toList).length = 1 then some (f.fill s.toList) else none
  | .number style capital, .number n =>
    let cs := f.showNumber n style
    some (if capital then cs.map Char.toUpper else cs)
  | _, _ => none

end Field

end WebAcl.Log
