import WebAcl.Number.Binary64
import WebAcl.Text.Blank
import WebAcl.Text.Digit
import WebAcl.Text.Identifier
import WebAcl.Text.Quoted

namespace WebAcl.Number

open Text

def isWritable (i : Int) : Bool := i.natAbs < Nat.pow 10 digitLimit

/-- An integer has at most 64 bits, one of them for the sign. -/
def isShort (i : Int) : Bool :=
  -0x8000000000000000 ≤ i && i < 0x8000000000000000

inductive IntegerFault where
  | malformed
  | tooLong (digits : Nat)
  deriving DecidableEq, Repr

def IntegerFault.message (base : Nat) (cs : List Char) : IntegerFault → String
  | .malformed =>
    s!"invalid literal for int() with base {base}: " ++ quoted (String.ofList cs)
  | .tooLong digits =>
    s!"Exceeds the limit ({digitLimit} digits) for integer string conversion: value has " ++
      s!"{digits} digits; use sys.set_int_max_str_digits() to increase the limit"

def digitIn? (base : Nat) (c : Char) : Option Nat :=
  ((digitValue? c).or (if isHexDigit c then some (digitOf c) else none)).filter (· < base)

/-- Digits, with single underscores between them. Gives the number of digits, their value and the
rest. -/
def readDigits (base count value : Nat) : List Char → Option (Nat × Nat × List Char)
  | [] => some (count, value, [])
  | '_' :: c :: rest =>
    (digitIn? base c).bind fun d ↦ readDigits base (count + 1) (value * base + d) rest
  | c :: rest =>
    match digitIn? base c with
    | some d => readDigits base (count + 1) (value * base + d) rest
    | none => if c = '_' then none else some (count, value, c :: rest)

def takeSign : List Char → Bool × List Char
  | '-' :: rest => (true, rest)
  | '+' :: rest => (false, rest)
  | cs => (false, cs)

def takeBaseMark (base : Nat) : List Char → List Char
  | '0' :: c :: rest =>
    let letter := if base = 16 then 'x' else if base = 8 then 'o' else 'b'
    if base ≠ 10 ∧ c.toLower = letter then
      match rest with
      | '_' :: rest => rest
      | _ => rest
    else '0' :: c :: rest
  | cs => cs

def readInteger (base : Nat) (cs : List Char) : Except IntegerFault Int := do
  let (negative, cs) := takeSign (cs.dropWhile isSpacing)
  let cs := takeBaseMark base cs
  if cs.head? = some '_' then throw .malformed
  match readDigits base 0 0 cs with
  | none => throw .malformed
  | some (count, value, rest) =>
    if base = 10 ∧ digitLimit < count then throw (.tooLong count)
    if count = 0 ∨ ¬ rest.all isSpacing then throw .malformed
    return if negative then -(value : Int) else value

def spanDigits (cs : List Char) : List Char × List Char :=
  let ds := cs.takeWhile fun c ↦ (digitValue? c).isSome
  (ds.map fun c ↦ Char.ofNat (0x30 + (digitValue? c).getD 0), cs.drop ds.length)

def readExponent? : List Char → Option Int
  | [] => some 0
  | e :: rest =>
    if e = 'e' ∨ e = 'E' then
      let (negative, rest) := takeSign rest
      let (ds, rest) := spanDigits rest
      if ds.isEmpty ∨ ¬ rest.isEmpty then none
      else some (if negative then -(numeral 10 ds : Int) else numeral 10 ds)
    else none

def readFloat? (cs : List Char) : Option Binary64 := do
  let (negative, cs) := takeSign (trimBy isSpacing cs)
  let word := String.ofList (cs.map Char.toLower)
  if word = "inf" ∨ word = "infinity" then return .infinite negative
  if word = "nan" then return .nan
  let (whole, rest) := spanDigits cs
  let (fraction, rest) := match rest with
    | '.' :: rest => spanDigits rest
    | _ => ([], rest)
  if whole.isEmpty ∧ fraction.isEmpty then none
  let exponent ← readExponent? rest
  return .ofDecimal negative (numeral 10 (whole ++ fraction)) (exponent - fraction.length)

end WebAcl.Number
