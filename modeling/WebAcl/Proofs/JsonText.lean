import WebAcl.Value.Basic
import WebAcl.Yaml.Token
import Mathlib.Data.List.Chain

namespace WebAcl.JsonText

open Number Text

instance decidableForallHead (p : Char → Prop) [DecidablePred p] (c : Option Char) :
    Decidable (∀ d ∈ c, p d) := Option.decidableForallMem c

structure Gap where
  chars : List Char
  blank : ∀ c ∈ chars, c ∈ [' ', '\t', '\n', '\r']

structure Digits where
  chars : List Char
  nonempty : chars ≠ []
  digit : ∀ c ∈ chars, c.isDigit = true

structure Exponent where
  mark : Char
  isMark : mark = 'e' ∨ mark = 'E'
  /-- The sign, if one is written; true stands for minus. -/
  sign : Option Bool
  digits : Digits

/-- A number. Its whole part has no superfluous zero. -/
structure Numeral where
  negative : Bool
  whole : Digits
  start : whole.chars.head? = some '0' → whole.chars = ['0']
  fraction : Option Digits
  exponent : Option Exponent

def signText (negative : Bool) : Char := if negative then '-' else '+'

def Exponent.text (e : Exponent) : List Char :=
  e.mark :: ((e.sign.map signText).toList ++ e.digits.chars)

def Exponent.value (e : Exponent) : Int :=
  if e.sign = some true then -(numeral 10 e.digits.chars : Int) else numeral 10 e.digits.chars

namespace Numeral

def fractionChars (n : Numeral) : List Char := (n.fraction.map Digits.chars).getD []

def fractionText (n : Numeral) : List Char := (n.fraction.map fun d ↦ '.' :: d.chars).getD []

def exponentText (n : Numeral) : List Char := (n.exponent.map Exponent.text).getD []

def unsigned (n : Numeral) : List Char := n.whole.chars ++ (n.fractionText ++ n.exponentText)

def text (n : Numeral) : List Char := if n.negative then '-' :: n.unsigned else n.unsigned

def isInteger (n : Numeral) : Bool := n.fraction.isNone && n.exponent.isNone

/-- A number with neither fraction nor exponent is an integer, any other the nearest float. -/
def value (n : Numeral) : Value :=
  if n.isInteger then
    .int (if n.negative then -(numeral 10 n.whole.chars : Int) else numeral 10 n.whole.chars)
  else .float (Binary64.ofDecimal n.negative (numeral 10 (n.whole.chars ++ n.fractionChars))
    (((n.exponent.map Exponent.value).getD 0) - n.fractionChars.length))

/-- In YAML, a float has a fraction, and its exponent a sign; longer integers are not read. -/
def IsYaml (n : Numeral) : Prop :=
  (n.isInteger = true → n.whole.chars.length ≤ digitLimit) ∧
    ∀ e, n.exponent = some e → n.fraction.isSome = true ∧ e.sign.isSome = true

end Numeral

def shortEscapes : List (Char × Nat) := [
  ('"', 0x22), ('\\', 0x5c), ('/', 0x2f), ('b', 8), ('f', 12), ('n', 10), ('r', 13), ('t', 9)]

inductive Piece where
  | char (c : Char) (h : 0x20 ≤ c.toNat ∧ c ≠ '"' ∧ c ≠ '\\')
  | short (letter : Char) (code : Nat) (h : (letter, code) ∈ shortEscapes)
  | unit (digits : List Char) (h : digits.length = 4 ∧ ∀ d ∈ digits, isHexDigit d = true)

namespace Piece

def text : Piece → List Char
  | char c _ => [c]
  | short letter _ _ => ['\\', letter]
  | unit digits _ => '\\' :: 'u' :: digits

def chars : Piece → List Char
  | char c _ => hold c
  | short _ code _ => [Char.ofNat code]
  | unit digits _ => charsOfCode (numeral 16 digits)

def pairs : Piece → Piece → Bool
  | unit high _, unit low _ =>
    0xd800 ≤ numeral 16 high && numeral 16 high < 0xdc00 && 0xdc00 ≤ numeral 16 low &&
      numeral 16 low < 0xe000
  | _, _ => false

def IsYaml : Piece → Prop
  | char c _ => (c.toNat < 0x7f ∨ 0xa0 ≤ c.toNat) ∧ c.toNat ≠ 0x2028 ∧ c.toNat ≠ 0x2029 ∧
      c.toNat ≠ 0xfffe ∧ c.toNat ≠ 0xffff
  | _ => True

end Piece

def textOf (ps : List Piece) : List Char := ps.flatMap Piece.text

/-- The characters of a string. The two halves of a character are joined. -/
def charsOf : List Piece → List Char
  | .unit high h :: .unit low l :: ps =>
    if (Piece.unit high h).pairs (.unit low l) then
      charsOfCode (joinUnits (numeral 16 high) (numeral 16 low)) ++ charsOf ps
    else charsOfCode (numeral 16 high) ++ charsOf (.unit low l :: ps)
  | p :: ps => p.chars ++ charsOf ps
  | [] => []

def stringOf (ps : List Piece) : String := String.ofList (charsOf ps)

/-- YAML does not join halves. -/
def StringIsYaml (ps : List Piece) : Prop :=
  (∀ p ∈ ps, p.IsYaml) ∧ ps.IsChain fun p q ↦ p.pairs q = false

end JsonText

open JsonText in
mutual

inductive JsonText where
  | null
  | bool (b : Bool)
  | number (n : Numeral)
  | string (ps : List Piece)
  /-- The white space counts if there are no items. -/
  | array (gap : Gap) (items : JsonText.Items)
  | object (gap : Gap) (entries : JsonText.Entries)

inductive JsonText.Items where
  | nil
  | cons (before : Gap) (item : JsonText) (after : Gap) (rest : JsonText.Items)

inductive JsonText.Entries where
  | nil
  | cons (before : Gap) (key : List Piece) (colon : Gap) (between : Gap) (value : JsonText)
    (after : Gap) (rest : JsonText.Entries)

end

namespace JsonText

section Text

variable (layout : List Char → List Char)

def quotedText (ps : List Piece) : List Char := '"' :: (textOf ps ++ ['"'])

def comma (opening : Option Gap) : List Char := if opening.isSome then [] else [',']

mutual

def text : JsonText → List Char
  | null => "null".toList
  | bool b => if b then "true".toList else "false".toList
  | number n => n.text
  | string ps => quotedText ps
  | array gap items => '[' :: (items.text (some gap) ++ [']'])
  | object gap entries => '\x7b' :: (entries.text (some gap) ++ ['\x7d'])

def Items.text (opening : Option Gap) : Items → List Char
  | .nil => (opening.map fun gap ↦ layout gap.chars).getD []
  | .cons before item after rest =>
    comma opening ++ (layout before.chars ++ (item.text ++ (layout after.chars ++ rest.text none)))

def Entries.text (opening : Option Gap) : Entries → List Char
  | .nil => (opening.map fun gap ↦ layout gap.chars).getD []
  | .cons before key colon between value after rest =>
    comma opening ++ (layout before.chars ++ (quotedText key ++ (layout colon.chars ++
      (':' :: (layout between.chars ++ (value.text ++ (layout after.chars ++ rest.text none)))))))

end

end Text

mutual

/-- The value that JSON gives to a text. Of several entries with one key the last one counts. -/
def value : JsonText → Value
  | null => .null
  | bool b => .bool b
  | number n => n.value
  | string ps => .str (stringOf ps)
  | array _ items => .list items.values
  | object _ entries => .ofFields entries.fields

def Items.values : Items → List Value
  | .nil => []
  | .cons _ item _ rest => item.value :: rest.values

def Entries.fields : Entries → List (String × Value)
  | .nil => []
  | .cons _ key _ _ value _ rest => (stringOf key, value.value) :: rest.fields

end

mutual

def nesting : JsonText → Nat
  | array _ items => items.nesting + 1
  | object _ entries => entries.nesting + 1
  | _ => 0

def Items.nesting : Items → Nat
  | .nil => 0
  | .cons _ item _ rest => max item.nesting rest.nesting

def Entries.nesting : Entries → Nat
  | .nil => 0
  | .cons _ _ _ _ value _ rest => max value.nesting rest.nesting

end

/-- Tabs are no white space of YAML. -/
def Gap.IsYaml (g : Gap) : Prop := '\t' ∉ g.chars

mutual

/-- A text that has the same meaning in YAML, unless it is nested too deep. A key stands on one line
with its colon and not too far before it. -/
def IsYaml : JsonText → Prop
  | null | bool _ => True
  | number n => n.IsYaml
  | string ps => StringIsYaml ps
  | array gap items => gap.IsYaml ∧ items.IsYaml
  | object gap entries => gap.IsYaml ∧ entries.IsYaml

def Items.IsYaml : Items → Prop
  | .nil => True
  | .cons before item after rest => before.IsYaml ∧ item.IsYaml ∧ after.IsYaml ∧ rest.IsYaml

def Entries.IsYaml : Entries → Prop
  | .nil => True
  | .cons before key colon between value after rest =>
    before.IsYaml ∧ StringIsYaml key ∧ (∀ c ∈ colon.chars, c = ' ') ∧
      (quotedText key).length + colon.chars.length ≤ Yaml.Lexing.keyReach ∧ between.IsYaml ∧
      value.IsYaml ∧
        after.IsYaml ∧ rest.IsYaml

end

instance (g : Gap) : Decidable g.IsYaml := inferInstanceAs (Decidable ('\t' ∉ g.chars))

instance (n : Numeral) : Decidable n.IsYaml :=
  inferInstanceAs (Decidable (_ ∧
    ∀ e ∈ n.exponent, n.fraction.isSome = true ∧ e.sign.isSome = true))

instance : (p : Piece) → Decidable p.IsYaml
  | .char c _ => inferInstanceAs (Decidable ((c.toNat < 0x7f ∨ 0xa0 ≤ c.toNat) ∧ _))
  | .short _ _ _ | .unit _ _ => .isTrue trivial

instance (ps : List Piece) : Decidable (StringIsYaml ps) :=
  inferInstanceAs (Decidable ((∀ p ∈ ps, p.IsYaml) ∧ ps.IsChain fun p q ↦ p.pairs q = false))

mutual

def decideYaml : (t : JsonText) → Decidable t.IsYaml
  | null | bool _ => .isTrue trivial
  | number n => inferInstanceAs (Decidable n.IsYaml)
  | string ps => inferInstanceAs (Decidable (StringIsYaml ps))
  | array gap items =>
    have := items.decideYaml
    inferInstanceAs (Decidable (gap.IsYaml ∧ items.IsYaml))
  | object gap entries =>
    have := entries.decideYaml
    inferInstanceAs (Decidable (gap.IsYaml ∧ entries.IsYaml))

def Items.decideYaml : (items : Items) → Decidable items.IsYaml
  | .nil => .isTrue trivial
  | .cons _ item _ rest =>
    have := item.decideYaml
    have := rest.decideYaml
    inferInstanceAs (Decidable (_ ∧ item.IsYaml ∧ _ ∧ rest.IsYaml))

def Entries.decideYaml : (entries : Entries) → Decidable entries.IsYaml
  | .nil => .isTrue trivial
  | .cons _ _ _ _ value _ rest =>
    have := value.decideYaml
    have := rest.decideYaml
    inferInstanceAs (Decidable (_ ∧ _ ∧ _ ∧ _ ∧ _ ∧ value.IsYaml ∧ _ ∧ rest.IsYaml))

end

instance (t : JsonText) : Decidable t.IsYaml := t.decideYaml

end JsonText

end WebAcl
