namespace WebAcl.Text

def isBinaryDigit (c : Char) : Bool := c == '0' || c == '1'

def isOctalDigit (c : Char) : Bool := '0' ≤ c && c ≤ '7'

def isHexDigit (c : Char) : Bool :=
  c.isDigit || ('a' ≤ c && c ≤ 'f') || ('A' ≤ c && c ≤ 'F')

def digitOf (c : Char) : Nat :=
  if c.isDigit then c.toNat - 0x30 else c.toLower.toNat - 0x61 + 10

def numeral (base : Nat) (ds : List Char) : Nat :=
  ds.foldl (fun n d ↦ n * base + digitOf d) 0

/-- Decimal texts with more digits than this are not read as numbers. -/
def digitLimit : Nat := 4300

def decimal? (cs : List Char) : Option Nat :=
  if !cs.isEmpty && cs.all Char.isDigit && cs.length ≤ digitLimit then some (numeral 10 cs)
  else none

end WebAcl.Text
