import WebAcl.Text.Printable
import WebAcl.Text.Surrogate

namespace WebAcl.Text

def hexDigits (width n : Nat) : List Char :=
  let ds := Nat.toDigits 16 n
  List.replicate (width - ds.length) '0' ++ ds

def escapeCode (n : Nat) : List Char :=
  if n < 0x100 then '\\' :: 'x' :: hexDigits 2 n
  else if n < 0x10000 then '\\' :: 'u' :: hexDigits 4 n
  else '\\' :: 'U' :: hexDigits 8 n

def quoteChar (q c : Char) : List Char :=
  if c = q ∨ c = '\\' then ['\\', c]
  else if c = '\t' then ['\\', 't']
  else if c = '\n' then ['\\', 'n']
  else if c = '\r' then ['\\', 'r']
  else if isPrintable c then [c]
  else escapeCode c.toNat

def quoteCode (q : Char) (n : Nat) : List Char :=
  if isHalfCode n || n == loneMark then escapeCode n else quoteChar q (Char.ofNat n)

def quoteChars (cs : List Char) : List Char :=
  let q := if cs.contains '\'' && !cs.contains '"' then '"' else '\''
  q :: ((codesOf cs).flatMap (quoteCode q) ++ [q])

def quoted (s : String) : String :=
  String.ofList (quoteChars s.toList)

def asciiOnly (s : String) : String :=
  String.ofList ((codesOf s.toList).flatMap fun n ↦
    if n < 0x80 then [Char.ofNat n] else escapeCode n)

end WebAcl.Text
