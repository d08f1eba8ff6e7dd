import WebAcl.Number.Binary64
import WebAcl.Text.Digit

namespace WebAcl.Number

def withDecimals (keepPoint : Bool) (whole decimals : List Char) : List Char :=
  if decimals.isEmpty && !keepPoint then whole else whole ++ '.' :: decimals

def fixedText (keepPoint : Bool) (decimals n : Nat) : List Char :=
  withDecimals keepPoint (Nat.toDigits 10 n) (List.replicate decimals '0')

def leadingDigits (count n : Nat) : List Char × Nat :=
  if n = 0 then (List.replicate count '0', 0)
  else
    let length := (Nat.toDigits 10 n).length
    if length ≤ count then (Nat.toDigits 10 (n * Nat.pow 10 (count - length)), length - 1)
    else
      let rounded := Binary64.roundHalfEven n (Nat.pow 10 (length - count))
      if rounded < Nat.pow 10 count then (Nat.toDigits 10 rounded, length - 1)
      else (Nat.toDigits 10 (rounded / 10), length)

def exponentText (keepPoint : Bool) (digits : List Char) (exponent : Nat) : List Char :=
  let power := Nat.toDigits 10 exponent
  withDecimals keepPoint (digits.take 1) (digits.drop 1) ++ ['e', '+'] ++
    List.replicate (2 - power.length) '0' ++ power

def scientificText (keepPoint : Bool) (decimals n : Nat) : List Char :=
  let (digits, exponent) := leadingDigits (decimals + 1) n
  exponentText keepPoint digits exponent

/-- The given number of digits, with an exponent only if they do not reach the point. Zeros at the
end of the decimals are dropped, unless `keepZeros`. -/
def generalText (keepZeros : Bool) (count n : Nat) : List Char :=
  let (digits, exponent) := leadingDigits (max count 1) n
  let shorten := fun ds : List Char ↦
    if keepZeros then ds else (ds.reverse.dropWhile (· == '0')).reverse
  if exponent < max count 1 then
    withDecimals keepZeros (digits.take (exponent + 1)) (shorten (digits.drop (exponent + 1)))
  else exponentText keepZeros (digits.take 1 ++ shorten (digits.drop 1)) exponent

end WebAcl.Number
