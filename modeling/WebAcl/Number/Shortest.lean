import WebAcl.Number.Binary64

namespace WebAcl.Number

/-- The reals that round to a number, as `low / scale` to `high / scale`, with the number itself at
`middle / scale`. The ends belong to it when the mantissa is even. -/
structure RoundingInterval where
  low : Nat
  middle : Nat
  high : Nat
  scale : Nat
  closed : Bool

def RoundingInterval.of (m : Nat) (e : Int) : RoundingInterval :=
  let below := if m = 0x10000000000000 ∧ -1074 < e then 1 else 2
  let up : Nat := if 2 ≤ e then Nat.pow 2 (e - 2).toNat else 1
  let down : Nat := if 2 ≤ e then 1 else Nat.pow 2 (2 - e).toNat
  ⟨(4 * m - below) * up, 4 * m * up, (4 * m + 2) * up, down, m % 2 = 0⟩

def RoundingInterval.has (r : RoundingInterval) (n d : Nat) : Bool :=
  if r.closed then r.low * d ≤ n * r.scale && n * r.scale ≤ r.high * d
  else r.low * d < n * r.scale && n * r.scale < r.high * d

def tenPower (k : Int) : Nat × Nat :=
  if 0 ≤ k then (Nat.pow 10 k.toNat, 1) else (1, Nat.pow 10 (-k).toNat)

def floorLog10 (n d : Nat) (start : Int) : Nat → Int
  | 0 => start
  | fuel + 1 =>
    let (p, q) := tenPower start
    if p * d ≤ n * q then start else floorLog10 n d (start - 1) fuel

/-- The number's neighbours on the grid of multiples of `10 ^ k`: the one in the interval, of two
the nearer, of two at one distance the even one. -/
def RoundingInterval.onGrid? (r : RoundingInterval) (k : Int) : Option Nat :=
  let (p, q) := tenPower k
  let n := r.middle * q
  let d := r.scale * p
  let under := n / d
  let hitUnder := r.has (under * p) q
  let hitOver := r.has ((under + 1) * p) q
  if hitUnder && hitOver then some (Binary64.roundHalfEven n d)
  else if hitUnder then some under
  else if hitOver then some (under + 1)
  else none

def RoundingInterval.search (r : RoundingInterval) (k : Int) : Nat → Nat × Int
  | 0 => (r.middle / r.scale, 0)
  | fuel + 1 =>
    match r.onGrid? k with
    | some n => (n, k)
    | none => r.search (k - 1) fuel

/-- Decimal digits of a positive finite number without trailing zeros, and the position of the
point relative to the first digit. -/
def shortestDigits (m : Nat) (e : Int) : List Char × Int :=
  let r := RoundingInterval.of m e
  let k := floorLog10 r.middle r.scale (((r.middle.log2 : Int) - r.scale.log2) * 3 / 10 + 2) 400
  let (n, k) := r.search k 20
  let ds := Nat.toDigits 10 n
  ((ds.reverse.dropWhile (· == '0')).reverse, ds.length + k)

/-- Text of a positive finite number: positional when the point lies at most 16 digits to the right
and less than 4 to the left of the first digit, with an exponent otherwise. -/
def positiveText (m : Nat) (e : Int) : List Char :=
  let (ds, point) := shortestDigits m e
  if point ≤ -4 ∨ 16 < point then
    let power := point - 1
    let mark := if power < 0 then ['e', '-'] else ['e', '+']
    let digits := Nat.toDigits 10 power.natAbs
    let fraction := match ds.drop 1 with
      | [] => []
      | rest => '.' :: rest
    ds.take 1 ++ fraction ++ mark ++ List.replicate (2 - digits.length) '0' ++ digits
  else if point ≤ 0 then '0' :: '.' :: (List.replicate (-point).toNat '0' ++ ds)
  else
    let whole := ds.take point.toNat ++ List.replicate (point.toNat - ds.length) '0'
    let fraction := match ds.drop point.toNat with
      | [] => ['0']
      | rest => rest
    whole ++ '.' :: fraction

def Binary64.toText : Binary64 → String
  | .nan => "nan"
  | .infinite negative => if negative then "-inf" else "inf"
  | .finite negative m e =>
    let body := if m = 0 then ['0', '.', '0'] else positiveText m e
    String.ofList (if negative then '-' :: body else body)

end WebAcl.Number
