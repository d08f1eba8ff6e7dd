namespace WebAcl.Number

/-- A finite number is `± mantissa * 2 ^ exponent`. The mantissa is below `2 ^ 53` and reaches
`2 ^ 52` unless the exponent is the least one, `-1074`; zero has exponent `0`. -/
inductive Binary64 where
  | finite (negative : Bool) (mantissa : Nat) (exponent : Int)
  | infinite (negative : Bool)
  | nan
  deriving DecidableEq, Repr

namespace Binary64

def zero (negative : Bool) : Binary64 := finite negative 0 0

def roundHalfEven (n d : Nat) : Nat :=
  let q := n / d
  let r := n % d
  if 2 * r < d ∨ (2 * r = d ∧ q % 2 = 0) then q else q + 1

def unscale (n d : Nat) (e : Int) : Nat × Nat :=
  if 0 ≤ e then (n, d * Nat.pow 2 e.toNat) else (n * Nat.pow 2 (-e).toNat, d)

/-- The greatest `k` with `2 ^ k ≤ n / d`, for positive `n` and `d`. -/
def floorLog2 (n d : Nat) : Int :=
  let k : Int := (n.log2 : Int) - d.log2
  let (n', d') := unscale n d k
  if d' ≤ n' then k else k - 1

def ofRatio (negative : Bool) (n d : Nat) : Binary64 :=
  if n = 0 then zero negative
  else
    let e := max (floorLog2 n d - 52) (-1074)
    let (n', d') := unscale n d e
    let m := roundHalfEven n' d'
    let (m, e) := if m = 0x20000000000000 then (0x10000000000000, e + 1) else (m, e)
    if m = 0 then zero negative
    else if 971 < e then infinite negative
    else finite negative m e

def ofInt (i : Int) : Binary64 := ofRatio (i < 0) i.natAbs 1

def ofDecimal (negative : Bool) (digits : Nat) (scale : Int) : Binary64 :=
  let magnitude : Int := (Nat.toDigits 10 digits).length + scale
  if digits = 0 ∨ magnitude < -330 then zero negative
  else if 330 < magnitude then infinite negative
  else if 0 ≤ scale then ofRatio negative (digits * Nat.pow 10 scale.toNat) 1
  else ofRatio negative digits (Nat.pow 10 (-scale).toNat)

def toRatio? : Binary64 → Option (Int × Nat)
  | finite negative m e =>
    let n : Int := if 0 ≤ e then m * Nat.pow 2 e.toNat else m
    some (if negative then -n else n, if 0 ≤ e then 1 else Nat.pow 2 (-e).toNat)
  | _ => none

def isNegative : Binary64 → Bool
  | finite negative .. => negative
  | infinite negative => negative
  | nan => false

def neg : Binary64 → Binary64
  | finite negative m e => finite (!negative) m e
  | infinite negative => infinite (!negative)
  | nan => nan

def toInt? (x : Binary64) : Option Int :=
  x.toRatio?.bind fun (n, d) ↦ if n % d = 0 then some (n / d) else none

def add (x y : Binary64) : Binary64 :=
  match x.toRatio?, y.toRatio? with
  | some (a, b), some (c, d) =>
    let n := a * d + c * b
    if n = 0 then zero (x.isNegative && y.isNegative) else ofRatio (n < 0) n.natAbs (b * d)
  | some _, none => y
  | none, some _ => x
  | none, none => if x = y then x else nan

/-- Product of two numbers; no operand here is infinite while the other is zero. -/
def mul (x y : Binary64) : Binary64 :=
  let negative := x.isNegative != y.isNegative
  match x.toRatio?, y.toRatio? with
  | some (a, b), some (c, d) => ofRatio negative (a.natAbs * c.natAbs) (b * d)
  | _, _ => if x = nan ∨ y = nan then nan else infinite negative

end Binary64

end WebAcl.Number
