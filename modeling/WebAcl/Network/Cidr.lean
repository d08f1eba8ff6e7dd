import WebAcl.Policy.Choice
import WebAcl.Text.Digit

namespace WebAcl

open Text

structure Cidr where
  version : IpVersion
  address : Nat
  length : Nat
  deriving DecidableEq, Repr

namespace Cidr

def octet? (cs : List Char) : Option Nat :=
  if 3 < cs.length || (cs.head? == some '0' && cs.length != 1) then none
  else (decimal? cs).filter (· ≤ 255)

def address4? (cs : List Char) : Option Nat :=
  match cs.splitOn '.' with
  | [a, b, c, d] => do
    let a ← octet? a
    let b ← octet? b
    let c ← octet? c
    let d ← octet? d
    return ((a * 256 + b) * 256 + c) * 256 + d
  | _ => none

def group? (cs : List Char) : Option Nat :=
  if cs.isEmpty || 4 < cs.length || !cs.all isHexDigit then none else some (numeral 16 cs)

/-- Groups separated by colons. The last two may be written as an IPv4 address if `tail` says so. -/
def groups? (tail : Bool) : List (List Char) → Option (List Nat)
  | [] => some []
  | [last] =>
    if tail && last.contains '.' then
      (address4? last).map fun n ↦ [n / 65536, n % 65536]
    else (group? last).map ([·])
  | g :: gs => do
    let head ← group? g
    let rest ← groups? tail gs
    return head :: rest

def groupsOf? (tail : Bool) (cs : List Char) : Option (List Nat) :=
  if cs.isEmpty then some [] else groups? tail (cs.splitOn ':')

def splitGap? : List Char → Option (List Char × List Char)
  | [] => none
  | ':' :: ':' :: rest => some ([], rest)
  | c :: rest => (splitGap? rest).map fun (before, after) ↦ (c :: before, after)

def joinGroups (gs : List Nat) : Nat :=
  gs.foldl (fun n g ↦ n * 65536 + g) 0

/-- An IPv6 address without scope: eight groups, or fewer around a double colon that stands for at
least one group of zeros. -/
def address6? (cs : List Char) : Option Nat :=
  match splitGap? cs with
  | some (before, after) => do
    let high ← groupsOf? false before
    let low ← groupsOf? true after
    if high.length + low.length < 8 then
      return joinGroups (high ++ List.replicate (8 - high.length - low.length) 0 ++ low)
    else none
  | none => (groupsOf? true cs).bind fun gs ↦ if gs.length = 8 then some (joinGroups gs) else none

/-- Removes the scope of an IPv6 address, which follows a percent sign and is not empty. -/
def withoutScope? (cs : List Char) : Option (List Char) :=
  match cs.splitOn '%' with
  | [address] => some address
  | [address, scope] => if scope.isEmpty then none else some address
  | _ => none

def length? (width : Nat) (cs : List Char) : Option Nat :=
  (decimal? cs).filter (· ≤ width)

/-- The number of leading ones of a 32-bit mask in which no one follows a zero. -/
def maskLength? (mask : Nat) : Option Nat :=
  (List.range 33).find? fun n ↦ mask == 0x100000000 - Nat.pow 2 (32 - n)

def length4? (cs : List Char) : Option Nat :=
  (length? 32 cs).or ((address4? cs).bind fun mask ↦
    (maskLength? mask).or (maskLength? (0xffffffff - mask)))

def read4? (address bits : List Char) : Option Cidr := do
  let a ← address4? address
  let n ← length4? bits
  return ⟨.v4, a, n⟩

def read6? (address bits : List Char) : Option Cidr := do
  let a ← (withoutScope? address).bind address6?
  let n ← length? 128 bits
  return ⟨.v6, a, n⟩

def read? (cs : List Char) : Option Cidr :=
  match cs.splitOn '/' with
  | [address, bits] => (read4? address bits).or (read6? address bits)
  | _ => none

end Cidr

end WebAcl
