import WebAcl.Text.Quoted

namespace WebAcl.Text.Utf8

inductive Defect where
  | badStart
  | badContinuation
  | truncated
  deriving DecidableEq, Repr

structure Fault where
  bytes : List UInt8
  position : Nat
  defect : Defect
  deriving DecidableEq, Repr

def Defect.message : Defect → String
  | badStart => "invalid start byte"
  | badContinuation => "invalid continuation byte"
  | truncated => "unexpected end of data"

/-- Positions count bytes. The bytes of a character that is cut short at the end are looked at on
their own. -/
def Fault.message (f : Fault) : String :=
  let first := if f.defect = .truncated then 0 else f.position
  let place := match f.bytes with
    | [b] => s!"byte 0x{String.ofList (hexDigits 2 b.toNat)} in position {first}"
    | bs => s!"bytes in position {first}-{first + bs.length - 1}"
  s!"'utf-8' codec can't decode {place}: {f.defect.message}"

def tailLength? (a : UInt8) : Option Nat :=
  if a < 0x80 then some 0
  else if a < 0xc2 then none
  else if a < 0xe0 then some 1
  else if a < 0xf0 then some 2
  else if a < 0xf5 then some 3
  else none

def mayFollow (a b : UInt8) : Bool :=
  let least : UInt8 := if a = 0xe0 then 0xa0 else if a = 0xf0 then 0x90 else 0x80
  let most : UInt8 := if a = 0xed then 0x9f else if a = 0xf4 then 0x8f else 0xbf
  least ≤ b && b ≤ most

def isTail (b : UInt8) : Bool :=
  0x80 ≤ b && b ≤ 0xbf

def join (high : Nat) (tail : List UInt8) : Char :=
  Char.ofNat (tail.foldl (fun n b ↦ n * 64 + b.toNat % 64) high)

inductive Start where
  | char (c : Char) (size : Nat)
  | fault (bytes : List UInt8) (defect : Defect)

def start (a : UInt8) (rest : List UInt8) : Start :=
  match tailLength? a, rest with
  | none, _ => .fault [a] .badStart
  | some 0, _ => .char (Char.ofNat a.toNat) 1
  | some _, [] => .fault [a] .truncated
  | some 1, b :: _ =>
    if mayFollow a b then .char (join (a.toNat % 32) [b]) 2 else .fault [a] .badContinuation
  | some 2, b :: rest =>
    if !mayFollow a b then .fault [a] .badContinuation
    else match rest with
      | [] => .fault [a, b] .truncated
      | c :: _ =>
        if isTail c then .char (join (a.toNat % 16) [b, c]) 3
        else .fault [a, b] .badContinuation
  | some _, b :: rest =>
    if !mayFollow a b then .fault [a] .badContinuation
    else match rest with
      | [] => .fault [a, b] .truncated
      | c :: rest =>
        if !isTail c then .fault [a, b] .badContinuation
        else match rest with
          | [] => .fault [a, b, c] .truncated
          | d :: _ =>
            if isTail d then .char (join (a.toNat % 8) [b, c, d]) 4
            else .fault [a, b, c] .badContinuation

/-- The characters of the bytes from a position on, up to the first fault. The first `skip` bytes
belong to a character that has been read. -/
def charsFrom (position skip : Nat) : List UInt8 → List Char × Option Fault
  | [] => ([], none)
  | a :: rest =>
    match skip with
    | skip + 1 => charsFrom (position + 1) skip rest
    | 0 =>
      match start a rest with
      | .char c size =>
        let (cs, fault) := charsFrom (position + 1) (size - 1) rest
        (c :: cs, fault)
      | .fault bytes defect => ([], some ⟨bytes, position, defect⟩)

def chars (bytes : List UInt8) : List Char × Option Fault := charsFrom 0 0 bytes

def decode? (bytes : List UInt8) : Option String :=
  match chars bytes with
  | (cs, none) => some (String.ofList (held cs))
  | _ => none

def encodeCode (n : Nat) : List UInt8 :=
  let tail := fun k ↦ (0x80 + (n / Nat.pow 64 k) % 64).toUInt8
  if n < 0x80 then [n.toUInt8]
  else if n < 0x800 then [(0xc0 + n / 64).toUInt8, tail 0]
  else if n < 0x10000 then [(0xe0 + n / 0x1000).toUInt8, tail 1, tail 0]
  else [(0xf0 + n / 0x40000).toUInt8, tail 2, tail 1, tail 0]

/-- The bytes of a text; none if it holds half of a pair. -/
def encode? (s : String) : Option (List UInt8) :=
  let codes := codesOf s.toList
  if codes.any isHalfCode then none else some (codes.flatMap encodeCode)

end WebAcl.Text.Utf8
