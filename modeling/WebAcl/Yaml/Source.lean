import WebAcl.Text.Lines
import WebAcl.Yaml.Cursor

namespace WebAcl.Yaml

open Text

/-- A text as far as it can be read, and what is wrong behind it. -/
structure Source where
  text : List Char
  fault : Option Fault := none

def chunkSize : Nat := 8192

/-- The number of characters that are read at a time. The first time it is twice as many. -/
def readSize : Nat := 4096

def partsOf {α : Type} (size : Nat) (xs : List α) : Nat → List (List α)
  | 0 => []
  | fuel + 1 => if xs.isEmpty then [] else xs.take size :: partsOf size (xs.drop size) fuel

/-- Takes a carriage return off the end, to which a line feed may still belong. -/
def holdReturn (cs : List Char) : List Char × List Char :=
  if cs.getLast? = some '\r' then (cs.dropLast, ['\r']) else (cs, [])

def decodeChunks (bytes : List UInt8) (held : List Char) :
    List (List UInt8) → List Char × Option Utf8.Fault
  | [] => if bytes.isEmpty then (unifyLineEnds held, none) else ([], some ⟨bytes, 0, .truncated⟩)
  | chunk :: chunks =>
    -- an incomplete character and a carriage return at the end are kept for the next chunk
    let (read, fault) := Utf8.chars (bytes ++ chunk)
    let (cs, held) := holdReturn (held ++ read)
    let continued := fun kept ↦
      let (more, fault) := decodeChunks kept held chunks
      (unifyLineEnds cs ++ more, fault)
    match fault with
    | none => continued []
    | some f => if f.defect = .truncated then continued f.bytes else ([], some f)

def isAllowed (c : Char) : Bool :=
  let n := c.toNat
  n == 0x9 || n == 0xa || n == 0xd || (0x20 ≤ n && n ≤ 0x7e) || n == 0x85 ||
    (0xa0 ≤ n && n ≤ 0xd7ff) || (0xe000 ≤ n && n ≤ 0xfffd) || 0x10000 ≤ n

namespace Source

def ofPortions (fault : Option Fault) : List (List Char) → Source
  | [] => ⟨[], fault⟩
  | p :: ps =>
    if p.all isAllowed then
      let s := ofPortions fault ps
      ⟨p ++ s.text, s.fault⟩
    else ⟨[], some .malformed⟩

/-- The source that decoded characters make. Of characters before a fault, only whole portions are
read. -/
def ofChars (cs : List Char) (fault : Option Fault) : Source :=
  let first := cs.take (2 * readSize)
  let portions := first :: partsOf readSize (cs.drop first.length) cs.length
  ofPortions fault (if fault.isNone then portions else
    (if first.length = 2 * readSize then [first] else []) ++
      (portions.drop 1).filter (·.length = readSize))

def ofBytes (bytes : List UInt8) : Source :=
  let (cs, fault) := decodeChunks [] [] (partsOf chunkSize bytes bytes.length)
  ofChars cs (fault.map fun f ↦ .crash (.undecodable f))

end Source

end WebAcl.Yaml
