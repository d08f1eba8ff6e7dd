import WebAcl.Value.Basic

namespace WebAcl.Value

/-- A remainder modulo `2 ^ 61 - 1` with a sign, as a word of 64 bits. There is no code for `-1`. -/
def codeWord (negative : Bool) (n : Nat) : Nat :=
  match negative, n with
  | _, 0 => 0
  | true, 1 => 0xfffffffffffffffe
  | true, n => 0x10000000000000000 - n
  | false, n => n

def code? : Value → Option Nat
  | bool b => some b.toNat
  | int i => some (codeWord (i < 0) (i.natAbs % 0x1fffffffffffffff))
  | float (.finite negative m e) =>
    some (codeWord negative (m * Nat.pow 2 (e % 61).toNat % 0x1fffffffffffffff))
  | float (.infinite negative) => some (codeWord negative 314159)
  | _ => none

def freeSlot? (table : Array (Option Nat)) : (fuel : Nat) → (i code : Nat) → Option Nat
  | 0, _, _ => none
  | fuel + 1, i, code =>
    -- unless the end is too close, the path goes through the nine slots that follow
    let run := if i + 9 < table.size then 10 else 1
    match (List.range' i run).find? fun j ↦ (table[j]?).any Option.isNone with
    | some j => some j
    -- then it jumps, at first by what the code says
    | none => freeSlot? table fuel ((i * 5 + 1 + code / 32) % table.size) (code / 32)

def putInSlot (table : Array (Option Nat)) (item : Nat × Nat) : Array (Option Nat) :=
  match freeSlot? table (table.size + 13) (item.1 % table.size) item.1 with
  | some j => table.setIfInBounds j (some item.2)
  | none => table

def slotCount (items : Nat) : Nat :=
  if items ≤ 4 then 8 else Nat.pow 2 ((2 * items).log2 + 1)

/-- The places of codes in the order of a table of slots, more than twice as many as there are
codes. A code takes the first free slot on a path that it gives. -/
def slotOrder (codes : List Nat) : List Nat :=
  (codes.zipIdx.foldl putInSlot (Array.replicate (slotCount codes.length) none)).toList.filterMap id

/-- Numbers as a table of slots lists them. Items that are not all numbers stay as they are. -/
def inSlotOrder (items : List Value) : List Value :=
  match items.mapM code? with
  | none => items
  | some codes =>
    let places := slotOrder codes
    if places.isPerm (List.range items.length) then places.map fun i ↦ items.getD i .null
    else items

theorem inSlotOrder_perm (items : List Value) : (inSlotOrder items).Perm items := by
  have hrange : (List.range items.length).map (fun i ↦ items.getD i .null) = items :=
    List.ext_getElem (by simp) fun i hi _ ↦ by simp_all
  unfold inSlotOrder
  split
  · exact .refl _
  · dsimp only
    split
    next hperm => exact ((List.isPerm_iff.mp hperm).map _).trans (.of_eq hrange)
    next => exact .refl _

end WebAcl.Value
