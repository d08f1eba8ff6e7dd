import WebAcl.Proofs.HclParts

namespace WebAcl.Hcl

open Outcome

def isText : Value → Bool
  | .str _ => true
  | _ => false

mutual

/-- Data that can be written under a name, as a block, as blocks or as an attribute. -/
def accepts : Value → Bool
  | .map es => acceptsEntries es
  | .list xs => if !xs.isEmpty && xs.all isMap then acceptsBlocks xs else Value.itemsWritable xs
  | v => v.isWritable

def acceptsBlocks : List Value → Bool
  | [] => true
  | x :: xs => accepts x && acceptsBlocks xs

def acceptsEntries : List (Value × Value) → Bool
  | [] => true
  | (k, v) :: es => isText k && accepts v && acceptsEntries es

end

theorem exists_nameOf_iff {k : Value} : (∃ name, nameOf k = .ok name) ↔ isText k = true := by
  cases k <;> simp [nameOf, isText]

section

variable [Machine]

mutual

def exprFits (used : Nat) (v : Value) : Bool :=
  Machine.expressions.hasRoom used v.kindName && match v with
    | .list xs => exprsFit (used + Machine.expressions.step "list") xs
    | _ => true

def exprsFit (used : Nat) : List Value → Bool
  | [] => true
  | x :: xs => exprFits used x && exprsFit used xs

end

mutual

/-- All parts of data are reached that is written under a name. -/
def fits (used : Nat) : Value → Bool
  | .map es =>
    Machine.blocks.hasRoom used "dict" && entriesFit (used + Machine.blocks.step "dict") es
  | .list xs => if !xs.isEmpty && xs.all isMap then blocksFit used xs else exprFits used (.list xs)
  | v => exprFits used v

def blocksFit (used : Nat) : List Value → Bool
  | [] => true
  | x :: xs => fits used x && blocksFit used xs

def entriesFit (used : Nat) : List (Value × Value) → Bool
  | [] => true
  | (k, v) :: es => Machine.blocks.hasRoom used k.kindName && fits used v && entriesFit used es

end

mutual

theorem exists_exprOf_iff : ∀ {used : Nat} {v : Value},
    (∃ e, exprOf used v = .ok e) ↔ exprFits used v = true ∧ v.isWritable = true := by
  intro used v
  cases v with
  | int i =>
    simp only [exprOf, exprFits, Value.isWritable, Recursion.enter_bind_eq_ok_iff]
    cases Number.isWritable i <;> simp
  | list xs =>
    simp only [exprOf, exprFits, Value.isWritable, Recursion.enter_bind_eq_ok_iff,
      exists_and_left, exists_bind_iff, Bool.and_eq_true, and_assoc]
    rw [← exists_exprsOf_iff]
    simp
  | bool | float =>
    simp [exprOf, exprFits, Value.isWritable, Recursion.enter_bind_eq_ok_iff]
  | _ =>
    simp only [exprOf, exprFits, Recursion.enter_bind_eq_ok_iff]
    split <;> simp [*]

theorem exists_exprsOf_iff : ∀ {used : Nat} {xs : List Value},
    (∃ es, exprsOf used xs = .ok es) ↔ exprsFit used xs = true ∧ Value.itemsWritable xs = true
  | _, [] => by simp [exprsOf, exprsFit, Value.itemsWritable]
  | used, x :: xs => by
    rw [Value.itemsWritable, exprsFit, Bool.and_eq_true, Bool.and_eq_true, and_and_and_comm,
      ← exists_exprOf_iff, ← exists_exprsOf_iff]
    simp [exprsOf, exists_bind_iff]

end

mutual

theorem exists_itemsOf_iff : ∀ {used : Nat} {es : List (Value × Value)},
    (∃ items, itemsOf used es = .ok items) ↔
      entriesFit used es = true ∧ acceptsEntries es = true
  | _, [] => by simp [itemsOf, entriesFit, acceptsEntries]
  | used, (k, v) :: es => by
    -- the items are those of one entry, whatever its name, and of the others
    have hentry : ∀ name, (∃ items, entryItems used name v = .ok items) ↔ _ :=
      fun name ↦ exists_entryItems_iff name
    have hrest : (∃ items, itemsOf used es = .ok items) ↔ _ := exists_itemsOf_iff
    simp only [itemsOf, entriesFit, acceptsEntries, Recursion.enter_bind_eq_ok_iff,
      exists_and_left, exists_bind_iff, Bool.and_eq_true, ← exists_nameOf_iff]
    simp only [pure_eq_ok, Except.ok.injEq, exists_eq', and_true, exists_and_right, hentry, hrest]
    constructor
    · rintro ⟨hroom, hkey, ⟨hfits, haccepts⟩, hes, hkeys⟩
      exact ⟨⟨⟨hroom, hfits⟩, hes⟩, ⟨hkey, haccepts⟩, hkeys⟩
    · rintro ⟨⟨⟨hroom, hfits⟩, hes⟩, ⟨hkey, haccepts⟩, hkeys⟩
      exact ⟨hroom, hkey, ⟨hfits, haccepts⟩, hes, hkeys⟩

theorem exists_entryItems_iff (name : String) : ∀ {used : Nat} {v : Value},
    (∃ items, entryItems used name v = .ok items) ↔ fits used v = true ∧ accepts v = true := by
  intro used v
  cases v with
  | map es =>
    rw [accepts, fits, Bool.and_eq_true, and_assoc, ← exists_itemsOf_iff]
    simp [entryItems, exists_bind_iff]
  | list xs =>
    rw [accepts, fits, entryItems]
    by_cases hblocks : (!xs.isEmpty && xs.all isMap) = true
    · rw [if_pos hblocks, if_pos hblocks, if_pos hblocks]
      have hmaps : xs.all isMap = true := ((Bool.and_eq_true _ _).mp hblocks).2
      exact exists_blocksOf_iff (singular name) hmaps
    · rw [if_neg hblocks, if_neg hblocks, if_neg hblocks]
      have hvalue : (∃ e, exprOf used (.list xs) = .ok e) ↔ _ := exists_exprOf_iff
      rw [Value.isWritable] at hvalue
      simp [exists_bind_iff, hvalue]
  | _ =>
    rw [accepts, fits, ← exists_exprOf_iff]
    · simp [entryItems, exists_bind_iff]
    all_goals simp

theorem exists_blocksOf_iff (name : String) : ∀ {used : Nat} {xs : List Value},
    xs.all isMap = true → ((∃ items, blocksOf used name xs = .ok items) ↔
      blocksFit used xs = true ∧ acceptsBlocks xs = true)
  | _, [], _ => by simp [blocksOf, blocksFit, acceptsBlocks]
  | used, x :: xs, h => by
    rw [List.all_cons, Bool.and_eq_true] at h
    cases x with
    | map es =>
      simp only [acceptsBlocks, accepts, blocksFit, fits, Bool.and_eq_true]
      rw [and_and_and_comm, ← exists_blocksOf_iff name h.2,
        and_assoc (b := entriesFit _ _ = true), ← exists_itemsOf_iff]
      simp [blocksOf, exists_bind_iff, and_assoc]
    | _ => simp [isMap] at h

end

theorem exists_bodyOf_iff {used : Nat} {es : List (Value × Value)} :
    (∃ items, bodyOf used es = .ok items) ↔
      fits used (.map es) = true ∧ accepts (.map es) = true := by
  rw [fits, accepts, Bool.and_eq_true, and_assoc, ← exists_itemsOf_iff]
  simp [bodyOf]

end

end WebAcl.Hcl
