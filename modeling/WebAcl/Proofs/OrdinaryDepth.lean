import WebAcl.Proofs.FrozenCopies
import WebAcl.Proofs.HclAcceptance

namespace WebAcl

namespace Value

/-- Collections are nested at most as deep as given. -/
def nestedIn : (depth : Nat) → Value → Bool
  | _, endless => false
  | 0, list _ | 0, tuple _ | 0, map _ | 0, frozenMap _ => false
  | depth + 1, list xs | depth + 1, tuple xs => xs.all (nestedIn depth)
  | depth + 1, map es | depth + 1, frozenMap es => es.all fun e ↦ nestedIn depth e.2
  | _, _ => true

theorem nestedIn_freeze (depth : Nat) (v : Value) : v.freeze.nestedIn depth = v.nestedIn depth := by
  induction depth generalizing v with
  | zero => cases v <;> rfl
  | succ depth ih =>
    cases v with
    | list xs | tuple xs =>
      rw [freeze, freezeItems_eq_map, nestedIn, nestedIn, List.all_map]
      exact congrArg xs.all (funext ih)
    | map es | frozenMap es =>
      rw [freeze, freezeEntries_eq_map, nestedIn, nestedIn, List.all_map]
      exact congrArg es.all (funext fun e ↦ ih e.2)
    | _ => rfl

end Value

namespace Recursion

variable {r : Recursion}

theorem itemsFit_eq_all (used : Nat) (xs : List Value) :
    r.itemsFit used xs = xs.all (r.fits used) := by
  induction xs with
  | nil => rfl
  | cons x xs ih => rw [itemsFit, ih, List.all_cons]

theorem entriesFit_eq_all (used : Nat) (es : List (Value × Value)) :
    r.entriesFit used es = es.all fun e ↦ r.fits used e.2 := by
  induction es with
  | nil => rfl
  | cons e es ih => rw [entriesFit, ih, List.all_cons]

/-- Data of ordinary depth is never too deep. -/
def IsRoomy (r : Recursion) : Prop :=
  ∀ kind inner, 16 * r.step kind + r.own inner ≤ r.room

theorem isRoomy_even {room step ofMap : Nat} (h : 16 * max step ofMap + 1 ≤ room) :
    (even room step ofMap).IsRoomy := by
  intro kind inner
  simp only [even]
  split <;> split <;> omega

def HasLevels (r : Recursion) (used levels : Nat) : Prop :=
  ∀ kind inner, used + levels * r.step kind + r.own inner ≤ r.room

theorem HasLevels.hasRoom {used levels : Nat} (h : r.HasLevels used levels) (kind : String) :
    r.hasRoom used kind = true := by
  have hkind := h kind kind
  exact decide_eq_true (by omega)

theorem HasLevels.of_succ {used levels : Nat} (h : r.HasLevels used (levels + 1)) :
    r.HasLevels used levels := by
  intro kind inner
  have hkind := h kind inner
  rw [Nat.add_mul] at hkind
  omega

theorem HasLevels.enter {used levels : Nat} (h : r.HasLevels used (levels + 1)) (kind : String) :
    r.HasLevels (used + r.step kind) levels := by
  intro kind' inner
  have hkind := h kind inner
  have hkind' := h kind' inner
  rw [Nat.add_mul] at hkind hkind'
  obtain hle | hle := Nat.le_total (r.step kind) (r.step kind')
  · omega
  · have hmul : levels * r.step kind' ≤ levels * r.step kind := Nat.mul_le_mul_left levels hle
    omega

theorem fits_of_hasLevels {used levels : Nat} (h : r.HasLevels used levels) {v : Value}
    (hv : v.nestedIn levels = true) : r.fits used v = true := by
  induction levels generalizing used v with
  | zero =>
    cases v <;> simp [Value.nestedIn] at hv <;> simp [fits, h.hasRoom]
  | succ levels ih =>
    cases v with
    | list xs | tuple xs =>
      rw [fits, h.hasRoom, Bool.true_and, itemsFit_eq_all]
      rw [Value.nestedIn] at hv
      exact List.all_eq_true.mpr fun x hx ↦ ih (h.enter _) (List.all_eq_true.mp hv x hx)
    | map es | frozenMap es =>
      rw [fits, h.hasRoom, Bool.true_and, entriesFit_eq_all]
      rw [Value.nestedIn] at hv
      exact List.all_eq_true.mpr fun e he ↦ ih (h.enter _) (List.all_eq_true.mp hv e he)
    | endless => simp [Value.nestedIn] at hv
    | _ => simp [fits, h.hasRoom]

theorem IsRoomy.fits (hr : r.IsRoomy) {v : Value} (h : v.nestedIn 16 = true) :
    r.fits 0 v = true :=
  fits_of_hasLevels (fun kind inner ↦ by simpa using hr kind inner) h

end Recursion

/-- Nothing of ordinary depth is too deep for the machine. -/
class Machine.IsRoomy [Machine] : Prop where
  copying : Machine.copying.IsRoomy
  thawing : Machine.thawing.IsRoomy
  blocks : Machine.blocks.IsRoomy
  /-- Lists in blocks of ordinary depth are not too deep either. -/
  expressions : ∀ inner, 16 * Machine.blocks.step "dict" + 16 * Machine.expressions.step "list" +
    Machine.expressions.own inner ≤ Machine.expressions.room

namespace UsualMachine

scoped instance isRoomy : Machine.IsRoomy where
  copying := Recursion.isRoomy_even (by decide)
  thawing := Recursion.isRoomy_even (by decide)
  blocks := Recursion.isRoomy_even (by decide)
  expressions inner := by
    change 16 * 1 + 16 * 3 + (if _ then 1 else 0) ≤ 994
    split <;> decide

end UsualMachine

namespace Hcl

variable [Machine]

theorem exprsFit_eq_all (used : Nat) (xs : List Value) :
    exprsFit used xs = xs.all (exprFits used) := by
  induction xs with
  | nil => rfl
  | cons x xs ih => rw [exprsFit, ih, List.all_cons]

theorem blocksFit_eq_all (used : Nat) (xs : List Value) :
    blocksFit used xs = xs.all (fits used) := by
  induction xs with
  | nil => rfl
  | cons x xs ih => rw [blocksFit, ih, List.all_cons]

theorem entriesFit_eq_all (used : Nat) (es : List (Value × Value)) : entriesFit used es =
    es.all fun e ↦ Machine.blocks.hasRoom used e.1.kindName && fits used e.2 := by
  induction es with
  | nil => rfl
  | cons e es ih => rw [entriesFit, ih, List.all_cons]

def HasLists (used levels : Nat) : Prop :=
  ∀ inner, used + levels * Machine.expressions.step "list" + Machine.expressions.own inner ≤
    Machine.expressions.room

theorem HasLists.hasRoom {used levels : Nat} (h : HasLists used levels) (kind : String) :
    Machine.expressions.hasRoom used kind = true := by
  have hkind := h kind
  exact decide_eq_true (by omega)

theorem HasLists.enter {used levels : Nat} (h : HasLists used (levels + 1)) :
    HasLists (used + Machine.expressions.step "list") levels := by
  intro inner
  have hinner := h inner
  rw [Nat.add_mul] at hinner
  omega

theorem HasLists.mono {used used' levels levels' : Nat} (h : HasLists used levels)
    (hused : used' ≤ used) (hlevels : levels' ≤ levels) : HasLists used' levels' := by
  intro inner
  have hinner := h inner
  have hmul := Nat.mul_le_mul_right (Machine.expressions.step "list") hlevels
  omega

theorem exprFits_of_hasLists {used levels : Nat} (h : HasLists used levels) {v : Value}
    (hv : v.nestedIn levels = true) : exprFits used v = true := by
  induction levels generalizing used v with
  | zero => cases v <;> simp [Value.nestedIn] at hv <;> simp [exprFits, h.hasRoom]
  | succ levels ih =>
    cases v with
    | list xs =>
      rw [exprFits, h.hasRoom, Bool.true_and, exprsFit_eq_all]
      rw [Value.nestedIn] at hv
      exact List.all_eq_true.mpr fun x hx ↦ ih h.enter (List.all_eq_true.mp hv x hx)
    | _ => simp [exprFits, h.hasRoom]

/-- Room for a number of further levels of blocks, and of lists below them. -/
structure HasLevels (used levels : Nat) : Prop where
  blocks : Machine.blocks.HasLevels used levels
  lists : HasLists (used + levels * Machine.blocks.step "dict") levels

namespace HasLevels

variable {used levels : Nat}

theorem enter (h : HasLevels used (levels + 1)) :
    HasLevels (used + Machine.blocks.step "dict") levels where
  blocks := h.blocks.enter "dict"
  lists := h.lists.mono (by rw [Nat.add_mul]; omega) (Nat.le_succ levels)

theorem of_succ (h : HasLevels used (levels + 1)) : HasLevels used levels where
  blocks := h.blocks.of_succ
  lists := h.lists.mono (by rw [Nat.add_mul]; omega) (Nat.le_succ levels)

end HasLevels

theorem fits_of_hasLevels {used levels : Nat} (h : HasLevels used levels) {v : Value}
    (hv : v.nestedIn levels = true) : fits used v = true := by
  have hlists : HasLists used levels := h.lists.mono (Nat.le_add_right _ _) (Nat.le_refl levels)
  induction levels generalizing used v with
  | zero => cases v <;> simp [Value.nestedIn] at hv <;> simp [fits, exprFits, hlists.hasRoom]
  | succ levels ih =>
    cases v with
    | map es =>
      have hinner := h.enter
      rw [fits, h.blocks.hasRoom, Bool.true_and, entriesFit_eq_all]
      rw [Value.nestedIn] at hv
      refine List.all_eq_true.mpr fun e he ↦ ?_
      rw [hinner.blocks.hasRoom, Bool.true_and]
      exact ih hinner (List.all_eq_true.mp hv e he)
        (hinner.lists.mono (Nat.le_add_right _ _) (Nat.le_refl levels))
    | list xs =>
      rw [fits]
      split
      · rw [blocksFit_eq_all]
        rw [Value.nestedIn] at hv
        exact List.all_eq_true.mpr fun x hx ↦ ih h.of_succ (List.all_eq_true.mp hv x hx)
          (hlists.mono (Nat.le_refl used) (Nat.le_succ levels))
      · exact exprFits_of_hasLists hlists hv
    | _ => simp [fits, exprFits, hlists.hasRoom]

theorem fits_of_nestedIn [Machine.IsRoomy] {v : Value} (h : v.nestedIn 16 = true) :
    fits 0 v = true := by
  refine fits_of_hasLevels ⟨fun kind inner ↦ ?_, fun inner ↦ ?_⟩ h
  · simpa using Machine.IsRoomy.blocks kind inner
  · simpa using Machine.IsRoomy.expressions inner

end Hcl

end WebAcl
