import WebAcl.Proofs.Literals
import Mathlib.Data.List.Infix

namespace WebAcl.Hcl

/-- The number of braces that a text opens and does not close. -/
def height (cs : List Char) : Int :=
  (cs.count '\x7b' : Int) - (cs.count '\x7d' : Int)

structure Balanced (cs : List Char) : Prop where
  height_eq : height cs = 0
  nonneg : ∀ before, before <+: cs → 0 ≤ height before

variable {cs ds : List Char}

@[simp] theorem height_nil : height [] = 0 := rfl

@[simp] theorem height_append (cs ds : List Char) : height (cs ++ ds) = height cs + height ds := by
  simp only [height, List.count_append]
  omega

theorem prefix_append_cases {α : Type} {before as bs : List α} (h : before <+: as ++ bs) :
    before <+: as ∨ ∃ rest, before = as ++ rest ∧ rest <+: bs := by
  obtain ⟨after, h⟩ := h
  obtain ⟨rest, rfl, -⟩ | ⟨rest, rfl, rfl⟩ := List.append_eq_append_iff.mp h
  · exact .inl (List.prefix_append before rest)
  · exact .inr ⟨rest, rfl, List.prefix_append rest after⟩

namespace Balanced

theorem nil : Balanced [] :=
  ⟨rfl, fun _ h ↦ List.prefix_nil.mp h ▸ Int.le_refl 0⟩

theorem append (hcs : Balanced cs) (hds : Balanced ds) : Balanced (cs ++ ds) where
  height_eq := by rw [height_append, hcs.height_eq, hds.height_eq, Int.add_zero]
  nonneg before h := by
    obtain hbefore | ⟨rest, rfl, hrest⟩ := prefix_append_cases h
    · exact hcs.nonneg before hbefore
    · rw [height_append, hcs.height_eq, Int.zero_add]
      exact hds.nonneg rest hrest

theorem pair : Balanced ['\x7b', '\x7d'] where
  height_eq := rfl
  nonneg := by
    have hinits : ∀ before ∈ ['\x7b', '\x7d'].inits, 0 ≤ height before := by decide
    exact fun before h ↦ hinits before (List.mem_inits before _ |>.mpr h)

/-- What is at the end of a balanced text closes at least as much as it opens. -/
theorem height_suffix (h : Balanced cs) (hds : ds <:+ cs) : height ds ≤ 0 := by
  obtain ⟨before, rfl⟩ := hds
  have hzero := h.height_eq
  have hbefore := h.nonneg before (List.prefix_append before ds)
  rw [height_append] at hzero
  omega

end Balanced

def isBrace (c : Char) : Bool :=
  c == '\x7b' || c == '\x7d'

def braces (line : List Char) : List Char :=
  (erase line).filter isBrace

def Opens (line : List Char) : Prop :=
  braces line = ['\x7b']

def Closes (line : List Char) : Prop :=
  braces line = ['\x7d']

variable {line opening closing : List Char} {lines lines' inner : List (List Char)}

theorem height_filter (cs : List Char) : height (cs.filter isBrace) = height cs := by
  rw [height, height, List.count_filter (by decide), List.count_filter (by decide)]

theorem height_of_opens (h : Opens line) : height (erase line) = 1 := by
  rw [← height_filter, ← braces, h]
  rfl

theorem height_of_closes (h : Closes line) : height (erase line) = -1 := by
  rw [← height_filter, ← braces, h]
  rfl

theorem balanced_filter_iff : Balanced (cs.filter isBrace) ↔ Balanced cs := by
  constructor
  · intro h
    refine ⟨(height_filter cs).symm.trans h.height_eq, fun before hbefore ↦ ?_⟩
    exact height_filter before ▸ h.nonneg _ (hbefore.filter isBrace)
  · intro h
    refine ⟨(height_filter cs).trans h.height_eq, fun before hbefore ↦ ?_⟩
    obtain ⟨start, hstart, rfl⟩ := List.prefix_filter_iff.mp hbefore
    exact (height_filter start).symm ▸ h.nonneg start hstart

theorem height_of_braces (hbefore : cs <+: erase line) {brace : Char} (h : braces line = [brace]) :
    height cs = 0 ∨ height cs = height [brace] := by
  have hfilter : cs.filter isBrace <+: [brace] := h ▸ hbefore.filter isBrace
  obtain ⟨after, hafter⟩ := hfilter
  rw [← height_filter cs]
  obtain ⟨heq, -⟩ | ⟨heq, -⟩ := List.append_eq_singleton_iff.mp hafter
  · exact .inl (heq ▸ rfl)
  · exact .inr (heq ▸ rfl)

def erasedLines (lines : List (List Char)) : List Char :=
  lines.flatMap erase

@[simp] theorem erasedLines_nil : erasedLines [] = [] := rfl

@[simp] theorem erasedLines_cons (line : List Char) (lines : List (List Char)) :
    erasedLines (line :: lines) = erase line ++ erasedLines lines := List.flatMap_cons

@[simp] theorem erasedLines_append (lines lines' : List (List Char)) :
    erasedLines (lines ++ lines') = erasedLines lines ++ erasedLines lines' := List.flatMap_append

theorem prefix_erasedLines (h : lines <+: lines') : erasedLines lines <+: erasedLines lines' := by
  obtain ⟨after, rfl⟩ := h
  rw [erasedLines_append]
  exact List.prefix_append _ _

theorem suffix_erasedLines (h : lines <:+ lines') : erasedLines lines <:+ erasedLines lines' := by
  obtain ⟨before, rfl⟩ := h
  rw [erasedLines_append]
  exact List.suffix_append _ _

structure IsBlock (opening : List Char) (inner : List (List Char)) (closing : List Char) :
    Prop where
  opens : Opens opening
  balanced : Balanced (erasedLines inner)
  closes : Closes closing

def Encloses (lines : List (List Char)) (opening : List Char) (inner : List (List Char))
    (closing : List Char) : Prop :=
  IsBlock opening inner closing ∧ opening :: (inner ++ [closing]) <:+: lines

namespace IsBlock

theorem enclosed (h : IsBlock opening inner closing) :
    Balanced (erasedLines (opening :: (inner ++ [closing]))) := by
  have hopen := height_of_opens h.opens
  have hclose := height_of_closes h.closes
  have hinner := h.balanced.height_eq
  simp only [erasedLines_cons, erasedLines_append, erasedLines_nil, List.append_nil]
  refine ⟨by simp only [height_append]; omega, fun before hbefore ↦ ?_⟩
  obtain hbefore | ⟨rest, rfl, hrest⟩ := prefix_append_cases hbefore
  · -- a part of the first line, which opens one brace
    have hcases := height_of_braces hbefore h.opens
    rw [show height ['\x7b'] = 1 from rfl] at hcases
    omega
  · rw [height_append]
    obtain hrest | ⟨last, rfl, hlast⟩ := prefix_append_cases hrest
    · have hnonneg := h.balanced.nonneg rest hrest
      omega
    · -- a part of the last line: what it closes was opened by the first
      have hcases := height_of_braces hlast h.closes
      rw [show height ['\x7d'] = -1 from rfl] at hcases
      rw [height_append]
      omega

/-- From its first line up to one before its last, a block opens more than it closes. -/
theorem height_start (h : IsBlock opening inner closing) (hlines : lines <+: inner) :
    1 ≤ height (erasedLines (opening :: lines)) := by
  have hnonneg := h.balanced.nonneg _ (prefix_erasedLines hlines)
  rw [erasedLines_cons, height_append, height_of_opens h.opens]
  omega

end IsBlock

theorem encloses_append (h : Balanced (erasedLines lines)) (hblock :
    Encloses (lines ++ lines') opening inner closing) :
    Encloses lines opening inner closing ∨ Encloses lines' opening inner closing := by
  obtain ⟨hblock, hinfix⟩ := hblock
  obtain hleft | hright | ⟨start, rest, heq, hstart, hrest⟩ := List.infix_append_iff.mp hinfix
  · exact .inl ⟨hblock, hleft⟩
  · exact .inr ⟨hblock, hright⟩
  · -- the first lines of a block cannot end a balanced text
    cases start with
    | nil => exact .inr ⟨hblock, heq ▸ hrest.isInfix⟩
    | cons line start =>
      obtain ⟨rfl, hlines⟩ := List.cons.inj heq
      obtain hall | hsome := List.prefix_concat_iff.mp ⟨rest, hlines.symm⟩
      · exact .inl ⟨hblock, hall ▸ hstart.isInfix⟩
      · have hlow := h.height_suffix (suffix_erasedLines hstart)
        have hhigh := hblock.height_start hsome
        omega

/-- A block among the lines of another one is that one or lies between its first and last line. -/
theorem encloses_enclosed {opening' closing' : List Char} {inner' : List (List Char)}
    (h : IsBlock opening inner closing)
    (hblock : Encloses (opening :: (inner ++ [closing])) opening' inner' closing') :
    opening' = opening ∧ inner' = inner ∧ closing' = closing ∨
      Encloses inner opening' inner' closing' := by
  obtain ⟨hblock, hinfix⟩ := hblock
  obtain hfirst | hinfix := List.infix_cons_iff.mp hinfix
  · obtain ⟨rfl, hrest⟩ := List.cons_prefix_cons.mp hfirst
    obtain hall | hsome := List.prefix_concat_iff.mp hrest
    · obtain ⟨rfl, hlast⟩ := List.append_inj' hall rfl
      exact .inl ⟨rfl, rfl, List.singleton_inj.mp hlast⟩
    · -- it would close in the middle what the outer block opens
      have hnonneg := h.balanced.nonneg _ (prefix_erasedLines hsome)
      simp only [erasedLines_append, erasedLines_cons, erasedLines_nil, List.append_nil,
        height_append, hblock.balanced.height_eq, height_of_closes hblock.closes] at hnonneg
      omega
  · obtain hin | hlast := encloses_append h.balanced ⟨hblock, hinfix⟩
    · exact .inr hin
    · have hlength := hlast.2.length_le
      simp at hlength

theorem Encloses.mono (hblock : Encloses lines opening inner closing) (h : lines <:+: lines') :
    Encloses lines' opening inner closing :=
  ⟨hblock.1, hblock.2.trans h⟩

def EachBlock (P : List Char → List (List Char) → List Char → Prop)
    (lines : List (List Char)) : Prop :=
  ∀ opening inner closing, Encloses lines opening inner closing → P opening inner closing

namespace EachBlock

variable {P : List Char → List (List Char) → List Char → Prop}

theorem nil : EachBlock P [] :=
  fun _ _ _ h ↦ by simpa using h.2.length_le

theorem single (line : List Char) : EachBlock P [line] :=
  fun _ _ _ h ↦ by simpa using h.2.length_le

theorem append_iff (h : Balanced (erasedLines lines)) :
    EachBlock P (lines ++ lines') ↔ EachBlock P lines ∧ EachBlock P lines' := by
  constructor
  · intro hP
    have hleft := (List.prefix_append lines lines').isInfix
    have hright := (List.suffix_append lines lines').isInfix
    exact ⟨fun _ _ _ hblock ↦ hP _ _ _ (hblock.mono hleft),
      fun _ _ _ hblock ↦ hP _ _ _ (hblock.mono hright)⟩
  · rintro ⟨hleft, hright⟩ o i c hblock
    exact (encloses_append h hblock).elim (hleft o i c) (hright o i c)

theorem enclosed_iff (h : IsBlock opening inner closing) :
    EachBlock P (opening :: (inner ++ [closing])) ↔
      P opening inner closing ∧ EachBlock P inner := by
  constructor
  · intro hP
    have hinner : inner <:+: opening :: (inner ++ [closing]) := ⟨[opening], [closing], by simp⟩
    exact ⟨hP _ _ _ ⟨h, List.infix_refl _⟩, fun _ _ _ hblock ↦ hP _ _ _ (hblock.mono hinner)⟩
  · rintro ⟨hself, hinner⟩ o i c hblock
    obtain ⟨rfl, rfl, rfl⟩ | hin := encloses_enclosed h hblock
    · exact hself
    · exact hinner o i c hin

end EachBlock

theorem split_append {α : Type} {before after as bs : List α} {x : α}
    (h : as ++ bs = before ++ x :: after) :
    (∃ rest, as = before ++ x :: rest) ∨
      ∃ start, before = as ++ start ∧ bs = start ++ x :: after := by
  obtain ⟨start, hbefore, hbs⟩ | ⟨rest, has, hrest⟩ := List.append_eq_append_iff.mp h
  · exact .inr ⟨start, hbefore, hbs⟩
  · obtain ⟨rfl, hbs⟩ | ⟨rest, rfl, -⟩ := List.cons_eq_append_iff.mp hrest
    · exact .inr ⟨[], by simpa using has.symm, hbs⟩
    · exact .inl ⟨rest, has⟩

def Matched (lines : List (List Char)) : Prop :=
  ∀ before closing after, lines = before ++ closing :: after → Closes closing →
    ∃ start opening inner, before = start ++ opening :: inner ∧ IsBlock opening inner closing

namespace Matched

theorem nil : Matched [] :=
  fun before _ _ h _ ↦ absurd h (by simp)

theorem single (h : ¬ Closes line) : Matched [line] := by
  intro before closing after heq hcloses
  obtain ⟨-, hline⟩ | ⟨-, hline⟩ := List.append_eq_singleton_iff.mp heq.symm
  · exact absurd ((List.cons.inj hline).1 ▸ hcloses) h
  · simp at hline

theorem append (h : Matched lines) (h' : Matched lines') : Matched (lines ++ lines') := by
  intro before closing after heq hcloses
  obtain ⟨rest, hleft⟩ | ⟨start, rfl, hright⟩ := split_append heq
  · exact h before closing rest hleft hcloses
  · obtain ⟨start', opening, inner, rfl, hblock⟩ := h' start closing after hright hcloses
    exact ⟨lines ++ start', opening, inner, (List.append_assoc _ _ _).symm, hblock⟩

theorem block (h : Matched inner) (hblock : IsBlock opening inner closing) :
    Matched (opening :: (inner ++ [closing])) := by
  intro before line after heq hcloses
  obtain ⟨rfl, hopening⟩ | ⟨before, rfl, hrest⟩ := List.cons_eq_append_iff.mp heq
  · -- the first line opens the block
    obtain ⟨rfl, -⟩ := List.cons.inj hopening
    exact absurd (hblock.opens.symm.trans hcloses) (by decide)
  · obtain ⟨rest, hinner⟩ | ⟨start, rfl, hlast⟩ := split_append hrest
    · obtain ⟨start, o, i, rfl, hline⟩ := h before line rest hinner hcloses
      exact ⟨opening :: start, o, i, rfl, hline⟩
    · obtain ⟨rfl, hline⟩ | ⟨-, hline⟩ := List.append_eq_singleton_iff.mp hlast.symm
      · obtain ⟨rfl, -⟩ := List.cons.inj hline
        exact ⟨[], opening, inner, by simp, hblock⟩
      · simp at hline

end Matched

end WebAcl.Hcl
