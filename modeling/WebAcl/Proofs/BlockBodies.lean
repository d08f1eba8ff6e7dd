import WebAcl.Proofs.IndentedLines
import WebAcl.Proofs.IndentedText
import WebAcl.Proofs.NameChars
import WebAcl.Proofs.OrdinaryDepth

namespace WebAcl.Hcl

open Outcome Text

def IsKey (s : String) : Prop :=
  s.toList.all (fun c ↦ c.isAlphanum || c == '_') = true

instance (s : String) : Decidable (IsKey s) :=
  inferInstanceAs (Decidable (s.toList.all (fun c ↦ c.isAlphanum || c == '_') = true))

def IsLabel (s : String) : Prop :=
  ∀ c, isSeparator c = true → c ∉ s.toList

variable {s name : String}

theorem IsKey.isLabel (h : IsKey s) : IsLabel (snakeCase s) := by
  intro c hc
  refine not_mem_snakeCase hc fun hmem ↦ ?_
  have hword := List.all_eq_true.mp h c hmem
  simp only [isSeparator, Bool.and_eq_true, Bool.not_eq_true', bne_iff_ne] at hc
  simp [hc.1.2, hc.2] at hword

namespace IsLabel

theorem singular (h : IsLabel s) : IsLabel (singular s) :=
  fun c hc ↦ not_mem_singular (h c hc)

theorem isFlat (h : IsLabel s) : IsFlat s.toList := by
  refine .of_any (List.any_eq_false.mpr fun c hc hstructural ↦ ?_)
  obtain rfl | rfl | rfl | rfl := isStructural_cases hstructural <;> exact h _ (by decide) hc

theorem not_isIndent (h : IsLabel s) : ∀ c ∈ s.toList, isIndent c = false := by
  intro c hc
  refine Bool.eq_false_iff.mpr fun hindent ↦ ?_
  obtain rfl | rfl : c = ' ' ∨ c = '\t' := by simpa [isIndent] using hindent
  all_goals exact h _ (by decide) hc

end IsLabel

theorem singular_eq_empty_iff : singular s = "" ↔ s = "" ∨ s = "s" := by
  unfold singular
  split
  next hlast =>
    obtain ⟨cs, hcs⟩ := List.getLast?_eq_some_iff.mp hlast
    rw [← String.toList_inj, ← String.toList_inj, ← String.toList_inj, String.toList_ofList, hcs]
    simp
  next hlast =>
    have hne : s ≠ "s" := by
      rintro rfl
      exact hlast (by decide)
    simp [hne]

theorem snakeCase_eq_empty_iff : snakeCase s = "" ↔ s = "" := by
  constructor
  · intro h
    by_contra hne
    exact snakeCase_ne_nil (mt String.toList_eq_nil_iff.mp hne) (by rw [h]; rfl)
  · rintro rfl
    rfl

theorem snakeCase_eq_s_iff (h : IsKey s) : snakeCase s = "s" ↔ s = "s" ∨ s = "S" := by
  constructor
  · intro hsnake
    have hlength : s.toList.length ≤ 1 := by simpa [hsnake] using length_le_snakeCase s
    -- the name is as long as the key or longer
    match hs : s.toList, hlength with
    | [], _ =>
      obtain rfl := String.toList_eq_nil_iff.mp hs
      exact absurd hsnake (by decide)
    | [c], _ =>
      have hc : c.toNat < 0x80 := by
        have hkey := List.all_eq_true.mp h c (by simp [hs])
        obtain hword | hunderscore := (Bool.or_eq_true _ _).mp hkey
        · exact toNat_lt_of_isAlphanum hword
        · exact beq_iff_eq.mp hunderscore ▸ by decide
      have hletter := forall_ascii (P := fun c ↦ snakeCase (String.ofList [c]) = "s" →
        String.ofList [c] = "s" ∨ String.ofList [c] = "S") (by decide +kernel) hc
      rw [← hs, String.ofList_toList] at hletter
      exact hletter hsnake
  · rintro (rfl | rfl) <;> decide

theorem singular_snakeCase_eq_empty_iff (h : IsKey s) :
    singular (snakeCase s) = "" ↔ s ∈ ["", "s", "S"] := by
  rw [singular_eq_empty_iff, snakeCase_eq_empty_iff, snakeCase_eq_s_iff h]
  simp

mutual

/-- Maps under names, lists, and other values whose text stays on one line. -/
def IsTree : Value → Prop
  | .map es => EntriesTree es
  | .list xs => ItemsTree xs
  | v => v.isWritable = true ∧ Unbroken v.toText

def ItemsTree : List Value → Prop
  | [] => True
  | x :: xs => IsTree x ∧ ItemsTree xs

def EntriesTree : List (Value × Value) → Prop
  | [] => True
  | (k, v) :: es => (∃ s, k = .str s ∧ IsKey s) ∧ IsTree v ∧ EntriesTree es

end

mutual

/-- The number of maps that are reached through maps and through lists of nothing but maps. -/
def reached : Value → Nat
  | .map es => reachedEntries es + 1
  | .list xs => if !xs.isEmpty && xs.all isMap then reachedItems xs else 0
  | _ => 0

def reachedItems : List Value → Nat
  | [] => 0
  | x :: xs => reached x + reachedItems xs

def reachedEntries : List (Value × Value) → Nat
  | [] => 0
  | (_, v) :: es => reached v + reachedEntries es

end

mutual

def Named (key : Value) : Value → Prop
  | .map es => (es ≠ [] → key ≠ .str "") ∧ NamedEntries es
  | .list xs =>
    if !xs.isEmpty && xs.all isMap then key ∉ [.str "", .str "s", .str "S"] ∧ NamedItems xs
    else True
  | _ => True

def NamedItems : List Value → Prop
  | [] => True
  | .map es :: xs => NamedEntries es ∧ NamedItems xs
  | _ :: xs => NamedItems xs

def NamedEntries : List (Value × Value) → Prop
  | [] => True
  | (k, v) :: es => Named k v ∧ NamedEntries es

end

mutual

theorem IsTree.isWritable : ∀ {v : Value}, IsTree v → v.isWritable = true := by
  intro v h
  cases v with
  | map es => exact EntriesTree.entriesWritable h
  | list xs => exact ItemsTree.itemsWritable h
  | _ => exact h.1

theorem ItemsTree.itemsWritable : ∀ {xs : List Value}, ItemsTree xs →
    Value.itemsWritable xs = true
  | [], _ => rfl
  | x :: xs, h => by
    rw [Value.itemsWritable, h.1.isWritable, ItemsTree.itemsWritable h.2, Bool.and_true]

theorem EntriesTree.entriesWritable : ∀ {es : List (Value × Value)}, EntriesTree es →
    Value.entriesWritable es = true
  | [], _ => rfl
  | (k, v) :: es, ⟨⟨s, hk, _⟩, hv, hes⟩ => by
    have hkey : k.isWritable = true := hk ▸ rfl
    rw [Value.entriesWritable, hkey, hv.isWritable, EntriesTree.entriesWritable hes]
    rfl

end

mutual

theorem IsTree.accepts : ∀ {v : Value}, IsTree v → accepts v = true := by
  intro v h
  cases v with
  | map es => exact EntriesTree.accepts h
  | list xs =>
    rw [Hcl.accepts]
    split
    · exact ItemsTree.accepts h
    · exact ItemsTree.itemsWritable h
  | _ => exact h.1

theorem ItemsTree.accepts : ∀ {xs : List Value}, ItemsTree xs → acceptsBlocks xs = true
  | [], _ => rfl
  | x :: xs, h => by
    rw [acceptsBlocks, h.1.accepts, ItemsTree.accepts h.2, Bool.and_true]

theorem EntriesTree.accepts : ∀ {es : List (Value × Value)}, EntriesTree es →
    acceptsEntries es = true
  | [], _ => rfl
  | (k, v) :: es, ⟨⟨s, hk, _⟩, hv, hes⟩ => by
    have hkey : isText k = true := hk ▸ rfl
    rw [acceptsEntries, hkey, hv.accepts, EntriesTree.accepts hes]
    rfl

end

theorem IsScalarText.isFlat (h : IsScalarText s) : IsFlat s.toList := by
  refine .of_any (List.any_eq_false.mpr fun c hc hstructural ↦ ?_)
  have hchar := List.all_eq_true.mp h.chars c hc
  obtain rfl | rfl | rfl | rfl := isStructural_cases hstructural <;> exact absurd hchar (by decide)

mutual

theorem isFlat_exprOf [Machine] (indent : String) : ∀ {used : Nat} {v : Value} {e : Expr},
    exprOf used v = .ok e → IsTree v → IsFlat (e.textFrom indent).toList := by
  intro used v e h htree
  have hscalar : ∀ text : String, Unbroken text →
      IsFlat (((bareText? v).elim (Expr.text text) Expr.bare).textFrom indent).toList := by
    intro text htext
    cases hbare : bareText? v with
    | none => exact .quote htext
    | some s => exact (isScalarText_of_bareText? hbare).isFlat
  cases v with
  | list xs =>
    obtain ⟨es, hes, rfl⟩ := exprOf_list_eq_ok h
    exact isFlat_inline indent hes htree
  | map es =>
    obtain rfl := exprOf_eq_ok (by simp) h
    exact hscalar _ (Value.unbroken_inspect _)
  | _ =>
    obtain rfl := exprOf_eq_ok (by simp) h
    exact hscalar _ htree.2

theorem isFlat_inline [Machine] (indent : String) {used : Nat} {xs : List Value} {es : List Expr}
    (h : exprsOf used xs = .ok es) (htree : ItemsTree xs) :
    IsFlat ((Expr.inline es).textFrom indent).toList := by
  have hinner : IsFlat (", ".intercalate (Expr.textsFrom indent es)).toList :=
    .intercalate (.of_any (by decide)) (isFlat_exprsOf indent h htree)
  rw [Expr.textFrom, String.toList_append, String.toList_append]
  exact ((IsFlat.of_any (by decide)).append hinner).append (.of_any (by decide))

theorem isFlat_exprsOf [Machine] (indent : String) : ∀ {used : Nat} {xs : List Value}
    {es : List Expr},
    exprsOf used xs = .ok es → ItemsTree xs → ∀ s ∈ Expr.textsFrom indent es, IsFlat s.toList
  | _, [], es, h, _ => by
    obtain rfl := Except.ok.inj h
    exact nofun
  | _, x :: xs, es, h, htree => by
    obtain ⟨e, he, es, hes, rfl⟩ := exprsOf_cons_eq_ok h
    exact List.forall_mem_cons.mpr
      ⟨isFlat_exprOf indent he htree.1, isFlat_exprsOf indent hes htree.2⟩

end

theorem isLaid_attribute {indent : String} (hindent : IsBlank indent.toList) (hname : IsLabel name)
    {e : Expr} (he : IsFlat (e.textFrom indent).toList) :
    IsLaid indent.toList 0 True
      ((Item.allLinesFrom indent [.single name e]).map String.toList) := by
  have hflat : IsFlat (name.toList ++ (" = ".toList ++ (e.textFrom indent).toList)) :=
    hname.isFlat.append ((IsFlat.of_any (by decide)).append he)
  obtain ⟨hline, hbraces⟩ :=
    isLine_append hindent hflat [] (by decide) (by decide) (by decide)
  have hlaid := IsLaid.single hline (hbraces ▸ .nil)
  rw [hbraces] at hlaid
  simpa using hlaid

theorem isLaid_flag {indent : String} (hindent : IsBlank indent.toList) (hname : IsLabel name) :
    IsLaid indent.toList 1 True ((Item.allLinesFrom indent [.flag name]).map String.toList) := by
  obtain ⟨hline, hbraces⟩ :=
    isLine_append hindent hname.isFlat [' ', '\x7b', '\x7d'] (by decide) (by decide) (by decide)
  have hlaid := IsLaid.single hline (hbraces ▸ .pair)
  have hcount : ([' ', '\x7b', '\x7d'].filter isBrace).count '\x7b' = 1 := by decide
  rw [hbraces, hcount] at hlaid
  simpa [Item.linesFrom] using hlaid

theorem isLaid_block {indent : String} (hindent : IsBlank indent.toList) (hname : IsLabel name)
    {body : List Item} {n : Nat} {p : Prop}
    (h : IsLaid (indent ++ "  ").toList n p
      ((Item.allLinesFrom (indent ++ "  ") body).map String.toList)) :
    IsLaid indent.toList (n + 1) (name ≠ "" ∧ p)
      ((Item.allLinesFrom indent [.block name body]).map String.toList) := by
  rw [String.toList_append] at h
  have hlaid := h.block hindent hname.isFlat hname.not_isIndent
  rw [ne_eq, String.toList_eq_nil_iff] at hlaid
  simpa [Item.linesFrom] using hlaid

theorem isLaid_orBlank {indent : String} {body : List Item} {n : Nat} {p : Prop}
    (h : IsLaid indent.toList n p ((Item.allLinesFrom indent body).map String.toList)) :
    IsLaid indent.toList n p
      ((Item.allLinesFrom indent (Item.orBlank body)).map String.toList) := by
  cases body with
  | cons item body => exact h
  | nil => exact h.blank

theorem exists_line_of_entryItems [Machine] (indent : String) {v : Value} {items : List Item}
    (h : entryItems used name v = .ok items) :
    ∃ line ∈ Item.allLinesFrom indent items, line ≠ "" := by
  have hne : ∀ {line mark : String}, mark ≠ "" → line ++ mark ≠ "" := by
    intro line mark hmark
    simp [hmark]
  cases v with
  | map es =>
    obtain ⟨body, -, rfl⟩ := entryItems_map_eq_ok h
    rw [Item.allLinesFrom_singleton]
    split
    · exact ⟨_, List.mem_cons_self, hne (by decide)⟩
    · exact ⟨_, List.mem_cons_self, hne (by decide)⟩
  | list xs =>
    replace h := entryItems_list_eq_ok h
    split at h
    next hmaps =>
      match xs, hmaps with
      | .map es :: xs, _ =>
        obtain ⟨body, -, rest, -, rfl⟩ := blocksOf_map_eq_ok h
        exact ⟨_, List.mem_append_left _ List.mem_cons_self, hne (by decide)⟩
    next =>
      obtain ⟨es, -, rfl⟩ := h
      simp
  | _ =>
    obtain ⟨e, -, rfl⟩ := entryItems_scalar_eq_ok (by simp) (by simp) h
    simp

theorem eq_empty_of_intercalate {separator : String} {ss : List String}
    (h : separator.intercalate ss = "") : ∀ s ∈ ss, s = "" := by
  induction ss with
  | nil => exact nofun
  | cons s ss ih =>
    cases ss with
    | nil => simpa using h
    | cons t ss =>
      rw [String.intercalate_cons_cons, String.append_eq_empty_iff, String.append_eq_empty_iff] at h
      exact List.forall_mem_cons.mpr ⟨h.1.1, ih h.2⟩

theorem renderFrom_eq_empty_iff [Machine] (indent : String) {es : List (Value × Value)}
    {items : List Item}
    (h : itemsOf used es = .ok items) : renderFrom indent items = "" ↔ es = [] := by
  constructor
  · intro hempty
    cases es with
    | nil => rfl
    | cons e es =>
      obtain ⟨key, -, first, hfirst, rest, -, rfl⟩ := itemsOf_cons_eq_ok h
      obtain ⟨line, hline, hne⟩ := exists_line_of_entryItems indent hfirst
      have hmem : line ∈ Item.allLinesFrom indent (first ++ rest) := by
        rw [Item.allLinesFrom_append]
        exact List.mem_append_left _ hline
      exact absurd (eq_empty_of_intercalate hempty line hmem) hne
  · rintro rfl
    obtain rfl := itemsOf_nil_eq_ok_iff.mp h
    rfl

theorem itemsOf_eq_nil_iff [Machine] {es : List (Value × Value)} {items : List Item}
    (h : itemsOf used es = .ok items) : items = [] ↔ es = [] := by
  constructor
  · rintro rfl
    exact (renderFrom_eq_empty_iff "" h).mp rfl
  · rintro rfl
    exact itemsOf_nil_eq_ok_iff.mp h

theorem IsBlank.indented {indent : String} (h : IsBlank indent.toList) :
    IsBlank (indent ++ "  ").toList := by
  rw [String.toList_append, IsBlank, List.all_append, h]
  decide

mutual

/-- The lines of a tree. Each map inside opens a block, and a block that has no name is what keeps
some block from being closed where it is opened. -/
theorem isLaid_itemsOf [Machine] : ∀ {used : Nat} {es : List (Value × Value)} {items : List Item},
    itemsOf used es = .ok items → EntriesTree es → ∀ {indent : String}, IsBlank indent.toList →
      IsLaid indent.toList (reachedEntries es) (NamedEntries es)
        ((Item.allLinesFrom indent items).map String.toList)
  | _, [], items, h, _, indent, _ => by
    obtain rfl := itemsOf_nil_eq_ok_iff.mp h
    exact .nil
  | _, (k, v) :: es, items, h, ⟨⟨s, hk, hs⟩, hv, hes⟩, indent, hindent => by
    obtain ⟨key, rfl, first, hfirst, rest, hrest, rfl⟩ := itemsOf_cons_eq_ok h
    obtain rfl := Value.str.inj hk
    rw [Item.allLinesFrom_append, List.map_append]
    exact (isLaid_entryItems hs hfirst hv hindent).append (isLaid_itemsOf hrest hes hindent)

theorem isLaid_entryItems [Machine] {s : String} (hs : IsKey s) : ∀ {used : Nat} {v : Value}
    {items : List Item}, entryItems used (snakeCase s) v = .ok items → IsTree v →
      ∀ {indent : String}, IsBlank indent.toList →
        IsLaid indent.toList (reached v) (Named (.str s) v)
          ((Item.allLinesFrom indent items).map String.toList) := by
  intro used v items h htree indent hindent
  cases v with
  | map es =>
    obtain ⟨body, hbody, rfl⟩ := entryItems_map_eq_ok h
    cases body with
    | nil =>
      -- without content there is one line, and nothing to align
      obtain rfl := (itemsOf_eq_nil_iff hbody).mp rfl
      exact (isLaid_flag hindent hs.isLabel).congr rfl (by simp [Named, NamedEntries])
    | cons item body =>
      have hne : es ≠ [] := (itemsOf_eq_nil_iff hbody).not.mp (List.cons_ne_nil item body)
      have hlines := isLaid_itemsOf hbody htree hindent.indented
      refine (isLaid_block hindent hs.isLabel hlines).congr rfl ?_
      simp [Named, hne, snakeCase_eq_empty_iff]
  | list xs =>
    replace h := entryItems_list_eq_ok h
    rw [reached, Named]
    split at h
    next hmaps =>
      obtain ⟨hne, hall⟩ := (Bool.and_eq_true _ _).mp hmaps
      rw [if_pos hmaps, if_pos hmaps]
      refine (isLaid_blocksOf hs.isLabel.singular h htree hall hindent).congr rfl ?_
      have hxs : xs ≠ [] := by simpa using hne
      have hname := (singular_snakeCase_eq_empty_iff hs).not
      simp only [List.mem_cons, List.not_mem_nil, or_false] at hname
      simp [hxs, hname]
    next hmaps =>
      obtain ⟨es, hes, rfl⟩ := h
      rw [if_neg hmaps, if_neg hmaps]
      exact isLaid_attribute hindent hs.isLabel (isFlat_inline indent hes htree)
  | _ =>
    obtain ⟨e, he, rfl⟩ := entryItems_scalar_eq_ok (by simp) (by simp) h
    exact isLaid_attribute hindent hs.isLabel (isFlat_exprOf indent he htree)

theorem isLaid_blocksOf [Machine] {name : String} (hname : IsLabel name) :
    ∀ {used : Nat} {xs : List Value} {items : List Item}, blocksOf used name xs = .ok items →
      ItemsTree xs → xs.all isMap = true → ∀ {indent : String}, IsBlank indent.toList →
        IsLaid indent.toList (reachedItems xs) ((xs ≠ [] → name ≠ "") ∧ NamedItems xs)
          ((Item.allLinesFrom indent items).map String.toList)
  | _, [], items, h, _, _, indent, _ => by
    obtain rfl := blocksOf_nil_eq_ok_iff.mp h
    exact IsLaid.nil.congr rfl (by simp [NamedItems])
  | _, x :: xs, items, h, htree, hmaps, indent, hindent => by
    rw [List.all_cons, Bool.and_eq_true] at hmaps
    cases x with
    | map es =>
      obtain ⟨body, hbody, rest, hrest, rfl⟩ := blocksOf_map_eq_ok h
      -- a map without entries still takes three lines here, the second of them empty
      have hblock := isLaid_block hindent hname
        (isLaid_orBlank (isLaid_itemsOf hbody htree.1 hindent.indented))
      have hrest := isLaid_blocksOf hname hrest htree.2 hmaps.2 hindent
      change IsLaid indent.toList (reachedEntries es + 1 + reachedItems xs) _
        ((Item.allLinesFrom indent ([.block name (Item.orBlank body)] ++ rest)).map String.toList)
      rw [Item.allLinesFrom_append, List.map_append]
      refine (hblock.append hrest).congr rfl ?_
      simp only [NamedItems, ne_eq, reduceCtorEq, not_false_eq_true, forall_const]
      tauto
    | _ => simp [isMap] at hmaps

end

section

open UsualMachine

end

section

open UsualMachine

end

end WebAcl.Hcl
