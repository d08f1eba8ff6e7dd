import WebAcl.Hcl.OfValue
import WebAcl.Proofs.NumberText
import WebAcl.Proofs.Outcome

namespace WebAcl

open Outcome

namespace Hcl

inductive Part where
  | name (s : String)
  | header (s : String)
  | word (s : String)
  | bare (s : String)
  deriving DecidableEq

mutual

def Expr.parts : Expr → List Part
  | .text _ | .column _ => []
  | .word s => [.word s]
  | .bare s => [.bare s]
  | .inline items => Expr.partsOf items

def Expr.partsOf : List Expr → List Part
  | [] => []
  | e :: es => e.parts ++ Expr.partsOf es

end

namespace Item

mutual

def parts : Item → List Part
  | blank => []
  | attributes fields => fields.flatMap fun f ↦ .name f.1 :: f.2.parts
  | flag name => [.name name]
  | block header body => .header header :: partsOf body

def partsOf : List Item → List Part
  | [] => []
  | item :: items => item.parts ++ partsOf items

end

@[simp] theorem partsOf_append (items items' : List Item) :
    partsOf (items ++ items') = partsOf items ++ partsOf items' := by
  induction items with
  | nil => rfl
  | cons item items ih => simp [partsOf, ih]

theorem partsOf_eq_flatMap (items : List Item) : partsOf items = items.flatMap parts := by
  induction items with
  | nil => rfl
  | cons item items ih => simp [partsOf, ih]

theorem forall_mem_partsOf {items : List Item} {P : Part → Prop} :
    (∀ part ∈ partsOf items, P part) ↔ ∀ item ∈ items, ∀ part ∈ item.parts, P part := by
  rw [partsOf_eq_flatMap, List.forall_mem_flatMap]

@[simp] theorem partsOf_singleton (item : Item) : partsOf [item] = item.parts :=
  List.append_nil _

@[simp] theorem partsOf_orBlank (items : List Item) : partsOf (orBlank items) = partsOf items := by
  cases items <;> rfl

@[simp] theorem parts_single (name : String) (value : Expr) :
    (single name value).parts = .name name :: value.parts := by
  simp [single, parts]

end Item

/-- A bare expression that stands for a number or a truth value. -/
inductive IsScalarText : String → Prop
  | truth (b : Bool) : IsScalarText (if b then "true" else "false")
  | int (i : Int) : IsScalarText (toString i)
  | float (x : Number.Binary64) : IsScalarText x.toText

theorem IsScalarText.number_or_word {s : String} (h : IsScalarText s) :
    (∀ c ∈ s.toList, Number.isNumberChar c = true) ∨
      s ∈ ["true", "false", "nan", "inf", "-inf"] := by
  cases h with
  | truth b => cases b <;> exact .inr (by decide)
  | int i => exact .inl fun c ↦ Number.isNumberChar_int
  | float x =>
    cases x with
    | nan => exact .inr (by decide)
    | infinite negative => cases negative <;> exact .inr (by decide)
    | finite negative m e => exact .inl fun c ↦ Number.isNumberChar_finite

theorem IsScalarText.ne_nil {s : String} (h : IsScalarText s) : s.toList ≠ [] := by
  cases h with
  | truth b => cases b <;> decide
  | int i => exact Number.int_ne_nil i
  | float x => exact Number.float_ne_nil x

theorem IsScalarText.chars {s : String} (h : IsScalarText s) :
    s.toList.all (fun c ↦ Number.isNumberChar c || c.isLower) = true := by
  obtain hnumber | hword := h.number_or_word
  · exact List.all_eq_true.mpr fun c hc ↦ by rw [hnumber c hc, Bool.true_or]
  · clear h
    revert s
    decide

theorem IsScalarText.head?_ne {s : String} (h : IsScalarText s) : s.toList.head? ≠ some 'a' := by
  obtain hnumber | hword := h.number_or_word
  · exact fun hhead ↦ absurd (hnumber 'a' (List.mem_of_head? hhead)) (by decide)
  · clear h
    revert s
    decide

def Part.IsOfData (keys : List String) : Part → Prop
  | name s => ∃ key ∈ keys, s = Text.snakeCase key
  | header s => ∃ key ∈ keys, s = Text.snakeCase key ∨ s = singular (Text.snakeCase key)
  | word _ => False
  | bare s => IsScalarText s

theorem Part.IsOfData.mono {keys keys' : List String} {part : Part} (h : part.IsOfData keys)
    (hkeys : keys ⊆ keys') : part.IsOfData keys' := by
  cases part with
  | name s | header s =>
    obtain ⟨key, hkey, hs⟩ := h
    exact ⟨key, hkeys hkey, hs⟩
  | word s => exact h
  | bare s => exact h

end Hcl

namespace Value

mutual

def keyTexts : Value → List String
  | .list xs => keyTextsOfItems xs
  | .map es => keyTextsOfEntries es
  | _ => []

def keyTextsOfItems : List Value → List String
  | [] => []
  | x :: xs => keyTexts x ++ keyTextsOfItems xs

def keyTextsOfEntries : List (Value × Value) → List String
  | [] => []
  | (k, v) :: es => (match k with
      | .str s => [s]
      | _ => []) ++ keyTexts v ++ keyTextsOfEntries es

end

end Value

namespace Hcl

theorem nameOf_eq_ok_iff {key : Value} {name : String} :
    nameOf key = .ok name ↔ ∃ s, key = .str s ∧ name = Text.snakeCase s := by
  cases key <;> simp [nameOf, eq_comm]

def bareText? : Value → Option String
  | .bool b => some (if b then "true" else "false")
  | .int i => some (toString i)
  | .float x => some x.toText
  | _ => none

theorem isScalarText_of_bareText? {v : Value} {s : String} (h : bareText? v = some s) :
    IsScalarText s := by
  cases v with
  | bool b => exact Option.some.inj h ▸ .truth b
  | int i => exact Option.some.inj h ▸ .int i
  | float x => exact Option.some.inj h ▸ .float x
  | _ => simp [bareText?] at h

section Inversion

variable [Machine] {used : Nat} {name : String} {v : Value} {xs : List Value}
  {es : List (Value × Value)} {items : List Item}

theorem exprsOf_cons_eq_ok {es : List Expr} (h : exprsOf used (v :: xs) = .ok es) :
    ∃ e, exprOf used v = .ok e ∧ ∃ rest, exprsOf used xs = .ok rest ∧ e :: rest = es := by
  simpa [exprsOf, bind_eq_ok_iff] using h

theorem itemsOf_nil_eq_ok_iff : itemsOf used [] = .ok items ↔ items = [] := by
  simp [itemsOf, eq_comm]

theorem itemsOf_cons_eq_ok {k : Value} (h : itemsOf used ((k, v) :: es) = .ok items) :
    ∃ key, k = .str key ∧ ∃ first, entryItems used (Text.snakeCase key) v = .ok first ∧
      ∃ rest, itemsOf used es = .ok rest ∧ first ++ rest = items := by
  rw [itemsOf, Recursion.enter_bind_eq_ok_iff] at h
  obtain ⟨-, h⟩ := h
  simp only [bind_eq_ok_iff, nameOf_eq_ok_iff, pure_eq_ok, Except.ok.injEq] at h
  obtain ⟨_, ⟨key, hk, rfl⟩, hitems⟩ := h
  exact ⟨key, hk, hitems⟩

theorem entryItems_map_eq_ok (h : entryItems used name (.map es) = .ok items) :
    ∃ body, itemsOf (used + Machine.blocks.step "dict") es = .ok body ∧
      [if body.isEmpty then .flag name else .block name body] = items := by
  rw [entryItems, Recursion.enter_bind_eq_ok_iff] at h
  simpa [bind_eq_ok_iff] using h.2

theorem exprOf_list_eq_ok {e : Expr} (h : exprOf used (.list xs) = .ok e) :
    ∃ es, exprsOf (used + Machine.expressions.step "list") xs = .ok es ∧ e = .inline es := by
  rw [exprOf, Recursion.enter_bind_eq_ok_iff] at h
  obtain ⟨es, hes, he⟩ := bind_eq_ok_iff.mp h.2
  exact ⟨es, hes, (Except.ok.inj he).symm⟩

theorem entryItems_list_eq_ok (h : entryItems used name (.list xs) = .ok items) :
    if !xs.isEmpty && xs.all isMap then blocksOf used (singular name) xs = .ok items
    else ∃ es, exprsOf (used + Machine.expressions.step "list") xs = .ok es ∧
      [.single name (.inline es)] = items := by
  rw [entryItems] at h
  split at h
  next hblocks => rwa [if_pos hblocks]
  next hblocks =>
    rw [if_neg hblocks]
    obtain ⟨e, he, hitems⟩ := bind_eq_ok_iff.mp h
    obtain ⟨es, hes, rfl⟩ := exprOf_list_eq_ok he
    exact ⟨es, hes, Except.ok.inj hitems⟩

theorem entryItems_scalar_eq_ok (hmap : ∀ es, v ≠ .map es) (hlist : ∀ xs, v ≠ .list xs)
    (h : entryItems used name v = .ok items) :
    ∃ e, exprOf used v = .ok e ∧ [.single name e] = items := by
  rw [entryItems] at h
  · simpa [bind_eq_ok_iff] using h
  · exact hmap
  · exact hlist

theorem blocksOf_nil_eq_ok_iff : blocksOf used name [] = .ok items ↔ items = [] := by
  simp [blocksOf, eq_comm]

theorem blocksOf_map_eq_ok (h : blocksOf used name (.map es :: xs) = .ok items) :
    ∃ body, itemsOf (used + Machine.blocks.step "dict") es = .ok body ∧
      ∃ rest, blocksOf used name xs = .ok rest ∧
        .block name (Item.orBlank body) :: rest = items := by
  rw [blocksOf, Recursion.enter_bind_eq_ok_iff] at h
  simpa [bind_eq_ok_iff] using h.2

theorem bodyOf_eq_ok (h : bodyOf used es = .ok items) :
    itemsOf (used + Machine.blocks.step "dict") es = .ok items := by
  rw [bodyOf, Recursion.enter_bind_eq_ok_iff] at h
  exact h.2

theorem exprOf_eq_ok {e : Expr} (hv : ∀ xs, v ≠ .list xs) (h : exprOf used v = .ok e) :
    e = (bareText? v).elim (.text v.toText) .bare := by
  cases v with
  | list xs => exact absurd rfl (hv xs)
  | bool | float =>
    rw [exprOf, Recursion.enter_bind_eq_ok_iff] at h
    exact (Except.ok.inj h.2).symm
  | int =>
    rw [exprOf, Recursion.enter_bind_eq_ok_iff] at h
    obtain ⟨-, h⟩ := h
    split at h
    · exact (Except.ok.inj h).symm
    · simp at h
  | null | str | bytes | date | timestamp | tuple | set | map | frozenMap | endless =>
    simp only [exprOf, Recursion.enter_bind_eq_ok_iff] at h
    obtain ⟨-, h⟩ := h
    split at h
    · exact (Except.ok.inj h).symm
    · simp at h

end Inversion

section Parts

variable [Machine] (keys : List String)

mutual

theorem parts_exprOf : ∀ {used : Nat} {v : Value} {e : Expr}, exprOf used v = .ok e →
    ∀ part ∈ e.parts, part.IsOfData keys := by
  intro used v e h
  cases v with
  | list xs =>
    obtain ⟨es, hes, rfl⟩ := exprOf_list_eq_ok h
    simpa [Expr.parts] using parts_exprsOf hes
  | _ =>
    obtain rfl := exprOf_eq_ok (by simp) h
    cases htext : bareText? _ with
    | none => simp [Expr.parts]
    | some s => simpa [Expr.parts, Part.IsOfData] using isScalarText_of_bareText? htext

theorem parts_exprsOf : ∀ {used : Nat} {xs : List Value} {es : List Expr},
    exprsOf used xs = .ok es → ∀ part ∈ Expr.partsOf es, part.IsOfData keys
  | _, [], es, h => by
    obtain rfl := Except.ok.inj h
    simp [Expr.partsOf]
  | _, x :: xs, es, h => by
    obtain ⟨e, he, es, hes, rfl⟩ := exprsOf_cons_eq_ok h
    simpa [Expr.partsOf, or_imp, forall_and] using ⟨parts_exprOf he, parts_exprsOf hes⟩

end

mutual

/-- The names in items made from data come from the keys. -/
theorem parts_itemsOf : ∀ {used : Nat} {es : List (Value × Value)} {items : List Item},
    itemsOf used es = .ok items →
      ∀ part ∈ Item.partsOf items, part.IsOfData (Value.keyTextsOfEntries es)
  | _, [], items, h => by
    obtain rfl := itemsOf_nil_eq_ok_iff.mp h
    simp [Item.partsOf]
  | _, (k, v) :: es, items, h => by
    obtain ⟨key, rfl, first, hfirst, rest, hrest, rfl⟩ := itemsOf_cons_eq_ok h
    intro part hpart
    rw [Value.keyTextsOfEntries]
    obtain hpart | hpart := by simpa using hpart
    · exact (parts_entryItems hfirst part hpart).mono (by simp)
    · exact (parts_itemsOf hrest part hpart).mono (by simp)

theorem parts_entryItems {key : String} : ∀ {used : Nat} {v : Value} {items : List Item},
    entryItems used (Text.snakeCase key) v = .ok items →
      ∀ part ∈ Item.partsOf items, part.IsOfData (key :: v.keyTexts) := by
  intro used v items h
  have hname : (Part.name (Text.snakeCase key)).IsOfData (key :: v.keyTexts) := ⟨key, by simp, rfl⟩
  cases v with
  | map es =>
    obtain ⟨body, hbody, rfl⟩ := entryItems_map_eq_ok h
    have htail : ∀ part ∈ Item.partsOf body, part.IsOfData (key :: (Value.map es).keyTexts) :=
      fun part hpart ↦ (parts_itemsOf hbody part hpart).mono (by simp [Value.keyTexts])
    rw [Item.partsOf_singleton]
    split
    · exact List.forall_mem_singleton.mpr hname
    · exact List.forall_mem_cons.mpr ⟨⟨key, by simp, .inl rfl⟩, htail⟩
  | list xs =>
    replace h := entryItems_list_eq_ok h
    split at h
    · exact parts_blocksOf h
    · obtain ⟨es, hes, rfl⟩ := h
      rw [Item.partsOf_singleton, Item.parts_single]
      exact List.forall_mem_cons.mpr ⟨hname, parts_exprsOf _ hes⟩
  | _ =>
    obtain ⟨e, he, rfl⟩ := entryItems_scalar_eq_ok (by simp) (by simp) h
    rw [Item.partsOf_singleton, Item.parts_single]
    exact List.forall_mem_cons.mpr ⟨hname, parts_exprOf _ he⟩

theorem parts_blocksOf {key : String} : ∀ {used : Nat} {xs : List Value} {items : List Item},
    blocksOf used (singular (Text.snakeCase key)) xs = .ok items →
      ∀ part ∈ Item.partsOf items, part.IsOfData (key :: Value.keyTextsOfItems xs)
  | _, [], items, h => by
    obtain rfl := blocksOf_nil_eq_ok_iff.mp h
    simp [Item.partsOf]
  | _, x :: xs, items, h => by
    have hskip : ∀ {keys : List String} {part : Part},
        part.IsOfData (key :: Value.keyTextsOfItems xs) →
          part.IsOfData (key :: (keys ++ Value.keyTextsOfItems xs)) :=
      fun hpart ↦ hpart.mono (by simp)
    rw [Value.keyTextsOfItems]
    cases x with
    | map es =>
      obtain ⟨body, hbody, rest, hrest, rfl⟩ := blocksOf_map_eq_ok h
      rw [Item.partsOf, Item.parts, Item.partsOf_orBlank]
      refine List.forall_mem_cons.mpr
        ⟨⟨key, by simp, .inr rfl⟩, List.forall_mem_append.mpr ⟨?_, ?_⟩⟩
      · exact fun part hpart ↦ (parts_itemsOf hbody part hpart).mono (by simp [Value.keyTexts])
      · exact fun part hpart ↦ hskip (parts_blocksOf hrest part hpart)
    | _ =>
      simp only [blocksOf] at h
      exact fun part hpart ↦ hskip (parts_blocksOf h part hpart)

end

end Parts

end Hcl

end WebAcl
