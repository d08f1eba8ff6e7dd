import WebAcl.Proofs.DecimalText
import WebAcl.Proofs.LineBreaks
import WebAcl.Proofs.Nesting
import WebAcl.Proofs.UnbrokenText

namespace WebAcl.Hcl

def isIndent (c : Char) : Bool :=
  c == ' ' || c == '\t'

def IsBlank (line : List Char) : Prop :=
  line.all isIndent = true

instance (line : List Char) : Decidable (IsBlank line) :=
  inferInstanceAs (Decidable (line.all isIndent = true))

def indentation (line : List Char) : List Char :=
  line.takeWhile isIndent

def Deeper (line than : List Char) : Prop :=
  indentation than <+: indentation line ∧ indentation than ≠ indentation line

variable {cs ds indent header line : List Char} {lines lines' inner : List (List Char)}

theorem indentation_append (h : IsBlank cs) (ds : List Char) :
    indentation (cs ++ ds) = cs ++ indentation ds :=
  List.takeWhile_append_of_pos (List.all_eq_true.mp h)

/-- Without a name, the space before the brace belongs to the indentation. -/
theorem indentation_header (h : ∀ c ∈ header, isIndent c = false) :
    indentation (header ++ [' ', '\x7b']) = if header = [] then [' '] else [] := by
  cases header with
  | nil => rfl
  | cons c cs =>
    have hc : ¬ isIndent c = true := by simp [h c List.mem_cons_self]
    rw [if_neg (List.cons_ne_nil c cs), List.cons_append]
    exact List.takeWhile_cons_of_neg hc

theorem deeper_header (hindent : IsBlank indent) (hheader : ∀ c ∈ header, isIndent c = false)
    (h : indent ++ [' ', ' '] <+: line) : Deeper line (indent ++ (header ++ [' ', '\x7b'])) := by
  obtain ⟨rest, rfl⟩ := h
  have hspaces : IsBlank [' ', ' '] := by decide
  rw [Deeper, indentation_append hindent, indentation_header hheader, List.append_assoc,
    indentation_append hindent, indentation_append hspaces, List.prefix_append_right_inj]
  split <;> simp

theorem erase_of_not_mem (h : '"' ∉ cs) : erase cs = cs := by
  simp [erase, pieces_of_not_mem h, List.flatMap_map, Piece.erased]

theorem braces_append (h : Closed cs) (ds : List Char) :
    braces (cs ++ ds) = braces cs ++ braces ds := by
  rw [braces, erase_append h, List.filter_append, ← braces, ← braces]

theorem braces_of_not_mem (h : '"' ∉ cs) : braces cs = cs.filter isBrace := by
  rw [braces, erase_of_not_mem h]

theorem count_braces (line : List Char) :
    (braces line).count '\x7b' = (erase line).count '\x7b' :=
  List.count_filter (by decide)

/-- A character that counts for literals, lines or blocks. -/
def isStructural (c : Char) : Bool :=
  c == '"' || c == '\n' || isBrace c

theorem isStructural_cases {c : Char} (h : isStructural c = true) :
    c = '"' ∨ c = '\n' ∨ c = '\x7b' ∨ c = '\x7d' := by
  simpa [isStructural, isBrace, or_assoc] using h

/-- A text that ends its literals, stays on its line and has no braces outside of literals. -/
structure IsFlat (cs : List Char) : Prop where
  closed : Closed cs
  unbroken : '\n' ∉ cs
  braces_eq : braces cs = []

namespace IsFlat

theorem of_any (h : cs.any isStructural = false) : IsFlat cs := by
  have hquote : '"' ∉ cs := fun hmem ↦ List.any_eq_false.mp h _ hmem (by decide)
  refine ⟨closed_of_not_mem hquote, fun hmem ↦ List.any_eq_false.mp h _ hmem (by decide), ?_⟩
  rw [braces_of_not_mem hquote, List.filter_eq_nil_iff]
  intro c hc hbrace
  exact List.any_eq_false.mp h c hc (by simp [isStructural, hbrace])

theorem append (hcs : IsFlat cs) (hds : IsFlat ds) : IsFlat (cs ++ ds) where
  closed := hcs.closed.append hds.closed
  unbroken := List.mem_append.not.mpr (not_or.mpr ⟨hcs.unbroken, hds.unbroken⟩)
  braces_eq := by rw [braces_append hcs.closed, hcs.braces_eq, hds.braces_eq, List.nil_append]

theorem quote {s : String} (h : Unbroken s) : IsFlat (quote s).toList := by
  have hinside := inside_escape s.toList
  have hquote : (Hcl.quote s).toList = '"' :: (escape s.toList ++ ['"']) := by
    simp [Hcl.quote, escapeText]
  rw [hquote]
  refine ⟨closed_quoted hinside, ?_, ?_⟩
  · have hescape : '\n' ∉ escape s.toList := (mem_escape (by simp) _).not.mpr h
    simpa using hescape
  · rw [braces, erase_quoted hinside]
    rfl

theorem intercalate {separator : String} (hseparator : IsFlat separator.toList) {ss : List String}
    (hss : ∀ s ∈ ss, IsFlat s.toList) : IsFlat (separator.intercalate ss).toList := by
  induction ss with
  | nil => exact of_any rfl
  | cons s ss ih =>
    obtain ⟨hs, hss⟩ := List.forall_mem_cons.mp hss
    cases ss with
    | nil => simpa using hs
    | cons t ss =>
      rw [String.intercalate_cons_cons, String.toList_append, String.toList_append]
      exact (hs.append hseparator).append (ih hss)

theorem of_isBlank (h : IsBlank cs) : IsFlat cs := by
  refine of_any (List.any_eq_false.mpr fun c hc hstructural ↦ ?_)
  have hindent := List.all_eq_true.mp h c hc
  obtain rfl | rfl | rfl | rfl := isStructural_cases hstructural <;>
    exact absurd hindent (by decide)

end IsFlat

/-- A line behind an indentation. It ends its literals, and it opens a block, closes one, does
either or neither. -/
structure IsLine (indent line : List Char) : Prop where
  closed : Closed line
  unbroken : '\n' ∉ line
  starts : IsBlank line ∨ indent <+: line
  braces_mem : braces line ∈ [[], ['\x7b'], ['\x7d'], ['\x7b', '\x7d']]

theorem IsLine.mono (h : IsLine (indent ++ ds) line) : IsLine indent line where
  closed := h.closed
  unbroken := h.unbroken
  starts := h.starts.imp_right (List.prefix_append indent ds).trans
  braces_mem := h.braces_mem

theorem isLine_append (hindent : IsBlank indent) (hcs : IsFlat cs) (ds : List Char)
    (hquote : '"' ∉ ds) (hbreak : '\n' ∉ ds)
    (hds : ds.filter isBrace ∈ [[], ['\x7b'], ['\x7d'], ['\x7b', '\x7d']]) :
    IsLine indent (indent ++ (cs ++ ds)) ∧
      braces (indent ++ (cs ++ ds)) = ds.filter isBrace := by
  have hflat := IsFlat.of_isBlank hindent
  have hbraces : braces (indent ++ (cs ++ ds)) = ds.filter isBrace := by
    rw [braces_append hflat.closed, hflat.braces_eq, braces_append hcs.closed, hcs.braces_eq,
      braces_of_not_mem hquote, List.nil_append, List.nil_append]
  refine ⟨⟨?_, ?_, .inr (List.prefix_append _ _), hbraces ▸ hds⟩, hbraces⟩
  · exact hflat.closed.append (hcs.closed.append (closed_of_not_mem hquote))
  · simp [hflat.unbroken, hcs.unbroken, hbreak]

def IndentsInner (opening : List Char) (inner : List (List Char)) (_closing : List Char) : Prop :=
  ∀ line ∈ inner, IsBlank line ∨ Deeper line opening

def IsAligned (opening : List Char) (_inner : List (List Char)) (closing : List Char) : Prop :=
  indentation closing = indentation opening

/-- Lines of blocks behind an indentation, with the number of blocks that they open and with when
all of these are closed where they are opened. -/
structure IsLaid (indent : List Char) (count : Nat) (aligned : Prop)
    (lines : List (List Char)) : Prop where
  isLine : ∀ line ∈ lines, IsLine indent line
  balanced : Balanced (erasedLines lines)
  matched : Matched lines
  count_eq : (erasedLines lines).count '\x7b' = count
  indents : EachBlock IndentsInner lines
  aligned_iff : EachBlock IsAligned lines ↔ aligned

namespace IsLaid

variable {m n : Nat} {p q : Prop}

theorem congr (h : IsLaid indent m p lines) (hcount : m = n) (hiff : p ↔ q) :
    IsLaid indent n q lines :=
  hcount ▸ propext hiff ▸ h

theorem nil : IsLaid indent 0 True [] where
  isLine := nofun
  balanced := .nil
  matched := .nil
  count_eq := rfl
  indents := .nil
  aligned_iff := iff_true_intro .nil

theorem single (h : IsLine indent line) (hbalanced : Balanced (braces line)) :
    IsLaid indent ((braces line).count '\x7b') True [line] where
  isLine := List.forall_mem_singleton.mpr h
  balanced := by simpa using balanced_filter_iff.mp hbalanced
  matched := .single fun hcloses ↦ absurd (hcloses ▸ hbalanced.height_eq) (by decide)
  count_eq := by rw [erasedLines_cons, erasedLines_nil, List.append_nil, count_braces]
  indents := .single line
  aligned_iff := iff_true_intro (.single line)

theorem blank (h : IsLaid indent n p []) : IsLaid indent n p [[]] := by
  have hline : IsLine indent [] := ⟨closed_nil, nofun, .inl rfl, by decide⟩
  exact (single hline .nil).congr h.count_eq ((iff_true_intro .nil).symm.trans h.aligned_iff)

theorem append (h : IsLaid indent m p lines) (h' : IsLaid indent n q lines') :
    IsLaid indent (m + n) (p ∧ q) (lines ++ lines') where
  isLine := List.forall_mem_append.mpr ⟨h.isLine, h'.isLine⟩
  balanced := by
    rw [erasedLines_append]
    exact h.balanced.append h'.balanced
  matched := h.matched.append h'.matched
  count_eq := by rw [erasedLines_append, List.count_append, h.count_eq, h'.count_eq]
  indents := (EachBlock.append_iff h.balanced).mpr ⟨h.indents, h'.indents⟩
  aligned_iff := by rw [EachBlock.append_iff h.balanced, h.aligned_iff, h'.aligned_iff]

theorem block (h : IsLaid (indent ++ [' ', ' ']) n p inner) (hindent : IsBlank indent)
    (hflat : IsFlat header) (hheader : ∀ c ∈ header, isIndent c = false) :
    IsLaid indent (n + 1) (header ≠ [] ∧ p)
      ((indent ++ (header ++ [' ', '\x7b'])) :: (inner ++ [indent ++ ['\x7d']])) := by
  obtain ⟨hopening, hopens⟩ : IsLine indent (indent ++ (header ++ [' ', '\x7b'])) ∧
      Opens (indent ++ (header ++ [' ', '\x7b'])) :=
    isLine_append hindent hflat _ (by decide) (by decide) (by decide)
  have hnone : IsFlat [] := .of_any rfl
  obtain ⟨hclosing, hcloses⟩ : IsLine indent (indent ++ ['\x7d']) ∧
      Closes (indent ++ ['\x7d']) :=
    isLine_append hindent hnone _ (by decide) (by decide) (by decide)
  have hblock : IsBlock (indent ++ (header ++ [' ', '\x7b'])) inner (indent ++ ['\x7d']) :=
    ⟨hopens, h.balanced, hcloses⟩
  have haligned : IsAligned (indent ++ (header ++ [' ', '\x7b'])) inner (indent ++ ['\x7d']) ↔
      header ≠ [] := by
    rw [IsAligned, indentation_append hindent, indentation_append hindent,
      indentation_header hheader, show indentation ['\x7d'] = [] from rfl, List.append_right_inj]
    split <;> simp [*]
  constructor
  · -- the lines inside have the longer indentation
    refine List.forall_mem_cons.mpr ⟨hopening, List.forall_mem_append.mpr ⟨?_, ?_⟩⟩
    · exact fun line hline ↦ (h.isLine line hline).mono
    · exact List.forall_mem_singleton.mpr hclosing
  · exact hblock.enclosed
  · exact h.matched.block hblock
  · rw [erasedLines_cons, erasedLines_append, erasedLines_cons, erasedLines_nil, List.append_nil,
      List.count_append, List.count_append, h.count_eq, ← count_braces, ← count_braces, hopens,
      hcloses]
    simp [Nat.add_comm]
  · refine (EachBlock.enclosed_iff hblock).mpr ⟨fun line hline ↦ ?_, h.indents⟩
    exact (h.isLine line hline).starts.imp_right (deeper_header hindent hheader)
  · rw [EachBlock.enclosed_iff hblock, haligned, h.aligned_iff]

end IsLaid

end WebAcl.Hcl
