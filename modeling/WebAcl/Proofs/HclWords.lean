import WebAcl.Proofs.HclReader

namespace WebAcl

namespace Hcl

mutual

def Term.words : Term → List (List Char)
  | .literal _ => []
  | .word cs => [cs]
  | .list items => Term.wordsOf items

def Term.wordsOf : List Term → List (List Char)
  | [] => []
  | t :: ts => t.words ++ Term.wordsOf ts

end

mutual

def Node.words : Node → List (List Char)
  | .attribute _ value => value.words
  | .block _ body => Node.wordsOf body

def Node.wordsOf : List Node → List (List Char)
  | [] => []
  | n :: ns => n.words ++ Node.wordsOf ns

end

def Part.bare? : Part → Option (List Char)
  | bare s => some s.toList
  | _ => none

theorem Term.wordsOf_literals (items : List String) :
    Term.wordsOf (items.map fun s ↦ .literal (escape s.toList)) = [] := by
  induction items with
  | nil => rfl
  | cons s items ih => exact ih

mutual

theorem words_term : ∀ e : Expr, e.term.words = e.parts.filterMap Part.bare?
  | .text _ | .word _ | .bare _ => rfl
  | .inline items => wordsOf_terms items
  | .column items => Term.wordsOf_literals items

theorem wordsOf_terms : ∀ es : List Expr,
    Term.wordsOf (Expr.terms es) = (Expr.partsOf es).filterMap Part.bare?
  | [] => rfl
  | e :: es => by
    rw [Expr.terms, Term.wordsOf, words_term e, wordsOf_terms es, Expr.partsOf,
      List.filterMap_append]

end

theorem Node.wordsOf_append (ns ms : List Node) :
    Node.wordsOf (ns ++ ms) = Node.wordsOf ns ++ Node.wordsOf ms := by
  induction ns with
  | nil => rfl
  | cons n ns ih => rw [List.cons_append, wordsOf, wordsOf, ih, List.append_assoc]

mutual

theorem wordsOf_nodes : ∀ item : Item,
    Node.wordsOf item.nodes = item.parts.filterMap Part.bare?
  | .blank | .flag _ => rfl
  | .attributes fields => by
    rw [Item.nodes, Item.parts]
    induction fields with
    | nil => rfl
    | cons f fields ih =>
      rw [List.map_cons, Node.wordsOf, Node.words, words_term, ih, List.flatMap_cons,
        List.filterMap_append]
      rfl
  | .block header body => by
    rw [Item.nodes, Node.wordsOf, Node.words, wordsOf_nodesOf body]
    exact List.append_nil _

/-- The words of a document are the bare expressions that it was made of. -/
theorem wordsOf_nodesOf : ∀ items : List Item,
    Node.wordsOf (Item.nodesOf items) = (Item.partsOf items).filterMap Part.bare?
  | [] => rfl
  | item :: items => by
    rw [Item.nodesOf, Node.wordsOf_append, wordsOf_nodes item, wordsOf_nodesOf items,
      Item.partsOf, List.filterMap_append]

end

/-- The characters with which a comment can start. -/
def commentMarks : List Char :=
  ['#', '/']

def Token.IsUncommented : Token → Prop
  | word cs => ∀ d ∈ commentMarks, d ∉ cs
  | _ => True

instance : DecidablePred Token.IsUncommented
  | .word cs => inferInstanceAs (Decidable (∀ d ∈ commentMarks, d ∉ cs))
  | .literal _ | .mark _ => .isTrue trivial

/-- A text without comments, as it is read. -/
structure IsReadAs (cs : List Char) (nodes : List Node) : Prop where
  uncommented : ∀ t ∈ tokens cs, t.IsUncommented
  read_eq : read cs = some nodes

def Part.tokens : Part → List Token
  | name s | header s | bare s => Hcl.tokens s.toList
  | word s => [.literal s.toList]

def Part.IsUncommented (part : Part) : Prop :=
  ∀ t ∈ part.tokens, t.IsUncommented

theorem uncommented_wordChars {cs : List Char} (hchars : ∀ c ∈ cs, isWordChar c = true)
    (hcs : ∀ d ∈ commentMarks, d ∉ cs) : ∀ t ∈ Hcl.tokens cs, t.IsUncommented := by
  rw [(Lexes.wordChars hchars).tokens_eq]
  cases cs with
  | nil => exact List.forall_mem_nil _
  | cons c cs => exact List.forall_mem_singleton.mpr hcs

mutual

theorem uncommented_expr : ∀ {e : Expr}, (∀ part ∈ e.parts, part.IsUncommented) →
    ∀ t ∈ e.tokens, t.IsUncommented
  | .text s, _ => by simp [Expr.tokens, Token.IsUncommented]
  | .word s, _ => by simp [Expr.tokens, Token.IsUncommented]
  | .bare s, h => h (.bare s) (List.mem_singleton_self _)
  | .inline items, h => by
    simpa [Expr.tokens, Token.IsUncommented, or_imp, forall_and] using uncommented_listed h
  | .column items, _ => by
    have hitems : ∀ t ∈ items.flatMap fun s ↦ [Token.literal (escape s.toList), .mark ','],
        t.IsUncommented :=
      List.forall_mem_flatMap.mpr fun s _ ↦ by simp [Token.IsUncommented]
    exact List.forall_mem_cons.mpr
      ⟨trivial, List.forall_mem_append.mpr ⟨hitems, List.forall_mem_singleton.mpr trivial⟩⟩

theorem uncommented_listed : ∀ {es : List Expr},
    (∀ part ∈ Expr.partsOf es, part.IsUncommented) → ∀ t ∈ Expr.listed es, t.IsUncommented
  | [], _ => List.forall_mem_nil _
  | [e], h => uncommented_expr fun part hpart ↦ h part (List.mem_append_left _ hpart)
  | e :: e' :: es, h => by
    obtain ⟨he, hes⟩ := List.forall_mem_append.mp h
    simpa [Expr.listed, Token.IsUncommented, or_imp, forall_and] using
      ⟨uncommented_expr he, uncommented_listed hes⟩

end

mutual

theorem uncommented_item : ∀ {item : Item}, (∀ part ∈ item.parts, part.IsUncommented) →
    ∀ t ∈ item.tokens, t.IsUncommented
  | .blank, _ => List.forall_mem_nil _
  | .attributes fields, h => by
    refine List.forall_mem_flatMap.mpr fun f hf ↦ ?_
    obtain ⟨hname, hvalue⟩ := List.forall_mem_cons.mp fun part hpart ↦
      h part (List.mem_flatMap.mpr ⟨f, hf, hpart⟩)
    exact List.forall_mem_append.mpr
      ⟨hname, List.forall_mem_cons.mpr ⟨trivial, uncommented_expr hvalue⟩⟩
  | .flag name, h => by
    have hname := h (.name name) (List.mem_singleton_self _)
    exact List.forall_mem_append.mpr ⟨hname, by simp [Token.IsUncommented]⟩
  | .block header body, h => by
    obtain ⟨hheader, hbody⟩ := List.forall_mem_cons.mp h
    refine List.forall_mem_append.mpr ⟨hheader, List.forall_mem_cons.mpr ⟨trivial, ?_⟩⟩
    exact List.forall_mem_append.mpr
      ⟨uncommented_items hbody, List.forall_mem_singleton.mpr trivial⟩

theorem uncommented_items : ∀ {items : List Item},
    (∀ part ∈ Item.partsOf items, part.IsUncommented) →
      ∀ t ∈ Item.tokensOf items, t.IsUncommented
  | [], _ => List.forall_mem_nil _
  | item :: items, h => by
    obtain ⟨hitem, hitems⟩ := List.forall_mem_append.mp h
    exact List.forall_mem_append.mpr ⟨uncommented_item hitem, uncommented_items hitems⟩

end

theorem uncommented_file {blocks : List Item} (h : ∀ part ∈ Item.partsOf blocks, part.IsClosed)
    (huncommented : ∀ part ∈ Item.partsOf blocks, part.IsUncommented) :
    ∀ t ∈ tokens (file blocks).toList, t.IsUncommented := by
  rw [(lexes_file h).tokens_eq]
  exact uncommented_items huncommented

theorem isReadAs_file {blocks : List Item} (h : ∀ part ∈ Item.partsOf blocks, part.Readable)
    (huncommented : ∀ part ∈ Item.partsOf blocks, part.IsUncommented) :
    IsReadAs (file blocks).toList (Item.nodesOf blocks) where
  uncommented := uncommented_file (fun part hpart ↦ (h part hpart).isClosed) huncommented
  read_eq := read_file h

end Hcl

end WebAcl
