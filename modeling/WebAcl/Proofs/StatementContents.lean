import Mathlib.Data.List.Forall2
import WebAcl.Proofs.HclReader
import WebAcl.Proofs.Inspection

namespace WebAcl

open Hcl Outcome

namespace Value

mutual

def term : Value → Term
  | bool b => .word (if b then "true" else "false").toList
  | int i => .word (toString i).toList
  | float x => .word x.toText.toList
  | list xs => .list (terms xs)
  | v => .literal (escape v.toText.toList)

def terms : List Value → List Term
  | [] => []
  | x :: xs => x.term :: terms xs

end

mutual

theorem term_exprOf [Machine] : ∀ {used : Nat} {v : Value} {e : Expr},
    exprOf used v = .ok e → e.term = v.term := by
  intro used v e h
  cases v with
  | bool | float =>
    rw [exprOf, Recursion.enter_bind_eq_ok_iff] at h
    obtain rfl := Except.ok.inj h.2
    rfl
  | list xs =>
    obtain ⟨es, hes, rfl⟩ := exprOf_list_eq_ok h
    rw [Expr.term, terms_exprsOf hes, term]
  | _ =>
    simp only [exprOf, Recursion.enter_bind_eq_ok_iff] at h
    obtain ⟨-, h⟩ := h
    split at h
    · obtain rfl := Except.ok.inj h
      rfl
    · simp at h

theorem terms_exprsOf [Machine] : ∀ {used : Nat} {xs : List Value} {es : List Expr},
    exprsOf used xs = .ok es → Expr.terms es = terms xs
  | _, [], es, h => by
    obtain rfl := Except.ok.inj h
    rfl
  | _, x :: xs, es, h => by
    obtain ⟨e, he, es, hes, rfl⟩ := exprsOf_cons_eq_ok h
    rw [Expr.terms, term_exprOf he, terms_exprsOf hes, terms]

end

/-- Null and maps are written like the text that spells them. -/
inductive Spells : String → Value → Prop
  | null : Spells "None" null
  | map (es : List (Value × Value)) : Spells (map es).inspect (map es)

inductive Alike : Value → Value → Prop
  | same (v : Value) : Alike v v
  | spells {s : String} {v : Value} (h : Spells s v) : Alike (str s) v
  | spelled {s : String} {v : Value} (h : Spells s v) : Alike v (str s)
  | list {xs ys : List Value} (h : List.Forall₂ Alike xs ys) : Alike (list xs) (list ys)

theorem term_int_ne_bool {i : Int} {b : Bool} : (int i).term ≠ (bool b).term := by
  intro h
  rw [term, term, Term.word.injEq] at h
  have hchars : (if b then "true" else "false").toList.all Number.isNumberChar = true :=
    List.all_eq_true.mpr fun c hc ↦ Number.isNumberChar_int (h ▸ hc)
  revert hchars
  cases b <;> decide

variable {P : String → Prop}

mutual

theorem alike_of_term_eq : ∀ {v w : Value}, v.IsPlain P → w.IsPlain P → v.term = w.term →
    v.Alike w := by
  intro v w hv hw h
  -- truth values and numbers are words, lists are lists, everything else is a literal
  cases v <;> cases w <;> try first | exact hv.elim | exact hw.elim
  case int.bool => exact absurd h term_int_ne_bool
  case bool.int => exact absurd h.symm term_int_ne_bool
  case list.list xs ys => exact .list (alike_of_terms_eq hv hw (by simpa [term] using h))
  all_goals
    simp only [term, Term.literal.injEq, Term.word.injEq, reduceCtorEq, escape_toList_inj,
      String.toList_inj] at h
  case null.null => exact .same _
  case null.str t =>
    obtain rfl : "None" = t := h
    exact .spelled .null
  case null.map | map.null | map.map => exact eq_of_inspect_eq hv hw h ▸ .same _
  case bool.bool b d =>
    have hd : b = d := by
      revert h
      cases b <;> cases d <;> decide
    exact hd ▸ .same _
  case int.int i j => exact Number.eq_of_toString_eq h ▸ .same _
  case str.null s =>
    obtain rfl : s = "None" := h
    exact .spells .null
  case str.str s t =>
    obtain rfl : s = t := h
    exact .same _
  case str.map s es =>
    obtain rfl : s = (map es).inspect := h
    exact .spells (.map es)
  case map.str es t =>
    obtain rfl : (map es).inspect = t := h
    exact .spelled (.map es)

theorem alike_of_terms_eq : ∀ {xs ys : List Value}, ItemsPlain P xs → ItemsPlain P ys →
    terms xs = terms ys → List.Forall₂ Alike xs ys
  | [], [], _, _, _ => .nil
  | x :: xs, y :: ys, ⟨hx, hxs⟩, ⟨hy, hys⟩, h => by
    obtain ⟨hhead, htail⟩ := List.cons.inj h
    exact .cons (alike_of_term_eq hx hy hhead) (alike_of_terms_eq hxs hys htail)

end

mutual

def leaves : Value → List Value
  | list xs => leavesOf xs
  | v => [v]

def leavesOf : List Value → List Value
  | [] => []
  | x :: xs => x.leaves ++ leavesOf xs

end

mutual

theorem isPlain_iff_leaves : ∀ {v : Value}, v.IsPlain P ↔ ∀ x ∈ v.leaves, x.IsPlain P := by
  intro v
  cases v with
  | list xs =>
    rw [leaves, IsPlain]
    exact itemsPlain_iff_leaves
  | _ => simp [leaves]

theorem itemsPlain_iff_leaves : ∀ {xs : List Value},
    ItemsPlain P xs ↔ ∀ x ∈ leavesOf xs, x.IsPlain P
  | [] => by simp [ItemsPlain, leavesOf]
  | x :: xs => by
    rw [ItemsPlain, leavesOf, List.forall_mem_append, isPlain_iff_leaves, itemsPlain_iff_leaves]

end

def Apart (vs ws : List Value) : Prop :=
  ∀ v ∈ vs, ∀ w ∈ ws, ∀ s, (v = str s → ¬ Spells s w) ∧ (w = str s → ¬ Spells s v)

theorem Spells.mem_leaves {s : String} {v : Value} (h : Spells s v) : v ∈ v.leaves := by
  cases h <;> exact List.mem_cons_self

theorem Apart.mono {vs ws vs' ws' : List Value} (h : Apart vs ws) (hv : vs' ⊆ vs)
    (hw : ws' ⊆ ws) : Apart vs' ws' :=
  fun v hmem w hmem' ↦ h v (hv hmem) w (hw hmem')

mutual

theorem Alike.eq_of_apart : ∀ {v w : Value}, v.Alike w → Apart v.leaves w.leaves → v = w
  | _, _, .same _, _ => rfl
  | .str s, w, .spells h, hapart => by
    have hw : w ∈ w.leaves := h.mem_leaves
    exact absurd h ((hapart (str s) List.mem_cons_self w hw s).1 rfl)
  | v, .str s, .spelled h, hapart => by
    have hv : v ∈ v.leaves := h.mem_leaves
    exact absurd h ((hapart v hv (str s) List.mem_cons_self s).2 rfl)
  | .list _, .list _, .list h, hapart => congrArg Value.list (eq_of_itemsApart h hapart)

theorem eq_of_itemsApart : ∀ {xs ys : List Value}, List.Forall₂ Alike xs ys →
    Apart (leavesOf xs) (leavesOf ys) → xs = ys
  | _, _, .nil, _ => rfl
  | _, _, .cons h hs, hapart => by
    rw [h.eq_of_apart (hapart.mono (List.subset_append_left ..) (List.subset_append_left ..)),
      eq_of_itemsApart hs
        (hapart.mono (List.subset_append_right ..) (List.subset_append_right ..))]

end

end Value

namespace Hcl

/-- What a body says: attributes with their values, and blocks. -/
inductive Content where
  | attribute (name : String) (value : Value)
  | block (name : String) (body : List Content)

mutual

/-- The contents of a body. A map is a block, and a list of maps is a block for each of them, named
in the singular. -/
def contentsOf : List (Value × Value) → List Content
  | [] => []
  | (k, v) :: es => entryContents (Text.snakeCase k.toText) v ++ contentsOf es

def entryContents (name : String) : Value → List Content
  | .map es => [.block name (contentsOf es)]
  | .list xs =>
    if !xs.isEmpty && xs.all isMap then blockContents (singular name) xs
    else [.attribute name (.list xs)]
  | v => [.attribute name v]

def blockContents (name : String) : List Value → List Content
  | [] => []
  | .map es :: xs => .block name (contentsOf es) :: blockContents name xs
  | _ :: xs => blockContents name xs

end

namespace Content

mutual

def node : Content → Node
  | .attribute name v => .attribute name.toList v.term
  | .block name body => .block (wordToken name.toList) (nodes body)

def nodes : List Content → List Node
  | [] => []
  | c :: cs => c.node :: nodes cs

end

theorem nodes_append (cs ds : List Content) : nodes (cs ++ ds) = nodes cs ++ nodes ds := by
  induction cs with
  | nil => rfl
  | cons c cs ih => rw [List.cons_append, nodes, nodes, ih, List.cons_append]

mutual

def values : Content → List Value
  | .attribute _ v => v.leaves
  | .block _ body => valuesOf body

def valuesOf : List Content → List Value
  | [] => []
  | c :: cs => c.values ++ valuesOf cs

end

theorem valuesOf_append (cs ds : List Content) :
    valuesOf (cs ++ ds) = valuesOf cs ++ valuesOf ds := by
  induction cs with
  | nil => rfl
  | cons c cs ih => rw [List.cons_append, valuesOf, valuesOf, ih, List.append_assoc]

/-- Contents with the same names, whose values are the same but for texts that spell null or a
map. -/
inductive Alike : Content → Content → Prop
  | attribute (name : String) {v w : Value} (h : v.Alike w) :
    Alike (.attribute name v) (.attribute name w)
  | block (name : String) {body body' : List Content} (h : List.Forall₂ Alike body body') :
    Alike (.block name body) (.block name body')

mutual

theorem alike_of_node_eq {P : String → Prop} : ∀ {c d : Content},
    (∀ v ∈ c.values, v.IsPlain P) → (∀ v ∈ d.values, v.IsPlain P) → c.node = d.node → c.Alike d
  | .attribute name v, .attribute name' w, hv, hw, h => by
    obtain ⟨hname, hterm⟩ := Node.attribute.inj h
    obtain rfl := String.toList_inj.mp hname
    exact .attribute name (Value.alike_of_term_eq (Value.isPlain_iff_leaves.mpr hv)
      (Value.isPlain_iff_leaves.mpr hw) hterm)
  | .block name body, .block name' body', hv, hw, h => by
    obtain ⟨hname, hbody⟩ := Node.block.inj h
    obtain rfl := String.toList_inj.mp (wordToken_inj hname)
    exact .block name (alike_of_nodes_eq hv hw hbody)

theorem alike_of_nodes_eq {P : String → Prop} : ∀ {cs ds : List Content},
    (∀ v ∈ valuesOf cs, v.IsPlain P) → (∀ v ∈ valuesOf ds, v.IsPlain P) →
      nodes cs = nodes ds → List.Forall₂ Alike cs ds
  | [], [], _, _, _ => .nil
  | c :: cs, d :: ds, hv, hw, h => by
    obtain ⟨hc, hcs⟩ := List.forall_mem_append.mp hv
    obtain ⟨hd, hds⟩ := List.forall_mem_append.mp hw
    obtain ⟨hhead, htail⟩ := List.cons.inj h
    exact .cons (alike_of_node_eq hc hd hhead) (alike_of_nodes_eq hcs hds htail)

end

mutual

theorem Alike.eq_of_apart : ∀ {c d : Content}, c.Alike d → Value.Apart c.values d.values → c = d
  | _, _, .attribute name h, hapart => congrArg (Content.attribute name) (h.eq_of_apart hapart)
  | _, _, .block name h, hapart => congrArg (Content.block name) (eq_of_apart h hapart)

theorem eq_of_apart : ∀ {cs ds : List Content}, List.Forall₂ Alike cs ds →
    Value.Apart (valuesOf cs) (valuesOf ds) → cs = ds
  | _, _, .nil, _ => rfl
  | _, _, .cons h hs, hapart => by
    rw [h.eq_of_apart (hapart.mono (List.subset_append_left ..) (List.subset_append_left ..)),
      eq_of_apart hs (hapart.mono (List.subset_append_right ..) (List.subset_append_right ..))]

end

end Content

open Value Content

mutual

theorem plain_contentsOf {P : String → Prop} : ∀ {es : List (Value × Value)}, EntriesPlain P es →
    ∀ v ∈ valuesOf (contentsOf es), v.IsPlain P
  | [], _ => by simp [contentsOf, valuesOf]
  | (k, v) :: es, ⟨_, hv, hes⟩ => by
    rw [contentsOf, valuesOf_append]
    exact List.forall_mem_append.mpr ⟨plain_entryContents _ hv, plain_contentsOf hes⟩

theorem plain_entryContents {P : String → Prop} (name : String) : ∀ {v : Value}, v.IsPlain P →
    ∀ x ∈ valuesOf (entryContents name v), x.IsPlain P := by
  intro v hv
  have hattribute : ∀ x ∈ valuesOf [.attribute name v], x.IsPlain P := by
    simpa [valuesOf, values] using isPlain_iff_leaves.mp hv
  cases v with
  | map es => simpa [entryContents, valuesOf, values] using plain_contentsOf hv
  | list xs =>
    rw [entryContents]
    split
    · exact plain_blockContents _ hv
    · exact hattribute
  | _ => exact hattribute

theorem plain_blockContents {P : String → Prop} (name : String) : ∀ {xs : List Value},
    ItemsPlain P xs → ∀ v ∈ valuesOf (blockContents name xs), v.IsPlain P
  | [], _ => by simp [blockContents, valuesOf]
  | x :: xs, ⟨hx, hxs⟩ => by
    have hrest := plain_blockContents name hxs
    cases x with
    | map es =>
      rw [blockContents, valuesOf]
      exact List.forall_mem_append.mpr ⟨plain_contentsOf hx, hrest⟩
    | _ => exact hrest

end

theorem tokens_eq_wordToken {s : String} (h : ∀ c ∈ s.toList, isWordChar c = true) :
    tokens s.toList = wordToken s.toList :=
  (Lexes.wordChars h).tokens_eq

theorem IsWord.wordToken_eq {cs : List Char} (h : IsWord cs) : wordToken cs = [.word cs] := by
  cases cs with
  | nil => exact absurd rfl h.1
  | cons c cs => rfl

mutual

theorem nodesOf_itemsOf [Machine] :
    ∀ {used : Nat} {es : List (Value × Value)} {items : List Item},
      EntriesPlain IsName es → itemsOf used es = .ok items →
        Item.nodesOf items = nodes (contentsOf es)
  | _, [], items, _, h => by
    obtain rfl := itemsOf_nil_eq_ok_iff.mp h
    rfl
  | _, (k, v) :: es, items, ⟨⟨s, hk, hs⟩, hv, hes⟩, h => by
    obtain ⟨key, rfl, first, hfirst, rest, hrest, rfl⟩ := itemsOf_cons_eq_ok h
    obtain rfl := Value.str.inj hk
    rw [Item.nodesOf_append, nodesOf_entryItems (Text.isWord_snakeCase hs) hv hfirst,
      nodesOf_itemsOf hes hrest, contentsOf, nodes_append]
    rfl

theorem nodesOf_entryItems [Machine] {name : String} (hname : IsWord name.toList) :
    ∀ {used : Nat} {v : Value} {items : List Item}, v.IsPlain IsName →
      entryItems used name v = .ok items → Item.nodesOf items = nodes (entryContents name v) := by
  intro used v items hv h
  cases v with
  | map es =>
    obtain ⟨body, hbody, rfl⟩ := entryItems_map_eq_ok h
    have hnodes := nodesOf_itemsOf hv hbody
    rw [entryContents, nodes, nodes, node, ← hnodes, hname.wordToken_eq]
    split
    next hempty =>
      obtain rfl := List.isEmpty_iff.mp hempty
      rfl
    next =>
      rw [← hname.wordToken_eq, ← tokens_eq_wordToken hname.2]
      rfl
  | list xs =>
    rw [entryContents]
    replace h := entryItems_list_eq_ok h
    split at h
    next hblocks =>
      rw [if_pos hblocks]
      exact nodesOf_blocksOf (isWordChar_singular hname) hv h
    next hblocks =>
      rw [if_neg hblocks]
      obtain ⟨es, hes, rfl⟩ := h
      rw [Item.nodesOf_single, Expr.term, terms_exprsOf hes, nodes, node, term, nodes]
  | _ =>
    obtain ⟨e, he, rfl⟩ := entryItems_scalar_eq_ok (by simp) (by simp) h
    rw [Item.nodesOf_single, term_exprOf he]
    rfl

theorem nodesOf_blocksOf [Machine] {name : String}
    (hname : ∀ c ∈ name.toList, isWordChar c = true) :
    ∀ {used : Nat} {xs : List Value} {items : List Item}, ItemsPlain IsName xs →
      blocksOf used name xs = .ok items → Item.nodesOf items = nodes (blockContents name xs)
  | _, [], items, _, h => by
    obtain rfl := blocksOf_nil_eq_ok_iff.mp h
    rfl
  | _, x :: xs, items, ⟨hx, hxs⟩, h => by
    cases x with
    | map es =>
      obtain ⟨body, hbody, rest, hrest, rfl⟩ := blocksOf_map_eq_ok h
      rw [Item.nodesOf, Item.nodes, Item.nodesOf_orBlank, nodesOf_itemsOf hx hbody,
        nodesOf_blocksOf hname hxs hrest, tokens_eq_wordToken hname, blockContents, nodes, node]
      rfl
    | _ =>
      simp only [blocksOf] at h
      have hrest := nodesOf_blocksOf hname hxs h
      exact hrest

end

/-- Bodies with the same text say the same, but for texts that spell null or a map. -/
theorem contents_alike_of_text_eq [Machine] {used used' depth : Nat}
    {es fs : List (Value × Value)} {text : String}
    (hes : (Value.map es).IsPlain IsName) (hfs : (Value.map fs).IsPlain IsName)
    (h : (bodyOf used es).map (render depth) = .ok text)
    (h' : (bodyOf used' fs).map (render depth) = .ok text) :
    List.Forall₂ Content.Alike (contentsOf es) (contentsOf fs) ∧
      (Apart (valuesOf (contentsOf es)) (valuesOf (contentsOf fs)) →
        contentsOf es = contentsOf fs) := by
  obtain ⟨items, hbody, htext⟩ := map_eq_ok_iff.mp h
  obtain ⟨items', hbody', htext'⟩ := map_eq_ok_iff.mp h'
  have hitems := bodyOf_eq_ok hbody
  have hitems' := bodyOf_eq_ok hbody'
  have hnodes : nodes (contentsOf es) = nodes (contentsOf fs) := by
    rw [← nodesOf_itemsOf hes hitems, ← nodesOf_itemsOf hfs hitems']
    exact nodesOf_eq_of_render_eq (readable_itemsOf hes hitems) (readable_itemsOf hfs hitems')
      (htext.trans htext'.symm)
  have halike := alike_of_nodes_eq (plain_contentsOf hes) (plain_contentsOf hfs) hnodes
  exact ⟨halike, eq_of_apart halike⟩

def listedBody : List (Value × Value) :=
  [(.str "Rules", .list [.map [(.str "Name", .str "a")]])]

def singleBody : List (Value × Value) :=
  [(.str "Rule", .map [(.str "Name", .str "a")])]

section

open UsualMachine

theorem contents_alike_of_text_eq_listed : ∃ text,
    (Value.map listedBody).IsPlain IsName ∧ (Value.map singleBody).IsPlain IsName ∧
    (bodyOf 0 listedBody).map (render 0) = .ok text ∧
    (bodyOf 0 singleBody).map (render 0) = .ok text ∧
    List.Forall₂ Content.Alike (contentsOf listedBody) (contentsOf singleBody) ∧
      (Apart (valuesOf (contentsOf listedBody)) (valuesOf (contentsOf singleBody)) →
        contentsOf listedBody = contentsOf singleBody) := by
  have hnames : ∀ s ∈ ["Rules", "Rule", "Name"], IsName s := by decide
  have hinner : (Value.map [(.str "Name", .str "a")]).IsPlain IsName :=
    ⟨⟨_, rfl, hnames "Name" (by decide)⟩, trivial, trivial⟩
  have hlisted : (Value.map listedBody).IsPlain IsName :=
    ⟨⟨_, rfl, hnames "Rules" (by decide)⟩, ⟨hinner, trivial⟩, trivial⟩
  have hsingle : (Value.map singleBody).IsPlain IsName :=
    ⟨⟨_, rfl, hnames "Rule" (by decide)⟩, hinner, trivial⟩
  have hkey : Text.snakeCase "Rule" = singular (Text.snakeCase "Rules") := by decide
  have htext : (bodyOf 0 singleBody).map (render 0) = .ok (render 0
      [.block (Text.snakeCase "Rule") [.single (Text.snakeCase "Name") (.text "a")]]) := rfl
  have htext' : (bodyOf 0 listedBody).map (render 0) = .ok (render 0 [.block
      (singular (Text.snakeCase "Rules")) [.single (Text.snakeCase "Name") (.text "a")]]) := rfl
  rw [hkey] at htext
  exact ⟨_, hlisted, hsingle, htext', htext,
    contents_alike_of_text_eq hlisted hsingle htext' htext⟩

/-- Null is written like the text that spells it. -/
theorem null_written_like_text : ∃ text,
    (Value.map [(.str "SearchString", .null)]).IsPlain IsName ∧
    (Value.map [(.str "SearchString", .str "None")]).IsPlain IsName ∧
    (bodyOf 0 [(.str "SearchString", .null)]).map (render 0) = .ok text ∧
    (bodyOf 0 [(.str "SearchString", .str "None")]).map (render 0) = .ok text ∧
    contentsOf [(.str "SearchString", .null)] ≠
      contentsOf [(.str "SearchString", .str "None")] := by
  have hname : IsName "SearchString" := by decide
  refine ⟨_, ⟨⟨_, rfl, hname⟩, trivial, trivial⟩, ⟨⟨_, rfl, hname⟩, trivial, trivial⟩, rfl, rfl, ?_⟩
  simp [contentsOf, entryContents]

end

end Hcl

end WebAcl
