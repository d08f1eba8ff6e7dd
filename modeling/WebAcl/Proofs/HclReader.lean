import WebAcl.Proofs.HclTokens

namespace WebAcl.Hcl

inductive Term where
  | literal (content : List Char)
  | word (cs : List Char)
  | list (items : List Term)

inductive Node where
  | attribute (name : List Char) (value : Term)
  | block (header : List Token) (body : List Node)

inductive Reader.Mode where
  | item (start : List Token)
  | value (name : List Char) (lists : List (List Term))
  | comma (name : List Char) (lists : List (List Term))

structure Reader where
  /-- The headers of the blocks that have not ended, the innermost first, and what comes before
  them. -/
  enclosing : List (List Token × List Node)
  done : List Node
  mode : Reader.Mode

namespace Reader

def start : Reader :=
  ⟨[], [], .item []⟩

def atValue (r : Reader) (name : List Char) (lists : List (List Term)) : Reader :=
  { r with mode := .value name lists }

def atComma (r : Reader) (name : List Char) (lists : List (List Term)) : Reader :=
  { r with mode := .comma name lists }

def deliver (r : Reader) (name : List Char) (t : Term) : List (List Term) → Reader
  | [] => ⟨r.enclosing, r.done ++ [.attribute name t], .item []⟩
  | inner :: lists => r.atComma name ((inner ++ [t]) :: lists)

def endBlock (r : Reader) : Option Reader :=
  match r.enclosing with
  | [] => none
  | (header, before) :: enclosing => some ⟨enclosing, before ++ [.block header r.done], .item []⟩

def stepItem (r : Reader) (start : List Token) : Token → Option Reader
  | .mark c =>
    if c = '\x7b' then some ⟨(start, r.done) :: r.enclosing, [], .item []⟩
    else match c, start with
      | '=', [.word name] => some (r.atValue name [])
      | '\x7d', [] => r.endBlock
      | _, _ => none
  | t => some { r with mode := .item (start ++ [t]) }

def stepValue (r : Reader) (name : List Char) (lists : List (List Term)) : Token → Option Reader
  | .literal content => some (r.deliver name (.literal content) lists)
  | .word cs => some (r.deliver name (.word cs) lists)
  | .mark c =>
    match c, lists with
    | '[', lists => some (r.atValue name ([] :: lists))
    | ']', inner :: lists => some (r.deliver name (.list inner) lists)
    -- a map as a value is read like a block
    | '\x7b', [] => some ⟨([.word name, .mark '='], r.done) :: r.enclosing, [], .item []⟩
    | _, _ => none

def stepComma (r : Reader) (name : List Char) (lists : List (List Term)) : Token → Option Reader
  | .mark c =>
    match c, lists with
    | ',', lists => some (r.atValue name lists)
    | ']', inner :: lists => some (r.deliver name (.list inner) lists)
    | _, _ => none
  | _ => none

def step (r : Reader) (t : Token) : Option Reader :=
  match r.mode with
  | .item start => r.stepItem start t
  | .value name lists => r.stepValue name lists t
  | .comma name lists => r.stepComma name lists t

def run (r : Reader) (ts : List Token) : Option Reader :=
  ts.foldlM step r

def nodes? (r : Reader) : Option (List Node) :=
  match r.enclosing, r.mode with
  | [], .item [] => some r.done
  | _, _ => none

variable {r r' : Reader} {ts us : List Token}

@[simp] theorem run_nil (r : Reader) : r.run [] = some r :=
  rfl

theorem run_append (h : r.run ts = some r') : r.run (ts ++ us) = r'.run us := by
  unfold run at h ⊢
  rw [List.foldlM_append, h]
  rfl

end Reader

/-- The attributes and blocks of a text, if it is a document. -/
def read (cs : List Char) : Option (List Node) :=
  (Reader.start.run (tokens cs)).bind Reader.nodes?

mutual

def Expr.term : Expr → Term
  | text s => .literal (escape s.toList)
  | word s => .literal s.toList
  | bare s => .word s.toList
  | inline items => .list (Expr.terms items)
  | column items => .list (items.map fun s ↦ .literal (escape s.toList))

def Expr.terms : List Expr → List Term
  | [] => []
  | e :: es => e.term :: Expr.terms es

end

namespace Item

mutual

def nodes : Item → List Node
  | blank => []
  | attributes fields => fields.map fun f ↦ .attribute f.1.toList f.2.term
  | flag name => [.block [.word name.toList] []]
  | block header body => [.block (Hcl.tokens header.toList) (nodesOf body)]

def nodesOf : List Item → List Node
  | [] => []
  | item :: items => item.nodes ++ nodesOf items

end

theorem nodesOf_append (items items' : List Item) :
    nodesOf (items ++ items') = nodesOf items ++ nodesOf items' := by
  induction items with
  | nil => rfl
  | cons item items ih => rw [List.cons_append, nodesOf, nodesOf, ih, List.append_assoc]

theorem nodesOf_orBlank (items : List Item) : nodesOf (orBlank items) = nodesOf items := by
  cases items <;> rfl

theorem nodesOf_single (name : String) (e : Expr) :
    nodesOf [.single name e] = [.attribute name.toList e.term] :=
  rfl

end Item

namespace Reader

variable (r : Reader) (name : List Char)

theorem run_column (items : List String) (inner : List Term) (lists : List (List Term)) :
    (r.atValue name (inner :: lists)).run
        (items.flatMap fun s ↦ [.literal (escape s.toList), .mark ',']) =
      some (r.atValue name
        ((inner ++ items.map fun s ↦ .literal (escape s.toList)) :: lists)) := by
  induction items generalizing inner with
  | nil => simp
  | cons s items ih =>
    have hrest := ih (inner ++ [.literal (escape s.toList)])
    rw [List.append_assoc] at hrest
    exact hrest

mutual

theorem run_expr : ∀ {e : Expr}, (∀ part ∈ e.parts, part.Readable) →
    ∀ lists : List (List Term),
      (r.atValue name lists).run e.tokens = some (r.deliver name e.term lists)
  | .text s, _, lists => by cases lists <;> rfl
  | .word s, _, lists => by cases lists <;> rfl
  | .bare s, h, lists => by
    have hword : IsWord s.toList := h (.bare s) (by simp [Expr.parts])
    rw [Expr.tokens, tokens_of_isWord hword]
    cases lists <;> rfl
  | .inline [], _, lists => by cases lists <;> rfl
  | .inline (e :: es), h, lists => by
    have hlist : (r.atValue name lists).run (.mark '[' :: Expr.listed (e :: es)) = _ :=
      run_listed (List.cons_ne_nil e es) h [] lists
    rw [Expr.tokens, ← List.cons_append, run_append hlist]
    cases lists <;> rfl
  | .column items, _, lists => by
    have hlist : (r.atValue name lists).run (.mark '[' :: items.flatMap _) = _ :=
      run_column r name items [] lists
    rw [Expr.tokens, ← List.cons_append, run_append hlist]
    cases lists <;> rfl

theorem run_listed : ∀ {es : List Expr}, es ≠ [] → (∀ part ∈ Expr.partsOf es, part.Readable) →
    ∀ (inner : List Term) (lists : List (List Term)),
      (r.atValue name (inner :: lists)).run (Expr.listed es) =
        some (r.atComma name ((inner ++ Expr.terms es) :: lists))
  | [], hne, _, _, _ => absurd rfl hne
  | [e], _, h, inner, lists => by
    have he : ∀ part ∈ e.parts, part.Readable := by simpa [Expr.partsOf] using h
    exact run_expr he (inner :: lists)
  | e :: e' :: es, _, h, inner, lists => by
    obtain ⟨he, hes⟩ := List.forall_mem_append.mp h
    have hrest := run_listed (List.cons_ne_nil e' es) hes (inner ++ [e.term]) lists
    have hcomma : (r.deliver name e.term (inner :: lists)).run
        (.mark ',' :: Expr.listed (e' :: es)) = _ := hrest
    rw [Expr.listed, run_append (run_expr he (inner :: lists)), hcomma, List.append_assoc]
    · rfl
    · simp

end

def atItem (enclosing : List (List Token × List Node)) (done : List Node) : Reader :=
  ⟨enclosing, done, .item []⟩

variable (enclosing : List (List Token × List Node))

theorem run_attributes {fields : List (String × Expr)}
    (h : ∀ part ∈ (Item.attributes fields).parts, part.Readable) (done : List Node) :
    (atItem enclosing done).run (Item.attributes fields).tokens =
      some (atItem enclosing (done ++ (Item.attributes fields).nodes)) := by
  rw [Item.tokens, Item.nodes]
  induction fields generalizing done with
  | nil => simp
  | cons f fields ih =>
    obtain ⟨hf, hfields⟩ := List.forall_mem_append.mp h
    obtain ⟨hname, hvalue⟩ := List.forall_mem_cons.mp hf
    have hfield : (atItem enclosing done).run (.word f.1.toList :: .mark '=' :: f.2.tokens) =
        some (atItem enclosing (done ++ [.attribute f.1.toList f.2.term])) :=
      run_expr (atItem enclosing done) f.1.toList hvalue []
    rw [List.flatMap_cons, tokens_of_isWord hname, List.singleton_append, run_append hfield,
      ih hfields, List.append_assoc]
    rfl

theorem run_header {header : List Token} (h : ∀ t ∈ header, t.IsName) (done : List Node)
    (start : List Token) :
    run ⟨enclosing, done, .item start⟩ header =
      some ⟨enclosing, done, .item (start ++ header)⟩ := by
  induction header generalizing start with
  | nil => simp
  | cons t header ih =>
    obtain ⟨ht, hheader⟩ := List.forall_mem_cons.mp h
    have hrest := ih hheader (start ++ [t])
    rw [List.append_assoc] at hrest
    cases t with
    | word cs | literal content => exact hrest
    | mark c => exact ht.elim

theorem run_brace {header : List Token} (h : IsHeader header) (done : List Node) :
    (atItem enclosing done).run (header ++ [.mark '\x7b']) =
      some (atItem ((header, done) :: enclosing) []) := by
  obtain hnames | ⟨cs, rfl⟩ := h
  · have hstart : (atItem enclosing done).run header = some ⟨enclosing, done, .item header⟩ :=
      run_header enclosing hnames done []
    rw [run_append hstart]
    rfl
  · rfl

mutual

theorem run_item : ∀ {item : Item}, (∀ part ∈ item.parts, part.Readable) →
    ∀ (enclosing : List (List Token × List Node)) (done : List Node),
      (atItem enclosing done).run item.tokens = some (atItem enclosing (done ++ item.nodes))
  | .blank, _, enclosing, done => by simp [Item.tokens, Item.nodes]
  | .attributes fields, h, enclosing, done => run_attributes enclosing h done
  | .flag name, h, enclosing, done => by
    have hname : IsWord name.toList := h (.name name) (by simp [Item.parts])
    rw [Item.tokens, tokens_of_isWord hname]
    rfl
  | .block header body, h, enclosing, done => by
    obtain ⟨hheader, hbody⟩ := List.forall_mem_cons.mp h
    have hbrace := run_brace enclosing hheader.2 done
    have hinner := run_items hbody ((Hcl.tokens header.toList, done) :: enclosing) []
    rw [Item.tokens, List.append_cons, run_append hbrace, run_append hinner]
    rfl

/-- Where an item can start, items can be read. -/
theorem run_items : ∀ {items : List Item}, (∀ part ∈ Item.partsOf items, part.Readable) →
    ∀ (enclosing : List (List Token × List Node)) (done : List Node),
      (atItem enclosing done).run (Item.tokensOf items) =
        some (atItem enclosing (done ++ Item.nodesOf items))
  | [], _, enclosing, done => by simp [Item.tokensOf, Item.nodesOf]
  | item :: items, h, enclosing, done => by
    obtain ⟨hitem, hitems⟩ := List.forall_mem_append.mp h
    rw [Item.tokensOf, run_append (run_item hitem enclosing done),
      run_items hitems enclosing (done ++ item.nodes), List.append_assoc, Item.nodesOf]

end

end Reader

theorem read_render (depth : Nat) {items : List Item}
    (h : ∀ part ∈ Item.partsOf items, part.Readable) :
    read (render depth items).toList = some (Item.nodesOf items) := by
  have hlexes := lexes_render depth fun part hpart ↦ (h part hpart).isClosed
  have hrun : Reader.start.run (Item.tokensOf items) = _ := Reader.run_items h [] []
  rw [read, hlexes.tokens_eq, hrun]
  rfl

theorem read_file {blocks : List Item} (h : ∀ part ∈ Item.partsOf blocks, part.Readable) :
    read (file blocks).toList = some (Item.nodesOf blocks) := by
  have hlexes := lexes_file fun part hpart ↦ (h part hpart).isClosed
  have hrun : Reader.start.run (Item.tokensOf blocks) = _ := Reader.run_items h [] []
  rw [read, hlexes.tokens_eq, hrun]
  rfl

/-- Items with the same text are read alike. -/
theorem nodesOf_eq_of_render_eq {depth : Nat} {items items' : List Item}
    (h : ∀ part ∈ Item.partsOf items, part.Readable)
    (h' : ∀ part ∈ Item.partsOf items', part.Readable)
    (heq : render depth items = render depth items') :
    Item.nodesOf items = Item.nodesOf items' := by
  have hread := read_render depth h
  rw [heq, read_render depth h'] at hread
  exact (Option.some.inj hread).symm

end WebAcl.Hcl
