import WebAcl.Proofs.NodeFaults
import WebAcl.Yaml.Document

namespace WebAcl.Yaml

open Outcome

def Declares (ts : List Token) (h : String × String) : Prop :=
  h ∈ Compose.defaultHandles ∨ .directive (.tag h.1 h.2) ∈ ts

inductive Expands (ts : List Token) : TagName → String → Prop
  | verbatim (full : String) : Expands ts (.verbatim full) full
  | under (handle suffix expansion : String) (h : Declares ts (handle, expansion)) :
    Expands ts (.under handle suffix) (expansion ++ suffix)

/-- A tag with a full name stands before the node that begins the rest of some tokens. The name of
the node may come between them. -/
def Marks (ts : List Token) (full : String) (rest : List Token) : Prop :=
  ∃ name, Expands ts name full ∧
    (.tag name :: rest <:+ ts ∨ ∃ anchor, .tag name :: .anchor anchor :: rest <:+ ts)

/-- The text of a scalar among some tokens. One that is left out is empty. -/
def Holds (ts : List Token) (text : String) : Prop :=
  text = "" ∨ ∃ plain, .scalar text plain ∈ ts

/-- A token behind which one more collection may begin. The items of a list may begin behind the
mark of a key or a value without a token of their own. -/
def Token.opensLevel : Token → Bool
  | .blockListStart | .blockMapStart | .flowListStart | .flowMapStart | .key | .value => true
  | _ => false

def OpensMap (rest : List Token) : Prop :=
  rest.head? = some .flowMapStart ∨ rest.head? = some .blockMapStart

def HoldsValueMark (ts : List Token) : Prop :=
  (∃ text plain, .scalar text plain ∈ ts ∧ Tag.ofPlain text = .value) ∨
    ∃ full rest, Marks ts full rest ∧ Tag.named full = .value

/-- A fault of the nodes of some tokens, with the tokens that cause it: a scalar that does not fit
the type that it looks like or the one of its tag, a tag without a node, a map with the tag of a
scalar, and nesting. -/
inductive IsNodeFault [Machine] (ts : List Token) : Fault → Prop
  | malformed : IsNodeFault ts .malformed
  | plain (text : String) (plain : Bool) (rest : List Token)
    (hrest : .scalar text plain :: rest <:+ ts)
    (hplain : plain = true ∨ Marks ts "!" (.scalar text plain :: rest)) {f : Fault}
    (h : scalarValue (.ofPlain text) text = .error f) : IsNodeFault ts f
  | named (full text : String) (plain : Bool) (rest : List Token)
    (hmark : Marks ts full (.scalar text plain :: rest)) {f : Fault}
    (h : scalarValue (.named full) text = .error f) : IsNodeFault ts f
  | left (full : String) (rest : List Token) (hmark : Marks ts full rest)
    (hleft : ∀ text plain, rest.head? ≠ some (.scalar text plain)) {f : Fault}
    (h : scalarValue (.named full) "" = .error f) : IsNodeFault ts f
  | map (full text : String) (rest : List Token) (hmark : Marks ts full rest)
    (hmap : OpensMap rest) (htext : Holds ts text) {f : Fault}
    (h : scalarValue (.named full) text = .error f) : IsNodeFault ts f
  | time (full : String) (rest : List Token) (hmark : Marks ts full rest) (hmap : OpensMap rest)
    (htime : Tag.named full = .timestamp) :
    IsNodeFault ts (.crash (.badType "expected string or bytes-like object, got 'list'"))
  | deep (h : Machine.collections < ts.countP Token.opensLevel) :
    IsNodeFault ts (.crash .nestedTooDeep)
  | endless (name : String) (h : .alias name ∈ ts) (hmark : HoldsValueMark ts) :
    IsNodeFault ts (.crash .nestedTooDeep)

inductive IsFault [Machine] (ts : Tokens) : Fault → Prop
  | behind : IsFault ts ts.fault
  | nodes {f : Fault} (h : IsNodeFault ts.list f) : IsFault ts f

theorem Compose.Properties.tagOr_cases (p : Properties) (default : Tag) :
    (p.tag = none ∨ p.tag = some "!") ∧ p.tagOr default = default ∨
      ∃ full, p.tag = some full ∧ p.tagOr default = .named full := by
  unfold Properties.tagOr
  split
  next hnone => exact .inl ⟨.inl hnone, rfl⟩
  next hmark => exact .inl ⟨.inr hmark, rfl⟩
  next full _ hfull => exact .inr ⟨full, hfull, rfl⟩

def Compose.Proper (ts : Tokens) (p : Compose.Properties) (rest : List Token) : Prop :=
  ∀ full, p.tag = some full → Marks ts.list full rest

theorem Compose.Properties.holdsValueMark_of_tagOr {ts : Tokens} {p : Properties}
    {rest : List Token} {default : Tag} (hp : Proper ts p rest)
    (hdefault : default = .value → HoldsValueMark ts.list) (h : p.tagOr default = .value) :
    HoldsValueMark ts.list := by
  obtain ⟨-, heq⟩ | ⟨full, hfull, heq⟩ := p.tagOr_cases default
  · exact hdefault (heq ▸ h)
  · exact .inr ⟨full, rest, hp full hfull, heq ▸ h⟩

variable [Machine] {ts : Tokens}

abbrev Node.Comes (ts : Tokens) (n : Node) : Prop :=
  n.Sound (IsFault ts) (Holds ts.list) (HoldsValueMark ts.list) (∃ name, .alias name ∈ ts.list)

theorem isFault_kind :
    Node.Kind (IsFault ts) (HoldsValueMark ts.list) (∃ name, .alias name ∈ ts.list) where
  malformed := .nodes .malformed
  endless hmark h := h.elim fun name hname ↦ .nodes (.endless name hname hmark)

abbrev OptionComes (ts : Tokens) (root : Option Node) : Prop := ∀ n, root = some n → n.Comes ts

abbrev ItemsCome (ts : Tokens) (ns : List Node) : Prop := ∀ n ∈ ns, n.Comes ts

abbrev EntriesCome (ts : Tokens) (es : List (Node × Node)) : Prop :=
  ∀ e ∈ es, e.1.Comes ts ∧ e.2.Comes ts

abbrev NamesCome (ts : Tokens) (names : List (String × Option Node)) : Prop :=
  ∀ a ∈ names, OptionComes ts a.2

/-- The state of reading, with `d` collections around the next node and `k` more that may begin
without a further token. -/
structure Composer.At (ts : Tokens) (d k : Nat) (s : Composer) : Prop where
  fault : s.fault = ts.fault
  tokens : s.tokens <:+ ts.list
  depth : s.depth = d
  room : d + k + s.tokens.countP Token.opensLevel ≤ ts.list.countP Token.opensLevel
  handles : ∀ h ∈ s.handles, Declares ts.list h
  anchors : NamesCome ts s.anchors
  earlier : NamesCome ts s.earlier

namespace Compose

open Composer

variable {α β : Type} {d k : Nat} {s : Composer} {t : Token} {rest : List Token}
  {R : α → Prop} {R' : β → Prop}

/-- A step that gives something with a property and needs room for `k` collections. -/
def Gives (ts : Tokens) (k : Nat) (R : α → Prop) (x : Compose α) : Prop :=
  ∀ d s, At ts d k s → Yields (IsFault ts) (fun r ↦ R r.1 ∧ At ts d 0 r.2) (x.run s)

theorem at_less {k' : Nat} (hs : At ts d k s) (h : k' ≤ k) : At ts d k' s :=
  { hs with room := by have hroom := hs.room; omega }

theorem mem_of_tokens (hs : At ts d k s) (ht : s.tokens = t :: rest) : t ∈ ts.list :=
  hs.tokens.subset (ht ▸ List.mem_cons_self)

theorem at_drop (hs : At ts d k s) (ht : s.tokens = t :: rest) :
    At ts d (k + if t.opensLevel then 1 else 0) { s with tokens := s.tokens.drop 1 } := by
  refine { hs with tokens := (List.drop_suffix 1 s.tokens).trans hs.tokens, room := ?_ }
  have hroom := hs.room
  rw [ht, List.countP_cons] at hroom
  change _ + List.countP _ (s.tokens.drop 1) ≤ _
  rw [ht, List.drop_one, List.tail_cons]
  omega

theorem yields_bind {x : Compose α} {f : α → Compose β} {Q : α × Composer → Prop}
    {Q' : β × Composer → Prop} (hx : Yields (IsFault ts) Q (x.run s))
    (hf : ∀ a s', Q (a, s') → Yields (IsFault ts) Q' ((f a).run s')) :
    Yields (IsFault ts) Q' ((x >>= f).run s) := by
  rw [StateT.run_bind]
  exact hx.bind fun r hr ↦ hf r.1 r.2 hr

theorem yields_peek (hs : At ts d k s) :
    Yields (IsFault ts) (fun r ↦ r.2 = s ∧ ∃ rest, s.tokens = r.1 :: rest) (peek.run s) := by
  obtain ⟨tokens, fault⟩ := s
  cases tokens with
  | nil =>
    obtain rfl : fault = ts.fault := hs.fault
    exact .behind
  | cons t rest => exact ⟨rfl, rest, rfl⟩

theorem yields_get :
    Yields (IsFault ts) (fun r ↦ r = (s, s)) ((get : Compose Composer).run s) := rfl

theorem yields_modify (g : Composer → Composer) : Yields (IsFault ts) (fun r ↦ r = (⟨⟩, g s))
    ((modify g : Compose PUnit).run s) := rfl

namespace Gives

theorem of_pure {a : α} (h : R a) : Gives ts k R (pure a) := fun _ _ hs ↦ ⟨h, at_less hs k.zero_le⟩

theorem bind {x : Compose α} {f : α → Compose β} (hx : Gives ts k R x)
    (hf : ∀ a, R a → Gives ts 0 R' (f a)) : Gives ts k R' (x >>= f) :=
  fun d s hs ↦ yields_bind (hx d s hs) fun a s' h ↦ hf a h.1 d s' h.2

theorem of_refuse : Gives ts k R refuse := fun _ _ _ ↦ .nodes .malformed

theorem ite {c : Prop} [Decidable c] {x y : Compose α} (hx : c → Gives ts k R x)
    (hy : ¬ c → Gives ts k R y) : Gives ts k R (if c then x else y) := by
  split
  next h => exact hx h
  next h => exact hy h

theorem less {x : Compose α} (h : Gives ts 0 R x) : Gives ts k R x :=
  fun d s hs ↦ h d s (at_less hs k.zero_le)

theorem peek_bind {f : Token → Compose α}
    (h : ∀ d s t rest, At ts d k s → s.tokens = t :: rest →
      Yields (IsFault ts) (fun r ↦ R r.1 ∧ At ts d 0 r.2) ((f t).run s)) :
    Gives ts k R (peek >>= f) := by
  refine fun d s hs ↦ yields_bind (yields_peek hs) fun t s' h' ↦ ?_
  obtain ⟨rfl, rest, ht⟩ := h'
  exact h d s' t rest hs ht

theorem behind {x : Compose α} (hs : At ts d k s) (ht : s.tokens = t :: rest)
    (hx : Gives ts (if t.opensLevel then 1 else 0) R x) :
    Yields (IsFault ts) (fun r ↦ R r.1 ∧ At ts d 0 r.2)
      (x.run { s with tokens := s.tokens.drop 1 }) :=
  hx d _ (at_less (at_drop hs ht) (Nat.le_add_left _ _))

theorem accept_bind {f : Bool → Compose α} (t : Token)
    (htrue : Gives ts (if t.opensLevel then 1 else 0) R (f true))
    (hfalse : Gives ts k R (f false)) : Gives ts k R (accept t >>= f) := by
  unfold Compose.accept
  rw [bind_assoc]
  refine peek_bind fun d s t' rest hs ht ↦ ?_
  split
  next heq =>
    obtain rfl := beq_iff_eq.mp heq
    exact behind hs ht htrue
  next => exact hfalse d s hs

theorem require_bind {f : Unit → Compose α} (t : Token) (h : Gives ts 0 R (f ())) :
    Gives ts k R (Compose.require t >>= f) := by
  unfold Compose.require
  rw [bind_assoc]
  exact accept_bind t h.less fun _ _ _ ↦ .nodes .malformed

theorem meets_bind {f : Bool → Compose α} (marks : List Token) (h : ∀ b, Gives ts k R (f b)) :
    Gives ts k R (meets marks >>= f) := by
  unfold Compose.meets
  rw [bind_assoc]
  exact peek_bind fun d s t rest hs ht ↦ h _ d s hs

end Gives

theorem expand_expands (name : TagName) (hs : At ts d k s) :
    Yields (IsFault ts) (fun r ↦ Expands ts.list name r.1 ∧ r.2 = s) ((expand name).run s) := by
  cases name with
  | verbatim full => exact ⟨.verbatim full, rfl⟩
  | under handle suffix =>
    unfold Compose.expand
    refine yields_bind yields_get ?_
    rintro _ _ ⟨⟩
    split
    next expansion hlookup =>
      obtain ⟨before, after, hhandles, -⟩ := List.lookup_eq_some_iff.mp hlookup
      have hmem : (handle, expansion) ∈ s.handles := by simp [hhandles]
      exact ⟨.under handle suffix expansion (hs.handles _ hmem), rfl⟩
    next => exact .nodes .malformed

theorem yields_advance (hs : At ts d k s) (ht : s.tokens = t :: rest) :
    Yields (IsFault ts) (fun r ↦ At ts d k r.2 ∧ r.2.tokens = rest) (advance.run s) := by
  refine ⟨at_less (at_drop hs ht) (Nat.le_add_right _ _), ?_⟩
  change s.tokens.drop 1 = rest
  rw [ht, List.drop_one, List.tail_cons]

theorem yields_properties (hs : At ts d k s) : Yields (IsFault ts)
    (fun r ↦ Proper ts r.1 r.2.tokens ∧ At ts d k r.2) (properties.run s) := by
  have hexpand : ∀ {s name anchor}, At ts d k s → (.tag name :: s.tokens <:+ ts.list ∨
      ∃ anchor, .tag name :: .anchor anchor :: s.tokens <:+ ts.list) →
        Yields (IsFault ts) (fun r ↦ Proper ts r.1 r.2.tokens ∧ At ts d k r.2) (StateT.run (do
          return ⟨anchor, some (← expand name)⟩ : Compose Properties) s) := by
    intro s name anchor hs hbefore
    refine yields_bind (expand_expands name hs) fun full s' h ↦ ?_
    obtain ⟨hfull, rfl⟩ := h
    refine ⟨?_, hs⟩
    rintro _ ⟨⟩
    exact ⟨name, hfull, hbefore⟩
  refine yields_bind (yields_peek hs) fun t s' h ↦ ?_
  obtain ⟨rfl, rest, ht⟩ := h
  have htokens : t :: rest <:+ ts.list := ht ▸ hs.tokens
  split
  next name =>
    refine yields_bind (yields_advance hs ht) fun _ s₁ h₁ ↦ ?_
    refine yields_bind (yields_peek h₁.1) fun t' s₂ h' ↦ ?_
    obtain ⟨rfl, rest', ht'⟩ := h'
    split
    next tag =>
      refine yields_bind (yields_advance h₁.1 ht') fun _ s₂ h₂ ↦ hexpand h₂.1 (.inl ?_)
      rw [h₂.2, ← ht']
      exact h₁.1.tokens
    next => exact ⟨nofun, h₁.1⟩
  next tag =>
    refine yields_bind (yields_advance hs ht) fun _ s₁ h₁ ↦ ?_
    refine yields_bind (yields_peek h₁.1) fun t' s₂ h' ↦ ?_
    obtain ⟨rfl, rest', ht'⟩ := h'
    split
    next name =>
      refine yields_bind (yields_advance h₁.1 ht') fun _ s₂ h₂ ↦ hexpand h₂.1 (.inr ⟨name, ?_⟩)
      rw [h₂.2, ← ht', h₁.2]
      exact htokens
    next =>
      refine hexpand h₁.1 (.inl ?_)
      rw [h₁.2]
      exact htokens
  next => exact ⟨nofun, hs⟩

theorem comes_scalar {p : Properties} {plain : Bool} {text : String}
    (hp : Proper ts p (.scalar text plain :: rest))
    (hrest : .scalar text plain :: rest <:+ ts.list) :
    Node.Comes ts (.scalar (p.scalarTag plain text) text) := by
  have hmem := hrest.subset List.mem_cons_self
  refine .scalar isFault_kind (Properties.holdsValueMark_of_tagOr hp fun hlooks ↦ ?_)
    (.inr ⟨plain, hmem⟩) ?_
  · split at hlooks
    next => exact .inl ⟨text, plain, hmem, hlooks⟩
    next => exact absurd hlooks nofun
  cases hvalue : scalarValue (p.scalarTag plain text) text with
  | ok v => exact trivial
  | error f =>
    obtain ⟨hnone, heq⟩ | ⟨full, hfull, heq⟩ := p.tagOr_cases
      (if plain || p.tag.isSome then Tag.ofPlain text else .str)
    · rw [Properties.scalarTag, heq] at hvalue
      split at hvalue
      next hlooks =>
        refine .nodes (.plain text plain rest hrest ?_ hvalue)
        obtain hnone | hmark := hnone
        · rw [hnone, Option.isSome_none, Bool.or_false] at hlooks
          exact .inl hlooks
        · exact .inr (hp "!" hmark)
      next => exact absurd hvalue nofun
    · rw [Properties.scalarTag, heq] at hvalue
      exact .nodes (.named full text plain rest (hp full hfull) hvalue)

theorem comes_empty {p : Properties} (hp : Proper ts p rest)
    (hleft : ∀ text plain, rest.head? ≠ some (.scalar text plain)) :
    Node.Comes ts (.scalar (p.scalarTag true "") "") := by
  have hnull : Tag.ofPlain "" = .null := by decide
  refine .scalar isFault_kind (Properties.holdsValueMark_of_tagOr hp fun hlooks ↦ ?_) (.inl rfl) ?_
  · rw [Bool.true_or, if_pos rfl, hnull] at hlooks
    exact absurd hlooks nofun
  cases hvalue : scalarValue (p.scalarTag true "") "" with
  | ok v => exact trivial
  | error f =>
    rw [Properties.scalarTag, Bool.true_or, if_pos rfl] at hvalue
    obtain ⟨-, heq⟩ | ⟨full, hfull, heq⟩ := p.tagOr_cases (Tag.ofPlain "")
    · rw [heq, hnull] at hvalue
      exact absurd hvalue nofun
    · rw [heq] at hvalue
      exact .nodes (.left full rest (hp full hfull) hleft hvalue)

theorem comes_list {p : Properties} {ns : List Node} (hp : Proper ts p rest)
    (h : ItemsCome ts ns) : Node.Comes ts (.list (p.tagOr .list) ns) :=
  .list isFault_kind (Properties.holdsValueMark_of_tagOr hp nofun) h

theorem comes_map {p : Properties} {es : List (Node × Node)} (hp : Proper ts p rest)
    (hmap : OpensMap rest) (h : EntriesCome ts es) : Node.Comes ts (.map (p.tagOr .map) es) := by
  have htag : p.tagOr .map = .value → HoldsValueMark ts.list :=
    Properties.holdsValueMark_of_tagOr hp nofun
  obtain ⟨-, heq⟩ | ⟨full, hfull, heq⟩ := p.tagOr_cases .map
  · rw [heq]
    exact .map isFault_kind nofun h nofun nofun
  · rw [heq] at htag ⊢
    refine .map isFault_kind htag h (fun htime ↦ ?_) fun _ text htext ↦ ?_
    · exact .nodes (.time full rest (hp full hfull) hmap htime)
    · cases hvalue : scalarValue (.named full) text with
      | ok v => exact trivial
      | error f => exact .nodes (.map full text rest (hp full hfull) hmap htext hvalue)

theorem at_declare (hs : At ts d k s) {name : String} {n : Option Node}
    (hn : OptionComes ts n) :
    At ts d k { s with anchors := (name, n) :: s.anchors } :=
  { hs with anchors := List.forall_mem_cons.mpr ⟨hn, hs.anchors⟩ }

theorem yields_begin (hs : At ts d k s) (p : Properties) {n : Option Node}
    (hn : OptionComes ts n) :
    Yields (IsFault ts) (fun r ↦ At ts d k r.2) ((begin p n).run s) := by
  unfold Compose.begin
  split
  next => exact hs
  next name hname =>
    change Yields _ _ (StateT.run (if s.anchors.any (·.1 == name) then
      refuse >>= fun _ ↦ declare name n else declare name n) s)
    split
    · exact .nodes .malformed
    · exact at_declare hs hn

theorem yields_named (hs : At ts d k s) (takers : List String) {name : String}
    (hname : .alias name ∈ ts.list) :
    Yields (IsFault ts) (fun r ↦ r.1.Comes ts ∧ At ts d 0 r.2) ((named takers name).run s) := by
  have hfind : ∀ {l : List (String × Option Node)} {n : Node},
      NamesCome ts l → l.lookup name = some (some n) → n.Comes ts := by
    intro l n hl hlookup
    obtain ⟨before, after, rfl, -⟩ := List.lookup_eq_some_iff.mp hlookup
    exact hl (name, some n) (by simp) n rfl
  have hs₀ := at_less hs k.zero_le
  unfold Compose.named
  refine yields_bind yields_get ?_
  rintro _ _ ⟨⟩
  split
  next n hlookup => exact ⟨hfind hs.anchors hlookup, hs₀⟩
  next =>
    refine ⟨?_, { hs₀ with }⟩
    refine Node.Sound.again (n := ((s.earlier.lookup name).join).getD .endless) ?_ _
    cases hjoin : (s.earlier.lookup name).join with
    | none => exact .endless ⟨name, hname⟩
    | some n => exact hfind hs.earlier (Option.join_eq_some_iff.mp hjoin)
  next => exact .nodes .malformed

theorem gives_collection (p : Properties) {make : α → Node} {content : Compose α}
    (hmake : ∀ a, R a → (make a).Comes ts) (hcontent : Gives ts 0 R content) :
    Gives ts 1 (Node.Comes ts) (collection p make content) := by
  intro d s hs
  unfold Compose.collection
  have hbegin := yields_begin (n := none) hs p fun m hm ↦ absurd hm.symm (Option.some_ne_none m)
  refine yields_bind hbegin fun _ s₁ hs₁ ↦ yields_bind yields_get ?_
  rintro _ _ ⟨⟩
  dsimp only at hs₁ ⊢
  split
  next hdeep =>
    have hroom := hs₁.room
    rw [hs₁.depth] at hdeep
    exact .nodes (.deep (by omega))
  next =>
    refine yields_bind (yields_modify _) ?_
    rintro _ _ ⟨⟩
    have hinside : At ts (d + 1) 0 { s₁ with depth := s₁.depth + 1 } :=
      { hs₁ with depth := congrArg (· + 1) hs₁.depth, room := hs₁.room }
    refine yields_bind (hcontent (d + 1) _ hinside) fun a s₂ h ↦ ?_
    obtain ⟨ha, hs₂⟩ := h
    dsimp only at ha hs₂
    refine yields_bind (yields_modify _) ?_
    rintro _ _ ⟨⟩
    have hbehind : At ts d 0 { s₂ with depth := s₂.depth - 1 } := by
      refine { hs₂ with depth := by rw [hs₂.depth]; rfl, room := ?_ }
      have hroom := hs₂.room
      change d + 0 + List.countP _ s₂.tokens ≤ _
      omega
    cases p.anchor with
    | none => exact ⟨hmake a ha, hbehind⟩
    | some name =>
      refine ⟨hmake a ha, at_declare hbehind ?_⟩
      rintro _ ⟨⟩
      exact hmake a ha

theorem comes_left : Node.Comes ts empty :=
  .scalar isFault_kind nofun (.inl rfl) trivial

theorem gives_emptyNode {p : Properties} (hp : Proper ts p rest)
    (hleft : ∀ text plain, rest.head? ≠ some (.scalar text plain)) :
    Gives ts k (Node.Comes ts) (emptyNode p) := by
  refine fun d s hs ↦ Gives.ite (k := k) (R := Node.Comes ts) (fun _ ↦ ?_) (fun _ ↦ ?_) d s hs
  · exact fun _ _ _ ↦ .nodes .malformed
  · intro d s hs
    have hn := comes_empty hp hleft
    refine yields_bind (yields_begin hs p fun m hm ↦ Option.some.inj hm ▸ hn) fun _ s' hs' ↦ ?_
    exact ⟨hn, at_less hs' k.zero_le⟩

/-- What is read of nodes with an amount of fuel. A node that may be a list without a token of its
own needs room for it. -/
structure Reading (ts : Tokens) (fuel : Nat) : Prop where
  node (takers : List String) (block flush : Bool) :
    Gives ts (if flush then 1 else 0) (Node.Comes ts) (node takers block flush fuel)
  blockItems (takers : List String) : Gives ts 0 (ItemsCome ts) (blockItems takers fuel)
  flushItems (takers : List String) : Gives ts 0 (ItemsCome ts) (flushItems takers fuel)
  blockPart (takers : List String) : Gives ts 1 (Node.Comes ts) (blockPart takers fuel)
  blockEntries (takers : List String) : Gives ts 0 (EntriesCome ts) (blockEntries takers fuel)
  flowPart (takers : List String) (marks : List Token) :
    Gives ts 0 (Node.Comes ts) (flowPart takers marks fuel)
  flowItems (takers : List String) (first : Bool) :
    Gives ts 0 (ItemsCome ts) (flowItems takers first fuel)
  flowEntries (takers : List String) (first : Bool) :
    Gives ts 0 (EntriesCome ts) (flowEntries takers first fuel)

namespace Reading

variable {fuel : Nat}

theorem node_succ (h : Reading ts fuel) (takers : List String) (block flush : Bool) :
    Gives ts (if flush then 1 else 0) (Node.Comes ts)
      (Compose.node takers block flush (fuel + 1)) := by
  unfold Compose.node
  refine Gives.peek_bind fun d s t rest hs ht ↦ ?_
  split
  next name =>
    exact yields_bind (yields_advance hs ht) fun _ _ hs' ↦
      yields_named hs'.1 takers (mem_of_tokens hs ht)
  next =>
    refine yields_bind (yields_properties hs) fun p s' hp ↦ ?_
    obtain ⟨hp, hs'⟩ := hp
    dsimp only at hp hs'
    refine yields_bind (yields_peek hs') fun t s hpeek ↦ ?_
    obtain ⟨rfl, rest, ht⟩ := hpeek
    dsimp only at hs' ht
    have hlist : ∀ ns, ItemsCome ts ns → Node.Comes ts (.list (p.tagOr .list) ns) :=
      fun _ ↦ comes_list hp
    have hmap : OpensMap s.tokens →
        ∀ es, EntriesCome ts es → Node.Comes ts (.map (p.tagOr .map) es) :=
      fun hopens _ ↦ comes_map hp hopens
    have hempty : (∀ text plain, t ≠ .scalar text plain) →
        Gives ts (if flush then 1 else 0) (Node.Comes ts) (emptyNode p) := by
      refine fun hne ↦ gives_emptyNode hp fun text plain hhead ↦ hne text plain ?_
      rw [ht, List.head?_cons] at hhead
      exact Option.some.inj hhead
    split
    next =>
      split
      next hflush =>
        rw [if_pos hflush] at hs'
        exact gives_collection p hlist (h.flushItems _) d s hs'
      next => exact hempty nofun d s hs'
    next text plain =>
      have hrest := hs'.tokens
      rw [ht] at hp hrest
      have hn := comes_scalar hp hrest
      refine yields_bind (yields_advance hs' ht) fun _ s₁ h₁ ↦ ?_
      refine yields_bind (yields_begin h₁.1 p fun m hm ↦ Option.some.inj hm ▸ hn) fun _ s₂ hs₂ ↦ ?_
      exact ⟨hn, at_less hs₂ (Nat.zero_le _)⟩
    next => exact Gives.behind hs' ht (gives_collection p hlist (h.flowItems _ true))
    next =>
      have hopens : OpensMap s.tokens := .inl (by rw [ht]; rfl)
      exact Gives.behind hs' ht (gives_collection p (hmap hopens) (h.flowEntries _ true))
    next =>
      split
      next => exact Gives.behind hs' ht (gives_collection p hlist (h.blockItems _))
      next => exact hempty nofun d s hs'
    next =>
      have hopens : OpensMap s.tokens := .inr (by rw [ht]; rfl)
      split
      next => exact Gives.behind hs' ht (gives_collection p (hmap hopens) (h.blockEntries _))
      next => exact hempty nofun d s hs'
    next hne _ _ _ _ => exact hempty hne d s hs'

theorem forall_cons {xs : Compose (List α)} {a : α} (ha : R a)
    (h : Gives ts 0 (fun as ↦ ∀ a ∈ as, R a) xs) :
    Gives ts 0 (fun as ↦ ∀ a ∈ as, R a) (do return a :: (← xs)) :=
  .bind h fun _ has ↦ .of_pure (List.forall_mem_cons.mpr ⟨ha, has⟩)

theorem left_bind {b : Bool} {x : Compose Node} {f : Node → Compose α}
    (hx : Gives ts k (Node.Comes ts) x) (hf : ∀ n, n.Comes ts → Gives ts 0 R (f n)) :
    Gives ts k R (if b then pure empty >>= f else x >>= f) :=
  .ite (fun _ ↦ (hf empty comes_left).less) fun _ ↦ .bind hx hf

theorem ite_empty {b : Bool} {x : Compose Node} (hx : Gives ts k (Node.Comes ts) x) :
    Gives ts k (Node.Comes ts) (if b then pure empty else x) :=
  .ite (fun _ ↦ .of_pure comes_left) fun _ ↦ hx

theorem blockItems_succ (h : Reading ts fuel) (takers : List String) :
    Gives ts 0 (ItemsCome ts) (Compose.blockItems takers (fuel + 1)) := by
  unfold Compose.blockItems
  refine .accept_bind _ ?_ (.require_bind _ (.of_pure (List.forall_mem_nil _)))
  exact .meets_bind _ fun _ ↦ left_bind (h.node _ true false) fun n hn ↦
    forall_cons hn (h.blockItems _)

theorem flushItems_succ (h : Reading ts fuel) (takers : List String) :
    Gives ts 0 (ItemsCome ts) (Compose.flushItems takers (fuel + 1)) := by
  unfold Compose.flushItems
  refine .accept_bind _ ?_ (.of_pure (List.forall_mem_nil _))
  exact .meets_bind _ fun _ ↦ left_bind (h.node _ true false) fun n hn ↦
    forall_cons hn (h.flushItems _)

theorem blockPart_succ (h : Reading ts fuel) (takers : List String) :
    Gives ts 1 (Node.Comes ts) (Compose.blockPart takers (fuel + 1)) := by
  unfold Compose.blockPart
  exact .meets_bind _ fun _ ↦ ite_empty (h.node _ true true)

theorem value_bind {f : Node → Compose α} {x : Compose Node} (hx : Gives ts 1 (Node.Comes ts) x)
    (hf : ∀ n, n.Comes ts → Gives ts 0 R (f n)) :
    Gives ts 0 R (do f (← if ← accept .value then x else pure empty)) :=
  .accept_bind .value (.bind hx hf) (.bind (.of_pure comes_left) hf)

theorem blockEntries_succ (h : Reading ts fuel) (takers : List String) :
    Gives ts 0 (EntriesCome ts) (Compose.blockEntries takers (fuel + 1)) := by
  unfold Compose.blockEntries
  refine .accept_bind _ ?_ (.require_bind _ (.of_pure (List.forall_mem_nil _)))
  refine .bind (h.blockPart _) fun key hkey ↦ value_bind (h.blockPart _) fun value hvalue ↦ ?_
  exact forall_cons ⟨hkey, hvalue⟩ (h.blockEntries _)

theorem flowPart_succ (h : Reading ts fuel) (takers : List String) (marks : List Token) :
    Gives ts 0 (Node.Comes ts) (Compose.flowPart takers marks (fuel + 1)) := by
  unfold Compose.flowPart
  exact .meets_bind _ fun _ ↦ ite_empty (h.node _ false false)

theorem opening {close : Token} {first : Bool} {x : Compose (List α)}
    (h : Gives ts 0 (fun as ↦ ∀ a ∈ as, R a) x) :
    Gives ts 0 (fun as ↦ ∀ a ∈ as, R a) (do
      if ← accept close then return []
      if !first then Compose.require .flowEntry
      x) := by
  refine .accept_bind _ (.of_pure (List.forall_mem_nil _)) ?_
  cases first with
  | true => exact h
  | false => exact .require_bind .flowEntry h

theorem flowItems_succ (h : Reading ts fuel) (takers : List String) (first : Bool) :
    Gives ts 0 (ItemsCome ts) (Compose.flowItems takers first (fuel + 1)) := by
  unfold Compose.flowItems
  refine opening (.accept_bind _ ?_ (.accept_bind _ (.of_pure (List.forall_mem_nil _)) ?_))
  · refine .bind (h.flowPart _ _).less fun key hkey ↦
      value_bind (h.flowPart _ _).less fun value hvalue ↦ ?_
    refine forall_cons ?_ (h.flowItems _ false)
    exact .map isFault_kind nofun (List.forall_mem_singleton.mpr ⟨hkey, hvalue⟩) nofun nofun
  · exact .bind (h.node _ false false) fun n hn ↦ forall_cons hn (h.flowItems _ false)

theorem flowEntries_succ (h : Reading ts fuel) (takers : List String) (first : Bool) :
    Gives ts 0 (EntriesCome ts) (Compose.flowEntries takers first (fuel + 1)) := by
  unfold Compose.flowEntries
  refine opening (.accept_bind _ ?_ (.accept_bind _ (.of_pure (List.forall_mem_nil _)) ?_))
  · refine .bind (h.flowPart _ _).less fun key hkey ↦
      value_bind (h.flowPart _ _).less fun value hvalue ↦ ?_
    exact forall_cons ⟨hkey, hvalue⟩ (h.flowEntries _ false)
  · exact .bind (h.node _ false false) fun n hn ↦
      forall_cons ⟨hn, comes_left⟩ (h.flowEntries _ false)

theorem all (fuel : Nat) : Reading ts fuel := by
  induction fuel with
  | zero =>
    exact ⟨fun _ _ _ ↦ .of_refuse, fun _ ↦ .of_refuse, fun _ ↦ .of_refuse, fun _ ↦ .of_refuse,
      fun _ ↦ .of_refuse, fun _ _ ↦ .of_refuse, fun _ _ ↦ .of_refuse, fun _ _ ↦ .of_refuse⟩
  | succ fuel ih =>
    exact ⟨node_succ ih, blockItems_succ ih, flushItems_succ ih, blockPart_succ ih,
      blockEntries_succ ih, flowPart_succ ih, flowItems_succ ih, flowEntries_succ ih⟩

end Reading

theorem gives_directives {versioned : Bool} {handles : List (String × String)} (fuel : Nat)
    (hhandles : ∀ h ∈ handles, Declares ts.list h) :
    Gives ts 0 (fun _ ↦ True) (directives versioned handles fuel) := by
  induction fuel generalizing versioned handles with
  | zero => exact .of_refuse
  | succ fuel ih =>
    unfold Compose.directives
    refine Gives.peek_bind fun d s t rest hs ht ↦ ?_
    split
    next directive =>
      refine yields_bind (yields_advance hs ht) fun _ s' h ↦ ?_
      obtain ⟨hs', -⟩ := h
      have hmem := mem_of_tokens hs ht
      dsimp only
      split
      next major =>
        split
        · exact .nodes .malformed
        · exact ih hhandles d s' hs'
      next handle expansion =>
        split
        · exact .nodes .malformed
        · exact ih (List.forall_mem_cons.mpr ⟨.inr hmem, hhandles⟩) d s' hs'
      next => exact ih hhandles d s' hs'
    next =>
      refine ⟨trivial, { hs with handles := fun h hh ↦ ?_ }⟩
      exact (List.mem_append.mp hh).elim (hhandles h) .inl

theorem gives_skipEnds (fuel : Nat) : Gives ts 0 (fun _ ↦ True) (skipEnds fuel) := by
  induction fuel with
  | zero => exact .of_pure trivial
  | succ fuel ih =>
    unfold Compose.skipEnds
    exact .accept_bind _ ih (.of_pure trivial)

theorem gives_markedDocument (fuel : Nat) :
    Gives ts 0 (OptionComes ts) (markedDocument fuel) := by
  have hsome : ∀ n : Node, n.Comes ts → OptionComes ts (some n) :=
    fun n hn m hm ↦ Option.some.inj hm ▸ hn
  unfold Compose.markedDocument
  refine Gives.peek_bind fun d s t rest hs ht ↦ ?_
  split
  next => exact ⟨fun n hn ↦ absurd hn.symm (Option.some_ne_none n), hs⟩
  next =>
    refine yields_bind (gives_directives fuel (List.forall_mem_nil _) d s hs) fun _ s' hs' ↦ ?_
    refine Gives.require_bind (R := OptionComes ts)
      .documentStart ?_ d s' hs'.2
    refine .peek_bind fun d s t rest hs ht ↦ ?_
    split
    all_goals first
      | exact ⟨hsome _ comes_left, hs⟩
      | exact yields_bind ((Reading.all fuel).node _ true false d s hs)
          fun n s' h ↦ ⟨hsome n h.1, h.2⟩

theorem gives_document (fuel : Nat) :
    Gives ts 0 (OptionComes ts) (document fuel) := by
  have hend : ∀ root, OptionComes ts root →
      Gives ts 0 (OptionComes ts) (do
        skipEnds fuel
        Compose.require .textEnd
        return root) :=
    fun root hroot ↦ .bind (gives_skipEnds fuel) fun _ _ ↦ .require_bind _ (.of_pure hroot)
  unfold Compose.document
  refine Gives.peek_bind fun d s t rest hs ht ↦ ?_
  split
  all_goals first
    | exact Gives.bind (gives_markedDocument fuel) hend d s hs
    | exact Gives.bind ((Reading.all fuel).node _ true false) (fun n hn ↦ hend (some n)
        fun m hm ↦ Option.some.inj hm ▸ hn) d _ { hs with handles := fun _ ↦ .inl }

theorem yields_attempt {earlier : List (String × Option Node)}
    (hearlier : NamesCome ts earlier) :
    Yields (IsFault ts) (fun r ↦ OptionComes ts r.1 ∧ NamesCome ts r.2.anchors)
      (attempt ts earlier) :=
  (gives_document _ 0 _ {
    fault := rfl
    tokens := List.suffix_refl _
    depth := rfl
    room := Nat.le_of_eq (Nat.zero_add _)
    handles := List.forall_mem_nil _
    anchors := List.forall_mem_nil _
    earlier := hearlier }).mono fun _ h ↦ ⟨h.1, h.2.anchors⟩

theorem yields_reread {read : Option Node × Composer} (times : Nat)
    (hroot : OptionComes ts read.1) (hnames : NamesCome ts read.2.anchors) :
    Yields (IsFault ts) (OptionComes ts) (reread ts read times) := by
  induction times generalizing read with
  | zero => exact hroot
  | succ times ih => exact (yields_attempt hnames).bind fun r hr ↦ ih hr.1 hr.2

theorem yields_root (levels : Nat) : Yields (IsFault ts) (OptionComes ts) (root? levels ts) :=
  (yields_attempt (List.forall_mem_nil _)).bind fun _ hr ↦ yields_reread _ hr.1 hr.2

end Compose

/-- A text has no faults but those of its nodes and the one behind its tokens. -/
theorem load_fault {levels : Nat} {source : Source} {f : Fault}
    (h : load levels source = .error f) :
    f = (Tokens.ofSource source).fault ∨ IsNodeFault (Tokens.ofSource source).list f := by
  unfold load at h
  generalize Tokens.ofSource source = ts at h ⊢
  have hfault : IsFault ts f := by
    refine Yields.onlyFails (Q := fun _ ↦ True) ?_ f h
    refine (Compose.yields_root levels).bind fun root hroot ↦ ?_
    cases root with
    | none => exact trivial
    | some n => exact (hroot n rfl).value.mapError fun _ he ↦ he
  cases hfault with
  | behind => exact .inl rfl
  | nodes hnodes => exact .inr hnodes

end WebAcl.Yaml
