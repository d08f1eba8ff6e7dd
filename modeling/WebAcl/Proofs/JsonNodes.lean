import WebAcl.Proofs.JsonTokens
import WebAcl.Yaml.Document

namespace WebAcl

open Text Yaml Yaml.Compose

namespace Yaml

section Steps

variable {α β : Type} {x : Compose α} {f : α → Compose β} {s s' : Composer} {t t' : Token}
  {ts : List Token} {takers : List String}

def Composer.before (s : Composer) (ts : List Token) : Composer := { s with tokens := ts }

theorem run_bind_ok {a : α} (h : x.run s = .ok (a, s')) : (x >>= f).run s = (f a).run s' := by
  rw [StateT.run_bind, h]
  rfl

theorem run_pure (a : α) : (pure a : Compose α).run s = .ok (a, s) := rfl

theorem run_peek : Compose.peek.run (s.before (t :: ts)) = .ok (t, s.before (t :: ts)) := rfl

theorem run_advance : Compose.advance.run (s.before (t :: ts)) = .ok ((), s.before ts) := rfl

theorem run_accept_self : (accept t).run (s.before (t :: ts)) = .ok (true, s.before ts) := by
  rw [accept, run_bind_ok run_peek, if_pos (beq_self_eq_true t)]
  rfl

theorem run_accept_ne (h : t ≠ t') :
    (accept t').run (s.before (t :: ts)) = .ok (false, s.before (t :: ts)) := by
  rw [accept, run_bind_ok run_peek, if_neg (by simpa using h)]
  rfl

theorem run_require : (Compose.require t).run (s.before (t :: ts)) = .ok ((), s.before ts) := by
  rw [Compose.require, run_bind_ok run_accept_self]
  rfl

theorem run_meets_not {marks : List Token} (h : t ∉ marks) :
    (meets marks).run (s.before (t :: ts)) = .ok (false, s.before (t :: ts)) := by
  rw [meets, run_bind_ok run_peek, List.contains_eq_mem, decide_eq_false h]
  rfl

def isNodeStart : Token → Bool
  | .scalar _ _ | .flowListStart | .flowMapStart => true
  | _ => false

theorem run_properties (h : isNodeStart t = true) :
    properties.run (s.before (t :: ts)) = .ok ({}, s.before (t :: ts)) := by
  rw [properties, run_bind_ok run_peek]
  cases t <;> first | rfl | exact absurd h Bool.false_ne_true

def Composer.inner (s : Composer) : Composer := { s with depth := s.depth + 1 }

theorem run_opening {close : Token} {first : Bool} {k : Compose (List α)} (ht : t ≠ close)
    (hclose : Token.flowEntry ≠ close) :
    (do
      if ← accept close then return []
      if !first then Compose.require .flowEntry
      k).run (s.before ((if first then [] else [Token.flowEntry]) ++ t :: ts)) =
        k.run (s.before (t :: ts)) := by
  cases first with
  | true =>
    rw [if_pos rfl, List.nil_append, run_bind_ok (run_accept_ne ht)]
    rfl
  | false =>
    rw [if_neg Bool.false_ne_true, List.cons_append, List.nil_append,
      run_bind_ok (run_accept_ne hclose)]
    exact run_bind_ok run_require

variable [Machine]

theorem run_collection {make : α → Node} {content : Compose α} {a : α} {ts₀ : List Token}
    (hdepth : s.depth < Machine.collections)
    (h : content.run (s.inner.before ts₀) = .ok (a, s.inner.before ts)) :
    (collection {} make content).run (s.before ts₀) = .ok (make a, s.before ts) := by
  have hget : (get : Compose Composer).run (s.before ts₀) = .ok (s.before ts₀, s.before ts₀) := rfl
  have hshallow : ¬ Machine.collections ≤ (s.before ts₀).depth := by
    change ¬ Machine.collections ≤ s.depth
    omega
  have henter : (modify fun s : Composer ↦ { s with depth := s.depth + 1 } : Compose PUnit).run
      (s.before ts₀) = .ok ((), s.inner.before ts₀) := rfl
  rw [collection, Compose.begin, run_bind_ok (run_pure ()), run_bind_ok hget, if_neg hshallow,
    run_bind_ok henter, run_bind_ok h]
  rfl

variable {fuel : Nat} {block flush : Bool}

theorem run_node_scalar {text : String} {plain : Bool} :
    (node takers block flush (fuel + 1)).run (s.before (.scalar text plain :: ts)) =
      .ok (.scalar (if plain then Tag.ofPlain text else .str) text, s.before ts) := by
  rw [node, run_bind_ok run_peek, run_bind_ok (run_properties rfl), run_bind_ok run_peek,
    run_bind_ok run_advance]
  cases plain <;> rfl

theorem run_node_list {ns : List Node} {ts₀ : List Token} (hdepth : s.depth < Machine.collections)
    (h : (flowItems takers true fuel).run (s.inner.before ts₀) = .ok (ns, s.inner.before ts)) :
    (node takers block flush (fuel + 1)).run (s.before (.flowListStart :: ts₀)) =
      .ok (.list .list ns, s.before ts) := by
  rw [node, run_bind_ok run_peek, run_bind_ok (run_properties rfl), run_bind_ok run_peek,
    run_bind_ok run_advance]
  exact run_collection hdepth h

theorem run_node_map {es : List (Node × Node)} {ts₀ : List Token}
    (hdepth : s.depth < Machine.collections)
    (h : (flowEntries takers true fuel).run (s.inner.before ts₀) = .ok (es, s.inner.before ts)) :
    (node takers block flush (fuel + 1)).run (s.before (.flowMapStart :: ts₀)) =
      .ok (.map .map es, s.before ts) := by
  rw [node, run_bind_ok run_peek, run_bind_ok (run_properties rfl), run_bind_ok run_peek,
    run_bind_ok run_advance]
  exact run_collection hdepth h

theorem run_flowPart {marks : List Token} (h : t ∉ marks) :
    (flowPart takers marks (fuel + 1)).run (s.before (t :: ts)) =
      (node takers false false fuel).run (s.before (t :: ts)) := by
  rw [flowPart, run_bind_ok (run_meets_not h)]
  rfl

theorem run_flowItems {first : Bool} {n : Node} {ns : List Node} {ts' ts'' : List Token}
    (ht : isNodeStart t = true)
    (hnode : (node takers false false fuel).run (s.before (t :: ts)) = .ok (n, s.before ts'))
    (hrest : (flowItems takers false fuel).run (s.before ts') = .ok (ns, s.before ts'')) :
    (flowItems takers first (fuel + 1)).run
      (s.before ((if first then [] else [Token.flowEntry]) ++ t :: ts)) =
        .ok (n :: ns, s.before ts'') := by
  have hend : t ≠ .flowListEnd := by rintro rfl; cases ht
  have hkey : t ≠ .key := by rintro rfl; cases ht
  rw [flowItems, run_opening hend (by decide), run_bind_ok (run_accept_ne hkey),
    if_neg Bool.false_ne_true, run_bind_ok (run_accept_ne hend), if_neg Bool.false_ne_true,
    run_bind_ok hnode, run_bind_ok hrest]
  rfl

theorem run_flowEntries {first : Bool} {key : String} {n : Node} {es : List (Node × Node)}
    {ts' ts'' : List Token} (ht : isNodeStart t = true)
    (hnode : (node [] false false (fuel + 1)).run (s.before (t :: ts)) = .ok (n, s.before ts'))
    (hrest : (flowEntries takers false (fuel + 2)).run (s.before ts') = .ok (es, s.before ts'')) :
    (flowEntries takers first (fuel + 3)).run
    (s.before ((if first then [] else [Token.flowEntry]) ++
      .key :: .scalar key false :: .value :: t :: ts)) =
        .ok ((.scalar .str key, n) :: es, s.before ts'') := by
  have hmarks : t ∉ [Token.flowEntry, .flowMapEnd] := by
    intro hmem
    simp only [List.mem_cons, List.not_mem_nil, or_false] at hmem
    obtain rfl | rfl := hmem <;> cases ht
  have hkey : (flowPart [] [.value, .flowEntry, .flowMapEnd] (fuel + 2)).run
      (s.before (.scalar key false :: .value :: t :: ts)) =
        .ok (.scalar .str key, s.before (.value :: t :: ts)) := by
    rw [run_flowPart (by simp)]
    exact run_node_scalar
  have hvalue : (flowPart (takersOf (.scalar .str key) takers) [.flowEntry, .flowMapEnd]
      (fuel + 2)).run (s.before (t :: ts)) = .ok (n, s.before ts') := by
    rw [run_flowPart hmarks]
    exact hnode
  rw [flowEntries, run_opening (by decide) (by decide), run_bind_ok run_accept_self, if_pos rfl,
    run_bind_ok hkey, run_bind_ok run_accept_self, if_pos rfl, run_bind_ok hvalue,
    run_bind_ok hrest]
  rfl

end Steps

section Values

theorem Built.all_ok {α : Type} (as : List α) : Built.all (as.map .ok) = .ok as := by
  induction as with
  | nil => rfl
  | cons a as ih =>
    rw [List.map_cons, Built.all, ih]
    rfl

theorem value_list {ns : List Node} {vs : List Value} (h : ns.map Node.value = vs.map .ok) :
    (Node.list .list ns).value = .ok (.list vs) := by
  change (Built.all (ns.map Node.value)).below.map Value.list = _
  rw [h, Built.all_ok]
  rfl

theorem flatEntries_fields (fields : List (String × Node)) :
    Node.flatEntries (fields.map fun f ↦ (.scalar .str f.1, f.2)) =
      .ok ([], fields.map fun f ↦ Built.pair (.ok (.str f.1)) f.2.value) := by
  induction fields with
  | nil => rfl
  | cons f fields ih =>
    have hmerge : ¬ (Node.scalar .str f.1).tag = .merge := Tag.noConfusion
    have hvalue : ¬ (Node.scalar .str f.1).tag = .value := Tag.noConfusion
    rw [List.map_cons, Node.flatEntries, if_neg hmerge, ih, if_neg hvalue]
    rfl

theorem value_map [Machine] {nodes : List (String × Node)} {fields : List (String × Value)}
    (h : nodes.map (fun f ↦ (f.1, f.2.value)) = fields.map fun f ↦ (f.1, .ok f.2)) :
    (Node.map .map (nodes.map fun f ↦ (.scalar .str f.1, f.2))).value =
      .ok (.ofFields fields) := by
  have hentries : nodes.map (fun f ↦ Built.pair (.ok (.str f.1)) f.2.value) =
      (fields.map fun f ↦ (Value.str f.1, f.2)).map .ok := by
    have hpairs := congrArg (List.map fun f : String × Built Value ↦
      Built.pair (.ok (Value.str f.1)) f.2) h
    rw [List.map_map, List.map_map] at hpairs
    rw [List.map_map]
    exact hpairs
  have hbuilt : ∀ join : List BuiltEntry × List BuiltEntry → List BuiltEntry,
      (∀ own, join ([], own) = own) → (Built.below ((Built.here ((Node.flatEntries
        (nodes.map fun f ↦ (.scalar .str f.1, f.2))).map join)).bind Built.all)) =
          .ok (fields.map fun f ↦ (Value.str f.1, f.2)) := by
    intro join hjoin
    rw [flatEntries_fields, hentries]
    change Built.below (Built.all (join ([], _))) = _
    rw [hjoin, Built.all_ok]
    rfl
  have hfill : fillMap (fields.map fun f ↦ (Value.str f.1, f.2)) =
      fields.foldl (fun es f ↦ Value.insert (.str f.1) f.2 es) [] := by
    rw [fillMap, List.foldl_map]
  have hends : ((fields.map fun f ↦ (Value.str f.1, f.2)).any fun e ↦ isEndless e.1) = false := by
    rw [List.any_map]
    exact List.any_eq_false.mpr fun _ _ ↦ Bool.false_ne_true
  unfold Node.map
  dsimp only
  rw [hbuilt _ fun _ ↦ rfl, Value.ofFields, ← hfill]
  change Except.ok (collected _ _) = _
  rw [collected, hends, if_neg Bool.false_ne_true]

end Values

end Yaml

namespace JsonText

theorem scalar_null : (Node.scalar (Tag.ofPlain "null") "null").value = .ok .null := by
  have htag : Tag.ofPlain "null" = .null := by decide
  rw [htag]
  rfl

theorem scalar_bool (b : Bool) : (Node.scalar (Tag.ofPlain (if b then "true" else "false"))
    (if b then "true" else "false")).value = .ok (.bool b) := by
  have htag : Tag.ofPlain (if b then "true" else "false") = .bool := by
    cases b <;> decide
  have hlower : lower (if b then "true" else "false") = if b then "true" else "false" := by
    cases b <;> decide
  rw [htag, value_scalar rfl, scalarValue, truthValue, hlower]
  cases b <;> rfl

theorem exists_tokens (t : JsonText) : ∃ a ts, t.tokens = a :: ts ∧ isNodeStart a = true := by
  cases t <;> exact ⟨_, _, rfl, rfl⟩

variable [Machine]

mutual

/-- From the tokens of a value a node with this value is made. -/
theorem exists_node (t : JsonText) {s : Composer} {takers : List String} {block flush : Bool}
    {fuel : Nat} (hyaml : t.IsYaml) (hdepth : s.depth + t.nesting ≤ Machine.collections)
    (hfuel : t.tokens.length ≤ fuel) (rest : List Token) :
    ∃ n, (node takers block flush fuel).run (s.before (t.tokens ++ rest)) = .ok (n, s.before rest) ∧
      n.value = .ok t.value := by
  obtain ⟨fuel, rfl⟩ : ∃ f, fuel = f + 1 := by
    obtain ⟨a, ts, hts, -⟩ := exists_tokens t
    rw [hts, List.length_cons] at hfuel
    exact ⟨fuel - 1, by omega⟩
  cases t with
  | null => exact ⟨_, run_node_scalar, scalar_null⟩
  | bool b => exact ⟨_, run_node_scalar, scalar_bool b⟩
  | number n => exact ⟨_, run_node_scalar, scalar_number hyaml⟩
  | string ps => exact ⟨_, run_node_scalar, rfl⟩
  | array gap items =>
    simp only [tokens, List.length_cons, List.length_append, List.length_nil] at hfuel
    rw [nesting] at hdepth
    have hinner : s.inner.depth + items.nesting ≤ Machine.collections := by
      change s.depth + 1 + items.nesting ≤ Machine.collections
      omega
    have hless : (items.tokens true).length < fuel := by omega
    obtain ⟨ns, hrun, hvalues⟩ := exists_item_nodes items true hyaml.2 hinner hless rest
    refine ⟨_, ?_, value_list hvalues⟩
    rw [tokens, List.cons_append, List.append_assoc]
    exact run_node_list (by omega) hrun
  | object gap entries =>
    simp only [tokens, List.length_cons, List.length_append, List.length_nil] at hfuel
    rw [nesting] at hdepth
    have hinner : s.inner.depth + entries.nesting ≤ Machine.collections := by
      change s.depth + 1 + entries.nesting ≤ Machine.collections
      omega
    have hless : (entries.tokens true).length < fuel := by omega
    obtain ⟨ns, hrun, hvalues⟩ := exists_entry_nodes entries true hyaml.2 hinner hless rest
    refine ⟨_, ?_, value_map hvalues⟩
    rw [tokens, List.cons_append, List.append_assoc]
    exact run_node_map (by omega) hrun

theorem exists_item_nodes (items : Items) {s : Composer} {takers : List String} (first : Bool)
    {fuel : Nat} (hyaml : items.IsYaml) (hdepth : s.depth + items.nesting ≤ Machine.collections)
    (hfuel : (items.tokens first).length < fuel) (rest : List Token) :
    ∃ ns, (flowItems takers first fuel).run
    (s.before (items.tokens first ++ ([.flowListEnd] ++ rest))) =
      .ok (ns, s.before rest) ∧ ns.map Node.value = items.values.map .ok := by
  obtain ⟨fuel, rfl⟩ : ∃ f, fuel = f + 1 := ⟨fuel - 1, by omega⟩
  cases items with
  | nil =>
    refine ⟨[], ?_, rfl⟩
    rw [flowItems]
    exact run_bind_ok run_accept_self
  | cons before item after others =>
    obtain ⟨-, hitem, -, hothers⟩ := hyaml
    rw [Items.nesting] at hdepth
    obtain ⟨a, ts, hts, ha⟩ := exists_tokens item
    simp only [Items.tokens, List.length_append, hts, List.length_cons] at hfuel
    have hshort : item.tokens.length ≤ fuel := by
      rw [hts, List.length_cons]
      omega
    have hless : (others.tokens false).length < fuel := by omega
    have hdepth' : s.depth + item.nesting ≤ Machine.collections := by omega
    have hdepth'' : s.depth + others.nesting ≤ Machine.collections := by omega
    obtain ⟨n, hnode, hvalue⟩ := exists_node item hitem hdepth' hshort
      (others.tokens false ++ ([.flowListEnd] ++ rest))
    obtain ⟨ns, hrest, hvalues⟩ := exists_item_nodes others false hothers hdepth'' hless rest
    refine ⟨n :: ns, ?_, by rw [List.map_cons, hvalue, hvalues]; rfl⟩
    rw [hts, List.cons_append] at hnode
    rw [Items.tokens, hts, List.append_assoc, List.cons_append, List.cons_append, List.append_assoc]
    exact run_flowItems ha hnode hrest

theorem exists_entry_nodes (entries : Entries) {s : Composer} {takers : List String} (first : Bool)
    {fuel : Nat} (hyaml : entries.IsYaml) (hdepth : s.depth + entries.nesting ≤ Machine.collections)
    (hfuel : (entries.tokens first).length < fuel) (rest : List Token) :
    ∃ nodes : List (String × Node), (flowEntries takers first fuel).run
      (s.before (entries.tokens first ++ ([.flowMapEnd] ++ rest))) =
        .ok (nodes.map fun f ↦ (.scalar .str f.1, f.2), s.before rest) ∧
      nodes.map (fun f ↦ (f.1, f.2.value)) = entries.fields.map fun f ↦ (f.1, .ok f.2) := by
  cases entries with
  | nil =>
    obtain ⟨fuel, rfl⟩ : ∃ f, fuel = f + 1 := ⟨fuel - 1, by omega⟩
    refine ⟨[], ?_, rfl⟩
    rw [flowEntries]
    exact run_bind_ok run_accept_self
  | cons before key colon between value after others =>
    obtain ⟨-, -, -, -, -, hvalue, -, hothers⟩ := hyaml
    rw [Entries.nesting] at hdepth
    obtain ⟨a, ts, hts, ha⟩ := exists_tokens value
    simp only [Entries.tokens, List.length_append, hts, List.length_cons, List.length_nil] at hfuel
    obtain ⟨fuel, rfl⟩ : ∃ f, fuel = f + 3 := ⟨fuel - 3, by omega⟩
    have hshort : value.tokens.length ≤ fuel + 1 := by
      rw [hts, List.length_cons]
      omega
    have hless : (others.tokens false).length < fuel + 2 := by omega
    have hdepth' : s.depth + value.nesting ≤ Machine.collections := by omega
    have hdepth'' : s.depth + others.nesting ≤ Machine.collections := by omega
    obtain ⟨n, hnode, hn⟩ : ∃ n, (node [] false false (fuel + 1)).run _ = .ok (n, s.before _) ∧ _ :=
      exists_node value hvalue hdepth' hshort (others.tokens false ++ ([.flowMapEnd] ++ rest))
    obtain ⟨ns, hrest, hvalues⟩ := exists_entry_nodes others false hothers hdepth'' hless rest
    refine ⟨(stringOf key, n) :: ns, ?_, by rw [List.map_cons, hn, hvalues]; rfl⟩
    rw [hts, List.cons_append] at hnode
    rw [Entries.tokens, hts]
    simp only [List.append_assoc, List.cons_append, List.nil_append]
    exact run_flowEntries ha hnode hrest

end

theorem attempt_object {gap : Gap} {entries : Entries} (hyaml : (object gap entries).IsYaml)
    (hdepth : (object gap entries).nesting ≤ Machine.collections) (fault : Fault) :
    ∃ n s, attempt ⟨(object gap entries).tokens ++ [.textEnd], fault⟩ [] = .ok (some n, s) ∧
      s.endless = false ∧ n.value = .ok (object gap entries).value := by
  obtain ⟨ts, hts⟩ : ∃ ts, (object gap entries).tokens ++ [.textEnd] = ts := ⟨_, rfl⟩
  obtain ⟨s, hs⟩ : ∃ s : Composer,
      s = { tokens := ts, fault := fault, handles := defaultHandles } :=
    ⟨_, rfl⟩
  have hlength := congrArg List.length hts
  rw [List.length_append, List.length_singleton] at hlength
  have hlimit : s.depth + (object gap entries).nesting ≤ Machine.collections := by
    rw [hs]
    simpa using hdepth
  obtain ⟨n, hnode, hvalue⟩ : ∃ n, (node [] true false (4 * ts.length + 4)).run
      (s.before ((object gap entries).tokens ++ [.textEnd])) = .ok (n, s.before [.textEnd]) ∧ _ :=
    exists_node (object gap entries) hyaml hlimit (by omega) _
  have hskip : (skipEnds (4 * ts.length + 4)).run (s.before [.textEnd]) =
      .ok ((), s.before [.textEnd]) := by
    rw [skipEnds]
    exact run_bind_ok (run_accept_ne (by decide))
  have hbegin : (modify fun s : Composer ↦ { s with handles := defaultHandles } : Compose PUnit).run
      { tokens := ts, fault := fault } =
        .ok ((), s.before ((object gap entries).tokens ++ [.textEnd])) := by
    rw [hts, hs]
    rfl
  have hpeek : Compose.peek.run { tokens := ts, fault := fault } =
      .ok (.flowMapStart, { tokens := ts, fault := fault }) := by
    rw [← hts]
    rfl
  refine ⟨n, s.before [], ?_, by rw [hs]; rfl, hvalue⟩
  rw [hts, attempt, document, run_bind_ok hpeek, run_bind_ok hbegin, run_bind_ok hnode,
    run_bind_ok (run_pure (some n)), run_bind_ok hskip]
  exact run_bind_ok run_require

/-- A file that holds an object has the value that JSON gives it. -/
theorem load_object {before gap after : Gap} {entries : Entries} (hbefore : before.IsYaml)
    (hafter : after.IsYaml) (hyaml : (object gap entries).IsYaml)
    (hdepth : (object gap entries).nesting ≤ Machine.collections) (levels : Nat) :
    Yaml.load levels ⟨unifyLineEnds before.chars ++
      ((object gap entries).text unifyLineEnds ++ unifyLineEnds after.chars), none⟩ =
        .ok (object gap entries).value := by
  obtain ⟨n, s, hattempt, hend, hvalue⟩ := attempt_object hyaml hdepth .malformed
  have hroot : root? levels ⟨(object gap entries).tokens ++ [.textEnd], .malformed⟩ =
      .ok (some n) := by
    rw [root?, hattempt]
    change reread _ (some n, s) (if s.endless then _ else 0) = _
    rw [hend]
    rfl
  rw [Yaml.load, ofSource_object hbefore hafter hyaml, hroot]
  change n.value.mapError _ = _
  rw [hvalue]
  rfl

end JsonText

end WebAcl
