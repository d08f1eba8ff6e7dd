import WebAcl.Proofs.HclText
import WebAcl.Proofs.TerraformBlocks

namespace WebAcl

open Hcl Outcome

namespace Value

mutual

/-- The data with empty texts. Keys stay as they are. -/
def shape : Value → Value
  | str _ => str ""
  | list xs => list (shapeItems xs)
  | tuple xs => tuple (shapeItems xs)
  | set xs => set (shapeItems xs)
  | map es => map (shapeEntries es)
  | frozenMap es => frozenMap (shapeEntries es)
  | v => v

def shapeItems : List Value → List Value
  | [] => []
  | x :: xs => shape x :: shapeItems xs

def shapeEntries : List (Value × Value) → List (Value × Value)
  | [] => []
  | (k, v) :: es => (k, shape v) :: shapeEntries es

end

mutual

theorem isWritable_shape : ∀ v : Value, v.shape.isWritable = v.isWritable
  | null | bool _ | int _ | float _ | str _ | bytes _ | date _ | timestamp _ | endless => by
    simp only [shape, isWritable]
  | list xs | tuple xs | set xs => by
    rw [shape, isWritable, isWritable, itemsWritable_shapeItems xs]
  | map es | frozenMap es => by
    rw [shape, isWritable, isWritable, entriesWritable_shapeEntries es]

theorem itemsWritable_shapeItems : ∀ xs : List Value,
    itemsWritable (shapeItems xs) = itemsWritable xs
  | [] => rfl
  | x :: xs => by
    rw [shapeItems, itemsWritable, itemsWritable, isWritable_shape x, itemsWritable_shapeItems xs]

theorem entriesWritable_shapeEntries : ∀ es : List (Value × Value),
    entriesWritable (shapeEntries es) = entriesWritable es
  | [] => rfl
  | (k, v) :: es => by
    rw [shapeEntries, entriesWritable, entriesWritable, isWritable_shape v,
      entriesWritable_shapeEntries es]

end

mutual

theorem thaw_shape : ∀ v : Value, v.shape.thaw = v.thaw.shape
  | null | bool _ | int _ | float _ | str _ | bytes _ | date _ | timestamp _ | endless
  | list _ | set _ => rfl
  | tuple xs => by rw [shape, thaw, thaw, shape, thawItems_shapeItems xs]
  | map es | frozenMap es => by rw [shape, thaw, thaw, shape, thawEntries_shapeEntries es]

theorem thawItems_shapeItems : ∀ xs : List Value,
    thawItems (shapeItems xs) = shapeItems (thawItems xs)
  | [] => rfl
  | x :: xs => by
    rw [shapeItems, thawItems, thawItems, shapeItems, thaw_shape x, thawItems_shapeItems xs]

theorem thawEntries_shapeEntries : ∀ es : List (Value × Value),
    thawEntries (shapeEntries es) = shapeEntries (thawEntries es)
  | [] => rfl
  | (k, v) :: es => by
    rw [shapeEntries, thawEntries, thawEntries, shapeEntries, thaw_shape v,
      thawEntries_shapeEntries es]

end

@[simp] theorem kindName_shape (v : Value) : v.shape.kindName = v.kindName := by
  cases v <;> rfl

variable {r : Recursion}

mutual

theorem fits_shape : ∀ (used : Nat) (v : Value), r.fits used v.shape = r.fits used v
  | _, null | _, bool _ | _, int _ | _, float _ | _, str _ | _, bytes _ | _, date _
  | _, timestamp _ | _, endless | _, set _ => rfl
  | used, list xs => by
    rw [shape, Recursion.fits, Recursion.fits, itemsFit_shapeItems _ xs]
    rfl
  | used, tuple xs => by
    rw [shape, Recursion.fits, Recursion.fits, itemsFit_shapeItems _ xs]
    rfl
  | used, map es => by
    rw [shape, Recursion.fits, Recursion.fits, entriesFit_shapeEntries _ es]
    rfl
  | used, frozenMap es => by
    rw [shape, Recursion.fits, Recursion.fits, entriesFit_shapeEntries _ es]
    rfl

theorem itemsFit_shapeItems : ∀ (used : Nat) (xs : List Value),
    r.itemsFit used (shapeItems xs) = r.itemsFit used xs
  | _, [] => rfl
  | used, x :: xs => by
    rw [shapeItems, Recursion.itemsFit, Recursion.itemsFit, fits_shape used x,
      itemsFit_shapeItems used xs]

theorem entriesFit_shapeEntries : ∀ (used : Nat) (es : List (Value × Value)),
    r.entriesFit used (shapeEntries es) = r.entriesFit used es
  | _, [] => rfl
  | used, (k, v) :: es => by
    rw [shapeEntries, Recursion.entriesFit, Recursion.entriesFit, fits_shape used v,
      entriesFit_shapeEntries used es]

end

end Value

namespace Hcl

@[simp] theorem isMap_shape (v : Value) : isMap v.shape = isMap v := by
  cases v <;> rfl

theorem isEmpty_shapeItems (xs : List Value) : (Value.shapeItems xs).isEmpty = xs.isEmpty := by
  cases xs <;> rfl

theorem all_isMap_shapeItems (xs : List Value) :
    (Value.shapeItems xs).all isMap = xs.all isMap := by
  induction xs with
  | nil => rfl
  | cons x xs ih => simp [Value.shapeItems, ih]

theorem blanked_text_shape (v : Value) :
    let written := fun w : Value ↦
      if w.isWritable then Except.ok (Expr.text w.toText) else .error Crash.hugeInteger
    Expr.blanked <$> written v.shape = Expr.blanked <$> written v := by
  dsimp only
  rw [v.isWritable_shape]
  split <;> rfl

section

variable [Machine]

mutual

theorem blanked_exprOf_shape : ∀ (used : Nat) (v : Value),
    Expr.blanked <$> exprOf used v.shape = Expr.blanked <$> exprOf used v := by
  intro used v
  cases v with
  | list xs =>
    rw [Value.shape, exprOf, exprOf]
    refine map_bind_congr (f := id) rfl fun _ _ _ ↦ ?_
    refine map_bind_congr (blankedAll_exprsOf_shape _ xs) fun es es' hes ↦ ?_
    simp [Expr.blanked, hes]
  | null | bool | int | float | bytes | date | timestamp | endless => rfl
  | str s => exact map_bind_congr (f := id) rfl fun _ _ _ ↦ blanked_text_shape (.str s)
  | tuple xs => exact map_bind_congr (f := id) rfl fun _ _ _ ↦ blanked_text_shape (.tuple xs)
  | set xs => exact map_bind_congr (f := id) rfl fun _ _ _ ↦ blanked_text_shape (.set xs)
  | map es => exact map_bind_congr (f := id) rfl fun _ _ _ ↦ blanked_text_shape (.map es)
  | frozenMap es =>
    exact map_bind_congr (f := id) rfl fun _ _ _ ↦ blanked_text_shape (.frozenMap es)

theorem blankedAll_exprsOf_shape : ∀ (used : Nat) (xs : List Value),
    Expr.blankedAll <$> exprsOf used (Value.shapeItems xs) = Expr.blankedAll <$> exprsOf used xs
  | _, [] => rfl
  | used, x :: xs => by
    refine map_bind_congr (blanked_exprOf_shape used x) fun e e' he ↦ ?_
    refine map_bind_congr (blankedAll_exprsOf_shape used xs) fun es es' hes ↦ ?_
    simp [Expr.blankedAll, he, hes]

end

end

namespace Item

theorem blankedAll_eq_map (items : List Item) : blankedAll items = items.map blanked := by
  induction items with
  | nil => rfl
  | cons item items ih => rw [blankedAll, ih, List.map_cons]

@[simp] theorem blankedAll_append (items items' : List Item) :
    blankedAll (items ++ items') = blankedAll items ++ blankedAll items' := by
  simp [blankedAll_eq_map]

theorem blankedAll_orBlank (items : List Item) :
    blankedAll (orBlank items) = orBlank (blankedAll items) := by
  cases items <;> rfl

theorem isEmpty_eq_of_blankedAll_eq {items items' : List Item}
    (h : blankedAll items = blankedAll items') : items.isEmpty = items'.isEmpty := by
  cases items <;> cases items' <;> simp_all [blankedAll]

theorem blanked_single (name : String) (value : Expr) :
    (single name value).blanked = single name value.blanked :=
  rfl

end Item

section

variable [Machine]

theorem blankedAll_attribute_shape (used : Nat) (name : String) (v : Value) :
    let written := fun w : Value ↦ do
      let value ← exprOf used w
      return [Item.single name value]
    Item.blankedAll <$> written v.shape = Item.blankedAll <$> written v := by
  refine map_bind_congr (blanked_exprOf_shape used v) fun e e' he ↦ ?_
  simp [Item.blankedAll, Item.blanked_single, he]

mutual

theorem blankedAll_itemsOf_shape : ∀ (used : Nat) (es : List (Value × Value)),
    Item.blankedAll <$> itemsOf used (Value.shapeEntries es) = Item.blankedAll <$> itemsOf used es
  | _, [] => rfl
  | used, (k, v) :: es => by
    rw [Value.shapeEntries, itemsOf, itemsOf]
    refine map_bind_congr (f := id) rfl fun _ _ _ ↦ ?_
    refine map_bind_congr (f := id) rfl fun name _ hname ↦ ?_
    obtain rfl := hname
    refine map_bind_congr (blankedAll_entryItems_shape used name v) fun items items' hitems ↦ ?_
    refine map_bind_congr (blankedAll_itemsOf_shape used es) fun rest rest' hrest ↦ ?_
    simp [hitems, hrest]

theorem blankedAll_entryItems_shape : ∀ (used : Nat) (name : String) (v : Value),
    Item.blankedAll <$> entryItems used name v.shape =
      Item.blankedAll <$> entryItems used name v := by
  intro used name v
  cases v with
  | map es =>
    rw [Value.shape, entryItems, entryItems]
    refine map_bind_congr (f := id) rfl fun _ _ _ ↦ ?_
    refine map_bind_congr (blankedAll_itemsOf_shape _ es) fun body body' hbody ↦ ?_
    -- whether the map becomes a flag depends on its entries only
    rw [Item.isEmpty_eq_of_blankedAll_eq hbody]
    split
    · rfl
    · simp [Item.blankedAll, Item.blanked, hbody]
  | list xs =>
    rw [Value.shape, entryItems, entryItems, isEmpty_shapeItems, all_isMap_shapeItems]
    split
    · exact blankedAll_blocksOf_shape used (singular name) xs
    · exact blankedAll_attribute_shape used name (.list xs)
  | _ => exact blankedAll_attribute_shape used name _

theorem blankedAll_blocksOf_shape : ∀ (used : Nat) (name : String) (xs : List Value),
    Item.blankedAll <$> blocksOf used name (Value.shapeItems xs) =
      Item.blankedAll <$> blocksOf used name xs
  | _, _, [] => rfl
  | used, name, .map es :: xs => by
    rw [Value.shapeItems, Value.shape, blocksOf, blocksOf]
    refine map_bind_congr (f := id) rfl fun _ _ _ ↦ ?_
    refine map_bind_congr (blankedAll_itemsOf_shape _ es) fun body body' hbody ↦ ?_
    refine map_bind_congr (blankedAll_blocksOf_shape used name xs) fun rest rest' hrest ↦ ?_
    simp [Item.blankedAll, Item.blanked, Item.blankedAll_orBlank, hbody, hrest]
  | used, name, .null :: xs | used, name, .bool _ :: xs | used, name, .int _ :: xs
  | used, name, .float _ :: xs | used, name, .str _ :: xs | used, name, .bytes _ :: xs
  | used, name, .date _ :: xs | used, name, .timestamp _ :: xs | used, name, .list _ :: xs
  | used, name, .tuple _ :: xs | used, name, .set _ :: xs | used, name, .frozenMap _ :: xs
  | used, name, .endless :: xs => blankedAll_blocksOf_shape used name xs

end

theorem blankedAll_bodyOf_shape (used : Nat) (es : List (Value × Value)) :
    Item.blankedAll <$> bodyOf used (Value.shapeEntries es) =
      Item.blankedAll <$> bodyOf used es :=
  map_bind_congr (f := id) rfl fun _ _ _ ↦ blankedAll_itemsOf_shape _ es

end

end Hcl

def IpSet.shape (s : IpSet) : IpSet :=
  { s with addresses := s.addresses.map fun _ ↦ "", description := "" }

def RegexSet.shape (s : RegexSet) : RegexSet :=
  { s with patterns := s.patterns.map fun _ ↦ "", description := "" }

def BackingSet.shape : BackingSet → BackingSet
  | ip s => ip s.shape
  | regex s => regex s.shape

def Statement.shape : Statement → Statement
  | ipSet s forwarded => ipSet s.shape forwarded
  | regexSet s field headerName => regexSet s.shape field headerName
  | managedGroup name vendor excluded => managedGroup name vendor (excluded.map fun _ ↦ "")
  | rateBased limit aggregation forwarded => rateBased limit aggregation forwarded
  | custom body => custom body.shape

def Visibility.shape (v : Visibility) : Visibility :=
  { v with metricName := "" }

def Rule.shape (r : Rule) : Rule :=
  { r with name := "", statement := r.statement.shape, visibility := r.visibility.shape }

/-- The policy with empty texts. Its name stays, since labels are made of it. -/
def Policy.shape (p : Policy) : Policy :=
  { p with
    rules := p.rules.map Rule.shape
    associations := p.associations.map fun _ ↦ ""
    visibility := p.visibility.shape }

namespace BackingSet

@[simp] theorem logicalId_shape (s : BackingSet) : s.shape.logicalId = s.logicalId := by
  cases s <;> rfl

theorem map_shape_addNew (sets : List BackingSet) (s : BackingSet) :
    (addNew sets s).map shape = addNew (sets.map shape) s.shape := by
  unfold addNew
  simp only [List.any_map, Function.comp_def, logicalId_shape]
  split <;> simp

theorem map_shape_foldl_addNew (sets listed : List BackingSet) :
    (sets.foldl addNew listed).map shape = (sets.map shape).foldl addNew (listed.map shape) := by
  induction sets generalizing listed with
  | nil => rfl
  | cons s sets ih => rw [List.foldl_cons, ih, map_shape_addNew, List.map_cons, List.foldl_cons]

end BackingSet

theorem Statement.references_shape (st : Statement) :
    st.shape.references = st.references.map BackingSet.shape := by
  cases st <;> rfl

namespace Policy

variable (p : Policy)

theorem backingSets_shape : p.shape.backingSets = p.backingSets.map BackingSet.shape := by
  have hreferences : p.shape.rules.flatMap Rule.references =
      (p.rules.flatMap Rule.references).map BackingSet.shape := by
    simp [shape, List.flatMap_map, List.map_flatMap, Rule.references, Rule.shape,
      Statement.references_shape]
  rw [backingSets, hreferences, backingSets, BackingSet.map_shape_foldl_addNew, List.map_nil]

end Policy

namespace Terraform

variable (p : Policy)

theorem orderedSets_shape : orderedSets p.shape = (orderedSets p).map BackingSet.shape := by
  have hip : p.shape.ipSets = p.ipSets.map IpSet.shape := by
    rw [Policy.ipSets, Policy.ipSets, p.backingSets_shape, List.filterMap_map, List.map_filterMap]
    refine List.filterMap_congr fun s _ ↦ ?_
    cases s <;> rfl
  have hregex : p.shape.regexSets = p.regexSets.map RegexSet.shape := by
    rw [Policy.regexSets, Policy.regexSets, p.backingSets_shape, List.filterMap_map,
      List.map_filterMap]
    refine List.filterMap_congr fun s _ ↦ ?_
    cases s <;> rfl
  simp [orderedSets, hip, hregex, BackingSet.shape, Function.comp_def]

theorem blankedAll_statementItems_shape [Machine] (st : Statement) :
    Item.blankedAll <$> statementItems st.shape = Item.blankedAll <$> statementItems st := by
  cases st with
  | ipSet set forwarded => cases forwarded <;> rfl
  | regexSet set field headerName => cases field <;> rfl
  | managedGroup name vendor excluded =>
    have hexcluded : Item.blankedAll ((excluded.map fun _ ↦ "").flatMap exclusionItems) =
        Item.blankedAll (excluded.flatMap exclusionItems) := by
      rw [List.flatMap_map, Item.blankedAll_eq_map, Item.blankedAll_eq_map, List.map_flatMap,
        List.map_flatMap]
      rfl
    have hitems : Item.blankedAll (managedGroupItems name vendor (excluded.map fun _ ↦ "")) =
        Item.blankedAll (managedGroupItems name vendor excluded) := by
      simp only [managedGroupItems, Item.blankedAll, Item.blanked, hexcluded]
    exact congrArg Except.ok hitems
  | rateBased limit aggregation forwarded => rfl
  | custom body =>
    simp only [Statement.shape, statementItems, Value.thaw_shape, Value.fits_shape]
    split
    · cases body.thaw with
      | map es => exact blankedAll_bodyOf_shape 0 es
      | _ => rfl
    · rfl

theorem blankedAll_ruleItems_shape [Machine] (r : Rule) :
    Item.blankedAll <$> ruleItems r.shape = Item.blankedAll <$> ruleItems r := by
  rw [ruleItems_eq, ruleItems_eq]
  refine map_bind_congr (f := id) rfl fun outcome _ houtcome ↦ ?_
  obtain rfl := houtcome
  refine map_bind_congr (blankedAll_statementItems_shape r.statement) fun items items' hitems ↦ ?_
  have hblock : (ruleBlock r.shape outcome items).blanked =
      (ruleBlock r outcome items').blanked := by
    have hstatement := congrArg Item.orBlank hitems
    rw [← Item.blankedAll_orBlank, ← Item.blankedAll_orBlank] at hstatement
    simp only [ruleBlock, Item.blanked, Item.blankedAll, hstatement]
    rfl
  rw [show r.shape.priority = r.priority from rfl]
  split
  · simpa [Item.blankedAll] using hblock
  · rfl

theorem mapM_ruleItems_shape [Machine] (rules : List Rule) :
    List.map Item.blankedAll <$> (rules.map Rule.shape).mapM ruleItems =
      List.map Item.blankedAll <$> rules.mapM ruleItems := by
  induction rules with
  | nil => rfl
  | cons r rules ih =>
    rw [List.map_cons, List.mapM_cons, List.mapM_cons]
    refine map_bind_congr (blankedAll_ruleItems_shape r) fun items items' hitems ↦ ?_
    refine map_bind_congr ih fun rest rest' hrest ↦ ?_
    simp [hitems, hrest]

theorem blanked_setResource_shape (b : BackingSet) :
    (setResource p.shape b.shape).blanked = (setResource p b).blanked := by
  cases b with
  | ip s =>
    have haddresses : (Expr.column s.shape.addresses).blanked =
        (Expr.column s.addresses).blanked := by
      rw [Expr.blanked, Expr.blanked, IpSet.shape, List.map_map]
      rfl
    simp only [setResource, resource, BackingSet.shape, Item.blanked, Item.blankedAll,
      List.map_cons, List.map_nil, haddresses]
    rfl
  | regex s =>
    let patternItems := fun pattern ↦
      [Item.blank, .block "regular_expression" [.single "regex_string" (.text pattern)]]
    have hpatterns : Item.blankedAll (s.shape.patterns.flatMap patternItems) =
        Item.blankedAll (s.patterns.flatMap patternItems) := by
      rw [RegexSet.shape, List.flatMap_map, Item.blankedAll_eq_map, Item.blankedAll_eq_map,
        List.map_flatMap, List.map_flatMap]
      rfl
    have hitems := congrArg Item.orBlank hpatterns
    rw [← Item.blankedAll_orBlank, ← Item.blankedAll_orBlank] at hitems
    simp only [setResource, resource, BackingSet.shape, Item.blanked, Item.blankedAll, hitems,
      patternItems]
    rfl

theorem blanked_aclBlock_shape {rules rules' : List (List Item)}
    (h : rules.map Item.blankedAll = rules'.map Item.blankedAll) :
    (aclBlock p.shape rules).blanked = (aclBlock p rules').blanked := by
  have hflatten : ∀ rules : List (List Item), Item.blankedAll (Item.orBlank rules.flatten) =
      Item.orBlank (rules.map Item.blankedAll).flatten := by
    intro rules
    rw [Item.blankedAll_orBlank, funext Item.blankedAll_eq_map, List.map_flatten]
  simp only [aclBlock, resource, Item.blanked, Item.blankedAll, Item.blankedAll_append, hflatten, h]
  rfl

theorem blankedAll_associationResources_shape :
    Item.blankedAll (associationResources p.shape) = Item.blankedAll (associationResources p) := by
  rw [Item.blankedAll_eq_map, Item.blankedAll_eq_map]
  refine List.ext_getElem (by simp [associationResources, Policy.shape]) fun i hi hi' ↦ ?_
  simp only [associationResources, List.getElem_map, List.getElem_mapIdx]
  rfl

theorem blankedAll_mainBlocks_shape [Machine] :
    Item.blankedAll <$> mainBlocks p.shape = Item.blankedAll <$> mainBlocks p := by
  have hsets : Item.blankedAll ((orderedSets p.shape).map (setResource p.shape)) =
      Item.blankedAll ((orderedSets p).map (setResource p)) := by
    simp [orderedSets_shape, Item.blankedAll_eq_map, Function.comp_def, blanked_setResource_shape]
  rw [mainBlocks_eq, mainBlocks_eq, map_eq_pure_bind, map_eq_pure_bind]
  refine map_bind_congr (mapM_ruleItems_shape p.rules) fun rules rules' hrules ↦ ?_
  have hblocks : Item.blankedAll (allBlocks p.shape rules) =
      Item.blankedAll (allBlocks p rules') := by
    simp only [allBlocks, Item.blankedAll_append, hsets, Item.blankedAll,
      blanked_aclBlock_shape p hrules, blankedAll_associationResources_shape]
    rfl
  exact congrArg Except.ok hblocks

theorem blankedAll_outputBlocks_shape :
    Item.blankedAll (outputBlocks p.shape) = Item.blankedAll (outputBlocks p) := by
  have houtput : ∀ b : BackingSet, (setOutput b.shape).blanked = (setOutput b).blanked := by
    intro b
    cases b <;> rfl
  have hsets : Item.blankedAll ((orderedSets p.shape).map setOutput) =
      Item.blankedAll ((orderedSets p).map setOutput) := by
    simp [orderedSets_shape, Item.blankedAll_eq_map, Function.comp_def, houtput]
  simp only [outputBlocks, Item.blankedAll_append, hsets]
  rfl

end Terraform

end WebAcl
