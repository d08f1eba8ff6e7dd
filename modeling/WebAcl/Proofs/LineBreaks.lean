import WebAcl.Proofs.Containment
import WebAcl.Proofs.Reports

namespace WebAcl

open Hcl Outcome Text

namespace Hcl

def HasBreak (cs : List Char) : Prop :=
  '\n' ∈ cs ∨ '\r' ∈ cs

@[simp] theorem not_hasBreak_nil : ¬ HasBreak [] := by
  simp [HasBreak]

@[simp] theorem hasBreak_cons {c : Char} {cs : List Char} :
    HasBreak (c :: cs) ↔ c ∈ ['\n', '\r'] ∨ HasBreak cs := by
  simp only [HasBreak, List.mem_cons, List.not_mem_nil]
  tauto

@[simp] theorem hasBreak_append {cs ds : List Char} :
    HasBreak (cs ++ ds) ↔ HasBreak cs ∨ HasBreak ds := by
  simp only [HasBreak, List.mem_append]
  tauto

theorem Plain.not_hasBreak {cs : List Char} (h : Plain cs) : ¬ HasBreak cs :=
  fun hbreak ↦ hbreak.elim (fun hc ↦ h _ hc (by decide)) fun hc ↦ h _ hc (by decide)

theorem mem_escape {c : Char} (hc : c ∈ ['\n', '\r']) (cs : List Char) :
    c ∈ escape cs ↔ c ∈ cs := by
  have hslash : c ≠ '\\' := by
    rintro rfl
    simp at hc
  induction cs with
  | nil => rfl
  | cons d ds ih =>
    rw [escape]
    split
    · simp [ih, hslash]
    · split <;> simp [ih]

@[simp] theorem hasBreak_escape (cs : List Char) : HasBreak (escape cs) ↔ HasBreak cs := by
  rw [HasBreak, HasBreak, mem_escape (by simp), mem_escape (by simp)]

def AnyBreak (texts : List String) : Prop :=
  ∃ s ∈ texts, HasBreak s.toList

@[simp] theorem anyBreak_nil : ¬ AnyBreak [] := by
  simp [AnyBreak]

@[simp] theorem anyBreak_cons {s : String} {texts : List String} :
    AnyBreak (s :: texts) ↔ HasBreak s.toList ∨ AnyBreak texts := by
  simp [AnyBreak]

@[simp] theorem anyBreak_append {texts texts' : List String} :
    AnyBreak (texts ++ texts') ↔ AnyBreak texts ∨ AnyBreak texts' := by
  simp [AnyBreak, or_and_right, exists_or]

theorem anyBreak_flatMap {α : Type} {xs : List α} {f : α → List String} :
    AnyBreak (xs.flatMap f) ↔ ∃ x ∈ xs, AnyBreak (f x) := by
  simp only [AnyBreak, List.mem_flatMap]
  grind

def Expr.Breaks (e : Expr) : Prop :=
  ∃ s, .text s ∈ e.sources ∧ HasBreak s.toList

namespace Expr

@[simp] theorem breaks_text {s : String} : (text s).Breaks ↔ HasBreak s.toList := by
  simp [Breaks, sources]

@[simp] theorem not_breaks_word {s : String} : ¬ (word s).Breaks := by
  simp [Breaks, sources]

@[simp] theorem not_breaks_bare {s : String} : ¬ (bare s).Breaks := by
  simp [Breaks, sources]

@[simp] theorem breaks_column {items : List String} : (column items).Breaks ↔ AnyBreak items := by
  simp [Breaks, sources, AnyBreak]

theorem sourcesOf_eq_flatMap (es : List Expr) : sourcesOf es = es.flatMap sources := by
  induction es with
  | nil => rfl
  | cons e es ih => rw [sourcesOf, ih, List.flatMap_cons]

@[simp] theorem breaks_inline {es : List Expr} : (inline es).Breaks ↔ ∃ e ∈ es, e.Breaks := by
  simp only [Breaks, sources, sourcesOf_eq_flatMap, List.mem_flatMap]
  grind

end Expr

namespace Item

def Breaks (item : Item) : Prop :=
  ∃ s, .text s ∈ item.sources ∧ HasBreak s.toList

def AnyBreaks (items : List Item) : Prop :=
  ∃ item ∈ items, item.Breaks

theorem sourcesOf_eq_flatMap (items : List Item) : sourcesOf items = items.flatMap sources := by
  induction items with
  | nil => rfl
  | cons item items ih => rw [sourcesOf, ih, List.flatMap_cons]

theorem anyBreaks_iff {items : List Item} :
    AnyBreaks items ↔ ∃ s, .text s ∈ sourcesOf items ∧ HasBreak s.toList := by
  simp only [AnyBreaks, Breaks, sourcesOf_eq_flatMap, List.mem_flatMap]
  grind

@[simp] theorem not_breaks_blank : ¬ blank.Breaks := by
  simp [Breaks, sources]

@[simp] theorem not_breaks_flag {name : String} : ¬ (flag name).Breaks := by
  simp [Breaks, sources]

@[simp] theorem breaks_attributes {fields : List (String × Expr)} :
    (attributes fields).Breaks ↔ ∃ f ∈ fields, f.2.Breaks := by
  simp only [Breaks, sources, Expr.Breaks, List.mem_flatMap]
  grind

@[simp] theorem breaks_single {name : String} {value : Expr} :
    (single name value).Breaks ↔ value.Breaks := by
  simp [single]

@[simp] theorem breaks_block {header : String} {body : List Item} :
    (block header body).Breaks ↔ AnyBreaks body := by
  simp [Breaks, sources, anyBreaks_iff]

@[simp] theorem anyBreaks_nil : ¬ AnyBreaks [] := by
  simp [AnyBreaks]

@[simp] theorem anyBreaks_cons {item : Item} {items : List Item} :
    AnyBreaks (item :: items) ↔ item.Breaks ∨ AnyBreaks items := by
  simp [AnyBreaks]

@[simp] theorem anyBreaks_append {items items' : List Item} :
    AnyBreaks (items ++ items') ↔ AnyBreaks items ∨ AnyBreaks items' := by
  simp [AnyBreaks, or_and_right, exists_or]

theorem anyBreaks_map {α : Type} {xs : List α} {f : α → Item} :
    AnyBreaks (xs.map f) ↔ ∃ x ∈ xs, (f x).Breaks := by
  simp [AnyBreaks]

theorem anyBreaks_flatMap {α : Type} {xs : List α} {f : α → List Item} :
    AnyBreaks (xs.flatMap f) ↔ ∃ x ∈ xs, AnyBreaks (f x) := by
  simp only [AnyBreaks, List.mem_flatMap]
  grind

@[simp] theorem anyBreaks_orBlank {items : List Item} :
    AnyBreaks (orBlank items) ↔ AnyBreaks items := by
  cases items <;> simp [orBlank]

end Item

/-- In a document, only texts bring breaks into literals. -/
theorem exists_break_file_iff {blocks : List Item}
    (h : ∀ part ∈ Item.partsOf blocks, part.Tidy) :
    (∃ content ∈ literals (file blocks).toList, HasBreak content) ↔ Item.AnyBreaks blocks := by
  rw [(reads_file h).literals_eq, Item.anyBreaks_iff]
  constructor
  · rintro ⟨content, hcontent, hbreak⟩
    obtain ⟨source, hsource, rfl⟩ := List.mem_map.mp hcontent
    cases source with
    | text s => exact ⟨s, hsource, (hasBreak_escape _).mp hbreak⟩
    | fixed content =>
      have hplain : Plain content := Item.tidy_sourcesOf h _ hsource
      exact absurd hbreak hplain.not_hasBreak
  · rintro ⟨s, hs, hbreak⟩
    exact ⟨_, List.mem_map_of_mem hs, (hasBreak_escape _).mpr hbreak⟩

mutual

def exprTexts : Value → List String
  | .bool _ | .int _ | .float _ => []
  | .list xs => exprsTexts xs
  | v => [v.toText]

def exprsTexts : List Value → List String
  | [] => []
  | x :: xs => exprTexts x ++ exprsTexts xs

end

mutual

def itemsTexts : List (Value × Value) → List String
  | [] => []
  | (_, v) :: es => entryTexts v ++ itemsTexts es

def entryTexts : Value → List String
  | .map es => itemsTexts es
  | .list xs => if !xs.isEmpty && xs.all isMap then blocksTexts xs else exprsTexts xs
  | v => exprTexts v

def blocksTexts : List Value → List String
  | [] => []
  | .map es :: xs => itemsTexts es ++ blocksTexts xs
  | _ :: xs => blocksTexts xs

end

mutual

theorem breaks_exprOf [Machine] : ∀ {used : Nat} {v : Value} {e : Expr},
    exprOf used v = .ok e → (e.Breaks ↔ AnyBreak (exprTexts v)) := by
  intro used v e h
  cases v with
  | list xs =>
    obtain ⟨es, hes, rfl⟩ := exprOf_list_eq_ok h
    rw [Expr.breaks_inline, exprTexts]
    exact breaks_exprsOf hes
  | _ =>
    obtain rfl := exprOf_eq_ok (by simp) h
    simp [exprTexts, bareText?]

theorem breaks_exprsOf [Machine] : ∀ {used : Nat} {xs : List Value} {es : List Expr},
    exprsOf used xs = .ok es → ((∃ e ∈ es, e.Breaks) ↔ AnyBreak (exprsTexts xs))
  | _, [], es, h => by
    obtain rfl := Except.ok.inj h
    simp [exprsTexts]
  | _, x :: xs, es, h => by
    obtain ⟨e, he, es, hes, rfl⟩ := exprsOf_cons_eq_ok h
    simp [exprsTexts, breaks_exprOf he, breaks_exprsOf hes]

end

mutual

theorem anyBreaks_itemsOf [Machine] : ∀ {used : Nat} {es : List (Value × Value)}
    {items : List Item}, itemsOf used es = .ok items →
      (Item.AnyBreaks items ↔ AnyBreak (itemsTexts es))
  | _, [], items, h => by
    obtain rfl := itemsOf_nil_eq_ok_iff.mp h
    simp [itemsTexts]
  | _, (k, v) :: es, items, h => by
    obtain ⟨key, -, first, hfirst, rest, hrest, rfl⟩ := itemsOf_cons_eq_ok h
    simp [itemsTexts, anyBreaks_entryItems hfirst, anyBreaks_itemsOf hrest]

theorem anyBreaks_entryItems [Machine] {name : String} : ∀ {used : Nat} {v : Value}
    {items : List Item}, entryItems used name v = .ok items →
      (Item.AnyBreaks items ↔ AnyBreak (entryTexts v)) := by
  intro used v items h
  cases v with
  | map es =>
    obtain ⟨body, hbody, rfl⟩ := entryItems_map_eq_ok h
    have hbreaks := anyBreaks_itemsOf hbody
    rw [entryTexts]
    split
    next hempty =>
      obtain rfl : body = [] := by simpa using hempty
      simpa using hbreaks
    next => simpa using hbreaks
  | list xs =>
    replace h := entryItems_list_eq_ok h
    rw [entryTexts]
    -- texts are collected by the test that tells a list of blocks from a list of values
    split at h
    next hmaps =>
      rw [if_pos hmaps]
      exact anyBreaks_blocksOf h
    next hmaps =>
      obtain ⟨es, hes, rfl⟩ := h
      rw [if_neg hmaps]
      simpa using breaks_exprsOf hes
  | _ =>
    obtain ⟨e, he, rfl⟩ := entryItems_scalar_eq_ok (by simp) (by simp) h
    simpa [entryTexts] using breaks_exprOf he

theorem anyBreaks_blocksOf [Machine] {name : String} : ∀ {used : Nat} {xs : List Value}
    {items : List Item}, blocksOf used name xs = .ok items →
      (Item.AnyBreaks items ↔ AnyBreak (blocksTexts xs))
  | _, [], items, h => by
    obtain rfl := blocksOf_nil_eq_ok_iff.mp h
    simp [blocksTexts]
  | _, x :: xs, items, h => by
    cases x with
    | map es =>
      obtain ⟨body, hbody, rest, hrest, rfl⟩ := blocksOf_map_eq_ok h
      simp [blocksTexts, anyBreaks_itemsOf hbody, anyBreaks_blocksOf hrest]
    | _ =>
      simp only [blocksOf] at h
      simpa [blocksTexts] using anyBreaks_blocksOf h

end

end Hcl

def Statement.texts : Statement → List String
  | ipSet _ forwarded | rateBased _ _ forwarded => (forwarded.map (·.headerName)).toList
  | regexSet _ field headerName =>
    match field with
    | .uriPath => []
    | .singleHeader => [lower (headerName.getD "")]
  | managedGroup name vendor excluded => name :: vendor :: excluded
  | custom body =>
    match body.thaw with
    | .map es => itemsTexts es
    | _ => []

def Rule.texts (r : Rule) : List String :=
  r.name :: r.statement.texts ++ [r.visibility.metricName]

def BackingSet.texts : BackingSet → List String
  | ip s => s.description :: s.addresses
  | regex s => s.description :: s.patterns

def Policy.texts (p : Policy) : List String :=
  p.name :: p.visibility.metricName :: p.associations ++
    (Terraform.orderedSets p).flatMap BackingSet.texts ++ p.rules.flatMap Rule.texts

namespace Terraform

variable {p : Policy}

@[simp] theorem not_breaks_truth (b : Bool) : ¬ (truth b).Breaks := by
  simp [truth]

@[simp] theorem breaks_visibilityBlock {v : Visibility} :
    (visibilityBlock v).Breaks ↔ HasBreak v.metricName.toList := by
  simp [visibilityBlock]

theorem anyBreaks_statementItems [Machine] {st : Statement} {items : List Item}
    (h : statementItems st = .ok items) : Item.AnyBreaks items ↔ AnyBreak st.texts := by
  cases st with
  | ipSet set forwarded =>
    obtain rfl := Except.ok.inj h
    cases forwarded <;> simp [ipSetItems, forwardedFields, Statement.texts]
  | regexSet set field headerName =>
    obtain rfl := Except.ok.inj h
    cases field <;> simp [regexSetItems, fieldItem, Statement.texts]
  | managedGroup name vendor excluded =>
    obtain rfl := Except.ok.inj h
    simp [managedGroupItems, exclusionItems, Statement.texts, Item.anyBreaks_flatMap, AnyBreak,
      or_assoc]
  | rateBased limit aggregation forwarded =>
    obtain rfl := Except.ok.inj h
    cases forwarded <;> simp [rateBasedItems, forwardedFields, Statement.texts]
  | custom body =>
    simp only [statementItems] at h
    split at h
    · split at h
      next heq => simpa [Statement.texts, heq] using anyBreaks_itemsOf (bodyOf_eq_ok h)
      · simp at h
    · simp at h

theorem not_breaks_outcomeBlock {r : Rule} {item : Item} (h : outcomeBlock r = .ok item) :
    ¬ item.Breaks := by
  unfold outcomeBlock at h
  split at h
  · obtain rfl := Except.ok.inj h
    simp
  · obtain rfl := Except.ok.inj h
    simp
  · simp at h

theorem anyBreaks_ruleItems [Machine] {r : Rule} {items : List Item} (h : ruleItems r = .ok items) :
    Item.AnyBreaks items ↔ AnyBreak r.texts := by
  obtain ⟨outcome, statement, houtcome, hstatement, -, rfl⟩ := ruleItems_eq_ok_iff.mp h
  simp [ruleBlock, Rule.texts, not_breaks_outcomeBlock houtcome,
    anyBreaks_statementItems hstatement]

theorem anyBreaks_rules [Machine] : ∀ {rs : List Rule} {rules : List (List Item)},
    rs.mapM ruleItems = .ok rules →
      (Item.AnyBreaks rules.flatten ↔ AnyBreak (rs.flatMap Rule.texts))
  | [], rules, h => by
    obtain rfl : [] = rules := by simpa using h
    simp
  | r :: rs, rules, h => by
    simp only [List.mapM_cons, bind_eq_ok_iff, pure_eq_ok, Except.ok.injEq] at h
    obtain ⟨items, hitems, rest, hrest, rfl⟩ := h
    simp [anyBreaks_ruleItems hitems, anyBreaks_rules hrest]

theorem breaks_setResource {b : BackingSet} (hb : ¬ HasBreak (dashed b.logicalId).toList) :
    (setResource p b).Breaks ↔ HasBreak p.name.toList ∨ AnyBreak b.texts := by
  cases b with
  | ip s =>
    have hb : ¬ HasBreak (dashed s.logicalId).toList := hb
    simp [setResource, resource, setName, BackingSet.texts, hb]
  | regex s =>
    have hb : ¬ HasBreak (dashed s.logicalId).toList := hb
    simp [setResource, resource, setName, BackingSet.texts, hb, Item.anyBreaks_flatMap, AnyBreak,
      or_assoc]

theorem breaks_aclBlock {rules : List (List Item)} : (aclBlock p rules).Breaks ↔
    HasBreak p.name.toList ∨ Item.AnyBreaks rules.flatten ∨
      HasBreak p.visibility.metricName.toList := by
  simp [aclBlock, resource]

theorem anyBreaks_associationResources :
    Item.AnyBreaks (associationResources p) ↔ AnyBreak p.associations := by
  constructor
  · rintro ⟨item, hitem, hbreak⟩
    obtain ⟨i, hi, rfl⟩ := List.mem_mapIdx.mp hitem
    exact ⟨_, List.getElem_mem hi, by simpa [resource, aclReference] using hbreak⟩
  · rintro ⟨arn, harn, hbreak⟩
    obtain ⟨i, hi, rfl⟩ := List.getElem_of_mem harn
    exact ⟨_, List.mem_mapIdx.mpr ⟨i, hi, rfl⟩, by simpa [resource, aclReference] using hbreak⟩

theorem anyBreaks_loggingResources :
    Item.AnyBreaks (loggingResources p) ↔ p.logSink.enabled = true ∧ HasBreak p.name.toList := by
  unfold loggingResources
  split
  next h =>
    cases p.logSink.removalPolicy <;>
      simp [resource, lifecycleItems, aclReference, LogSink.groupName, h]
  next h => simp [h]

structure SetIdsUnbroken (p : Policy) : Prop where
  logicalId : ∀ b ∈ orderedSets p, ¬ HasBreak b.logicalId.toList
  dashed : ∀ b ∈ orderedSets p, ¬ HasBreak (dashed b.logicalId).toList

theorem setIdsUnbroken (h : p.ReferencesByCategory) : SetIdsUnbroken p := by
  have hall : ∀ k : Category, ∀ id ∈ k.setId?,
      Plain id.toList ∧ Plain (Text.dashed id).toList := by
    intro k
    cases k <;> decide +kernel
  have hplain : ∀ b ∈ orderedSets p,
      Plain b.logicalId.toList ∧ Plain (Text.dashed b.logicalId).toList := by
    intro b hb
    obtain ⟨k, hk⟩ := h.setId_of_mem hb
    exact hall k _ hk
  exact ⟨fun b hb ↦ (hplain b hb).1.not_hasBreak, fun b hb ↦ (hplain b hb).2.not_hasBreak⟩

/-- The texts of a policy and those of its blocks hold the same breaks. -/
theorem anyBreaks_mainBlocks [Machine] (hsets : SetIdsUnbroken p) {main : List Item}
    (h : mainBlocks p = .ok main) : Item.AnyBreaks main ↔ AnyBreak p.texts := by
  obtain ⟨rules, hrules, rfl⟩ := mainBlocks_eq_ok_iff.mp h
  have hprovider : ¬ Item.AnyBreaks providerBlocks := by
    simp [providerBlocks]
  have hresources : Item.AnyBreaks ((orderedSets p).map (setResource p)) ↔
      ∃ b ∈ orderedSets p, HasBreak p.name.toList ∨ AnyBreak b.texts := by
    rw [Item.anyBreaks_map]
    exact exists_congr fun b ↦ and_congr_right fun hb ↦ breaks_setResource (hsets.dashed b hb)
  -- the name of the policy is in the names of its sets, and in that of the log group
  simp only [allBlocks, Policy.texts, Item.anyBreaks_append, Item.anyBreaks_cons,
    Item.anyBreaks_nil, hprovider, hresources, breaks_aclBlock, anyBreaks_rules hrules,
    anyBreaks_associationResources, anyBreaks_loggingResources, anyBreak_cons, anyBreak_append,
    anyBreak_flatMap]
  grind

theorem breaks_setOutput {b : BackingSet} (hb : ¬ HasBreak b.logicalId.toList) :
    (setOutput b).Breaks ↔ HasBreak b.description.toList := by
  unfold setOutput
  split
  next hempty => simp [output, hb, hempty]
  next => simp [output]

theorem anyBreaks_outputBlocks (hsets : SetIdsUnbroken p) :
    Item.AnyBreaks (outputBlocks p) ↔ ∃ b ∈ orderedSets p, HasBreak b.description.toList := by
  have hfixed : ¬ Item.AnyBreaks [
      output "web_acl_arn" "ARN of the WAF Web ACL" (aclReference p "arn"),
      output "web_acl_id" "ID of the WAF Web ACL" (aclReference p "id")] := by
    simp [output, aclReference]
  rw [outputBlocks, Item.anyBreaks_append, Item.anyBreaks_map, or_iff_right hfixed]
  exact exists_congr fun b ↦ and_congr_right fun hb ↦ breaks_setOutput (hsets.logicalId b hb)

theorem exists_break_iff [Machine] (h : p.IsRegular)
    (hkeys : ∀ key ∈ p.statementKeys, '"' ∉ key.toList) (hsets : SetIdsUnbroken p)
    {main outputs : String}
    (hfiles : files p = .ok [("main.tf", main), ("variables.tf", file variableBlocks),
      ("outputs.tf", outputs)]) :
    ((∃ content ∈ literals main.toList, HasBreak content) ↔ AnyBreak p.texts) ∧
    ((∃ content ∈ literals outputs.toList, HasBreak content) ↔
      ∃ b ∈ orderedSets p, HasBreak b.description.toList) := by
  rw [files_eq] at hfiles
  cases hmain : mainBlocks p with
  | error crash => simp [hmain] at hfiles
  | ok blocks =>
    obtain ⟨rfl, rfl⟩ : file blocks = main ∧ file (outputBlocks p) = outputs := by
      simpa [hmain] using hfiles
    rw [exists_break_file_iff (tidy_mainBlocks h hkeys hmain),
      exists_break_file_iff (tidy_outputBlocks h)]
    exact ⟨anyBreaks_mainBlocks hsets hmain, anyBreaks_outputBlocks hsets⟩

end Terraform

namespace Config

/-- A line break in a text of a policy is written as it is: a literal of its main file does not stay
on one line if and only if a text of the policy does not; in the outputs only descriptions count. -/
theorem exists_break_iff_of_compile [Machine] {registry : Registry} {c : Config} {p : Policy}
    (h : c.compile registry = .ok p) (hkeys : ∀ key ∈ p.statementKeys, '"' ∉ key.toList)
    {main outputs : String} (hfiles : Terraform.files p = .ok [("main.tf", main),
      ("variables.tf", file Terraform.variableBlocks), ("outputs.tf", outputs)]) :
    ((∃ content ∈ literals main.toList, HasBreak content) ↔ AnyBreak p.texts) ∧
    ((∃ content ∈ literals outputs.toList, HasBreak content) ↔
      ∃ b ∈ Terraform.orderedSets p, HasBreak b.description.toList) := by
  have hregular := isRegular_of_compile h
  have hsets := Terraform.setIdsUnbroken hregular.references
  exact Terraform.exists_break_iff hregular hkeys hsets hfiles

def letting (pattern : String) : Config where
  name := "acme"
  allowedPaths := some [pattern]

def lettingRule (pattern : String) : Rule where
  name := "allow_path_rule"
  priority := 10
  statement := .regexSet ⟨"AllowedPathSet", [pattern], "acme - Allowed URI paths"⟩ .uriPath none
  category := .allowPath
  visibility := { metricName := "AllowPathRule" }
  action := some .allow

theorem compile_letting [Machine] {pattern : String}
    (h : PatternList.checkPattern "allowed_paths" pattern = .ok pattern) :
    (letting pattern).compile .builtIn =
      .ok ((letting pattern).toPolicy (lettingRule pattern :: mandatoryRules)) := by
  have hchecked : PatternList.checkPatterns "allowed_paths" [pattern] = .ok [pattern] := by
    simp [PatternList.checkPatterns, h]
  let out : Category → List Rule
    | .allowPath => [lettingRule pattern]
    | .managed => mandatoryRules
    | _ => []
  refine compile_of_ascending out (show strip "acme" ≠ "" by decide) (fun k ↦ ?_) rfl
    ?_ ?_ ?_
  · cases k with
    | allowPath =>
      have hname : strip (letting pattern).name = "acme" := show strip "acme" = "acme" by decide
      rw [hname]
      exact (PatternList.alone_build_eq_ok_iff rfl).mpr (.inr ⟨_, rfl, _, hchecked, rfl⟩)
    | managed => exact alone_mandatory rfl rfl rfl
    | _ => rfl
  · show ("allow_path_rule" :: mandatoryRules.map (·.name)).Nodup
    decide
  · show (10 :: mandatoryRules.map (·.priority)).Pairwise (· < ·)
    decide
  · exact List.forall_mem_cons.mpr ⟨rfl, breach?_mandatoryRules⟩

theorem exists_ruleItems_letting [Machine] (pattern : String) :
    ∀ r ∈ lettingRule pattern :: mandatoryRules, ∃ items, Terraform.ruleItems r = .ok items := by
  have hsmall : ∀ q ∈ mandatoryRules.map (·.priority), -1000 ≤ q ∧ q ≤ 1000 := by decide
  refine List.forall_mem_cons.mpr ⟨⟨_, Terraform.ruleItems_eq_ok_iff.mpr ⟨_, _, rfl, rfl,
    Number.isWritable_of_small (i := 10) (by decide) (by decide), rfl⟩⟩, fun r hr ↦ ?_⟩
  have hpriority := hsmall _ (List.mem_map_of_mem hr)
  obtain ⟨g, -, excluded, -, rfl⟩ := ManagedGroups.mem_placed.mp hr
  exact ⟨_, Terraform.ruleItems_eq_ok_iff.mpr ⟨_, _, rfl, rfl,
    Number.isWritable_of_small hpriority.1 hpriority.2, rfl⟩⟩

theorem exists_files_letting [Machine] (pattern : String) : ∃ main outputs,
    Terraform.files ((letting pattern).toPolicy (lettingRule pattern :: mandatoryRules)) =
      .ok [("main.tf", main), ("variables.tf", file Terraform.variableBlocks),
        ("outputs.tf", outputs)] :=
  Terraform.exists_files_iff.mpr (exists_ruleItems_letting pattern)

section

open UsualMachine

theorem exists_break_iff_letting : ∃ p main outputs,
    (letting "^/a").compile .builtIn = .ok p ∧ Terraform.files p = .ok [("main.tf", main),
      ("variables.tf", file Terraform.variableBlocks), ("outputs.tf", outputs)] ∧
    ((∃ content ∈ literals main.toList, HasBreak content) ↔ AnyBreak p.texts) := by
  have hp := compile_letting (show PatternList.checkPattern _ "^/a" = .ok "^/a" by decide)
  obtain ⟨main, outputs, hfiles⟩ := exists_files_letting "^/a"
  exact ⟨_, main, outputs, hp, hfiles, (exists_break_iff_of_compile hp (by decide) hfiles).1⟩

/-- A pattern that ends in a line break is accepted, and leaves a literal that does not stay on its
line. -/
theorem literal_broken : (letting "^/a\n").Validated ∧ ∃ p main outputs,
    (letting "^/a\n").compile .builtIn = .ok p ∧ Terraform.files p = .ok [("main.tf", main),
      ("variables.tf", file Terraform.variableBlocks), ("outputs.tf", outputs)] ∧
    ¬ ∀ content ∈ literals main.toList, ¬ HasBreak content := by
  have hp := compile_letting (show PatternList.checkPattern _ "^/a\n" = .ok "^/a\n" by decide)
  obtain ⟨main, outputs, hfiles⟩ := exists_files_letting "^/a\n"
  have hregular := isRegular_of_compile hp
  have hsets := Terraform.setIdsUnbroken hregular.references
  obtain ⟨content, hcontent, hbreak⟩ :=
    (Terraform.exists_break_iff hregular (by decide) hsets hfiles).1.mpr
      ⟨"^/a\n", by decide, .inl (by decide)⟩
  exact ⟨⟨by decide, by decide, by decide⟩, _, main, outputs, hp, hfiles,
    fun h ↦ h content hcontent hbreak⟩

end

end Config

end WebAcl
