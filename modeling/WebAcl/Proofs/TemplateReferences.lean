import WebAcl.Proofs.BackingSets
import WebAcl.Proofs.NumberText
import WebAcl.Render.Template
import WebAcl.Value.Access

namespace WebAcl

open Outcome

namespace Value

theorem lookup?_record (fields : List (String × Value)) (key : String) :
    lookup? (.str key) (fields.map fun f ↦ (str f.1, f.2)) = fields.lookup key := by
  unfold lookup?
  induction fields with
  | nil => rfl
  | cons f fields ih =>
    rw [List.map_cons, List.find?_cons, List.lookup_cons, same_str]
    by_cases h : f.1 = key
    · simp [h]
    · rw [beq_eq_false_iff_ne.mpr h, beq_eq_false_iff_ne.mpr (Ne.symm h)]
      exact ih

theorem part_record (fields : List (String × Value)) (key : String) :
    (record fields).part (.str key) = match fields.lookup key with
      | some v => .ok v
      | none => .error (.noSuchKey key) := by
  simp only [record, part, changeablePart?, lookup?_record]
  rfl

theorem lookup_of_mem {fields : List (String × Value)} (hkeys : (fields.map (·.1)).Nodup)
    {key : String} {v : Value} (h : (key, v) ∈ fields) : fields.lookup key = some v := by
  induction fields with
  | nil => simp at h
  | cons f fields ih =>
    obtain ⟨hf, hkeys⟩ := List.nodup_cons.mp hkeys
    rw [List.lookup_cons]
    obtain rfl | h := List.mem_cons.mp h
    · simp
    · have hne : key ≠ f.1 := by
        rintro rfl
        exact hf (List.mem_map.mpr ⟨_, h, rfl⟩)
      rw [beq_eq_false_iff_ne.mpr hne]
      exact ih hkeys h

theorem insert_eq_append {fields : List (String × Value)} {key : String} (v : Value)
    (h : key ∉ fields.map (·.1)) : insert (str key) v (fields.map fun g ↦ (str g.1, g.2)) =
      (fields ++ [(key, v)]).map fun g ↦ (str g.1, g.2) := by
  induction fields with
  | nil => simp [insert]
  | cons g fields ih =>
    simp only [List.map_cons, List.mem_cons, not_or] at h
    simp [insert, same_str, Ne.symm h.1, ih h.2]

theorem foldl_insert {fields before : List (String × Value)}
    (h : ((before ++ fields).map (·.1)).Nodup) :
    fields.foldl (fun es f ↦ insert (str f.1) f.2 es) (before.map fun g ↦ (str g.1, g.2)) =
      (before ++ fields).map fun g ↦ (str g.1, g.2) := by
  induction fields generalizing before with
  | nil => simp
  | cons f fields ih =>
    have hf : f.1 ∉ before.map (·.1) := by
      rw [List.map_append, List.nodup_append] at h
      exact fun hmem ↦ h.2.2 _ hmem f.1 (by simp) rfl
    rw [List.foldl_cons, insert_eq_append f.2 hf, ih (by simpa using h)]
    simp

theorem ofFields_eq_record {fields : List (String × Value)} (h : (fields.map (·.1)).Nodup) :
    ofFields fields = record fields := by
  have hfold := @foldl_insert fields [] (by simpa using h)
  exact congrArg map hfold

@[simp] theorem partAt_nil (v : Value) : v.partAt [] = .ok v := rfl

@[simp] theorem partAt_cons (v key : Value) (path : List Value) :
    v.partAt (key :: path) = v.part key >>= (·.partAt path) := rfl

theorem part_list {items : List Value} {i : Nat} {v : Value} (h : items[i]? = some v) :
    (list items).part (.int i) = .ok v := by
  simp [part, position?, itemAt?, h]

end Value

namespace Template

def listed : Value → List String
  | .str s => [s]
  | .list xs => xs.filterMap fun
    | .str s => some s
    | _ => none
  | _ => []

/-- The keys of resources that a field names on its own account. -/
def named : Value → Value → List String
  | .str "Fn::GetAtt", v => (listed v).take 1
  | .str "DependsOn", v => listed v
  | _, _ => []

@[simp] theorem named_attribute (v : Value) :
    named (.str "Fn::GetAtt") v = (listed v).take 1 := rfl

@[simp] theorem named_dependsOn (v : Value) : named (.str "DependsOn") v = listed v := rfl

@[simp] theorem named_of_ne {key : String} (v : Value) (hattribute : key ≠ "Fn::GetAtt")
    (hdepends : key ≠ "DependsOn") : named (.str key) v = [] := by
  unfold named
  split <;> simp_all

mutual

def targets : Value → List String
  | .list xs => targetsOfItems xs
  | .map es => targetsOfEntries es
  | _ => []

def targetsOfItems : List Value → List String
  | [] => []
  | x :: xs => targets x ++ targetsOfItems xs

def targetsOfEntries : List (Value × Value) → List String
  | [] => []
  | (k, v) :: es => named k v ++ targets v ++ targetsOfEntries es

end

end Template

def Rule.withoutBody (r : Rule) : Rule :=
  match r.statement with
  | .custom _ => { r with statement := .custom .null }
  | _ => r

def Policy.withoutBodies (p : Policy) : Policy :=
  { p with rules := p.rules.map Rule.withoutBody }

namespace Template

@[simp] theorem targets_null : targets .null = [] := rfl

@[simp] theorem targets_bool (b : Bool) : targets (.bool b) = [] := rfl

@[simp] theorem targets_int (i : Int) : targets (.int i) = [] := rfl

@[simp] theorem targets_str (s : String) : targets (.str s) = [] := rfl

@[simp] theorem targets_list (xs : List Value) : targets (.list xs) = xs.flatMap targets := by
  change targetsOfItems xs = _
  induction xs with
  | nil => rfl
  | cons x xs ih => rw [targetsOfItems, ih, List.flatMap_cons]

@[simp] theorem targets_record (fields : List (String × Value)) :
    targets (.record fields) = fields.flatMap fun f ↦ named (.str f.1) f.2 ++ targets f.2 := by
  change targetsOfEntries (fields.map _) = _
  induction fields with
  | nil => rfl
  | cons f fields ih => rw [List.map_cons, targetsOfEntries, ih, List.flatMap_cons]

@[simp] theorem targets_strings (ss : List String) : targets (.strings ss) = [] := by
  simp [Value.strings]

@[simp] theorem listed_strings (ss : List String) : listed (.strings ss) = ss := by
  simp [Value.strings, listed, List.filterMap_map]

variable {p : Policy}

def ownKeys (p : Policy) : List String :=
  aclKey :: (List.range p.associations.length).map (fun i ↦ s!"WebAclAssociation{i}") ++
    if p.logSink.enabled then [logGroupKey, loggingKey] else []

theorem keys_resources (p : Policy) : (resources p).map (·.1) =
    (Terraform.orderedSets p).map (·.logicalId) ++ ownKeys p := by
  have hassociations : (p.associations.mapIdx fun i arn ↦
      (s!"WebAclAssociation{i}", associationResource arn)).map (·.1) =
        (List.range p.associations.length).map fun i ↦ s!"WebAclAssociation{i}" :=
    List.ext_getElem (by simp) (by simp)
  have hlogging : (if p.logSink.enabled then
      [(logGroupKey, logGroupResource p), (loggingKey, loggingResource p)] else []).map (·.1) =
        if p.logSink.enabled then [logGroupKey, loggingKey] else [] := by
    split <;> rfl
  simp only [resources, ownKeys, Terraform.orderedSets, List.map_append, hassociations, hlogging,
    List.map_map]
  simp [Function.comp_def, BackingSet.logicalId]

theorem head?_of_mem_ownKeys {key : String} (h : key ∈ ownKeys p) :
    key.toList.head? = some 'W' := by
  simp only [ownKeys, List.cons_append, List.mem_cons, List.mem_append, List.mem_map] at h
  obtain rfl | ⟨i, -, rfl⟩ | h := h
  · rfl
  · simp [toString]
  · split at h
    · simp only [List.mem_cons, List.not_mem_nil, or_false] at h
      obtain rfl | rfl := h <;> rfl
    · simp at h

theorem nodup_ownKeys (p : Policy) : (ownKeys p).Nodup := by
  have hassociations : ((List.range p.associations.length).map fun i ↦
      s!"WebAclAssociation{i}").Nodup :=
    List.nodup_range.map fun i j h ↦ Number.eq_of_repr_eq (by simpa [toString] using h)
  have hne : ∀ key ∈ [aclKey, logGroupKey, loggingKey], ∀ i : Nat,
      s!"WebAclAssociation{i}" ≠ key := by
    intro key hkey i h
    have hlist := congrArg String.toList h
    simp only [List.mem_cons, List.not_mem_nil, or_false] at hkey
    obtain rfl | rfl | rfl := hkey <;> simp [toString, aclKey, logGroupKey, loggingKey] at hlist
  have hfirst : (aclKey :: (List.range p.associations.length).map fun i ↦
      s!"WebAclAssociation{i}").Nodup := by
    refine List.nodup_cons.mpr ⟨fun h ↦ ?_, hassociations⟩
    obtain ⟨i, -, hi⟩ := List.mem_map.mp h
    exact hne aclKey (by simp) i hi
  unfold ownKeys
  split
  · refine List.nodup_append.mpr ⟨hfirst, by decide, ?_⟩
    rintro _ hkey key hlog rfl
    obtain rfl | h := List.mem_cons.mp hkey
    · exact absurd hlog (by decide)
    · obtain ⟨i, -, hi⟩ := List.mem_map.mp h
      exact hne _ (List.mem_cons_of_mem _ hlog) i hi
  · simpa using hfirst

/-- No set of a feature has an id with the first letter of the keys of other resources. -/
theorem head?_setId {k : Category} {id : String} (h : k.setId? = some id) :
    id.toList.head? = some 'A' ∨ id.toList.head? = some 'B' := by
  have hall : ∀ k : Category, ∀ id ∈ k.setId?,
      id.toList.head? = some 'A' ∨ id.toList.head? = some 'B' := by
    intro k
    cases k <;> decide
  exact hall k id h

theorem nodup_keys (h : p.ReferencesByCategory) : ((resources p).map (·.1)).Nodup := by
  rw [keys_resources]
  refine List.nodup_append.mpr ⟨h.nodup_setIds, nodup_ownKeys p, ?_⟩
  rintro _ hid key hkey rfl
  obtain ⟨b, hb, rfl⟩ := List.mem_map.mp hid
  obtain ⟨k, hk⟩ := h.setId_of_mem hb
  have := head?_setId hk
  simp [head?_of_mem_ownKeys hkey] at this

theorem keys_outputs (p : Policy) : (outputs p).map (·.1) =
    ((Terraform.orderedSets p).map (·.logicalId)).map (· ++ "Arn") ++
      ["WebAclArn", "WebAclId"] := by
  simp [outputs, Terraform.orderedSets, Function.comp_def, BackingSet.logicalId]

theorem nodup_outputs (h : p.ReferencesByCategory) : ((outputs p).map (·.1)).Nodup := by
  rw [keys_outputs]
  refine List.nodup_append.mpr
    ⟨h.nodup_setIds.map fun s t ↦ (String.append_left_inj _).mp, by decide, ?_⟩
  rintro _ hid key hkey rfl
  obtain ⟨id, hid, heq⟩ := List.mem_map.mp hid
  obtain ⟨b, hb, rfl⟩ := List.mem_map.mp hid
  obtain ⟨k, hk⟩ := h.setId_of_mem hb
  have hall : ∀ key ∈ ["WebAclArn", "WebAclId"], key.toList.head? = some 'W' := by decide
  have hfirst := hall _ hkey
  rw [← heq] at hfirst
  obtain h | h := head?_setId hk <;> simp [h] at hfirst

theorem ofPolicy_eq (h : p.ReferencesByCategory) : ofPolicy p = .record [
    ("AWSTemplateFormatVersion", .str "2010-09-09"),
    ("Description", .str s!"Web ACL {p.name}"),
    ("Resources", .record (resources p)),
    ("Outputs", .record (outputs p))] := by
  rw [ofPolicy, Value.ofFields_eq_record (nodup_keys h), Value.ofFields_eq_record (nodup_outputs h)]

theorem part_resource (h : p.ReferencesByCategory) {key : String} {v : Value}
    (hmem : (key, v) ∈ resources p) (path : List Value) :
    (ofPolicy p).partAt (.str "Resources" :: .str key :: path) = v.partAt path := by
  rw [ofPolicy_eq h]
  simp [Value.part_record, List.lookup_cons, Value.lookup_of_mem (nodup_keys h) hmem]

end Template

namespace Rule

@[simp] theorem references_withoutBody (r : Rule) : r.withoutBody.references = r.references := by
  unfold withoutBody references
  cases h : r.statement <;> simp [h, Statement.references]

@[simp] theorem category_withoutBody (r : Rule) : r.withoutBody.category = r.category := by
  unfold withoutBody
  cases r.statement <;> rfl

end Rule

namespace Policy

variable {p : Policy}

theorem ReferencesByCategory.withoutBodies (h : p.ReferencesByCategory) :
    p.withoutBodies.ReferencesByCategory := by
  obtain ⟨setOf, hid, hrefs⟩ := h
  refine ⟨setOf, hid, List.forall_mem_map.mpr fun r hr ↦ ?_⟩
  rw [Rule.references_withoutBody, Rule.category_withoutBody, hrefs r hr]

theorem orderedSets_withoutBodies (p : Policy) :
    Terraform.orderedSets p.withoutBodies = Terraform.orderedSets p := by
  have hrefs : p.withoutBodies.rules.flatMap Rule.references = p.rules.flatMap Rule.references := by
    simp [Policy.withoutBodies, List.flatMap_map]
  simp only [Terraform.orderedSets, ipSets, regexSets, backingSets, hrefs]

end Policy

namespace Template

variable {p : Policy}

theorem named_of_head? {key : String} (v : Value)
    (h : key.toList.head? ∈ [some 'A', some 'B', some 'W']) : named (.str key) v = [] := by
  refine named_of_ne v ?_ ?_ <;> rintro rfl <;> simp at h

@[simp] theorem targets_attributeOf (key name : String) :
    targets (attributeOf key name) = [key] := by
  simp [attributeOf]

@[simp] theorem targets_forwarded (f : ForwardedIp) : targets f.toValue = [] := by
  cases h : f.position <;> simp [ForwardedIp.toValue, h]

@[simp] theorem targets_visibility (v : Visibility) : targets v.toValue = [] := by
  simp [Visibility.toValue]

theorem targets_statement {s : Statement} (h : ∀ body, s ≠ .custom body) :
    targets (s.toValue resolver) = s.references.map (·.logicalId) := by
  cases s with
  | ipSet set forwarded =>
    cases forwarded <;> simp [Statement.toValue, Statement.references, resolver, arnOf]
  | regexSet set field header =>
    cases field <;> cases header <;>
      simp [Statement.toValue, Statement.references, Statement.fieldToMatch, resolver, arnOf]
  | managedGroup name vendor excluded =>
    simp [Statement.toValue, Statement.references]
  | rateBased limit aggregation forwarded =>
    cases forwarded <;> simp [Statement.toValue, Statement.references]
  | custom body => exact absurd rfl (h body)

theorem targets_rule (r : Rule) :
    targets (r.toValue resolver) = targets (r.statement.toValue resolver) := by
  cases ha : r.action with
  | none =>
    cases ho : r.override with
    | none => simp [Rule.toValue, ha, ho]
    | some o => cases o <;> simp [Rule.toValue, ha, ho, OverrideAction.title]
  | some a =>
    cases ho : r.override with
    | none => cases a <;> simp [Rule.toValue, ha, ho, RuleAction.title]
    | some o =>
      cases a <;> cases o <;>
        simp [Rule.toValue, ha, ho, RuleAction.title, OverrideAction.title]

/-- Outside the statements of the user, a rule names the key of its set and no other. -/
theorem targets_withoutBody (r : Rule) :
    targets (r.withoutBody.toValue resolver) = r.references.map (·.logicalId) := by
  rw [targets_rule, ← Rule.references_withoutBody, Rule.references]
  unfold Rule.withoutBody
  cases h : r.statement with
  | custom body => simp [Statement.toValue, Statement.references, Value.thaw]
  | _ => simpa [h] using targets_statement (s := r.statement) (by simp [h])

theorem targets_policy (p : Policy) : targets (p.toValue resolver) =
    p.rules.flatMap fun r ↦ targets (r.toValue resolver) := by
  cases h : p.defaultAction <;>
    simp [Policy.toValue, Policy.rulesToValue, h, DefaultAction.title, List.flatMap_map]

theorem targets_of_mem_resources {key : String} {v : Value} (h : (key, v) ∈ resources p) :
    ∀ t ∈ targets v, t ∈ targets (p.toValue resolver) ∨ t = aclKey ∨
      t = logGroupKey ∧ p.logSink.enabled = true := by
  simp only [resources, List.mem_append, List.mem_map, List.mem_singleton, List.mem_mapIdx,
    Prod.mk.injEq] at h
  obtain (((⟨s, -, -, rfl⟩ | ⟨s, -, -, rfl⟩) | ⟨-, rfl⟩) | ⟨i, hi, -, rfl⟩) | h := h
  · simp [ipSetResource, resource]
  · simp [regexSetResource, resource]
  · simpa [resource] using fun t ht ↦ .inl ht
  · simp [associationResource, resource, arnOf]
  · split at h
    next hlogging =>
      simp only [List.mem_cons, Prod.mk.injEq, List.not_mem_nil, or_false] at h
      obtain ⟨-, rfl⟩ | ⟨-, rfl⟩ := h
      · simp [logGroupResource, resource]
      · simp [loggingResource, resource, arnOf, hlogging]
    next => simp at h

theorem targets_of_mem_outputs {key : String} {v : Value} (h : (key, v) ∈ outputs p) :
    ∀ t ∈ targets v, t ∈ (Terraform.orderedSets p).map (·.logicalId) ∨ t = aclKey := by
  have hids : p.ipSets.map (·.logicalId) ++ p.regexSets.map (·.logicalId) =
      (Terraform.orderedSets p).map (·.logicalId) := by
    simp [Terraform.orderedSets, Function.comp_def, BackingSet.logicalId]
  simp only [outputs, hids, List.mem_append, List.mem_map (f := fun _ ↦ (_, _)), Prod.mk.injEq,
    List.mem_cons, List.not_mem_nil, or_false] at h
  obtain ⟨id, hid, -, rfl⟩ | ⟨-, rfl⟩ | ⟨-, rfl⟩ := h
  · simpa [arnOf] using .inl (List.mem_map.mp hid)
  · simp [arnOf]
  · simp

theorem head?_of_mem_resources (h : p.ReferencesByCategory) {key : String} {v : Value}
    (hmem : (key, v) ∈ resources p) : key.toList.head? ∈ [some 'A', some 'B', some 'W'] := by
  have hkey : key ∈ (resources p).map (·.1) := List.mem_map.mpr ⟨_, hmem, rfl⟩
  rw [keys_resources, List.mem_append] at hkey
  obtain hid | hown := hkey
  · obtain ⟨b, hb, rfl⟩ := List.mem_map.mp hid
    obtain ⟨k, hk⟩ := h.setId_of_mem hb
    obtain h | h := head?_setId hk <;> simp [h]
  · simp [head?_of_mem_ownKeys hown]

theorem head?_of_mem_outputs (h : p.ReferencesByCategory) {key : String} {v : Value}
    (hmem : (key, v) ∈ outputs p) : key.toList.head? ∈ [some 'A', some 'B', some 'W'] := by
  have hkey : key ∈ (outputs p).map (·.1) := List.mem_map.mpr ⟨_, hmem, rfl⟩
  rw [keys_outputs, List.mem_append] at hkey
  obtain hid | hown := hkey
  · obtain ⟨id, hset, rfl⟩ := List.mem_map.mp hid
    obtain ⟨b, hb, rfl⟩ := List.mem_map.mp hset
    obtain ⟨k, hk⟩ := h.setId_of_mem hb
    obtain h | h := head?_setId hk <;> simp [h]
  · have hall : ∀ key ∈ ["WebAclArn", "WebAclId"], key.toList.head? = some 'W' := by decide
    simp [hall key hown]

theorem targets_ofPolicy (h : p.ReferencesByCategory) : targets (ofPolicy p) =
    ((resources p).flatMap fun f ↦ named (.str f.1) f.2 ++ targets f.2) ++
      (outputs p).flatMap fun f ↦ named (.str f.1) f.2 ++ targets f.2 := by
  simp [ofPolicy_eq h]

/-- Whatever a template names, outside the statements of the user, is one of its resources. -/
theorem mem_keys_of_mem_targets (h : p.ReferencesByCategory) :
    ∀ t ∈ targets (ofPolicy p.withoutBodies), t ∈ (resources p).map (·.1) := by
  have hq := h.withoutBodies
  have hset : ∀ id ∈ (Terraform.orderedSets p).map (·.logicalId), id ∈ (resources p).map (·.1) :=
    fun id hid ↦ by simpa only [keys_resources] using List.mem_append_left _ hid
  have hown : ∀ key ∈ ownKeys p, key ∈ (resources p).map (·.1) :=
    fun key hkey ↦ by simpa only [keys_resources] using List.mem_append_right _ hkey
  have hacl : aclKey ∈ (resources p).map (·.1) := hown _ (by simp [ownKeys])
  have hrules : ∀ t ∈ targets (p.withoutBodies.toValue resolver), t ∈ (resources p).map (·.1) := by
    intro t ht
    simp only [targets_policy, Policy.withoutBodies, List.flatMap_map, targets_withoutBody] at ht
    obtain ⟨r, hr, ht⟩ := List.mem_flatMap.mp ht
    obtain ⟨b, hb, rfl⟩ := List.mem_map.mp ht
    exact hset _ (List.mem_map_of_mem (h.mem_orderedSets.mpr (List.mem_flatMap.mpr ⟨r, hr, hb⟩)))
  intro t ht
  rw [targets_ofPolicy hq, List.mem_append, List.mem_flatMap, List.mem_flatMap] at ht
  obtain ⟨⟨key, v⟩, hmem, ht⟩ | ⟨⟨key, v⟩, hmem, ht⟩ := ht
  · rw [named_of_head? v (head?_of_mem_resources hq hmem)] at ht
    obtain ht | rfl | ⟨rfl, hlogging⟩ := targets_of_mem_resources hmem t (by simpa using ht)
    · exact hrules t ht
    · exact hacl
    · exact hown _ (by simp [ownKeys, show p.logSink.enabled = true from hlogging])
  · rw [named_of_head? v (head?_of_mem_outputs hq hmem)] at ht
    obtain ht | rfl := targets_of_mem_outputs hmem t (by simpa using ht)
    · rw [Policy.orderedSets_withoutBodies] at ht
      exact hset t ht
    · exact hacl

def statementPath (i : Nat) : List Value :=
  [.str "Resources", .str aclKey, .str "Properties", .str "Rules", .int i, .str "Statement"]

theorem part_statement (h : p.ReferencesByCategory) {i : Nat} {r : Rule}
    (hr : p.rules[i]? = some r) (path : List Value) :
    (ofPolicy p).partAt (statementPath i ++ path) =
      (r.statement.toValue resolver).partAt path := by
  have hacl : (aclKey, resource "AWS::WAFv2::WebACL" [] (p.toValue resolver)) ∈ resources p := by
    simp [resources]
  have hrule : (p.rulesToValue resolver)[i]? = some (r.toValue resolver) := by
    simp [Policy.rulesToValue, hr]
  simp only [statementPath, List.cons_append, List.nil_append]
  rw [part_resource h hacl]
  simp [resource, Policy.toValue, Rule.toValue, Value.part_record, List.lookup_cons,
    Value.part_list hrule]

theorem part_ipSet (h : p.ReferencesByCategory) {s : IpSet} (hs : .ip s ∈ p.references)
    (path : List Value) : (ofPolicy p).partAt (.str "Resources" :: .str s.logicalId :: path) =
      (ipSetResource p.scope s).partAt path := by
  have hset : s ∈ p.ipSets := by
    simpa [Terraform.orderedSets] using h.mem_orderedSets.mpr hs
  refine part_resource h ?_ path
  simp only [resources, List.mem_append, List.mem_map]
  exact .inl (.inl (.inl (.inl ⟨s, hset, rfl⟩)))

theorem part_regexSet (h : p.ReferencesByCategory) {s : RegexSet} (hs : .regex s ∈ p.references)
    (path : List Value) : (ofPolicy p).partAt (.str "Resources" :: .str s.logicalId :: path) =
      (regexSetResource p.scope s).partAt path := by
  have hset : s ∈ p.regexSets := by
    simpa [Terraform.orderedSets] using h.mem_orderedSets.mpr hs
  refine part_resource h ?_ path
  simp only [resources, List.mem_append, List.mem_map]
  exact .inl (.inl (.inl (.inr ⟨s, hset, rfl⟩)))

/-- All references inside the template of a policy lead to a resource, and those of its rules to
their sets. -/
structure IsClosed (p : Policy) : Prop where
  part_resources : (ofPolicy p).part (.str "Resources") = .ok (.record (resources p))
  nodup_keys : ((resources p).map (·.1)).Nodup
  length_resources : (resources p).length = p.ipSets.length + p.regexSets.length + 1 +
    p.associations.length + if p.logSink.enabled then 2 else 0
  mem_keys : ∀ t ∈ targets (ofPolicy p.withoutBodies), t ∈ (resources p).map (·.1)
  ipSet : ∀ (i : Nat) (r : Rule) (s : IpSet) (forwarded : Option ForwardedIp),
    p.rules[i]? = some r → r.statement = .ipSet s forwarded →
      (ofPolicy p).partAt (statementPath i ++ [.str "IPSetReferenceStatement", .str "Arn"]) =
        .ok (arnOf s.logicalId) ∧
      (ofPolicy p).partAt [.str "Resources", .str s.logicalId, .str "Type"] =
        .ok (.str "AWS::WAFv2::IPSet") ∧
      (ofPolicy p).partAt
          [.str "Resources", .str s.logicalId, .str "Properties", .str "Addresses"] =
        .ok (.strings s.addresses)
  regexSet : ∀ (i : Nat) (r : Rule) (s : RegexSet) (field : MatchField) (header : Option String),
    p.rules[i]? = some r → r.statement = .regexSet s field header →
      (ofPolicy p).partAt
          (statementPath i ++ [.str "RegexPatternSetReferenceStatement", .str "Arn"]) =
        .ok (arnOf s.logicalId) ∧
      (ofPolicy p).partAt [.str "Resources", .str s.logicalId, .str "Type"] =
        .ok (.str "AWS::WAFv2::RegexPatternSet") ∧
      (ofPolicy p).partAt
          [.str "Resources", .str s.logicalId, .str "Properties", .str "RegularExpressionList"] =
        .ok (.strings s.patterns)

theorem isClosed_of_referencesByCategory (h : p.ReferencesByCategory) : IsClosed p where
  part_resources := by
    rw [ofPolicy_eq h]
    simp [Value.part_record, List.lookup_cons]
  nodup_keys := nodup_keys h
  length_resources := by
    cases hlogging : p.logSink.enabled <;> simp [resources, hlogging] <;> omega
  mem_keys := mem_keys_of_mem_targets h
  ipSet i r s forwarded hr hs := by
    have hmem : .ip s ∈ p.references := List.mem_flatMap.mpr
      ⟨r, List.mem_of_getElem? hr, by simp [Rule.references, hs, Statement.references]⟩
    refine ⟨?_, ?_, ?_⟩
    · rw [part_statement h hr, hs]
      simp [Statement.toValue, Value.part_record, resolver, BackingSet.logicalId]
    · rw [part_ipSet h hmem]
      simp [ipSetResource, resource, Value.part_record]
    · rw [part_ipSet h hmem]
      simp [ipSetResource, resource, Value.part_record, List.lookup_cons]
  regexSet i r s field header hr hs := by
    have hmem : .regex s ∈ p.references := List.mem_flatMap.mpr
      ⟨r, List.mem_of_getElem? hr, by simp [Rule.references, hs, Statement.references]⟩
    refine ⟨?_, ?_, ?_⟩
    · rw [part_statement h hr, hs]
      simp [Statement.toValue, Value.part_record, resolver, BackingSet.logicalId]
    · rw [part_regexSet h hmem]
      simp [regexSetResource, resource, Value.part_record]
    · rw [part_regexSet h hmem]
      simp [regexSetResource, resource, Value.part_record, List.lookup_cons]

end Template

end WebAcl
