import WebAcl.Proofs.ExactAcceptance
import WebAcl.Proofs.ReferencePlaces
import WebAcl.Render.Basic

namespace WebAcl

namespace Value

def field? (v : Value) (key : String) : Option Value :=
  (v.part (.str key)).toOption

def text? : Value → Option String
  | str s => some s
  | _ => none

def integer? : Value → Option Int
  | int i => some i
  | _ => none

def members? : Value → Option (List Value)
  | list xs => some xs
  | _ => none

def fields? : Value → Option (List (String × Value))
  | map es => es.mapM fun e ↦ e.1.text?.map (·, e.2)
  | _ => none

def texts? (v : Value) : Option (List String) :=
  v.members? >>= List.mapM text?

theorem field?_record (fields : List (String × Value)) (key : String) :
    (record fields).field? key = fields.lookup key := by
  rw [field?, part_record]
  cases fields.lookup key <;> rfl

@[simp] theorem text?_str (s : String) : (str s).text? = some s := rfl

@[simp] theorem integer?_int (i : Int) : (int i).integer? = some i := rfl

@[simp] theorem members?_list (xs : List Value) : (list xs).members? = some xs := rfl

theorem mapM_map_eq_some {α β γ : Type} (read : β → Option γ) (write : α → β) {f : α → γ}
    (h : ∀ x, read (write x) = some (f x)) (xs : List α) :
    (xs.map write).mapM read = some (xs.map f) := by
  have hread : read ∘ write = fun x ↦ pure (f x) := funext h
  rw [List.mapM_map, hread, List.mapM_pure]
  rfl

@[simp] theorem texts?_strings (ss : List String) : (strings ss).texts? = some ss := by
  have hitems := mapM_map_eq_some text? str text?_str ss
  rw [List.map_id'] at hitems
  exact hitems

@[simp] theorem fields?_record (fields : List (String × Value)) :
    (record fields).fields? = some fields := by
  have hfields := mapM_map_eq_some (fun e : Value × Value ↦ e.1.text?.map (·, e.2))
    (fun f : String × Value ↦ (str f.1, f.2)) (f := id) (fun _ ↦ rfl) fields
  rw [List.map_id] at hfields
  exact hfields

end Value

open Value

/-- What a policy is deployed with besides its rules. -/
structure Listing where
  ipSets : List IpSet
  regexSets : List RegexSet
  associations : List String
  logGroups : List (String × Int)

def IpSet.read? (logicalId : String) (v : Value) : Option IpSet := do
  return {
    logicalId := logicalId
    version := ← Choice.parse? (← (← v.field? "IPAddressVersion").text?)
    addresses := ← (← v.field? "Addresses").texts?
    description := ← (← v.field? "Description").text? }

def IpSet.ofDocument? (v : Value) : Option IpSet := do
  IpSet.read? (← (← v.field? "LogicalId").text?) v

def RegexSet.read? (logicalId : String) (v : Value) : Option RegexSet := do
  return {
    logicalId := logicalId
    patterns := ← (← v.field? "RegularExpressionList").texts?
    description := ← (← v.field? "Description").text? }

def RegexSet.ofDocument? (v : Value) : Option RegexSet := do
  RegexSet.read? (← (← v.field? "LogicalId").text?) v

namespace Listing

def readLogGroup? (v : Value) : Option (String × Int) := do
  return (← (← v.field? "LogGroupName").text?, ← (← v.field? "RetentionInDays").integer?)

def readAssociation? (v : Value) : Option String := do
  (← v.field? "ResourceArn").text?

/-- What a policy document lists. The log group of a disabled log does not count. -/
def ofDocument? (document : Value) : Option Listing := do
  let logging ← document.field? "Logging"
  return {
    ipSets := ← (← (← document.field? "IPSets").members?).mapM IpSet.ofDocument?
    regexSets := ← (← (← document.field? "RegexPatternSets").members?).mapM RegexSet.ofDocument?
    associations := ← (← document.field? "Associations").texts?
    logGroups := ← match ← logging.field? "Enabled" with
      | .bool true => [logging].mapM readLogGroup?
      | _ => pure [] }

def typeOf? (resource : Value) : Option String := do
  (← resource.field? "Type").text?

def readResources? {α : Type} (type : String) (read : String → Value → Option α)
    (template : Value) : Option (List α) := do
  let resources ← (← template.field? "Resources").fields?
  (resources.filter fun r ↦ typeOf? r.2 == some type).mapM fun r ↦ do
    read r.1 (← r.2.field? "Properties")

def ofTemplate? (template : Value) : Option Listing := do
  return {
    ipSets := ← readResources? "AWS::WAFv2::IPSet" IpSet.read? template
    regexSets := ← readResources? "AWS::WAFv2::RegexPatternSet" RegexSet.read? template
    associations :=
      ← readResources? "AWS::WAFv2::WebACLAssociation" (fun _ ↦ readAssociation?) template
    logGroups := ← readResources? "AWS::Logs::LogGroup" (fun _ ↦ readLogGroup?) template }

end Listing

theorem Choice.parse?_text_ipVersion (v : IpVersion) : Choice.parse? (Choice.text v) = some v := by
  cases v <;> decide

namespace Policy

def listing (p : Policy) : Listing where
  ipSets := p.ipSets
  regexSets := p.regexSets
  associations := p.associations
  logGroups :=
    if p.logSink.enabled then [(LogSink.groupName p.name, p.logSink.retentionDays)] else []

theorem ofDocument?_ipSetDocument (s : IpSet) : IpSet.ofDocument? (ipSetDocument s) = some s := by
  simp [ipSetDocument, IpSet.ofDocument?, IpSet.read?, field?_record, List.lookup_cons,
    Choice.parse?_text_ipVersion]

theorem ofDocument?_regexSetDocument (s : RegexSet) :
    RegexSet.ofDocument? (regexSetDocument s) = some s := by
  simp [regexSetDocument, RegexSet.ofDocument?, RegexSet.read?, field?_record, List.lookup_cons]

theorem ofDocument?_document (p : Policy) : Listing.ofDocument? p.document = some p.listing := by
  have hip := mapM_map_eq_some IpSet.ofDocument? ipSetDocument (f := id)
    ofDocument?_ipSetDocument p.ipSets
  have hregex := mapM_map_eq_some RegexSet.ofDocument? regexSetDocument (f := id)
    ofDocument?_regexSetDocument p.regexSets
  rw [List.map_id] at hip hregex
  cases henabled : p.logSink.enabled <;>
    simp [Listing.ofDocument?, document, logSinkDocument, listing, field?_record,
      List.lookup_cons, hip, hregex, henabled, Listing.readLogGroup?, -List.mapM_map]

end Policy

namespace Template

open Listing

variable {p : Policy}

@[simp] theorem typeOf?_resource (type : String) (settings : List (String × Value))
    (properties : Value) : typeOf? (resource type settings properties) = some type := by
  simp [typeOf?, resource, field?_record]

@[simp] theorem typeOf?_ipSetResource (scope : Scope) (s : IpSet) :
    typeOf? (ipSetResource scope s) = some "AWS::WAFv2::IPSet" :=
  typeOf?_resource ..

@[simp] theorem typeOf?_regexSetResource (scope : Scope) (s : RegexSet) :
    typeOf? (regexSetResource scope s) = some "AWS::WAFv2::RegexPatternSet" :=
  typeOf?_resource ..

@[simp] theorem typeOf?_associationResource (arn : String) :
    typeOf? (associationResource arn) = some "AWS::WAFv2::WebACLAssociation" :=
  typeOf?_resource ..

@[simp] theorem typeOf?_logGroupResource (p : Policy) :
    typeOf? (logGroupResource p) = some "AWS::Logs::LogGroup" :=
  typeOf?_resource ..

@[simp] theorem typeOf?_loggingResource (p : Policy) :
    typeOf? (loggingResource p) = some "AWS::WAFv2::LoggingConfiguration" :=
  typeOf?_resource ..

theorem readResources?_ofPolicy (h : p.ReferencesByCategory) {α β : Type} {type : String}
    {read : String → Value → Option β} (write : α → String × Value) {f : α → β} {xs : List α}
    (hfilter : (resources p).filter (fun r ↦ typeOf? r.2 == some type) = xs.map write)
    (hread : ∀ x, ((write x).2.field? "Properties" >>= read (write x).1) = some (f x)) :
    readResources? type read (ofPolicy p) = some (xs.map f) := by
  have hresources : (ofPolicy p).field? "Resources" = some (.record (resources p)) := by
    rw [ofPolicy_eq h]
    simp [field?_record, List.lookup_cons]
  rw [readResources?, hresources, Option.bind_eq_bind, Option.bind_some, fields?_record,
    Option.bind_eq_bind, Option.bind_some, hfilter]
  exact mapM_map_eq_some _ write hread xs

theorem ofTemplate?_ofPolicy (h : p.ReferencesByCategory) :
    ofTemplate? (ofPolicy p) = some p.listing := by
  have hip : readResources? "AWS::WAFv2::IPSet" IpSet.read? (ofPolicy p) =
      some (p.ipSets.map id) := by
    refine readResources?_ofPolicy h (fun s ↦ (s.logicalId, ipSetResource p.scope s)) ?_ ?_
    · simp [resources, List.filter_map, Function.comp_def, List.mapIdx_eq_zipIdx_map, apply_ite]
    · intro s
      simp [ipSetResource, resource, IpSet.read?, field?_record, List.lookup_cons,
        Choice.parse?_text_ipVersion]
  have hregex : readResources? "AWS::WAFv2::RegexPatternSet" RegexSet.read? (ofPolicy p) =
      some (p.regexSets.map id) := by
    refine readResources?_ofPolicy h
      (fun s ↦ (s.logicalId, regexSetResource p.scope s)) ?_ ?_
    · simp [resources, List.filter_map, Function.comp_def, List.mapIdx_eq_zipIdx_map, apply_ite]
    · intro s
      simp [regexSetResource, resource, RegexSet.read?, field?_record, List.lookup_cons]
  have hassociations : readResources? "AWS::WAFv2::WebACLAssociation" (fun _ ↦ readAssociation?)
      (ofPolicy p) = some (p.associations.zipIdx.map Prod.fst) := by
    refine readResources?_ofPolicy h
      (fun e ↦ (s!"WebAclAssociation{e.2}", associationResource e.1)) ?_ ?_
    · simp [resources, List.filter_map, Function.comp_def, List.mapIdx_eq_zipIdx_map, apply_ite]
    · intro e
      simp [associationResource, resource, readAssociation?, field?_record, List.lookup_cons]
  -- a disabled log has no group, an enabled one has one
  have hlogs : readResources? "AWS::Logs::LogGroup" (fun _ ↦ readLogGroup?) (ofPolicy p) =
      some ((if p.logSink.enabled then [()] else []).map fun _ ↦
        (LogSink.groupName p.name, p.logSink.retentionDays)) := by
    refine readResources?_ofPolicy h (fun _ ↦ (logGroupKey, logGroupResource p)) ?_ ?_
    · cases henabled : p.logSink.enabled <;>
        simp [resources, List.filter_map, Function.comp_def, List.mapIdx_eq_zipIdx_map, henabled]
    · intro _
      simp [logGroupResource, resource, readLogGroup?, field?_record, List.lookup_cons]
  rw [List.map_id] at hip hregex
  rw [List.zipIdx_map_fst] at hassociations
  cases henabled : p.logSink.enabled <;>
    simp [ofTemplate?, hip, hregex, hassociations, hlogs, Policy.listing, henabled]

/-- The identifier of a resource is referred to by the name of the resource; anything else stays. -/
def keyOfArn : Value → Value
  | .map [(.str "Fn::GetAtt", .list [.str key, .str "Arn"])] => .str key
  | v => v

theorem keyOfArn_arnOf (key : String) : keyOfArn (arnOf key) = .str key := rfl

end Template

structure Policy.DescribedAlike [Machine] (p : Policy) : Prop where
  document : p.render .json = p.jsonFile "policy.json" p.document
  template : p.render .cloudFormation = p.jsonFile "template.json" (Template.ofPolicy p)
  /-- The list of the document is the one of the template, with the names of sets in place of
  references to their identifiers, at the places of references and nowhere else. -/
  acl : ∃ properties,
    (Template.ofPolicy p).partAt [.str "Resources", .str "WebAcl", .str "Properties"] =
      .ok properties ∧
    (∀ a ∈ p.places, properties.partAt (.str "Rules" :: a.path) =
      .ok (.record [("Fn::GetAtt", .strings [a.set.logicalId, "Arn"])])) ∧
    p.document.part (.str "WebACL") = .ok (p.places.foldl
      (fun v a ↦ Value.modifyAt Template.keyOfArn (.str "Rules" :: a.path) v) properties)
  listed : Listing.ofDocument? p.document = some p.listing ∧
    Listing.ofTemplate? (Template.ofPolicy p) = some p.listing

theorem Policy.ReferencesByCategory.describedAlike [Machine] {p : Policy}
    (h : p.ReferencesByCategory) : p.DescribedAlike where
  document := rfl
  template := rfl
  acl := by
    have hacl : (Template.aclKey,
        Template.resource "AWS::WAFv2::WebACL" [] (p.toValue Template.resolver)) ∈
          Template.resources p := by
      simp [Template.resources]
    refine ⟨p.toValue Template.resolver, ?_, fun a ha ↦ ?_, ?_⟩
    · have hpart := Template.part_resource h hacl [.str "Properties"]
      rw [Template.aclKey] at hpart
      rw [hpart]
      simp [Template.resource, Value.part_record, List.lookup_cons]
    · have hrules : (p.toValue Template.resolver).part (.str "Rules") =
          .ok (.list (p.rulesToValue Template.resolver)) := by
        simp [Policy.toValue, Value.part_record, List.lookup_cons]
      rw [Value.partAt_cons, hrules, Outcome.ok_bind]
      exact p.partAt_of_mem_places ha Template.resolver
    · have hturned := p.toValue_modifyAt Template.resolver Resolver.byLogicalId fun a _ ↦
        Template.keyOfArn_arnOf a.set.logicalId
      rw [hturned]
      simp [Policy.document, Value.part_record]
  listed := ⟨p.ofDocument?_document, Template.ofTemplate?_ofPolicy h⟩

/-- A statement that a user wrote is read back as it is, whatever the resolver, and is not touched
by changes at the places of references. -/
theorem Policy.part_body {p : Policy} {i : Nat} {r : Rule} {body : Value}
    (hr : p.rules[i]? = some r) (hbody : r.statement = .custom body) :
    (∀ resolve, (Value.list (p.rulesToValue resolve)).partAt [.int i, .str "Statement"] =
      .ok body.thaw) ∧
    ∀ a ∈ p.places, a.path.head? ≠ some (.int i) := by
  refine ⟨fun resolve ↦ ?_, fun a ha hhead ↦ ?_⟩
  · rw [Value.partAt_cons, part_rules hr, Outcome.ok_bind, Value.partAt_cons, r.part_statement,
      Outcome.ok_bind, hbody]
    rfl
  · obtain ⟨j, q, hq, hplace⟩ := mem_places_iff.mp ha
    obtain ⟨b, hb, rfl⟩ := Option.map_eq_some_iff.mp hplace
    have hindex : (j : Int) = i := by simpa using hhead
    obtain rfl : j = i := by omega
    obtain rfl : q = r := Option.some.inj (hq.symm.trans hr)
    simp [hbody, Statement.place?] at hb

/-- The rules of any policy under two resolvers differ in the answers for their sets, and in nothing
else. So the document and the template of a compiled policy describe the same access control list.
-/
theorem Config.describedAlike_of_compile [Machine] :
    (∀ (p : Policy) (r₁ r₂ : Resolver),
      (∀ a ∈ p.places, (Value.list (p.rulesToValue r₁)).partAt a.path = .ok (r₁ a.set) ∧
        (Value.list (p.rulesToValue r₂)).partAt a.path = .ok (r₂ a.set)) ∧
      p.places.foldl (fun v a ↦ Value.modifyAt (fun _ ↦ r₂ a.set) a.path v)
        (.list (p.rulesToValue r₁)) = Value.list (p.rulesToValue r₂) ∧
      ∀ (i : Nat) (r : Rule) (body : Value), p.rules[i]? = some r → r.statement = .custom body →
        (∀ resolve, (Value.list (p.rulesToValue resolve)).partAt [.int i, .str "Statement"] =
          .ok body.thaw) ∧
        ∀ a ∈ p.places, a.path.head? ≠ some (.int i)) ∧
    ∀ (registry : Registry) (c : Config) (p : Policy), c.compile registry = .ok p →
      p.DescribedAlike := by
  refine ⟨fun p r₁ r₂ ↦ ⟨fun a ha ↦ ?_, ?_, fun i r body hr hbody ↦ ?_⟩, fun registry c p h ↦ ?_⟩
  · exact ⟨p.partAt_of_mem_places ha r₁, p.partAt_of_mem_places ha r₂⟩
  · exact p.rules_modifyAt fun _ _ ↦ rfl
  · exact Policy.part_body hr hbody
  · exact (referencesByCategory_of_compile h).describedAlike

section

open UsualMachine

theorem Config.describedAlike_sampler :
    ∃ p, sampler.compile .builtIn = .ok p ∧ p.DescribedAlike := by
  obtain ⟨p, hp⟩ := exists_compile_sampler
  exact ⟨p, hp, Config.describedAlike_of_compile.2 .builtIn sampler p hp⟩

end

end WebAcl
