import WebAcl.Proofs.MadeStatements
import WebAcl.Proofs.Reports
import WebAcl.Proofs.TemplateReferences
import WebAcl.Render.Basic

namespace WebAcl

open Outcome

namespace Json

def acceptsKey : Value → Bool
  | .str _ | .float _ | .bool _ | .null => true
  | .int i => Number.isWritable i
  | _ => false

mutual

/-- Data that has a JSON text: lists, and maps with scalar keys, of texts, numbers, truth values and
null, with no integer too long to be written. -/
def accepts : Value → Bool
  | .null | .bool _ | .float _ | .str _ => true
  | .int i => Number.isWritable i
  | .list xs | .tuple xs => acceptsItems xs
  | .map es => acceptsEntries es
  | _ => false

def acceptsItems : List Value → Bool
  | [] => true
  | x :: xs => accepts x && acceptsItems xs

def acceptsEntries : List (Value × Value) → Bool
  | [] => true
  | (k, v) :: es => acceptsKey k && accepts v && acceptsEntries es

end

variable {layout : Layout}

theorem exists_integer_iff (hlimit : layout.anyLength = false) {i : Int} :
    (∃ text, integer layout i = .ok text) ↔ Number.isWritable i = true := by
  rw [integer, hlimit, Bool.false_or]
  cases Number.isWritable i <;> simp

theorem exists_keyText_iff (hlimit : layout.anyLength = false) {k : Value} :
    (∃ text, keyText layout k = .ok text) ↔ acceptsKey k = true := by
  cases k with
  | int i => exact exists_integer_iff hlimit
  | _ => simp [keyText, acceptsKey]

mutual

theorem exists_write_iff (hlimit : layout.anyLength = false) (depth : Nat) : ∀ {v : Value},
    (∃ text, write layout depth v = .ok text) ↔ accepts v = true := by
  intro v
  cases v with
  | int i => exact exists_integer_iff hlimit
  | list xs | tuple xs =>
    rw [accepts, ← exists_writeItems_iff hlimit (depth + 1)]
    simp [write, exists_map_iff]
  | map es =>
    rw [accepts, ← exists_writeEntries_iff hlimit (depth + 1)]
    simp [write, exists_map_iff]
  | _ => simp [write, accepts]

theorem exists_writeItems_iff (hlimit : layout.anyLength = false) (depth : Nat) :
    ∀ {xs : List Value}, (∃ texts, writeItems layout depth xs = .ok texts) ↔
      acceptsItems xs = true
  | [] => by simp [writeItems, acceptsItems]
  | x :: xs => by
    rw [acceptsItems, Bool.and_eq_true, ← exists_write_iff hlimit depth,
      ← exists_writeItems_iff hlimit depth]
    simp [writeItems, exists_bind_iff]

theorem exists_writeEntries_iff (hlimit : layout.anyLength = false) (depth : Nat) :
    ∀ {es : List (Value × Value)}, (∃ texts, writeEntries layout depth es = .ok texts) ↔
      acceptsEntries es = true
  | [] => by simp [writeEntries, acceptsEntries]
  | (k, v) :: es => by
    rw [acceptsEntries, Bool.and_eq_true, Bool.and_eq_true, ← exists_keyText_iff hlimit,
      ← exists_write_iff hlimit depth, ← exists_writeEntries_iff hlimit depth]
    simp [writeEntries, exists_bind_iff, and_assoc]

end

@[simp] theorem accepts_str (s : String) : accepts (.str s) = true := rfl

@[simp] theorem accepts_bool (b : Bool) : accepts (.bool b) = true := rfl

@[simp] theorem accepts_int (i : Int) : accepts (.int i) = Number.isWritable i := rfl

@[simp] theorem accepts_list {xs : List Value} :
    accepts (.list xs) = true ↔ ∀ x ∈ xs, accepts x = true := by
  rw [accepts]
  induction xs with
  | nil => simp [acceptsItems]
  | cons x xs ih => simp [acceptsItems, ih]

@[simp] theorem accepts_strings (ss : List String) : accepts (.strings ss) = true := by
  simp [Value.strings]

@[simp] theorem accepts_record {fields : List (String × Value)} :
    accepts (.record fields) = true ↔ ∀ f ∈ fields, accepts f.2 = true := by
  rw [Value.record, accepts]
  induction fields with
  | nil => simp [acceptsEntries]
  | cons f fields ih => simp [acceptsEntries, acceptsKey, ih]

end Json

open Json

@[simp] theorem ForwardedIp.accepts_toValue (f : ForwardedIp) : accepts f.toValue = true := by
  cases h : f.position <;> simp [toValue, h]

variable {resolve : Resolver}

theorem Statement.MadeBy.accepts_toValue {c : Config} {k : Category} {s : Statement}
    (h : s.MadeBy c k) (hc : c.Validated) (hresolve : ∀ b, accepts (resolve b) = true) :
    accepts (s.toValue resolve) = true := by
  have hzero : Number.isWritable 0 = true := Number.isWritable_of_small (by decide) (by decide)
  cases h with
  | forwardedSet | sourceSet | paths | userAgents =>
    simp [toValue, fieldToMatch, hresolve, hzero]
  | managedGroup => simp [toValue]
  | @rateBased limit hlimit =>
    obtain ⟨hlow, hhigh⟩ := hc.threshold _ hlimit
    have hwritable : Number.isWritable limit.threshold = true := by
      refine Number.isWritable_of_lt (n := 10) (by decide) ?_
      simp only [Config.leastThreshold, Config.greatestThreshold] at hlow hhigh
      omega
    cases limit.forwarded <;> simp [toValue, hwritable]

theorem Rule.accepts_toValue {r : Rule} : accepts (r.toValue resolve) = true ↔
    Number.isWritable r.priority = true ∧ accepts (r.statement.toValue resolve) = true := by
  cases ha : r.action <;> cases ho : r.override <;> simp [toValue, Visibility.toValue, ha, ho]

namespace Policy

variable {p : Policy}

theorem accepts_toValue : accepts (p.toValue resolve) = true ↔ ∀ r ∈ p.rules,
    Number.isWritable r.priority = true ∧ accepts (r.statement.toValue resolve) = true := by
  simp [toValue, rulesToValue, Visibility.toValue, Rule.accepts_toValue]

theorem accepts_document : accepts p.document = true ↔
    accepts (p.toValue .byLogicalId) = true ∧ Number.isWritable p.logSink.retentionDays = true := by
  simp [document, logSinkDocument, ipSetDocument, regexSetDocument]

end Policy

namespace Template

variable {p : Policy}

@[simp] theorem accepts_arnOf (key : String) : accepts (arnOf key) = true := by
  simp [arnOf, attributeOf]

@[simp] theorem accepts_resource {type : String} {settings : List (String × Value)}
    {properties : Value} : accepts (resource type settings properties) = true ↔
      (∀ f ∈ settings, accepts f.2 = true) ∧ accepts properties = true := by
  rw [resource, accepts_record]
  simp only [List.forall_mem_append, List.forall_mem_cons, accepts_str, List.not_mem_nil,
    false_implies, implies_true, and_true, true_and]

theorem accepts_resources (hdays : Number.isWritable p.logSink.retentionDays = true) :
    accepts (.record (resources p)) = true ↔ accepts (p.toValue resolver) = true := by
  rw [accepts_record, resources, List.mapIdx_eq_zipIdx_map]
  cases p.logSink.enabled <;>
    simp only [List.forall_mem_append, List.forall_mem_map, List.forall_mem_cons] <;>
    simp [ipSetResource, regexSetResource, associationResource, logGroupResource,
      loggingResource, hdays]

theorem accepts_outputs (p : Policy) : accepts (.record (outputs p)) = true := by
  rw [accepts_record, outputs, List.forall_mem_append, List.forall_mem_map]
  simp [attributeOf]

theorem accepts_ofPolicy (h : p.ReferencesByCategory)
    (hdays : Number.isWritable p.logSink.retentionDays = true) :
    accepts (ofPolicy p) = true ↔ accepts (p.toValue resolver) = true := by
  rw [ofPolicy_eq h, accepts_record, ← accepts_resources hdays]
  simp only [List.forall_mem_cons, accepts_str, accepts_outputs, true_and, List.not_mem_nil,
    false_implies, implies_true, and_true]

end Template

end WebAcl
