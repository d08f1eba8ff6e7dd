import WebAcl.Proofs.TemplateReferences

namespace WebAcl

namespace Value

def modifyEntry (key : Value) (f : Value → Value) : List (Value × Value) → List (Value × Value)
  | [] => []
  | e :: es => if e.1.same key then (e.1, f e.2) :: es else e :: modifyEntry key f es

/-- Changes the part at the end of a path; nothing is changed where the path leads nowhere. -/
def modifyAt (f : Value → Value) : List Value → Value → Value
  | [], v => f v
  | key :: path, map es => map (modifyEntry key (modifyAt f path) es)
  | int i :: path, list xs => if 0 ≤ i then list (xs.modify i.toNat (modifyAt f path)) else list xs
  | _ :: _, v => v

variable (f : Value → Value)

@[simp] theorem modifyAt_nil (v : Value) : v.modifyAt f [] = f v := rfl

def modifyField (key : String) : List (String × Value) → List (String × Value)
  | [] => []
  | e :: es => if e.1 = key then (e.1, f e.2) :: es else e :: modifyField key es

theorem modifyAt_record (key : String) (path : List Value) (fields : List (String × Value)) :
    (record fields).modifyAt f (.str key :: path) =
      record (modifyField (modifyAt f path) key fields) := by
  have hentry : modifyEntry (.str key) (modifyAt f path) (fields.map fun e ↦ (str e.1, e.2)) =
      (modifyField (modifyAt f path) key fields).map fun e ↦ (str e.1, e.2) := by
    induction fields with
    | nil => rfl
    | cons e es ih =>
      by_cases h : e.1 = key
      · simp [modifyEntry, modifyField, same_str, h]
      · simp [modifyEntry, modifyField, same_str, h, ih]
  simp only [record, modifyAt, hentry]

theorem modifyAt_list (path : List Value) (before after : List Value) (v : Value) :
    (list (before ++ v :: after)).modifyAt f (.int before.length :: path) =
      list (before ++ v.modifyAt f path :: after) := by
  have hmodify : (before ++ v :: after).modify before.length (modifyAt f path) =
      before ++ v.modifyAt f path :: after := by
    induction before with
    | nil => rfl
    | cons w before ih => simp [ih]
  simp [modifyAt, hmodify]

end Value

structure ReferencePlace where
  path : List Value
  set : BackingSet

namespace Statement

def place? : Statement → Option ReferencePlace
  | ipSet s _ => some ⟨[.str "IPSetReferenceStatement", .str "Arn"], .ip s⟩
  | regexSet s .. => some ⟨[.str "RegexPatternSetReferenceStatement", .str "Arn"], .regex s⟩
  | _ => none

variable {s : Statement} {a : ReferencePlace} {f : Value → Value} {r₁ r₂ : Resolver}

theorem partAt_toValue (h : s.place? = some a) (r : Resolver) :
    (s.toValue r).partAt a.path = .ok (r a.set) := by
  cases s with
  | ipSet set forwarded =>
    obtain rfl := Option.some.inj h
    simp [toValue, Value.part_record]
  | regexSet set field headerName =>
    obtain rfl := Option.some.inj h
    simp [toValue, Value.part_record]
  | managedGroup | rateBased | custom => simp [place?] at h

theorem modifyAt_toValue (h : s.place? = some a) (hf : f (r₁ a.set) = r₂ a.set) :
    (s.toValue r₁).modifyAt f a.path = s.toValue r₂ := by
  cases s with
  | ipSet set forwarded =>
    obtain rfl := Option.some.inj h
    simp [toValue, Value.modifyAt_record, Value.modifyField, hf]
  | regexSet set field headerName =>
    obtain rfl := Option.some.inj h
    simp [toValue, Value.modifyAt_record, Value.modifyField, hf]
  | managedGroup | rateBased | custom => simp [place?] at h

theorem toValue_eq_of_place?_eq_none (h : s.place? = none) (r₁ r₂ : Resolver) :
    s.toValue r₁ = s.toValue r₂ := by
  cases s with
  | ipSet | regexSet => simp [place?] at h
  | managedGroup | rateBased | custom => rfl

end Statement

namespace Rule

def place? (i : Nat) (r : Rule) : Option ReferencePlace :=
  r.statement.place?.map fun a ↦ ⟨.int i :: .str "Statement" :: a.path, a.set⟩

theorem part_statement (r : Rule) (resolve : Resolver) :
    (r.toValue resolve).part (.str "Statement") = .ok (r.statement.toValue resolve) := by
  simp [toValue, Value.part_record, List.lookup_cons]

theorem modifyAt_statement {r : Rule} {f : Value → Value} {path : List Value} {r₁ r₂ : Resolver}
    (h : (r.statement.toValue r₁).modifyAt f path = r.statement.toValue r₂) :
    (r.toValue r₁).modifyAt f (.str "Statement" :: path) = r.toValue r₂ := by
  simp [toValue, Value.modifyAt_record, Value.modifyField, h]

end Rule

namespace Policy

variable {p : Policy} {r₁ r₂ : Resolver}

def places (p : Policy) : List ReferencePlace :=
  p.rules.zipIdx.filterMap fun e ↦ e.1.place? e.2

theorem mem_places_iff {a : ReferencePlace} :
    a ∈ p.places ↔ ∃ (i : Nat) (r : Rule), p.rules[i]? = some r ∧ r.place? i = some a := by
  simp only [places, List.mem_filterMap, Prod.exists, List.mem_zipIdx_iff_getElem?]
  exact ⟨fun ⟨r, i, h⟩ ↦ ⟨i, r, h⟩, fun ⟨i, r, h⟩ ↦ ⟨r, i, h⟩⟩

theorem part_rules {i : Nat} {r : Rule} (h : p.rules[i]? = some r) (resolve : Resolver) :
    (Value.list (p.rulesToValue resolve)).part (.int i) = .ok (r.toValue resolve) :=
  Value.part_list (by simp [rulesToValue, h])

theorem partAt_of_mem_places {a : ReferencePlace} (ha : a ∈ p.places) (resolve : Resolver) :
    (Value.list (p.rulesToValue resolve)).partAt a.path = .ok (resolve a.set) := by
  obtain ⟨i, r, hr, hplace⟩ := mem_places_iff.mp ha
  obtain ⟨b, hb, rfl⟩ := Option.map_eq_some_iff.mp hplace
  rw [Value.partAt_cons, part_rules hr, Outcome.ok_bind, Value.partAt_cons, r.part_statement,
    Outcome.ok_bind]
  exact Statement.partAt_toValue hb resolve

theorem foldl_modifyAt {g : ReferencePlace → Value → Value} (rules : List Rule)
    (before : List Value)
    (hg : ∀ e ∈ rules.zipIdx before.length, ∀ a, e.1.place? e.2 = some a →
      g a (r₁ a.set) = r₂ a.set) :
    ((rules.zipIdx before.length).filterMap fun e ↦ e.1.place? e.2).foldl
        (fun v a ↦ Value.modifyAt (g a) a.path v)
        (.list (before ++ rules.map (Rule.toValue r₁))) =
      Value.list (before ++ rules.map (Rule.toValue r₂)) := by
  -- the part that is done grows from the left, so that places keep their positions
  induction rules generalizing before with
  | nil => rfl
  | cons r rules ih =>
    obtain ⟨hr, hrules⟩ := List.forall_mem_cons.mp hg
    have hlength : (before ++ [r.toValue r₂]).length = before.length + 1 := by simp
    have hrest := ih (before ++ [r.toValue r₂]) (hlength ▸ hrules)
    rw [hlength] at hrest
    simp only [List.append_assoc, List.singleton_append] at hrest
    rw [List.zipIdx_cons, List.filterMap_cons, List.map_cons, List.map_cons]
    cases hs : r.statement.place? with
    | none =>
      -- the rule is the same for both resolvers
      have hsame : r.toValue r₁ = r.toValue r₂ := by
        simp only [Rule.toValue, Statement.toValue_eq_of_place?_eq_none hs r₁ r₂]
      simpa [Rule.place?, hs, hsame] using hrest
    | some a =>
      have hplace : r.place? before.length =
          some ⟨.int before.length :: .str "Statement" :: a.path, a.set⟩ := by
        simp [Rule.place?, hs]
      have hanswer := hr _ hplace
      have hone := Rule.modifyAt_statement (Statement.modifyAt_toValue hs hanswer)
      simp only [hplace, List.foldl_cons, Value.modifyAt_list, hone]
      exact hrest

/-- The rules under one resolver become those under another by changing the answers in place. -/
theorem rules_modifyAt {g : ReferencePlace → Value → Value}
    (hg : ∀ a ∈ p.places, g a (r₁ a.set) = r₂ a.set) :
    p.places.foldl (fun v a ↦ Value.modifyAt (g a) a.path v) (.list (p.rulesToValue r₁)) =
      Value.list (p.rulesToValue r₂) := by
  refine foldl_modifyAt p.rules [] fun e he a ha ↦ hg a ?_
  exact List.mem_filterMap.mpr ⟨e, he, ha⟩

def valueOf (p : Policy) (rules : Value) : Value :=
  .record [
    ("Name", .str p.name),
    ("Scope", .str (Choice.text p.scope)),
    ("DefaultAction", .record [(p.defaultAction.title, .record [])]),
    ("VisibilityConfig", p.visibility.toValue),
    ("Rules", rules)]

theorem toValue_eq_valueOf (p : Policy) (resolve : Resolver) :
    p.toValue resolve = p.valueOf (.list (p.rulesToValue resolve)) :=
  rfl

theorem modifyAt_valueOf (f : Value → Value) (path : List Value) (rules : Value) :
    (p.valueOf rules).modifyAt f (.str "Rules" :: path) = p.valueOf (rules.modifyAt f path) := by
  simp [valueOf, Value.modifyAt_record, Value.modifyField]

theorem toValue_modifyAt (r₁ r₂ : Resolver) {g : ReferencePlace → Value → Value}
    (hg : ∀ a ∈ p.places, g a (r₁ a.set) = r₂ a.set) :
    p.places.foldl (fun v a ↦ Value.modifyAt (g a) (.str "Rules" :: a.path) v) (p.toValue r₁) =
      p.toValue r₂ := by
  have hinside : ∀ (rules : Value) (a : ReferencePlace),
      (p.valueOf rules).modifyAt (g a) (.str "Rules" :: a.path) =
        p.valueOf (rules.modifyAt (g a) a.path) :=
    fun rules a ↦ modifyAt_valueOf (g a) a.path rules
  rw [toValue_eq_valueOf, toValue_eq_valueOf, ← rules_modifyAt hg]
  exact List.foldl_hom p.valueOf hinside

end Policy

end WebAcl
