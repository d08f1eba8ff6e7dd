import WebAcl.Proofs.Deployment
import WebAcl.Proofs.LoadFailures
import WebAcl.Proofs.LoadedValues

namespace WebAcl

open Checked Value

namespace Lax

variable {α : Type} {v : Value}

theorem within_of_lookup? {key w : Value} {entries : List (Value × Value)}
    (h : lookup? key entries = some w) : Within w (.map entries) := by
  obtain ⟨e, he, rfl⟩ := Option.map_eq_some_iff.mp h
  exact .inner (List.mem_append_right _ (List.mem_map_of_mem (List.mem_of_find?_eq_some he))) .self

theorem within_of_field {entries : List (Value × Value)} {name : String}
    {read : Value → Checked α} {default : Option α} {a : α}
    (h : field entries name read default = .valid a) :
    default = some a ∨ ∃ w, Within w (.map entries) ∧ read w = .valid a := by
  obtain ⟨w, hw, hread⟩ | ⟨-, hdefault⟩ := field_eq_valid_iff.mp h
  · exact .inr ⟨w, within_of_lookup? hw, hread⟩
  · exact .inl hdefault

theorem within_of_list {read : Value → Checked α} {as : List α} (h : list read v = .valid as) :
    ∀ a ∈ as, ∃ w, Within w v ∧ read w = .valid a := by
  obtain ⟨xs, hitems, hread⟩ := item_of_list h
  have hinner : v.inner = xs := by
    cases v <;> simp [items?] at hitems <;> exact hitems
  intro a ha
  obtain ⟨x, hx, hvalid⟩ := hread a ha
  exact ⟨x, .inner (hinner ▸ hx) .self, hvalid⟩

theorem mem_of_insertText {key : String} {w : Value} {entries : List (String × Value)}
    {e : String × Value} (h : e ∈ insertText key w entries) : e ∈ entries ∨ e.2 = w := by
  induction entries with
  | nil => exact .inr (List.mem_singleton.mp h ▸ rfl)
  | cons d entries ih =>
    rw [insertText] at h
    split at h
    · obtain rfl | h := List.mem_cons.mp h
      · exact .inr rfl
      · exact .inl (List.mem_cons_of_mem _ h)
    · obtain rfl | h := List.mem_cons.mp h
      · exact .inl List.mem_cons_self
      · exact (ih h).imp_left (List.mem_cons_of_mem _)

theorem mem_of_foldl_insertText {pairs before : List (String × Value)} {e : String × Value}
    (h : e ∈ pairs.foldl (fun out (k, v) ↦ insertText k v out) before) :
    e ∈ before ∨ ∃ d ∈ pairs, e.2 = d.2 := by
  induction pairs generalizing before with
  | nil => exact .inl h
  | cons d pairs ih =>
    obtain h | ⟨d', hd', heq⟩ := ih h
    · exact (mem_of_insertText h).imp_right fun heq ↦ ⟨d, List.mem_cons_self, heq⟩
    · exact .inr ⟨d', List.mem_cons_of_mem _ hd', heq⟩

theorem within_of_textMap {entries : List (String × Value)} (h : textMap v = .valid entries) :
    ∀ e ∈ entries, Within e.2 v := by
  cases v with
  | map es =>
    obtain ⟨pairs, hpairs, rfl⟩ := map_eq_valid_iff.mp h
    intro e he
    obtain hnone | ⟨d, hd, heq⟩ := mem_of_foldl_insertText he
    · simp at hnone
    · have hread := all_eq_valid_iff.mp hpairs
      have hmem : Checked.valid d ∈ pairs.map .valid := List.mem_map_of_mem hd
      rw [← hread] at hmem
      obtain ⟨f, hf, hvalid⟩ := List.mem_map.mp hmem
      obtain ⟨key, -, rfl⟩ := map_eq_valid_iff.mp hvalid
      rw [heq]
      exact .inner (List.mem_append_right _ (List.mem_map_of_mem hf)) .self
  | _ => simp [textMap, Checked.fail] at h

end Lax

namespace Config

open Lax

variable {v : Value} {c : Config}

/-- The statement of a rule consists of parts of what the rule is read from. -/
theorem CustomRule.within_of_ofValue {r : CustomRule} (h : CustomRule.ofValue v = .valid r) :
    ∀ e ∈ r.statement, Within e.2 v := by
  obtain ⟨r', hread, hcheck⟩ := andThen_eq_valid_iff.mp h
  obtain ⟨entries, rfl, hfields⟩ := map_of_record hread
  obtain ⟨-, rfl⟩ := checkOutcome_eq_valid_iff.mp hcheck
  simp only [apply_eq_valid_iff, map_eq_valid_iff] at hfields
  -- of the fields, the last one first, only the statement is wanted
  obtain ⟨_, ⟨_, ⟨_, ⟨_, ⟨_, hfields, _, -, rfl⟩, _, -, rfl⟩, _, -, rfl⟩, _, -, rfl⟩, _, -, rfl⟩ :=
    hfields
  obtain ⟨_, ⟨_, ⟨_, -, rfl⟩, _, -, rfl⟩, statement, hstatement, rfl⟩ := hfields
  intro e he
  obtain hdefault | ⟨w, hw, hread⟩ := within_of_field hstatement
  · simp at hdefault
  · exact (within_of_textMap hread e he).trans hw

theorem within_of_ofValue (h : Config.ofValue v = .valid c) :
    ∀ r ∈ c.userRules, ∀ e ∈ r.statement, Within e.2 v := by
  obtain ⟨entries, rfl, hfields⟩ := map_of_record h
  clear h
  simp only [apply_eq_valid_iff, map_eq_valid_iff] at hfields
  -- of the fields only the two lists of rules are wanted
  obtain ⟨_, ⟨_, ⟨_, ⟨_, hfields, pre, hpre, rfl⟩, post, hpost, rfl⟩, _, -, rfl⟩, _, -, rfl⟩ :=
    hfields
  obtain ⟨_, ⟨_, ⟨_, ⟨_, ⟨_, hfields, _, -, rfl⟩, _, -, rfl⟩, _, -, rfl⟩, _, -, rfl⟩, _, -, rfl⟩ :=
    hfields
  obtain ⟨_, ⟨_, ⟨_, ⟨_, ⟨_, hfields, _, -, rfl⟩, _, -, rfl⟩, _, -, rfl⟩, _, -, rfl⟩, _, -, rfl⟩ :=
    hfields
  obtain ⟨_, ⟨_, ⟨_, ⟨_, -, rfl⟩, _, -, rfl⟩, _, -, rfl⟩, _, -, rfl⟩ := hfields
  have hrules : ∀ {name rules},
      field entries name (list CustomRule.ofValue) (some []) = .valid rules →
        ∀ r ∈ rules, ∀ e ∈ r.statement, Within e.2 (.map entries) := by
    intro name rules hread r hr e he
    obtain hdefault | ⟨w, hw, hlist⟩ := within_of_field hread
    · obtain rfl := Option.some.inj hdefault
      simp at hr
    · obtain ⟨u, hu, hrule⟩ := within_of_list hlist r hr
      exact ((CustomRule.within_of_ofValue hrule e he).trans hu).trans hw
  exact List.forall_mem_append.mpr ⟨hrules hpre, hrules hpost⟩

theorem isLoaded_apply {entries : List (Value × Value)} (o : Overrides)
    (h : (Value.map entries).IsLoaded) : (Value.map (o.apply entries)).IsLoaded := by
  have hput {es : List (Value × Value)} (hes : (Value.map es).IsLoaded) (key : String) {w : Value}
      (hw : w.IsAtom) : (Value.map (Value.insert (.str key) w es)).IsLoaded :=
    isLoaded_insert hes trivial hw.isLoaded
  unfold Overrides.apply
  cases o.enforce with
  | none =>
    cases o.scope with
    | none => exact h
    | some s => exact hput h "scope" trivial
  | some b =>
    cases o.scope with
    | none => exact hput h "enforce" (w := .bool b) trivial
    | some s => exact hput (hput h "enforce" (w := .bool b) trivial) "scope" trivial

theorem isLoaded_readEntries [Machine] {host : Host} {path : Path} {entries : List (Value × Value)}
    (h : readEntries host path = .ok entries) : (Value.map entries).IsLoaded := by
  obtain ⟨bytes, -, h⟩ := Outcome.bind_eq_ok_iff.mp h
  split at h
  · simp at h
  · simp at h
  next hload =>
    obtain rfl := Except.ok.inj h
    exact Yaml.isLoaded_of_load hload
  · simp at h

theorem isLoaded_body [Machine] {host : Host} {given : Option Path} {stem : String}
    (h : load host given stem = .ok c) : ∀ r ∈ c.userRules, r.body.IsLoaded := by
  unfold load loadLogged at h
  dsimp only at h
  split at h
  · simp at h
  next path entries overrides hprepared =>
    obtain ⟨_, -, hprepared⟩ := Outcome.bind_eq_ok_iff.mp hprepared
    obtain ⟨_, hentries, hprepared⟩ := Outcome.bind_eq_ok_iff.mp hprepared
    obtain ⟨_, -, hprepared⟩ := Outcome.bind_eq_ok_iff.mp hprepared
    simp only [Outcome.pure_eq_ok, Except.ok.injEq, Prod.mk.injEq] at hprepared
    obtain ⟨-, rfl, -⟩ := hprepared
    -- what the environment overrides are texts and truth values
    have hloaded := isLoaded_apply overrides (isLoaded_readEntries hentries)
    unfold ofEntries at h
    dsimp only at h
    split at h
    next hread =>
      obtain rfl := Except.ok.inj h
      intro r hr
      refine isLoaded_map_iff.mpr (List.forall_mem_map.mpr fun e he ↦ ⟨trivial, ?_⟩)
      exact hloaded.within (within_of_ofValue hread r hr e he)
    · simp at h

theorem shallow_of_compile [Machine] {registry : Registry} {p : Policy}
    (h : c.compile registry = .ok p) : c.Shallow := by
  obtain ⟨-, out, hout, -⟩ := compile_eq_ok_iff.mp h
  intro r hr
  obtain ⟨k, hk⟩ := mem_userRules_iff.mp hr
  have hcustom : (Band.of k).custom = true := by
    cases k <;> first
      | rfl
      | simp [customRules] at hk
  exact (((alone_custom_eq_ok_iff hcustom).mp (hout k)).1 r hk).depth

end Config

namespace Value

def IsFixed : Value → Prop
  | list _ | set _ | map _ | endless => False
  | _ => True

variable {r : Recursion} {used : Nat} {v w part : Value}

theorem IsAtom.not_within_endless (h : v.IsAtom) : ¬ Within endless v := by
  intro hendless
  cases hendless with
  | self => exact h
  | inner hw => cases v <;> first | exact h | simp [inner] at hw

theorem isAtom_or_fits_of_inner (h : v.IsPlainHere) (hfits : r.fits used v = true)
    (hw : w ∈ v.inner) : w.IsAtom ∨ ∃ used', r.fits used' w = true := by
  cases v with
  | list xs | tuple xs =>
    rw [Recursion.fits, Bool.and_eq_true, Recursion.itemsFit_eq_all, List.all_eq_true] at hfits
    exact .inr ⟨_, hfits.2 w hw⟩
  | set xs => exact .inl (h w hw)
  | map es =>
    rw [Recursion.fits, Bool.and_eq_true, Recursion.entriesFit_eq_all, List.all_eq_true] at hfits
    obtain hkey | hvalue := List.mem_append.mp hw
    · obtain ⟨e, he, rfl⟩ := List.mem_map.mp hkey
      exact .inl (h e he)
    · obtain ⟨e, he, rfl⟩ := List.mem_map.mp hvalue
      exact .inr ⟨_, hfits.2 e he⟩
  | frozenMap => exact h.elim
  | _ => simp [inner] at hw

/-- Data that has an end does not contain itself anywhere. -/
theorem not_within_endless (h : v.IsLoaded) (hfits : r.fits used v = true) :
    ¬ Within endless v := by
  intro hendless
  induction hendless generalizing used with
  | self => simp [Recursion.fits] at hfits
  | inner hw hwithin ih =>
    obtain ⟨hhere, hinner⟩ := isLoaded_iff.mp h
    obtain hatom | ⟨rest, hrest⟩ := isAtom_or_fits_of_inner hhere hfits hw
    · exact hatom.not_within_endless hwithin
    · exact ih (hinner _ hw) hrest

/-- What can be changed in a frozen copy is a set of atoms. -/
theorem isFixed_or_set (h : v.IsLoaded) (hfits : r.fits used v = true)
    (hpart : Within part v.freeze) :
    part.IsFixed ∨ ∃ xs, part = .set xs ∧ Within part v ∧ ∀ x ∈ xs, x.IsAtom := by
  obtain ⟨w, hw, rfl⟩ := (within_freeze_iff h).mp hpart
  cases w with
  | set xs => exact .inr ⟨xs, rfl, hw, h _ hw⟩
  | endless => exact absurd hw (not_within_endless h hfits)
  | _ => exact .inl trivial

theorem forall_isFixed_iff (h : v.IsLoaded) (hfits : r.fits used v = true) :
    (∀ part, Within part v.freeze → part.IsFixed) ↔ ∀ xs, ¬ Within (set xs) v := by
  constructor
  · intro hall xs hxs
    exact hall (set xs) ((within_freeze_iff h).mpr ⟨set xs, hxs, rfl⟩)
  · intro hnone part hpart
    obtain hfixed | ⟨xs, rfl, hxs, -⟩ := isFixed_or_set h hfits hpart
    · exact hfixed
    · exact absurd hxs (hnone xs)

end Value

/-- The first part of its statement that keeps a rule from being hashed. -/
def Rule.changeablePart? (r : Rule) : Option Value :=
  match r.statement with
  | .custom body => body.changeablePart?
  | _ => none

namespace Policy

theorem exists_foldlM_iff {ε α β : Type} {f : β → α → Except ε β} {P : α → Prop}
    (hf : ∀ b a, (∃ b', f b a = .ok b') ↔ P a) {as : List α} {b : β} :
    (∃ b', as.foldlM f b = .ok b') ↔ ∀ a ∈ as, P a := by
  induction as generalizing b with
  | nil => exact ⟨fun _ ↦ nofun, fun _ ↦ ⟨b, rfl⟩⟩
  | cons a as ih =>
    rw [List.foldlM_cons, Outcome.exists_bind_iff, List.forall_mem_cons, ← hf b a]
    constructor
    · rintro ⟨b', hb', hrest⟩
      exact ⟨⟨b', hb'⟩, ih.mp hrest⟩
    · rintro ⟨⟨b', hb'⟩, hrest⟩
      exact ⟨b', hb', ih.mpr hrest⟩

theorem exists_distinctRules_iff {p : Policy} : (∃ rules, p.distinctRules = .ok rules) ↔
    ∀ r ∈ p.rules, r.changeablePart? = none := by
  refine exists_foldlM_iff fun seen r ↦ ?_
  unfold Rule.changeablePart?
  cases r.statement with
  | custom body => cases hpart : body.changeablePart? <;> simp [hpart]
  | _ => simp

end Policy

namespace Config

/-- The body of a rule of a loaded configuration, once compiled, contains nothing that can be
changed but sets of atoms, which are those of the text. Without them everything in it is fixed and
the rule can be hashed; a policy has hashable rules only if none of its rules has a set. -/
theorem frozen_of_load [Machine] {host : Host} {given : Option Path} {stem : String}
    {registry : Registry} {c : Config} {p : Policy} (hload : load host given stem = .ok c)
    (hcompile : c.compile registry = .ok p) :
    (∀ k, ∀ r ∈ c.customRules k, ∃ rule ∈ p.rules, rule.name = r.name ∧ rule.category = k ∧
      rule.statement = .custom r.body.freeze ∧
        (∀ part, Within part r.body.freeze → part.IsFixed ∨
          ∃ xs, part = .set xs ∧ Within part r.body ∧ ∀ x ∈ xs, x.IsAtom) ∧
        ((∀ part, Within part r.body.freeze → part.IsFixed) ↔
          ∀ xs, ¬ Within (.set xs) r.body) ∧
        (rule.changeablePart? = none ↔ ∀ xs, ¬ Within (.set xs) r.body)) ∧
      ((∃ rules, p.distinctRules = .ok rules) ↔
        ∀ r ∈ c.userRules, ∀ xs, ¬ Within (.set xs) r.body) := by
  have hloaded := isLoaded_body hload
  have hshallow := shallow_of_compile hcompile
  have hhash : ∀ k, ∀ r ∈ c.userRules,
      (r.made k).changeablePart? = none ↔ ∀ xs, ¬ Within (.set xs) r.body := by
    intro k r hr
    change r.body.freeze.changeablePart? = none ↔ _
    rw [changeablePart?_freeze, firstSet?_eq_none_iff (hloaded r hr)]
  constructor
  · intro k r hr
    have hr' := mem_userRules_iff.mpr ⟨k, hr⟩
    refine ⟨r.made k, made_mem_rules hcompile hr, rfl, rfl, rfl, fun part hpart ↦ ?_, ?_, ?_⟩
    · exact isFixed_or_set (hloaded r hr') (hshallow r hr') hpart
    · exact forall_isFixed_iff (hloaded r hr') (hshallow r hr')
    · exact hhash k r hr'
  · rw [Policy.exists_distinctRules_iff]
    constructor
    · intro hall r hr
      obtain ⟨k, hk⟩ := mem_userRules_iff.mp hr
      exact (hhash k r hr).mp (hall _ (made_mem_rules hcompile hk))
    · intro hall rule hrule
      obtain hbuilt | ⟨k, r, hr, rfl⟩ := isBuiltIn_or_made hcompile hrule
      · have hmade := hbuilt.statement
        unfold Rule.changeablePart?
        generalize rule.statement = statement at hmade ⊢
        cases hmade <;> rfl
      · have hr' := mem_userRules_iff.mpr ⟨k, hr⟩
        exact (hhash k r hr').mpr (hall r hr')

def countrySet : Value := .set [.str "KP"]

def setRule : CustomRule where
  name := "geo"
  priority := 0
  action := some .block
  statement := [("GeoMatchStatement", .map [(.str "CountryCodes", countrySet)])]

def withSet : Config where
  name := "acme"
  preRules := [setRule]

def setText : String :=
  "name: acme\n" ++
  "pre_rules:\n" ++
  "  - name: geo\n" ++
  "    priority: 0\n" ++
  "    action: BLOCK\n" ++
  "    statement:\n" ++
  "      GeoMatchStatement:\n" ++
  "        CountryCodes: !!set \x7bKP\x7d\n"

def isWithSet : Except Failure Config → Bool
  | .ok {
      version := 1, name := "acme", scope := .regional, defaultAction := .allow, enforce := false
      blockedV4 := none, blockedV6 := none, allowedV4 := none, allowedV6 := none
      allowedPaths := none, allowedUserAgents := none, managedGroups := []
      excludedCommonRules := [], rateLimit := none
      preRules := [{
        name := "geo", priority := 0, action := some .block, override := none
        statement := [("GeoMatchStatement", .map [(.str "CountryCodes", .set [.str "KP"])])]
        metricName := none, metricsEnabled := true, samplingEnabled := true }]
      postRules := [], logSink := sink, associations := [] } => sink = {}
  | _ => false

theorem eq_withSet_of_isWithSet {loaded : Except Failure Config} (h : isWithSet loaded = true) :
    loaded = .ok withSet := by
  unfold isWithSet at h
  split at h
  · obtain rfl := of_decide_eq_true h
    rfl
  · simp at h

section

open UsualMachine

theorem load_withSet : load (policyHost setText) (some policyPath) variableStem = .ok withSet :=
  eq_withSet_of_isWithSet (by decide +kernel)

theorem exists_compile_withSet : ∃ p, withSet.compile .builtIn = .ok p := by
  have hacceptable : withSet.Acceptable := {
    name := by decide
    ruleNames := by decide
    statements := by decide
    prePriority := by decide
    postPriority := by decide
    prePriorities := by decide
    postPriorities := by decide
    addresses := fun k _ _ _ hlist ↦ by cases k <;> simp [withSet, addresses?] at hlist
    patterns := fun k _ _ _ hlist ↦ by cases k <;> simp [withSet, patterns?] at hlist
    toggles := by decide
    names := by decide
    unused := by decide }
  have hshallow : withSet.Shallow := by
    unfold Shallow
    decide
  exact exists_compile_of_acceptable (validated_of_load load_withSet) hacceptable hshallow

theorem within_setRule : Within countrySet setRule.body := by
  refine .inner (w := .map [(.str "CountryCodes", countrySet)]) ?_ (.inner ?_ .self) <;>
    simp [setRule, CustomRule.body, Value.record, Value.inner]

theorem frozen_of_load_withSet : ∃ p, load (policyHost setText) (some policyPath) variableStem =
    .ok withSet ∧ withSet.compile .builtIn = .ok p ∧
      Within countrySet setRule.body.freeze ∧ ¬ countrySet.IsFixed ∧
        ¬ ∃ rules, p.distinctRules = .ok rules := by
  obtain ⟨p, hp⟩ := exists_compile_withSet
  obtain ⟨-, hdistinct⟩ := frozen_of_load load_withSet hp
  have hloaded := isLoaded_body load_withSet setRule List.mem_cons_self
  refine ⟨p, load_withSet, hp, (within_freeze_iff hloaded).mpr ⟨_, within_setRule, rfl⟩, id, ?_⟩
  intro hrules
  exact hdistinct.mp hrules setRule List.mem_cons_self _ within_setRule

/-- Not all rules of loaded configurations are fixed and hashable once they are compiled. -/
theorem not_frozen_withSet : ¬ ∀ host given stem c p, load host given stem = .ok c →
    c.compile .builtIn = .ok p → (∀ r ∈ c.userRules, ∀ part, Within part r.body.freeze →
      part.IsFixed) ∧ ∃ rules, p.distinctRules = .ok rules := by
  intro hall
  obtain ⟨p, hp⟩ := exists_compile_withSet
  have hfixed := (hall _ _ _ _ p load_withSet hp).1 setRule List.mem_cons_self
  have hloaded := isLoaded_body load_withSet setRule List.mem_cons_self
  exact hfixed countrySet ((within_freeze_iff hloaded).mpr ⟨_, within_setRule, rfl⟩)

end

end Config

end WebAcl
