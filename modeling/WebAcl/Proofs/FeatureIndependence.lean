import WebAcl.Proofs.ExactAcceptance

namespace WebAcl

open Compiling Text

namespace Config

/-- What is taken out of a configuration: features, all toggles of some groups by their keys, and
all rules of the user but those listed here. -/
structure Removal where
  features : Category → Bool
  groups : String → Bool
  preRules : List CustomRule
  postRules : List CustomRule

def without (c : Config) (R : Removal) : Config :=
  let unlessOff {α : Type} (k : Category) (value : Option α) : Option α :=
    if R.features k then none else value
  { c with
    blockedV4 := unlessOff .blockV4 c.blockedV4
    blockedV6 := unlessOff .blockV6 c.blockedV6
    allowedV4 := unlessOff .allowV4 c.allowedV4
    allowedV6 := unlessOff .allowV6 c.allowedV6
    allowedPaths := unlessOff .allowPath c.allowedPaths
    allowedUserAgents := unlessOff .allowUserAgent c.allowedUserAgents
    managedGroups := c.managedGroups.filter fun t ↦ !R.groups (ManagedGroup.normalizeKey t.name)
    rateLimit := unlessOff .rateLimit c.rateLimit
    preRules := R.preRules
    postRules := R.postRules }

namespace Removal

/-- Rules of the user can only be left out, and mandatory groups stay as they are. -/
structure Fits (R : Removal) (c : Config) : Prop where
  preRules : R.preRules.Sublist c.preRules
  postRules : R.postRules.Sublist c.postRules
  groups : ∀ g ∈ ManagedGroup.builtIn, R.groups g.key = true → g.mandatory = false

def keeps (R : Removal) (r : Rule) : Bool :=
  match r.category with
  | .preCustom => R.preRules.any (·.name == r.name)
  | .postCustom => R.postRules.any (·.name == r.name)
  | .managed => !ManagedGroup.builtIn.any fun g ↦ R.groups g.key && g.ruleName == r.name
  | k => !R.features k

end Removal

theorem filter_any_key {α : Type} {key : α → String} {xs ys : List α} (h : ys.Sublist xs)
    (hkeys : (xs.map key).Nodup) : (xs.filter fun x ↦ ys.any fun y ↦ key y == key x) = ys := by
  induction h with
  | slnil => rfl
  | @cons ys xs x h ih =>
    obtain ⟨hx, hkeys⟩ := List.nodup_cons.mp hkeys
    have hfresh : (ys.any fun y ↦ key y == key x) = false := by
      simp only [List.any_eq_false, beq_iff_eq]
      exact fun y hy heq ↦ hx (List.mem_map.mpr ⟨y, h.subset hy, heq⟩)
    rw [List.filter_cons_of_neg (by simp [hfresh]), ih hkeys]
  | @cons_cons ys xs x h ih =>
    obtain ⟨hx, hkeys⟩ := List.nodup_cons.mp hkeys
    have hrest : (xs.filter fun z ↦ (x :: ys).any fun y ↦ key y == key z) =
        xs.filter fun z ↦ ys.any fun y ↦ key y == key z := by
      refine List.filter_congr fun z hz ↦ ?_
      have hne : key x ≠ key z := fun heq ↦ hx (List.mem_map.mpr ⟨z, hz, heq.symm⟩)
      simp [hne]
    rw [List.filter_cons_of_pos (by simp), hrest, ih hkeys]

namespace Removal

variable {R : Removal} {c : Config}

theorem togglesOf_without (key : String) :
    ManagedGroups.togglesOf (c.without R).managedGroups key =
      if R.groups key then [] else ManagedGroups.togglesOf c.managedGroups key := by
  simp only [ManagedGroups.togglesOf, without, List.filter_filter]
  split
  next hkey =>
    refine List.filter_eq_nil_iff.mpr fun t _ ht ↦ ?_
    simp only [Bool.and_eq_true, beq_iff_eq, Bool.not_eq_true'] at ht
    simp [ht.1, hkey] at ht
  next hkey =>
    refine List.filter_congr fun t _ ↦ ?_
    by_cases ht : ManagedGroup.normalizeKey t.name = key <;> simp [ht, hkey]

theorem exists_select (hfits : R.Fits c) {s : ManagedGroups.Selection}
    (hs : ManagedGroups.select .builtIn c.managedGroups c.excludedCommonRules = .ok s) :
    ∃ s', ManagedGroups.select .builtIn (c.without R).managedGroups c.excludedCommonRules = .ok s' ∧
      ∀ g ∈ ManagedGroup.builtIn,
        s'.lookup g.key = if R.groups g.key then none else s.lookup g.key := by
  have htoggles := (ManagedGroups.exists_select_iff ..).mp ⟨s, hs⟩
  obtain ⟨s', hs'⟩ := (ManagedGroups.exists_select_iff .builtIn (c.without R).managedGroups
    c.excludedCommonRules).mpr fun t ht ↦ htoggles t (List.mem_of_mem_filter ht)
  refine ⟨s', hs', fun g hg ↦ ?_⟩
  rw [ManagedGroups.lookup_select hs', ManagedGroups.lookup_select hs, togglesOf_without]
  cases hkey : R.groups g.key with
  | true =>
    -- a group that is not mandatory is off without toggles
    have hoff := (ManagedGroups.isSome_initially_builtIn hg).trans (hfits.groups g hg hkey)
    rw [← Bool.not_eq_true, Option.not_isSome_iff_eq_none] at hoff
    simp [hoff]
  | false => rfl

theorem keeps_group {g : ManagedGroup} (hg : g ∈ ManagedGroup.builtIn) (excluded : List String)
    (e : Bool) (p : Int) :
    R.keeps (ManagedGroups.rule g excluded e p) = !R.groups g.key := by
  have hnames : ∀ g ∈ ManagedGroup.builtIn, ∀ h ∈ ManagedGroup.builtIn,
      h.ruleName = g.ruleName → h = g := by decide
  change (!ManagedGroup.builtIn.any fun h ↦ R.groups h.key && h.ruleName == g.ruleName) = _
  congr 1
  rw [Bool.eq_iff_iff, List.any_eq_true]
  constructor
  · rintro ⟨h, hh, hkey⟩
    simp only [Bool.and_eq_true, beq_iff_eq] at hkey
    exact hnames g hg h hh hkey.2 ▸ hkey.1
  · exact fun hkey ↦ ⟨g, hg, by simp [hkey]⟩

theorem placed_without {s s' : ManagedGroups.Selection} (e : Bool) {gs : List ManagedGroup}
    (hgs : ∀ g ∈ gs, g ∈ ManagedGroup.builtIn)
    (h : ∀ g ∈ gs, s'.lookup g.key = if R.groups g.key then none else s.lookup g.key) :
    ManagedGroups.placed s' e gs = (ManagedGroups.placed s e gs).filter R.keeps := by
  induction gs with
  | nil => rfl
  | cons g gs ih =>
    obtain ⟨hg, hgs⟩ := List.forall_mem_cons.mp hgs
    obtain ⟨hlookup, h⟩ := List.forall_mem_cons.mp h
    rw [ManagedGroups.placed_cons, ManagedGroups.placed_cons, hlookup, ih hgs h]
    cases hkey : R.groups g.key with
    | true => cases s.lookup g.key <;> simp [keeps_group hg, hkey]
    | false => cases s.lookup g.key <;> simp [keeps_group hg, hkey]

/-- What is kept of the rules of a generated feature is all of them or none. -/
theorem filter_keeps {k : Category} {rules : List Rule} (hk : (Band.of k).custom = false)
    (hm : k ≠ .managed) (hrules : ∀ r ∈ rules, r.category = k) :
    rules.filter R.keeps = if R.features k then [] else rules := by
  have hkeeps : ∀ r ∈ rules, R.keeps r = !R.features k := by
    intro r hr
    rw [keeps, hrules r hr]
    cases k <;> simp [Band.of] at hk <;> first | rfl | exact absurd rfl hm
  rw [List.filter_congr hkeeps]
  cases R.features k <;> simp

/-- Taking things out of a configuration takes their rules out of what each feature makes. -/
theorem alone_feature_without [Machine] {name : String} (hfits : R.Fits c)
    (hnames : ∀ k, ((c.customRules k).map (·.name)).Nodup) {k : Category} {rules : List Rule}
    (h : (c.feature .builtIn name k).alone = .ok rules) :
    ((c.without R).feature .builtIn name k).alone = .ok (rules.filter R.keeps) := by
  have hcategory : ∀ r ∈ rules, r.category = k := fun r hr ↦ (madeFor_of_feature h r hr).category
  cases k with
  | preCustom =>
    obtain ⟨hpass, rfl⟩ := (alone_custom_eq_ok_iff rfl).mp h
    refine (alone_custom_eq_ok_iff rfl).mpr
      ⟨fun r hr ↦ hpass r (hfits.preRules.subset hr), ?_⟩
    rw [List.filter_map]
    exact congrArg _ (filter_any_key hfits.preRules (hnames .preCustom))
  | postCustom =>
    obtain ⟨hpass, rfl⟩ := (alone_custom_eq_ok_iff rfl).mp h
    refine (alone_custom_eq_ok_iff rfl).mpr
      ⟨fun r hr ↦ hpass r (hfits.postRules.subset hr), ?_⟩
    rw [List.filter_map]
    exact congrArg _ (filter_any_key hfits.postRules (hnames .postCustom))
  | managed =>
    obtain ⟨s, hs, hrules⟩ := alone_managed_eq_ok_iff.mp h
    rw [ManagedGroups.rules_builtIn] at hrules
    obtain rfl := Except.ok.inj hrules
    obtain ⟨s', hs', hlookup⟩ := exists_select hfits hs
    refine alone_managed_eq_ok_iff.mpr ⟨s', hs', ?_⟩
    rw [ManagedGroups.rules_builtIn, ← placed_without _ (fun _ hg ↦ hg) hlookup]
    rfl
  | rateLimit =>
    rw [filter_keeps rfl (by decide) hcategory]
    cases hoff : R.features .rateLimit <;>
      simp_all [feature, without, RateLimit.alone_build]
  | allowPath | allowUserAgent =>
    rw [filter_keeps rfl (by decide) hcategory]
    cases hoff : R.features _ <;>
      simp_all [feature, without, patterns?, PatternList.alone_build_none]
  | blockV4 | blockV6 | allowV4 | allowV6 =>
    rw [filter_keeps rfl (by decide) hcategory]
    cases hoff : R.features _ <;>
      simp_all [feature, without, addresses?, AddressList.alone_build_none]

theorem customNames_nodup [Machine] {name : String} {out : Category → List Rule}
    (hout : ∀ k, (c.feature .builtIn name k).alone = .ok (out k))
    (hnames : ((Choice.all.flatMap out).map (·.name)).Nodup) (k : Category) :
    ((c.customRules k).map (·.name)).Nodup := by
  have hnames := ((names_nodup_iff hout).mp hnames).1
  rw [userRules, List.map_append] at hnames
  cases k with
  | preCustom => exact hnames.of_append_left
  | postCustom => exact hnames.of_append_right
  | _ => exact List.nodup_nil

/-- A configuration that compiles still does when features, toggles of groups or rules of the user
are taken out of it. The policy loses their rules and is otherwise the same. -/
theorem compile_without [Machine] {p : Policy} (h : c.compile .builtIn = .ok p) (hfits : R.Fits c) :
    (c.without R).compile .builtIn = .ok { p with rules := p.rules.filter R.keeps } := by
  obtain ⟨hname, out, hout, ordered, hordered, rfl⟩ := compile_eq_ok_iff.mp h
  have hcustom := customNames_nodup hout (RuleList.arrange_eq_ok_iff.mp hordered).1
  have harrange := RuleList.arrange_filter hordered R.keeps
  rw [List.filter_flatMap] at harrange
  exact compile_eq_ok_iff.mpr ⟨hname, fun k ↦ (out k).filter R.keeps,
    fun k ↦ alone_feature_without hfits hcustom (hout k), _, harrange, rfl⟩

def samplerRemoval : Removal where
  features := (· == .blockV4)
  groups := (· == "php")
  preRules := []
  postRules := sampler.postRules

theorem samplerRemoval_fits : samplerRemoval.Fits sampler where
  preRules := List.nil_sublist _
  postRules := .refl _
  groups := by decide

section

open UsualMachine

theorem compile_sampler_without : ∃ p, sampler.compile .builtIn = .ok p ∧
    samplerRemoval.Fits sampler ∧ (sampler.without samplerRemoval).compile .builtIn =
      .ok { p with rules := p.rules.filter samplerRemoval.keeps } := by
  obtain ⟨p, hp⟩ := exists_compile_sampler
  exact ⟨p, hp, samplerRemoval_fits, compile_without hp samplerRemoval_fits⟩

end

end Removal

end Config

end WebAcl
