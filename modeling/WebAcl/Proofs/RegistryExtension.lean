import WebAcl.Proofs.Failures
import WebAcl.Proofs.SwitchedGroups
import WebAcl.Proofs.Validated

namespace WebAcl

open Compiling Outcome Text

def Problem.withoutAdvice (p : Problem) : Problem :=
  { p with advice := "" }

/-- What is left of a failure without advice: its kind, its message and what they refer to. -/
def Failure.withoutAdvice : Failure → Failure
  | problem p => problem p.withoutAdvice
  | crash c => crash c

theorem Failure.withoutAdvice_ofProblem (p : Problem) :
    (ofProblem p).withoutAdvice = ofProblem p.withoutAdvice := by
  unfold ofProblem
  change _ = if p.cause.isWritable = true then _ else _
  split <;> rfl

namespace Registry

variable {r r' : Registry} {g : ManagedGroup}

theorem group?_register (hr : r.register g = .ok r') (name : String) : r'.group? name =
    (r.group? name).or (if g.key = ManagedGroup.normalizeKey name then some g else none) := by
  obtain ⟨-, -, rfl⟩ := register_eq_ok_iff.mp hr
  rw [group?, List.find?_append, List.find?_singleton]
  simp only [beq_iff_eq]
  rfl

theorem group?_eq_of_ne (hr : r.register g = .ok r') {name : String}
    (hname : r'.group? name ≠ some g) : r'.group? name = r.group? name := by
  have hgroup := group?_register hr name
  cases hold : r.group? name with
  | some h => rw [hgroup, hold, Option.some_or]
  | none =>
    rw [hold, Option.none_or] at hgroup
    split at hgroup
    · exact absurd hgroup hname
    · exact hgroup

theorem normalizeKey_ne_key (hr : r.register g = .ok r') {name : String}
    (hname : r'.group? name ≠ some g) : ManagedGroup.normalizeKey name ≠ g.key := by
  intro hkey
  obtain ⟨hfresh, -, -⟩ := register_eq_ok_iff.mp hr
  have hold : r.group? name = none :=
    group?_eq_none_iff.mpr fun h hh ↦ hkey ▸ hfresh h hh
  exact hname (by rw [group?_register hr, hold, if_pos hkey.symm, Option.none_or])

theorem filter_inOrder_register (hsound : r.Sound) (hr : r.register g = .ok r') :
    r'.inOrder.filter (· ≠ g) = r.inOrder := by
  have hsound' : r'.Sound := by
    have h := hsound.afterCall g
    rwa [afterCall, hr] at h
  obtain ⟨hkeys, -, rfl⟩ := register_eq_ok_iff.mp hr
  have hold : r.groups.filter (· ≠ g) = r.groups := by
    refine List.filter_eq_self.mpr fun h hh ↦ ?_
    simpa using fun heq ↦ hkeys h hh (congrArg _ heq)
  have hperm : ((inOrder ⟨r.groups ++ [g]⟩).filter (· ≠ g)).Perm r.inOrder := by
    refine ((inOrder_perm _).filter _).trans ?_
    rw [List.filter_append, hold]
    simpa using r.inOrder_perm.symm
  exact hperm.eq_of_pairwise (fun _ _ _ _ h h' ↦ by omega)
    ((inOrder_ascending hsound').filter _) (inOrder_ascending hsound)

theorem mandatory_register (hsound : r.Sound) (hr : r.register g = .ok r')
    (hg : g.mandatory = false) : r'.mandatory = r.mandatory := by
  rw [mandatory, mandatory, ← filter_inOrder_register hsound hr, List.filter_filter]
  refine List.filter_congr fun h _ ↦ ?_
  by_cases heq : h = g
  · simp [heq, hg]
  · simp [heq]

end Registry

namespace ManagedGroups

open Config

variable {r r' : Registry} {g : ManagedGroup} {s : Selection}

/-- Groups that are off can be left out. -/
theorem rules_filter {enforce : Bool} {gs : List ManagedGroup} {keep : ManagedGroup → Bool}
    (h : ∀ g ∈ gs, keep g = false → s.lookup g.key = none) :
    rules s enforce (gs.filter keep) = rules s enforce gs := by
  induction gs with
  | nil => rfl
  | cons g gs ih =>
    obtain ⟨hg, hgs⟩ := List.forall_mem_cons.mp h
    cases hkeep : keep g with
    | true =>
      rw [List.filter_cons_of_pos hkeep, rules, rules, ih hgs]
    | false =>
      rw [List.filter_cons_of_neg (by simp [hkeep]), ih hgs, rules, hg hkeep]

section Extended

variable (hr : r.register g = .ok r')
include hr

theorem applyToggles_register {toggles : List GroupToggle}
    (hnames : ∀ t ∈ toggles, r'.group? t.name ≠ some g) (i : Nat) :
    (applyToggles r' s i toggles).mapError Problem.withoutAdvice =
      (applyToggles r s i toggles).mapError Problem.withoutAdvice := by
  induction toggles generalizing s i with
  | nil => rfl
  | cons t ts ih =>
    obtain ⟨ht, hts⟩ := List.forall_mem_cons.mp hnames
    have hstep : (applyToggle r' s i t).mapError Problem.withoutAdvice =
        (applyToggle r s i t).mapError Problem.withoutAdvice := by
      unfold applyToggle
      rw [Registry.group?_eq_of_ne hr ht]
      cases r.group? t.name <;> rfl
    rw [applyToggles, applyToggles, mapError_bind, mapError_bind, hstep]
    congr 1
    funext s'
    exact ih hts (i + 1)

theorem select_register (hsound : r.Sound) (hg : g.mandatory = false)
    {toggles : List GroupToggle} (hnames : ∀ t ∈ toggles, r'.group? t.name ≠ some g)
    (excludedCommon : List String) :
    (select r' toggles excludedCommon).mapError Problem.withoutAdvice =
      (select r toggles excludedCommon).mapError Problem.withoutAdvice := by
  rw [select, select, mapError_bind, mapError_bind, Registry.mandatory_register hsound hr hg,
    applyToggles_register hr hnames]

theorem lookup_register {toggles : List GroupToggle}
    (hnames : ∀ t ∈ toggles, r'.group? t.name ≠ some g) {excludedCommon : List String}
    (hs : select r toggles excludedCommon = .ok s) : s.lookup g.key = none := by
  have htoggles : togglesOf toggles g.key = [] :=
    List.filter_eq_nil_iff.mpr fun t ht ↦ by
      simpa using Registry.normalizeKey_ne_key hr (hnames t ht)
  have hinitially : (initially r).lookup g.key = none := by
    obtain ⟨hkeys, -, -⟩ := Registry.register_eq_ok_iff.mp hr
    refine List.lookup_eq_none_iff.mpr fun e he ↦ ?_
    obtain ⟨h, hh, rfl⟩ := List.mem_map.mp he
    have hmem : h ∈ r.groups := List.mem_mergeSort.mp (List.mem_of_mem_filter hh)
    simpa using (hkeys h hmem).symm
  rw [lookup_select hs, htoggles, List.foldl_nil, hinitially, Option.map_none]

theorem alone_build_register (hsound : r.Sound) (hg : g.mandatory = false)
    {toggles : List GroupToggle} (hnames : ∀ t ∈ toggles, r'.group? t.name ≠ some g)
    (excludedCommon : List String) (enforce : Bool) :
    (build toggles excludedCommon enforce r').alone.mapError Failure.withoutAdvice =
      (build toggles excludedCommon enforce r).alone.mapError Failure.withoutAdvice := by
  have hselect := select_register hr hsound hg hnames excludedCommon
  rw [alone_build, alone_build]
  cases hs : select r toggles excludedCommon with
  | error p =>
    cases hs' : select r' toggles excludedCommon with
    | ok s => simp [hs, hs'] at hselect
    | error p' =>
      rw [hs, hs', mapError_error, mapError_error, Except.error.injEq] at hselect
      simp [Failure.withoutAdvice_ofProblem, hselect]
  | ok s =>
    have hs' : select r' toggles excludedCommon = .ok s := by
      rw [hs, mapError_ok] at hselect
      exact mapError_eq_ok_iff.mp hselect
    have hrules : rules s enforce r'.inOrder = rules s enforce r.inOrder := by
      rw [← Registry.filter_inOrder_register hsound hr]
      refine (rules_filter fun h _ hh ↦ ?_).symm
      obtain rfl : h = g := by simpa using hh
      exact lookup_register hr hnames hs
    rw [hs', mapError_ok, ok_bind, ok_bind, hrules]

end Extended

end ManagedGroups

namespace Config

theorem compile_register [Machine] {r r' : Registry} {g : ManagedGroup} {c : Config}
    (hsound : r.Sound) (hr : r.register g = .ok r') (hg : g.mandatory = false)
    (hnames : ∀ t ∈ c.managedGroups, r'.group? t.name ≠ some g) :
    (c.compile r').mapError Failure.withoutAdvice =
      (c.compile r).mapError Failure.withoutAdvice := by
  have hfeature : ∀ k, (c.feature r' (strip c.name) k).alone.mapError Failure.withoutAdvice =
      (c.feature r (strip c.name) k).alone.mapError Failure.withoutAdvice := by
    intro k
    cases k with
    | managed => exact ManagedGroups.alone_build_register hr hsound hg hnames _ _
    | _ => rfl
  rw [compile_eq, compile_eq]
  split
  · rfl
  · rw [mapError_bind, mapError_bind, mapError_mapM, mapError_mapM]
    simp only [hfeature]

/-- A failure is not the compiler's own, unless a group that is on has a slot outside the band. -/
inductive Blameless (registry : Registry) (c : Config) : Failure → Prop
  | problem {p : Problem} (sound : p.cause.kind ≠ .brokenInvariant)
    (outside : p.cause.kind = .bandExhausted → ∃ g ∈ registry.groups,
      ManagedGroups.IsOn c.managedGroups g ∧ (g.slot < 0 ∨ 6 < g.slot)) :
    Blameless registry c (.problem p)
  | crash (x : Crash) : Blameless registry c (.crash x)

theorem blameless_ofProblem {registry : Registry} {c : Config} {p : Problem}
    (h : c.Blameless registry (.problem p)) : c.Blameless registry (.ofProblem p) := by
  unfold Failure.ofProblem
  split
  · exact h
  · exact .crash _

theorem onlyFails_blameless [Machine] {registry : Registry} {c : Config} (hsound : registry.Sound)
    (hc : c.Validated) : OnlyFails (c.Blameless registry) (c.compile registry) := by
  have hcovers : c.Covers registry (c.Blameless registry) := {
    field := fun _ _ _ ↦ .problem nofun nofun
    address := fun _ _ _ ↦ .problem nofun nofun
    pattern := fun _ _ _ ↦ .problem nofun nofun
    crash := fun _ _ _ _ _ _ _ _ _ ↦ .crash _
    collision := fun _ _ _ _ ↦ blameless_ofProblem (.problem nofun nofun)
    deep := fun _ _ _ ↦ .crash _
    mandatory := fun _ ↦ .problem nofun nofun
    slots := fun s hs failure h ↦ by
      obtain ⟨g, hg, hon, hout, hfailure⟩ := ManagedGroups.rules_inOrder_eq_error hsound hs h
      rw [hfailure]
      exact blameless_ofProblem (.problem nofun fun _ ↦ ⟨g, hg, hon, hout⟩)
    arrangement := fun name out hout ↦ by
      refine RuleList.onlyFails_arrange (fun _ ↦ ?_) (fun _ _ _ ↦ ?_) fun r hr problem hp ↦ ?_
      · exact .problem nofun nofun
      · exact blameless_ofProblem (.problem nofun nofun)
      · simp [(breach?_eq_none_iff hout).mpr hc.outcomes r hr] at hp }
  exact hcovers.onlyFails_compile

/-- Registries that are reached by calls. Keys and slots are unique, the groups come in ascending
order of slots, and a call that is refused might as well not be made. A group that is not mandatory
and that a configuration does not name leaves the result of compiling it as it is, up to the advice
of a failure. No validated configuration makes the compiler fail on its own account, and a band is
full only if a group is on whose slot lies outside. -/
theorem extension_conservative [Machine] (calls : List ManagedGroup) :
    let registry := ({} : Registry).afterCalls calls
    registry.Sound ∧ (registry.inOrder.Pairwise fun g h ↦ g.slot < h.slot) ∧
    (∀ before g after conflict, calls = before ++ g :: after →
      (({} : Registry).afterCalls before).register g = .error conflict →
        registry = ({} : Registry).afterCalls (before ++ after)) ∧
    (∀ (g : ManagedGroup) (extended : Registry) (c : Config),
      registry.register g = .ok extended → g.mandatory = false →
      (∀ t ∈ c.managedGroups, extended.group? t.name ≠ some g) →
        (c.compile extended).mapError Failure.withoutAdvice =
          (c.compile registry).mapError Failure.withoutAdvice) ∧
    ∀ (c : Config) (p : Problem), c.Validated → c.compile registry = .error (.problem p) →
      p.cause.kind ≠ .brokenInvariant ∧ (p.cause.kind = .bandExhausted →
        ∃ g ∈ registry.groups, ManagedGroups.IsOn c.managedGroups g ∧
          (g.slot < 0 ∨ 6 < g.slot)) := by
  intro registry
  have hsound : registry.Sound := Registry.sound_empty.afterCalls calls
  refine ⟨hsound, Registry.inOrder_ascending hsound, ?_, ?_, ?_⟩
  · rintro before g after conflict hcalls hrefused
    simp only [registry, hcalls]
    exact Registry.afterCalls_refused hrefused
  · intro g extended c hregister hoptional hnames
    exact compile_register hsound hregister hoptional hnames
  · intro c p hc hcompile
    cases onlyFails_blameless hsound hc _ hcompile with
    | problem sound outside => exact ⟨sound, outside⟩

def outlying : ManagedGroup where
  key := "outlying"
  vendorRuleSet := "Outlying"
  ruleName := "outlying"
  slot := 9

def crowdedCalls : List ManagedGroup :=
  ManagedGroup.builtIn ++ [{ outlying with key := "php" }, outlying]

def naming (name : String) : Config where
  name := "acme"
  managedGroups := [{ name := name }]

theorem compile_naming_outlying [Machine] :
    (naming "Outlying").compile (({} : Registry).afterCalls crowdedCalls) =
      .error (.problem { cause := .bandExhausted "managed" 10 7 }) := by
  have hwritable : Failure.ofProblem { cause := .bandExhausted "managed" 10 7 } =
      .problem { cause := .bandExhausted "managed" 10 7 } := if_pos (by decide +kernel)
  have horder : (({} : Registry).afterCalls crowdedCalls).inOrder =
      ManagedGroup.builtIn ++ [outlying] :=
    SortedBy.mergeSort_eq_self ManagedGroup.slot (by decide)
  have hselect : ManagedGroups.select (({} : Registry).afterCalls crowdedCalls)
      (naming "Outlying").managedGroups [] =
        .ok [("bad-actors", []), ("common", []), ("outlying", [])] := by
    rw [ManagedGroups.select, Registry.mandatory, horder]
    rfl
  rw [← hwritable]
  refine compile_eq_error (k := .managed) (by decide) (fun l hl ↦ ⟨[], ?_⟩) ?_
  · cases l with
    | managed => exact absurd rfl hl
    | _ => rfl
  · rw [feature, ManagedGroups.alone_build]
    change (ManagedGroups.select _ (naming "Outlying").managedGroups []).mapError _ >>= _ = _
    rw [hselect, mapError_ok, ok_bind, horder]
    rfl

section

open UsualMachine

theorem extension_conservative_crowded :
    let registry := ({} : Registry).afterCalls crowdedCalls
    let far : ManagedGroup := { outlying with key := "far", slot := 8 }
    registry = ({} : Registry).afterCalls (ManagedGroup.builtIn ++ [outlying]) ∧
    ((naming "php").compile ⟨registry.groups ++ [far]⟩).mapError Failure.withoutAdvice =
      ((naming "php").compile registry).mapError Failure.withoutAdvice ∧
    ∃ g ∈ registry.groups,
      ManagedGroups.IsOn (naming "Outlying").managedGroups g ∧ (g.slot < 0 ∨ 6 < g.slot) := by
  intro registry far
  obtain ⟨-, -, hrefused, hextended, hfails⟩ := extension_conservative crowdedCalls
  have hvalidated : (naming "Outlying").Validated := {
    outcomes := by simp [naming]
    threshold := by simp [naming]
    retention := by decide }
  refine ⟨?_, ?_, ?_⟩
  · exact hrefused ManagedGroup.builtIn { outlying with key := "php" } [outlying] (.key "php")
      rfl (by decide)
  · exact hextended far ⟨registry.groups ++ [far]⟩ (naming "php") (by decide) rfl (by decide)
  · exact (hfails (naming "Outlying") _ hvalidated compile_naming_outlying).2 rfl

end

end Config

end WebAcl
