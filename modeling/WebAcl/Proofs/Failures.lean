import WebAcl.Proofs.Acceptance

namespace WebAcl

open Compiling Text Outcome

def Regex.Fault.crash? : Fault → Option Crash
  | .malformed .. => none
  | .hugeCode => some .hugeCode
  | .hugeCount => some .hugeCount
  | .flagConflict => some (.badValue "ASCII and UNICODE flags are incompatible")
  | .behindTooFar => some .behindTooFar

section Rules

variable {P : Failure → Prop}

theorem onlyFails_ofProblem {α : Type} {x : Except Problem α}
    (h : OnlyFails (fun p ↦ P (.ofProblem p)) x) : OnlyFails P (x.mapError .ofProblem) :=
  h.mapError fun _ ↦ id

theorem AddressList.onlyFails_checkAddresses {field : String} {version : IpVersion}
    {listed : List String}
    (h : ∀ address reason, P (.problem { cause := .invalidAddress field address reason })) :
    OnlyFails P ((checkAddresses field version listed).mapError .ofProblem) := by
  refine onlyFails_ofProblem (.mapM fun address _ ↦ ?_)
  unfold checkAddress
  dsimp only
  split
  · exact .error (h _ _)
  · exact .ok _

theorem PatternList.onlyFails_checkPatterns [Machine] {field : String} {listed : List String}
    (hreport : ∀ pattern reason, P (.problem { cause := .invalidPattern field pattern reason }))
    (hcrash : ∀ pattern ∈ listed, ∀ fault crash,
      Regex.check Machine.release pattern.toList = .error fault →
        fault.crash? = some crash → P (.crash crash)) :
    OnlyFails P (checkPatterns field listed) := by
  refine .mapM fun pattern hp ↦ ?_
  unfold checkPattern
  dsimp only
  split
  · exact .error (hreport _ _)
  · split
    · exact .error (hreport _ _)
    · cases hcheck : Regex.check Machine.release pattern.toList with
      | ok _ => exact .ok _
      | error fault =>
        cases fault with
        | malformed message position => exact .error (hreport _ _)
        | hugeCode | hugeCount | flagConflict | behindTooFar =>
          exact .error (hcrash pattern hp _ _ hcheck rfl)

theorem Allocator.onlyFails_checkCustom {k : Category} {p : Int} {ruleName : String}
    (hk : (Band.of k).custom = true)
    (h : ∀ note, P (.ofProblem
      { cause := .priorityCollision ruleName p (Choice.text k), note := note })) :
    OnlyFails P ((checkCustom k p ruleName).mapError .ofProblem) := by
  refine onlyFails_ofProblem ?_
  unfold checkCustom
  simp only [hk, Bool.not_true, Bool.false_eq_true, if_false]
  by_cases hp : p < 0 ∨ (!(Band.of k).contains p) = true
  · simp only [hp, if_true]
    exact .error (h _)
  · simp only [hp, if_false]
    cases Band.fixedOf? p with
    | some b => exact .error (h _)
    | none => exact .ok _

theorem Config.CustomRule.onlyFails_toRules [Machine] {k : Category} {i : Nat}
    {rs : List CustomRule} (hk : (Band.of k).custom = true)
    (hfield : ∀ field, P (.problem { cause := .emptyField field }))
    (hcollision : ∀ r ∈ rs, ∀ note, P (.ofProblem
      { cause := .priorityCollision r.name r.priority (Choice.text k), note := note }))
    (hdeep : ∀ r ∈ rs, ¬ Machine.copying.fits 0 r.body = true → P (.crash .nestedTooDeep)) :
    OnlyFails P (toRules k i rs) := by
  induction rs generalizing i with
  | nil => exact .ok _
  | cons r rs ih =>
    obtain ⟨hr, hrs⟩ := List.forall_mem_cons.mp hcollision
    obtain ⟨hdeepr, hdeeps⟩ := List.forall_mem_cons.mp hdeep
    refine .bind ?_ fun _ _ ↦ (ih hrs hdeeps).bind fun _ _ ↦ .ok _
    have hcopy : OnlyFails P ((Statement.copyOfBody r.body).mapError Failure.crash) := by
      unfold Statement.copyOfBody
      split
      next => exact .ok _
      next hfits => exact .error (hdeepr hfits)
    unfold toRule
    by_cases hn : strip r.name = ""
    · simp only [hn, if_true]
      exact .error (hfield _)
    · by_cases hs : r.statement.isEmpty
      · simp only [hn, hs, if_true, if_false]
        exact .error (hfield _)
      · simp only [hn, hs, if_false]
        exact (Allocator.onlyFails_checkCustom hk hr).bind fun _ _ ↦
          hcopy.bind fun _ _ ↦ .ok _

theorem ManagedGroups.onlyFails_select {registry : Registry} {toggles : List Config.GroupToggle}
    {excludedCommon : List String}
    (hfield : ∀ field note advice,
      P (.problem { cause := .emptyField field, note := note, advice := advice }))
    (hmandatory : ∀ key, P (.problem { cause := .mandatoryGroup key })) :
    OnlyFails P ((select registry toggles excludedCommon).mapError .ofProblem) := by
  refine onlyFails_ofProblem (.bind ?_ fun _ _ ↦ .ok _)
  generalize (registry.mandatory.map fun g ↦ (g.key, ([] : List String))) = s, (0 : Nat) = i
  induction toggles generalizing s i with
  | nil => exact .ok _
  | cons t ts ih =>
    refine .bind ?_ fun _ _ ↦ ih _ _
    unfold applyToggle
    split
    · exact .error (hfield _ _ _)
    · split
      · exact .ok _
      · split
        · exact .error (hmandatory _)
        · exact .ok _

/-- The order of the arrangement is never at fault, so only a clash of two rules or a rule that
breaks an invariant can be. -/
theorem RuleList.onlyFails_arrange {rules : List Rule} {enforce : Bool}
    (hname : ∀ name, P (.problem { cause := .duplicateName name }))
    (hpriority : ∀ r ∈ rules, ∀ names,
      P (.ofProblem { cause := .duplicatePriority r.priority names }))
    (hbreach : ∀ r ∈ rules, ∀ failure, breach? enforce r = some failure → P failure) :
    OnlyFails P (arrange rules enforce) := by
  unfold arrange
  cases repeatedName? [] rules with
  | some name => exact .error (hname _)
  | none =>
    cases hp : repeatedPriority? rules with
    | some found =>
      obtain ⟨r, hr, rfl⟩ := Option.map_eq_some_iff.mp hp
      exact .error (hpriority r (List.mem_of_find?_eq_some hr) _)
    | none =>
      cases hb : rules.findSome? (breach? enforce) with
      | some failure =>
        obtain ⟨r, hr, hfailure⟩ := List.exists_of_findSome?_eq_some hb
        exact .error (hbreach r hr _ hfailure)
      | none =>
        have hd := descent?_eq_none (sorted_pairwise_lt (repeatedPriority?_eq_none_iff.mp hp))
        simp only [hd]
        exact .ok _

end Rules

namespace Config

/-- A property of failures that holds of all those in which a compilation may end. -/
structure Covers [Machine] (registry : Registry) (c : Config) (P : Failure → Prop) : Prop where
  field : ∀ field note advice,
    P (.problem { cause := .emptyField field, note := note, advice := advice })
  address : ∀ field address reason,
    P (.problem { cause := .invalidAddress field address reason })
  pattern : ∀ field pattern reason,
    P (.problem { cause := .invalidPattern field pattern reason })
  crash : ∀ k listed pattern fault crash, c.patterns? k = some listed → pattern ∈ listed →
    Regex.check Machine.release pattern.toList = .error fault →
      fault.crash? = some crash → P (.crash crash)
  collision : ∀ r ∈ c.userRules, ∀ band note,
    P (.ofProblem { cause := .priorityCollision r.name r.priority band, note := note })
  deep : ∀ r ∈ c.userRules, ¬ Machine.copying.fits 0 r.body = true → P (.crash .nestedTooDeep)
  mandatory : ∀ key, P (.problem { cause := .mandatoryGroup key })
  slots : ∀ s, ManagedGroups.select registry c.managedGroups c.excludedCommonRules = .ok s →
    OnlyFails P ((ManagedGroups.rules s c.enforce registry.inOrder).exec {}).1
  arrangement : ∀ (name : String) (out : Category → List Rule),
    (∀ k, (c.feature registry name k).alone = .ok (out k)) →
      OnlyFails P (RuleList.arrange (Choice.all.flatMap out) c.enforce)

namespace Covers

variable {registry : Registry} {c : Config} {P : Failure → Prop}

theorem onlyFails_feature [Machine] (h : c.Covers registry P) (name : String) (k : Category) :
    OnlyFails P (c.feature registry name k).alone := by
  cases k with
  | preCustom | postCustom =>
    rw [alone_custom rfl]
    refine CustomRule.onlyFails_toRules rfl (fun _ ↦ h.field _ _ _) (fun r hr ↦ ?_) fun r hr ↦ ?_
    · exact h.collision r (by simp_all [userRules, customRules]) _
    · exact h.deep r (by simp_all [userRules, customRules])
  | managed =>
    rw [feature, ManagedGroups.alone_build]
    exact (ManagedGroups.onlyFails_select h.field h.mandatory).bind fun s hs ↦
      h.slots s (mapError_eq_ok_iff.mp hs)
  | rateLimit =>
    rw [feature, RateLimit.alone_build]
    exact .ok _
  | allowPath | allowUserAgent =>
    rw [feature]
    cases hlist : c.patterns? _ with
    | none =>
      rw [PatternList.alone_build_none]
      exact .ok _
    | some patterns =>
      rw [PatternList.alone_build_some rfl]
      exact (PatternList.onlyFails_checkPatterns (h.pattern _) fun pattern hp fault crash ↦
        h.crash _ _ pattern fault crash hlist hp).bind fun _ _ ↦ .ok _
  | blockV4 | blockV6 | allowV4 | allowV6 =>
    rw [feature]
    cases c.addresses? _ with
    | none =>
      rw [AddressList.alone_build_none]
      exact .ok _
    | some addresses =>
      rw [AddressList.alone_build_some rfl]
      exact (AddressList.onlyFails_checkAddresses (h.address _)).bind fun _ _ ↦ .ok _

theorem onlyFails_compile [Machine] (h : c.Covers registry P) :
    OnlyFails P (c.compile registry) := by
  rw [compile_eq]
  split
  · exact .error (h.field _ _ _)
  · refine (OnlyFails.mapM fun k _ ↦ h.onlyFails_feature _ k).bind fun parts hparts ↦ ?_
    obtain ⟨out, hout, rfl⟩ := Category.mapM_eq_ok_iff.mp hparts
    exact (h.arrangement _ out hout).bind fun _ _ ↦ .ok _

end Covers

end Config

def Problem.IsInternal (p : Problem) : Prop :=
  p.cause.kind = .brokenInvariant ∨ p.cause.kind = .bandExhausted

def Failure.IsInternal : Failure → Prop
  | .problem p => p.IsInternal
  | .crash _ => False

theorem Failure.not_isInternal_ofProblem {p : Problem} (h : ¬ p.IsInternal) :
    ¬ (Failure.ofProblem p).IsInternal := by
  unfold ofProblem
  split
  · exact h
  · exact id

namespace Config

/-- Nothing that a configuration contains makes the compiler fail on its own account. -/
theorem not_isInternal_compile [Machine] {c : Config}
    (h : ∀ r ∈ c.userRules, r.action.isSome = !r.override.isSome) :
    OnlyFails (¬ ·.IsInternal) (c.compile .builtIn) := by
  have hcovers : c.Covers .builtIn (¬ ·.IsInternal) := {
    field := fun _ _ _ ↦ not_or.mpr ⟨nofun, nofun⟩
    address := fun _ _ _ ↦ not_or.mpr ⟨nofun, nofun⟩
    pattern := fun _ _ _ ↦ not_or.mpr ⟨nofun, nofun⟩
    crash := fun _ _ _ _ _ _ _ _ _ ↦ id
    collision := fun _ _ _ _ ↦ Failure.not_isInternal_ofProblem (not_or.mpr ⟨nofun, nofun⟩)
    deep := fun _ _ _ ↦ id
    mandatory := fun _ ↦ not_or.mpr ⟨nofun, nofun⟩
    slots := fun s _ ↦ by
      rw [ManagedGroups.rules_builtIn]
      exact .ok _
    arrangement := fun name out hout ↦ by
      refine RuleList.onlyFails_arrange (fun _ ↦ ?_) (fun _ _ _ ↦ ?_) fun r hr problem hp ↦ ?_
      · exact not_or.mpr ⟨nofun, nofun⟩
      · exact Failure.not_isInternal_ofProblem (not_or.mpr ⟨nofun, nofun⟩)
      · simp [(breach?_eq_none_iff hout).mpr h r hr] at hp }
  exact hcovers.onlyFails_compile

end Config

end WebAcl
