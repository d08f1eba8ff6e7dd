import WebAcl.Compile.Basic
import WebAcl.Proofs.Session
import Mathlib.Tactic.Choose

namespace WebAcl

open Compiling Text

theorem Category.mapM_eq_ok_iff {ε α : Type} {f : Category → Except ε α} {parts : List α} :
    (Choice.all : List Category).mapM f = .ok parts ↔
      ∃ out : Category → α, (∀ k, f k = .ok (out k)) ∧ Choice.all.map out = parts := by
  constructor
  · intro h
    choose out hout using fun k : Category ↦ Outcome.exists_eq_ok_of_mapM h k k.mem_all
    have hall : Choice.all.mapM f = .ok (Choice.all.map out) := Outcome.mapM_eq_ok fun k _ ↦ hout k
    exact ⟨out, hout, Except.ok.inj (hall.symm.trans h)⟩
  · rintro ⟨out, hout, rfl⟩
    exact Outcome.mapM_eq_ok fun k _ ↦ hout k

theorem AddressList.confinedTo_build (k : Category) (addresses : Option (List String))
    (policyName : String) : (AddressList.build k addresses policyName).ConfinedTo k := by
  unfold build
  split
  · exact .pure _
  · exact .throw _
  · refine .bind (.ofProblem _) fun checked ↦ ?_
    split
    · exact .bind (.note ..) fun _ ↦ .bind (.allocate _) fun _ ↦ .bind (.note ..) fun _ ↦ .pure _
    · exact .bind (.allocate _) fun _ ↦ .bind (.note ..) fun _ ↦ .pure _

theorem PatternList.confinedTo_build [Machine] (k : Category) (patterns : Option (List String))
    (policyName : String) : (PatternList.build k patterns policyName).ConfinedTo k := by
  unfold build
  split
  · exact .pure _
  · exact .throw _
  · refine .bind (.ofExcept _) fun checked ↦ ?_
    split
    · exact .bind (.note ..) fun _ ↦ .bind (.allocate _) fun _ ↦ .bind (.note ..) fun _ ↦ .pure _
    · exact .bind (.allocate _) fun _ ↦ .bind (.note ..) fun _ ↦ .pure _

namespace ManagedGroups

theorem confinedTo_rules (s : Selection) (enforce : Bool) (gs : List ManagedGroup) :
    (rules s enforce gs).ConfinedTo .managed := by
  induction gs with
  | nil => exact .pure _
  | cons g gs ih =>
    unfold rules
    split
    · exact ih
    · exact .bind (.slot _) fun _ ↦ .bind ih fun _ ↦ .pure _

theorem confinedTo_build (toggles : List Config.GroupToggle) (excludedCommon : List String)
    (enforce : Bool) (registry : Registry) :
    (build toggles excludedCommon enforce registry).ConfinedTo .managed :=
  .bind (.ofProblem _) fun _ ↦ .bind (confinedTo_rules ..) fun _ ↦ .bind (.note ..) fun _ ↦ .pure _

end ManagedGroups

namespace Config

theorem RateLimit.confinedTo_build (limit : Option RateLimit) (enforce : Bool) :
    (RateLimit.build limit enforce).ConfinedTo .rateLimit := by
  unfold build
  split
  · exact .pure _
  · exact .bind (.allocate _) fun _ ↦ .pure _

def addresses? (c : Config) : Category → Option (List String)
  | .blockV4 => c.blockedV4
  | .blockV6 => c.blockedV6
  | .allowV4 => c.allowedV4
  | .allowV6 => c.allowedV6
  | _ => none

def patterns? (c : Config) : Category → Option (List String)
  | .allowPath => c.allowedPaths
  | .allowUserAgent => c.allowedUserAgents
  | _ => none

def customRules (c : Config) : Category → List CustomRule
  | .preCustom => c.preRules
  | .postCustom => c.postRules
  | _ => []

def feature [Machine] (registry : Registry) (c : Config) (name : String) (k : Category) :
    Compiling (List Rule) :=
  match k with
  | .preCustom | .postCustom => Compiling.ofExcept (CustomRule.build k (c.customRules k))
  | .managed => ManagedGroups.build c.managedGroups c.excludedCommonRules c.enforce registry
  | .rateLimit => RateLimit.build c.rateLimit c.enforce
  | .allowPath | .allowUserAgent => PatternList.build k (c.patterns? k) name
  | .blockV4 | .blockV6 | .allowV4 | .allowV6 => AddressList.build k (c.addresses? k) name

theorem confinedTo_feature [Machine] (registry : Registry) (c : Config) (name : String)
    (k : Category) : (c.feature registry name k).ConfinedTo k := by
  cases k with
  | preCustom | postCustom => exact .ofExcept _
  | managed => exact ManagedGroups.confinedTo_build ..
  | rateLimit => exact RateLimit.confinedTo_build ..
  | allowPath | allowUserAgent => exact PatternList.confinedTo_build ..
  | blockV4 | blockV6 | allowV4 | allowV6 => exact AddressList.confinedTo_build ..

theorem buildRules_eq [Machine] (registry : Registry) (c : Config) (name : String) :
    c.buildRules registry name =
      List.flatten <$> (Choice.all : List Category).mapM (c.feature registry name) := by
  simp [buildRules, feature, Choice.all, addresses?, patterns?, customRules]

def toPolicy (c : Config) (rules : List Rule) : Policy where
  name := strip c.name
  scope := c.scope
  defaultAction := c.defaultAction
  enforce := c.enforce
  rules := rules
  logSink := c.logSink
  associations := c.associations

def namelessFailure : Failure :=
  .ofProblem { cause := .emptyField "name", advice := "Every web ACL needs a name." }

theorem alone_buildRules [Machine] (registry : Registry) (c : Config) (name : String) :
    (c.buildRules registry name).alone = List.flatten <$>
      (Choice.all : List Category).mapM fun k ↦ (c.feature registry name k).alone := by
  have hall : (Choice.all : List Category).Nodup := by decide
  rw [buildRules_eq, ← exec_mapM (c.confinedTo_feature registry name) hall (s := {})
    fun _ _ _ _ ↦ rfl]
  simp only [alone, map_eq_pure_bind, exec_bind]
  cases (exec _ _).1 <;> rfl

theorem compile_eq_alone [Machine] (registry : Registry) (c : Config) :
    c.compile registry = (c.compiling registry).alone := by
  unfold compile compileLogged alone exec
  rcases (c.compiling registry).run.run {} with ⟨result, session⟩
  rfl

/-- A compilation compiles every feature on its own, joins their rules and arranges them. -/
theorem compile_eq [Machine] (registry : Registry) (c : Config) :
    c.compile registry = if strip c.name = "" then .error namelessFailure else do
      let parts ← (Choice.all : List Category).mapM fun k ↦
        (c.feature registry (strip c.name) k).alone
      let ordered ← RuleList.arrange parts.flatten c.enforce
      return c.toPolicy ordered := by
  rw [compile_eq_alone]
  unfold compiling
  by_cases hn : strip c.name = ""
  · simp only [hn, if_true]
    rfl
  · simp only [hn, if_false]
    rw [alone_bind, alone_buildRules]
    cases (Choice.all : List Category).mapM fun k ↦ (c.feature registry (strip c.name) k).alone with
    | error e => rfl
    | ok parts =>
      simp only [Outcome.map_ok, Outcome.ok_bind, exec_bind, exec_ofExcept]
      cases RuleList.arrange parts.flatten c.enforce <;> rfl

theorem compile_eq_ok_iff [Machine] {registry : Registry} {c : Config} {p : Policy} :
    c.compile registry = .ok p ↔ strip c.name ≠ "" ∧ ∃ out : Category → List Rule,
      (∀ k, (c.feature registry (strip c.name) k).alone = .ok (out k)) ∧ ∃ ordered,
        RuleList.arrange (Choice.all.flatMap out) c.enforce = .ok ordered ∧
          p = c.toPolicy ordered := by
  rw [compile_eq]
  by_cases hn : strip c.name = ""
  · simp [hn]
  · simp only [hn, if_false, Outcome.bind_eq_ok_iff, ne_eq, not_false_eq_true, true_and,
      Outcome.pure_eq_ok, Except.ok.injEq]
    constructor
    · rintro ⟨parts, hparts, ordered, hordered, rfl⟩
      obtain ⟨out, hout, rfl⟩ := Category.mapM_eq_ok_iff.mp hparts
      exact ⟨out, hout, ordered, hordered, rfl⟩
    · rintro ⟨out, hout, ordered, hordered, rfl⟩
      exact ⟨_, Category.mapM_eq_ok_iff.mpr ⟨out, hout, rfl⟩, ordered, hordered, rfl⟩

theorem compile_eq_error [Machine] {registry : Registry} {c : Config} {k : Category}
    {failure : Failure} (hname : strip c.name ≠ "")
    (hothers : ∀ l, l ≠ k → ∃ rules, (c.feature registry (strip c.name) l).alone = .ok rules)
    (h : (c.feature registry (strip c.name) k).alone = .error failure) :
    c.compile registry = .error failure := by
  obtain ⟨earlier, later, hall, hk⟩ := List.eq_append_cons_of_mem (Category.mem_all k)
  have hearlier : ∀ l ∈ earlier, ∃ rules,
      (c.feature registry (strip c.name) l).alone = .ok rules := by
    intro l hl
    apply hothers
    rintro rfl
    exact hk hl
  rw [compile_eq, if_neg hname, hall, Outcome.mapM_eq_error hearlier h, Outcome.error_bind]

end Config

end WebAcl
