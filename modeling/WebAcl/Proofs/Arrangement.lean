import WebAcl.Compile.Order
import WebAcl.Proofs.Outcome
import Mathlib.Data.List.Nodup
import Mathlib.Data.List.Count

namespace WebAcl

namespace SortedBy

variable {α : Type} (key : α → Int)

theorem trans (a b c : α) : decide (key a ≤ key b) = true → decide (key b ≤ key c) = true →
    decide (key a ≤ key c) = true := by
  simp only [decide_eq_true_eq]
  omega

theorem total (a b : α) : (decide (key a ≤ key b) || decide (key b ≤ key a)) = true := by
  simp only [Bool.or_eq_true, decide_eq_true_eq]
  omega

theorem pairwise_mergeSort (xs : List α) :
    (xs.mergeSort fun a b ↦ key a ≤ key b).Pairwise fun a b ↦ key a ≤ key b :=
  (List.pairwise_mergeSort (trans key) (total key) xs).imp fun h ↦ of_decide_eq_true h

theorem mergeSort_eq_self {xs : List α} (h : xs.Pairwise fun a b ↦ key a ≤ key b) :
    (xs.mergeSort fun a b ↦ key a ≤ key b) = xs :=
  List.mergeSort_of_pairwise (h.imp fun h ↦ decide_eq_true h)

theorem filter_mergeSort {xs : List α} {p : α → Bool}
    (h : (xs.filter p).Pairwise fun a b ↦ key a ≤ key b) :
    (xs.mergeSort fun a b ↦ key a ≤ key b).filter p = xs.filter p := by
  have hsub : (xs.filter p).Sublist (xs.mergeSort fun a b ↦ key a ≤ key b) :=
    List.sublist_mergeSort (trans key) (total key) (h.imp fun h ↦ decide_eq_true h)
      List.filter_sublist
  replace hsub := hsub.filter p
  simp only [List.filter_filter, Bool.and_self] at hsub
  exact (hsub.eq_of_length ((List.mergeSort_perm xs _).filter p).length_eq.symm).symm

end SortedBy

def Rule.FollowsMode (enforce : Bool) (r : Rule) : Prop :=
  r.modeSensitive = true →
    (∀ a, r.action = some a → a = Mode.action enforce) ∧
      ∀ o, r.override = some o → o = Mode.override enforce

def Rule.HasOneOutcome (r : Rule) : Prop :=
  r.action.isSome = !r.override.isSome

namespace RuleList

variable {rules : List Rule} {enforce : Bool}

theorem repeatedName?_eq_none_iff {seen : List String} :
    repeatedName? seen rules = none ↔ (rules.map (·.name)).Nodup ∧ ∀ r ∈ rules, r.name ∉ seen := by
  induction rules generalizing seen with
  | nil => simp [repeatedName?]
  | cons r rs ih =>
    rw [repeatedName?]
    by_cases h : r.name ∈ seen
    · simp [h]
    · simp only [List.contains_eq_mem, h, decide_false, Bool.false_eq_true, if_false, ih,
        List.map_cons, List.nodup_cons, List.forall_mem_cons, not_false_eq_true, true_and]
      simp only [List.mem_append, List.mem_singleton, not_or, List.mem_map, not_exists, not_and]
      grind

theorem length_namesAt (p : Int) :
    (namesAt rules p).length = (rules.map (·.priority)).count p := by
  rw [namesAt, List.length_map, List.count, List.countP_map, List.countP_eq_length_filter]
  rfl

theorem repeatedPriority?_eq_none_iff :
    repeatedPriority? rules = none ↔ (rules.map (·.priority)).Nodup := by
  simp only [repeatedPriority?, Option.map_eq_none_iff, List.find?_eq_none, length_namesAt,
    decide_eq_true_eq, Nat.not_lt, List.nodup_iff_count_le_one]
  constructor
  · intro h p
    by_cases hp : p ∈ rules.map (·.priority)
    · obtain ⟨r, hr, rfl⟩ := List.mem_map.mp hp
      exact h r hr
    · simp [List.count_eq_zero_of_not_mem hp]
  · exact fun h r _ ↦ h r.priority

theorem breach?_eq_none_iff {r : Rule} :
    breach? enforce r = none ↔ (Band.of r.category).contains r.priority = true ∧
      r.HasOneOutcome ∧ r.FollowsMode enforce := by
  unfold breach? Rule.HasOneOutcome Rule.FollowsMode
  cases hb : (Band.of r.category).contains r.priority with
  | false => cases Number.isWritable r.priority <;> simp [hb]
  | true => cases r.action <;> cases r.override <;> cases r.modeSensitive <;> simp [hb]

theorem sorted_perm (rules : List Rule) : (sorted rules).Perm rules :=
  List.mergeSort_perm _ _

theorem sorted_pairwise_le (rules : List Rule) :
    (sorted rules).Pairwise fun r s ↦ r.priority ≤ s.priority :=
  SortedBy.pairwise_mergeSort Rule.priority rules

theorem sorted_pairwise_lt (h : (rules.map (·.priority)).Nodup) :
    (sorted rules).Pairwise fun r s ↦ r.priority < s.priority := by
  have hne : (sorted rules).Pairwise fun r s ↦ r.priority ≠ s.priority :=
    List.pairwise_map.mp (((sorted_perm rules).map _).nodup_iff.mpr h)
  exact (sorted_pairwise_le rules).imp₂ (fun _ _ hle hne ↦ by omega) hne

/-- There is only one way to put rules into strictly ascending order. -/
theorem eq_of_perm_of_ascending {as bs : List Rule} (h : as.Perm bs)
    (ha : as.Pairwise fun r s ↦ r.priority < s.priority)
    (hb : bs.Pairwise fun r s ↦ r.priority < s.priority) : as = bs :=
  h.eq_of_pairwise (fun _ _ _ _ h h' ↦ by omega) ha hb

theorem descent?_eq_none {rules : List Rule}
    (h : rules.Pairwise fun r s ↦ r.priority < s.priority) : descent? rules = none := by
  induction rules with
  | nil => rfl
  | cons r rs ih =>
    cases rs with
    | nil => rfl
    | cons s rs =>
      have hrs : r.priority < s.priority := (List.pairwise_cons.mp h).1 s List.mem_cons_self
      rw [descent?, if_neg (by omega)]
      exact ih (List.pairwise_cons.mp h).2

/-- Rules can be arranged if and only if names and priorities are unique and no rule breaks an
invariant; the last check, that the order ascends, never fails. -/
theorem arrange_eq_ok_iff {ordered : List Rule} :
    arrange rules enforce = .ok ordered ↔ (rules.map (·.name)).Nodup ∧
      (rules.map (·.priority)).Nodup ∧ (∀ r ∈ rules, breach? enforce r = none) ∧
      ordered = sorted rules := by
  have hname : repeatedName? [] rules = none ↔ _ := repeatedName?_eq_none_iff
  have hprio : repeatedPriority? rules = none ↔ _ := repeatedPriority?_eq_none_iff
  have hbreach := List.findSome?_eq_none_iff (p := breach? enforce) (l := rules)
  simp only [List.not_mem_nil, not_false_eq_true, implies_true, and_true] at hname
  rw [← hname, ← hprio, ← hbreach, arrange]
  cases hn : repeatedName? [] rules with
  | some name => simp
  | none =>
    cases hp : repeatedPriority? rules with
    | some names => simp
    | none =>
      cases hb : rules.findSome? (breach? enforce) with
      | some problem => simp
      | none =>
        have hd := descent?_eq_none (sorted_pairwise_lt (hprio.mp hp))
        simp [hd, eq_comm]

theorem sorted_filter (h : (rules.map (·.priority)).Nodup) (keep : Rule → Bool) :
    sorted (rules.filter keep) = (sorted rules).filter keep := by
  have hsub : ((rules.filter keep).map (·.priority)).Sublist (rules.map (·.priority)) :=
    List.filter_sublist.map _
  exact eq_of_perm_of_ascending ((sorted_perm _).trans ((sorted_perm rules).symm.filter keep))
    (sorted_pairwise_lt (h.sublist hsub)) ((sorted_pairwise_lt h).filter keep)

theorem arrange_perm {rules' ordered : List Rule} (hperm : rules.Perm rules')
    (h : arrange rules enforce = .ok ordered) : arrange rules' enforce = .ok ordered := by
  obtain ⟨hnames, hpriorities, hbreach, rfl⟩ := arrange_eq_ok_iff.mp h
  have hpriorities' : (rules'.map (·.priority)).Nodup := (hperm.map _).nodup_iff.mp hpriorities
  have hsorted : sorted rules = sorted rules' :=
    eq_of_perm_of_ascending (((sorted_perm rules).trans hperm).trans (sorted_perm rules').symm)
      (sorted_pairwise_lt hpriorities) (sorted_pairwise_lt hpriorities')
  exact arrange_eq_ok_iff.mpr ⟨(hperm.map _).nodup_iff.mp hnames, hpriorities',
    fun r hr ↦ hbreach r (hperm.mem_iff.mpr hr), hsorted⟩

theorem arrange_filter {ordered : List Rule} (h : arrange rules enforce = .ok ordered)
    (keep : Rule → Bool) : arrange (rules.filter keep) enforce = .ok (ordered.filter keep) := by
  obtain ⟨hnames, hpriorities, hbreach, rfl⟩ := arrange_eq_ok_iff.mp h
  exact arrange_eq_ok_iff.mpr ⟨hnames.sublist (List.filter_sublist.map _),
    hpriorities.sublist (List.filter_sublist.map _),
    fun r hr ↦ hbreach r (List.mem_of_mem_filter hr), (sorted_filter hpriorities keep).symm⟩

end RuleList

end WebAcl
