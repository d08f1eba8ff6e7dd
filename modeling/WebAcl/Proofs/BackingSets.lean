import WebAcl.Proofs.MadeRules
import WebAcl.Terraform.Basic

namespace WebAcl

open Compiling Text

section Listing

variable {α β : Type} [DecidableEq α] [DecidableEq β]

theorem nodup_eraseDups (xs : List α) : xs.eraseDups.Nodup := by
  match xs with
  | [] => simp
  | x :: xs =>
    rw [List.eraseDups_cons, List.nodup_cons, List.mem_eraseDups]
    exact ⟨by simp, nodup_eraseDups _⟩
termination_by xs.length
decreasing_by exact Nat.lt_succ_of_le (List.length_filter_le _ _)

theorem filterMap_eraseDups {f : α → Option β}
    (hf : ∀ a b c, f a = some c → f b = some c → a = b) (xs : List α) :
    xs.eraseDups.filterMap f = (xs.filterMap f).eraseDups := by
  match xs with
  | [] => simp
  | x :: xs =>
    rw [List.eraseDups_cons]
    cases hx : f x with
    | none =>
      have hrest : (xs.filter fun y ↦ !y == x).filterMap f = xs.filterMap f := by
        rw [List.filterMap_filter]
        refine List.filterMap_congr fun y _ ↦ ?_
        by_cases hy : y = x <;> simp [hy, hx]
      rw [List.filterMap_cons_none hx, List.filterMap_cons_none hx, filterMap_eraseDups hf, hrest]
    | some c =>
      have hrest : (xs.filter fun y ↦ !y == x).filterMap f =
          (xs.filterMap f).filter fun d ↦ !d == c := by
        rw [List.filterMap_filter, List.filter_filterMap]
        refine List.filterMap_congr fun y _ ↦ ?_
        by_cases hy : y = x
        · simp [hy, hx, Option.filter]
        · have hne : f y ≠ some c := fun h ↦ hy (hf y x c h hx)
          cases h : f y <;> simp_all [Option.filter]
      rw [List.filterMap_cons_some hx, List.filterMap_cons_some hx, List.eraseDups_cons,
        filterMap_eraseDups hf, hrest]
termination_by xs.length
decreasing_by all_goals exact Nat.lt_succ_of_le (List.length_filter_le _ _)

end Listing

namespace BackingSet

def ip? : BackingSet → Option IpSet
  | ip s => some s
  | regex _ => none

def regex? : BackingSet → Option RegexSet
  | ip _ => none
  | regex s => some s

theorem ip?_eq_some_iff {b : BackingSet} {s : IpSet} : b.ip? = some s ↔ b = .ip s := by
  cases b <;> simp [ip?]

theorem regex?_eq_some_iff {b : BackingSet} {s : RegexSet} : b.regex? = some s ↔ b = .regex s := by
  cases b <;> simp [regex?]

def Unambiguous (sets : List BackingSet) : Prop :=
  ∀ s ∈ sets, ∀ t ∈ sets, s.logicalId = t.logicalId → s = t

/-- If sets can be told apart by their ids, listing them by id only leaves out repetitions. -/
theorem foldl_addNew {sets listed : List BackingSet} (h : Unambiguous (listed ++ sets)) :
    sets.foldl addNew listed = listed ++ (sets.filter (· ∉ listed)).eraseDups := by
  induction sets generalizing listed with
  | nil => simp
  | cons s sets ih =>
    rw [List.foldl_cons]
    by_cases hs : s ∈ listed
    · have hadd : addNew listed s = listed :=
        if_pos (List.any_eq_true.mpr ⟨s, hs, by simp⟩)
      have htail : Unambiguous (listed ++ sets) := fun a ha b hb ↦
        h a (by simp_all; tauto) b (by simp_all; tauto)
      rw [hadd, ih htail, List.filter_cons_of_neg (by simpa using hs)]
    · have hadd : addNew listed s = listed ++ [s] := by
        refine if_neg fun hany ↦ hs ?_
        obtain ⟨t, ht, hid⟩ := List.any_eq_true.mp hany
        have := h t (by simp [ht]) s (by simp) (by simpa using hid)
        exact this ▸ ht
      have htail : Unambiguous ((listed ++ [s]) ++ sets) := by simpa [Unambiguous] using h
      rw [hadd, ih htail, List.filter_cons_of_pos (by simpa using hs), List.eraseDups_cons,
        List.filter_filter, List.append_assoc, List.singleton_append]
      congr 3
      refine List.filter_congr fun t _ ↦ ?_
      by_cases ht : t = s <;> simp [ht]

end BackingSet

def Category.setId? (k : Category) : Option String :=
  ((AddressList.of? k).map (·.logicalId)).or ((PatternList.of? k).map (·.logicalId))

theorem Category.eq_of_setId? {k l : Category} {id : String} (hk : k.setId? = some id)
    (hl : l.setId? = some id) : k = l := by
  have hall : ∀ k l : Category, k.setId? = l.setId? → k.setId? ≠ none → k = l := by
    intro k l
    cases k <;> cases l <;> decide
  exact hall k l (hk.trans hl.symm) (by simp [hk])

namespace Policy

theorem ipSets_eq (p : Policy) : p.ipSets = p.backingSets.filterMap BackingSet.ip? :=
  rfl

theorem regexSets_eq (p : Policy) : p.regexSets = p.backingSets.filterMap BackingSet.regex? :=
  rfl

def references (p : Policy) : List BackingSet :=
  p.rules.flatMap Rule.references

def ReferencesByCategory (p : Policy) : Prop :=
  ∃ setOf : Category → Option BackingSet,
    (∀ k, ∀ s ∈ setOf k, k.setId? = some s.logicalId) ∧
    ∀ r ∈ p.rules, r.references = (setOf r.category).toList

variable {p : Policy}

theorem ReferencesByCategory.setId (h : p.ReferencesByCategory) {r : Rule} (hr : r ∈ p.rules)
    {s : BackingSet} (hs : s ∈ r.references) : r.category.setId? = some s.logicalId := by
  obtain ⟨setOf, hid, hrefs⟩ := h
  rw [hrefs r hr, Option.mem_toList] at hs
  exact hid _ s hs

theorem ReferencesByCategory.unambiguous (h : p.ReferencesByCategory) :
    BackingSet.Unambiguous p.references := by
  intro s hs t ht hid
  obtain ⟨r, hr, hs⟩ := List.mem_flatMap.mp hs
  obtain ⟨r', hr', ht⟩ := List.mem_flatMap.mp ht
  have hcategory : r.category = r'.category :=
    Category.eq_of_setId? (h.setId hr hs) (hid ▸ h.setId hr' ht)
  obtain ⟨setOf, -, hrefs⟩ := h
  rw [hrefs r hr, Option.mem_toList] at hs
  rw [hrefs r' hr', Option.mem_toList, ← hcategory] at ht
  exact Option.some.inj (hs.symm.trans ht)

theorem ReferencesByCategory.backingSets_eq (h : p.ReferencesByCategory) :
    p.backingSets = p.references.eraseDups := by
  have hlisted := @BackingSet.foldl_addNew p.references [] (by simpa using h.unambiguous)
  simpa [backingSets, references] using hlisted

/-- The sets of a policy are the ones that its rules refer to, each of them once, in the order in
which they are first referred to; an id stands for one set only. -/
structure ListsItsSets (p : Policy) : Prop where
  unambiguous : ∀ r ∈ p.rules, ∀ r' ∈ p.rules, ∀ s ∈ r.references, ∀ t ∈ r'.references,
    s.logicalId = t.logicalId → s = t
  ipSets_eq_eraseDups : p.ipSets = (p.references.filterMap BackingSet.ip?).eraseDups
  regexSets_eq_eraseDups : p.regexSets = (p.references.filterMap BackingSet.regex?).eraseDups
  nodup_ipSets : p.ipSets.Nodup
  nodup_regexSets : p.regexSets.Nodup

theorem ReferencesByCategory.listsItsSets (h : p.ReferencesByCategory) : p.ListsItsSets := by
  have hip : p.ipSets = (p.references.filterMap BackingSet.ip?).eraseDups := by
    rw [ipSets_eq, h.backingSets_eq, filterMap_eraseDups]
    intro a b c ha hb
    rw [BackingSet.ip?_eq_some_iff.mp ha, BackingSet.ip?_eq_some_iff.mp hb]
  have hregex : p.regexSets = (p.references.filterMap BackingSet.regex?).eraseDups := by
    rw [regexSets_eq, h.backingSets_eq, filterMap_eraseDups]
    intro a b c ha hb
    rw [BackingSet.regex?_eq_some_iff.mp ha, BackingSet.regex?_eq_some_iff.mp hb]
  exact {
    unambiguous := fun r hr r' hr' s hs t ht ↦ h.unambiguous s (List.mem_flatMap.mpr ⟨r, hr, hs⟩)
      t (List.mem_flatMap.mpr ⟨r', hr', ht⟩)
    ipSets_eq_eraseDups := hip
    regexSets_eq_eraseDups := hregex
    nodup_ipSets := hip ▸ nodup_eraseDups _
    nodup_regexSets := hregex ▸ nodup_eraseDups _ }

theorem ReferencesByCategory.mem_orderedSets (h : p.ReferencesByCategory) {b : BackingSet} :
    b ∈ Terraform.orderedSets p ↔ b ∈ p.references := by
  have hlists := h.listsItsSets
  rw [Terraform.orderedSets, hlists.ipSets_eq_eraseDups, hlists.regexSets_eq_eraseDups]
  cases b <;> simp [BackingSet.ip?_eq_some_iff, BackingSet.regex?_eq_some_iff]

theorem ReferencesByCategory.nodup_orderedSets (h : p.ReferencesByCategory) :
    (Terraform.orderedSets p).Nodup := by
  have hlists := h.listsItsSets
  refine List.nodup_append.mpr ⟨?_, ?_, by simp⟩
  · exact hlists.nodup_ipSets.map fun _ _ ↦ BackingSet.ip.inj
  · exact hlists.nodup_regexSets.map fun _ _ ↦ BackingSet.regex.inj

theorem ReferencesByCategory.nodup_setIds (h : p.ReferencesByCategory) :
    ((Terraform.orderedSets p).map (·.logicalId)).Nodup :=
  h.nodup_orderedSets.map_on fun s hs t ht ↦
    h.unambiguous s (h.mem_orderedSets.mp hs) t (h.mem_orderedSets.mp ht)

theorem ReferencesByCategory.setId_of_mem (h : p.ReferencesByCategory) {b : BackingSet}
    (hb : b ∈ Terraform.orderedSets p) : ∃ k : Category, k.setId? = some b.logicalId := by
  obtain ⟨r, hr, hb⟩ := List.mem_flatMap.mp (h.mem_orderedSets.mp hb)
  exact ⟨r.category, h.setId hr hb⟩

end Policy

namespace Config

variable {registry : Registry} {c : Config}

theorem references_of_feature [Machine] {name : String} {k : Category} {rules : List Rule}
    (h : (c.feature registry name k).alone = .ok rules) :
    ∃ set? : Option BackingSet, (∀ s ∈ set?, k.setId? = some s.logicalId) ∧
      ∀ r ∈ rules, r.references = set?.toList := by
  cases k with
  | preCustom | postCustom =>
    obtain ⟨-, rfl⟩ := (alone_custom_eq_ok_iff rfl).mp h
    exact ⟨none, by simp, List.forall_mem_map.mpr fun _ _ ↦ rfl⟩
  | managed =>
    obtain ⟨s, -, h⟩ := alone_managed_eq_ok_iff.mp h
    obtain ⟨rfl, -⟩ := ManagedGroups.rules_eq_placed h
    refine ⟨none, by simp, fun r hr ↦ ?_⟩
    obtain ⟨g, -, excluded, -, rfl⟩ := ManagedGroups.mem_placed.mp hr
    rfl
  | rateLimit =>
    rw [feature, RateLimit.alone_build] at h
    obtain rfl := Except.ok.inj h
    refine ⟨none, by simp, fun r hr ↦ ?_⟩
    obtain ⟨limit, -, rfl⟩ := Option.map_eq_some_iff.mp (Option.mem_toList.mp hr)
    rfl
  | allowPath | allowUserAgent =>
    obtain ⟨-, rfl⟩ | ⟨_, -, checked, -, rfl⟩ := (PatternList.alone_build_eq_ok_iff rfl).mp h
    · exact ⟨none, by simp, by simp⟩
    · exact ⟨some _, by rintro s ⟨⟩; rfl, List.forall_mem_singleton.mpr rfl⟩
  | blockV4 | blockV6 | allowV4 | allowV6 =>
    obtain ⟨-, rfl⟩ | ⟨_, -, checked, -, rfl⟩ := (AddressList.alone_build_eq_ok_iff rfl).mp h
    · exact ⟨none, by simp, by simp⟩
    · exact ⟨some _, by rintro s ⟨⟩; rfl, List.forall_mem_cons.mpr ⟨rfl,
        List.forall_mem_singleton.mpr rfl⟩⟩

theorem referencesByCategory_of_compile [Machine] {p : Policy} (h : c.compile registry = .ok p) :
    p.ReferencesByCategory := by
  obtain ⟨-, out, hout, ordered, hordered, rfl⟩ := compile_eq_ok_iff.mp h
  obtain ⟨-, -, -, rfl⟩ := RuleList.arrange_eq_ok_iff.mp hordered
  choose setOf hid hrefs using fun k ↦ references_of_feature (hout k)
  refine ⟨setOf, hid, fun r hr ↦ ?_⟩
  have hr := (RuleList.sorted_perm (Choice.all.flatMap out)).mem_iff.mp hr
  obtain ⟨k, -, hr⟩ := List.mem_flatMap.mp hr
  rw [(madeFor_of_feature (hout k) r hr).category, hrefs k r hr]

end Config

end WebAcl
