import WebAcl.Proofs.Validated
import Mathlib.Logic.Basic

namespace WebAcl

namespace Text

theorem codesOf_cons {c : Char} (h : isMarked c = false) (cs : List Char) :
    codesOf (c :: cs) = c.toNat :: codesOf cs := by
  obtain ⟨hhalf, hmark⟩ := Bool.or_eq_false_iff.mp h
  have hne : c ≠ mark := beq_eq_false_iff_ne.mp hmark
  cases cs <;> simp [codesOf, codeOf, hhalf, hne]

theorem codesOf_unmarked_append {cs : List Char} (h : ∀ c ∈ cs, isMarked c = false)
    (ds : List Char) : codesOf (cs ++ ds) = cs.map Char.toNat ++ codesOf ds := by
  induction cs with
  | nil => rfl
  | cons c cs ih =>
    obtain ⟨hc, hcs⟩ := List.forall_mem_cons.mp h
    rw [List.cons_append, codesOf_cons hc, ih hcs, List.map_cons, List.cons_append]

theorem codesOf_append_unmarked {cs ds : List Char} (h : ∀ d ∈ ds, isMarked d = false) :
    codesOf (cs ++ ds) = codesOf cs ++ ds.map Char.toNat := by
  have hds : codesOf ds = ds.map Char.toNat := by
    have hall := codesOf_unmarked_append h []
    rwa [List.append_nil, codesOf, List.append_nil] at hall
  fun_induction codesOf cs with
  | case1 c d cs hmark ih =>
    rw [List.cons_append, List.cons_append, codesOf, if_pos hmark, ih, List.cons_append]
  | case2 c d cs hmark ih =>
    rw [List.cons_append, List.cons_append, codesOf, if_neg hmark, ← List.cons_append, ih,
      List.cons_append]
  | case3 c =>
    cases ds with
    | nil => rfl
    | cons d ds =>
      have hd : ¬ (c = mark ∧ isMarked d = true) := by simp [h d List.mem_cons_self]
      rw [List.singleton_append, codesOf, if_neg hd, hds, List.singleton_append]
  | case4 => exact hds

theorem holdsHalf_between {before after : String}
    (hbefore : ∀ c ∈ before.toList, isMarked c = false)
    (hafter : ∀ c ∈ after.toList, isMarked c = false) (s : String) :
    holdsHalf (before ++ s ++ after) = holdsHalf s := by
  have hplain : ∀ {t : String}, (∀ c ∈ t.toList, isMarked c = false) →
      (t.toList.map Char.toNat).any isHalfCode = false := by
    intro t ht
    simp only [List.any_map, List.any_eq_false, Function.comp_apply]
    intro c _ hhalf
    have hvalid : c.toNat < 0xd800 ∨ 0xdfff < c.toNat ∧ c.toNat < 0x110000 := c.valid
    simp only [isHalfCode, Bool.and_eq_true, decide_eq_true_eq] at hhalf
    omega
  unfold holdsHalf
  rw [String.toList_append, String.toList_append, codesOf_append_unmarked hafter,
    codesOf_unmarked_append hbefore, List.any_append, List.any_append, hplain hbefore,
    hplain hafter, Bool.false_or, Bool.or_false]

end Text

namespace Checked

variable {α β : Type}

def Unencodable (x : Checked α) : Prop := ∃ i ∈ x.issues, i.complaint.isUnencodable = true

@[simp] theorem not_unencodable_valid (a : α) : ¬ (valid a).Unencodable := by
  simp [Unencodable, issues]

@[simp] theorem unencodable_fail {c : Issue.Complaint} :
    (fail c : Checked α).Unencodable ↔ c.isUnencodable = true := by
  simp [Unencodable, issues, fail]

@[simp] theorem unencodable_map {f : α → β} {x : Checked α} :
    (f <$> x).Unencodable ↔ x.Unencodable := by
  change (x.map f).Unencodable ↔ _
  cases x <;> rfl

@[simp] theorem unencodable_apply {f : Checked (α → β)} {x : Checked α} :
    (f <*> x).Unencodable ↔ f.Unencodable ∨ x.Unencodable := by
  change (f.apply x).Unencodable ↔ _
  cases f <;> cases x <;> simp [apply, Unencodable, issues, or_and_right, exists_or]

@[simp] theorem unencodable_under {step : Issue.Step} {x : Checked α} :
    (x.under step).Unencodable ↔ x.Unencodable := by
  cases x <;> simp [under, Unencodable, issues, Issue.under]

theorem unencodable_andThen {x : Checked α} {f : α → Checked β} :
    (x.andThen f).Unencodable ↔ x.Unencodable ∨ ∃ a, x = .valid a ∧ (f a).Unencodable := by
  cases x <;> simp [andThen, Unencodable, issues]

theorem unencodable_also {x : Checked α} {is : List Issue} :
    (x.also is).Unencodable ↔ x.Unencodable ∨ ∃ i ∈ is, i.complaint.isUnencodable = true := by
  cases is <;> simp [also, Unencodable, issues, or_and_right, exists_or]

theorem unencodable_all {xs : List (Checked α)} :
    (all xs).Unencodable ↔ ∃ x ∈ xs, x.Unencodable := by
  induction xs with
  | nil => simp [all]
  | cons x xs ih =>
    have happly := unencodable_apply (f := x.map List.cons) (x := all xs)
    change (all (x :: xs)).Unencodable ↔ _ at happly
    rw [happly, ih]
    simp only [List.mem_cons, exists_eq_or_imp]
    exact or_congr_left unencodable_map

end Checked

namespace Lax

open Checked

variable {α : Type} {v : Value}

theorem unencodable_field {es : List (Value × Value)} {name : String} {read : Value → Checked α}
    {default : Option α} : (field es name read default).Unencodable ↔
      ∃ w, Value.lookup? (.str name) es = some w ∧ (read w).Unencodable := by
  unfold field
  cases Value.lookup? (.str name) es with
  | some w => simp
  | none => cases default <;> simp [Issue.Complaint.isUnencodable]

theorem unencodable_record {name : String} {fields : List String}
    {read : List (Value × Value) → Checked α} (h : (record name fields read v).Unencodable) :
    ∃ es, v = .map es ∧ (read es).Unencodable := by
  cases v with
  | map es =>
    unfold record at h
    dsimp only at h
    split at h
    · exact absurd (unencodable_fail.mp h) Bool.false_ne_true
    · obtain hread | ⟨i, hi, hcomplaint⟩ := unencodable_also.mp h
      · exact ⟨es, rfl, hread⟩
      · obtain ⟨e, -, he⟩ := List.mem_filterMap.mp hi
        dsimp only at he
        split at he
        · split at he
          · exact absurd he.symm (Option.some_ne_none i)
          · obtain rfl := Option.some.inj he
            exact absurd hcomplaint Bool.false_ne_true
        · obtain rfl := Option.some.inj he
          exact absurd hcomplaint Bool.false_ne_true
  | _ => exact absurd (unencodable_fail.mp h) Bool.false_ne_true

theorem unencodable_list {read : Value → Checked α} (h : (list read v).Unencodable) :
    ∃ xs, items? v = some xs ∧ ∃ x ∈ xs, (read x).Unencodable := by
  unfold list at h
  cases hitems : items? v with
  | none =>
    rw [hitems] at h
    exact absurd (unencodable_fail.mp h) nofun
  | some xs =>
    rw [hitems] at h
    obtain ⟨y, hy, hbad⟩ := unencodable_all.mp h
    obtain ⟨i, hi, rfl⟩ := List.mem_mapIdx.mp hy
    exact ⟨xs, rfl, xs[i], List.getElem_mem hi, unencodable_under.mp hbad⟩

theorem not_unencodable_optional {read : Value → Checked α} (h : ∀ w, ¬ (read w).Unencodable) :
    ¬ (optional read v).Unencodable := by
  unfold optional
  split
  · exact not_unencodable_valid none
  · exact mt unencodable_map.mp (h v)

@[simp] theorem not_unencodable_text : ¬ (text v).Unencodable := by
  unfold text
  repeat' split
  all_goals simp [Issue.Complaint.isUnencodable]

theorem not_unencodable_heldText {c : Issue.Complaint} (hc : c.isUnencodable = false)
    {held : Checked String} (h : heldText? c v = some held) : ¬ held.Unencodable := by
  unfold heldText? at h
  split at h
  · obtain rfl := Option.some.inj h
    split <;> simp [Issue.Complaint.isUnencodable]
  · obtain rfl := Option.some.inj h
    split <;> simp [hc]
  · exact absurd h nofun

theorem not_unencodable_integerOfNumeral (cs : List Char) :
    ¬ (integerOfNumeral cs).Unencodable := by
  unfold integerOfNumeral
  dsimp only
  repeat' split
  all_goals simp [Issue.Complaint.isUnencodable]

theorem not_unencodable_integerOfText (s : String) : ¬ (integerOfText s).Unencodable := by
  unfold integerOfText
  split
  · split
    · exact not_unencodable_integerOfNumeral _
    · simp [Issue.Complaint.isUnencodable]
  · exact not_unencodable_integerOfNumeral _

theorem not_unencodable_integerOfFloat (x : Number.Binary64) :
    ¬ (integerOfFloat x).Unencodable := by
  unfold integerOfFloat
  repeat' split
  all_goals simp [Issue.Complaint.isUnencodable]

@[simp] theorem not_unencodable_integer : ¬ (integer v).Unencodable := by
  unfold integer
  split
  · exact not_unencodable_valid _
  · exact not_unencodable_valid _
  · exact not_unencodable_integerOfFloat _
  · split
    next held hheld =>
      rw [unencodable_andThen]
      rintro (hbad | ⟨s, -, hbad⟩)
      · exact not_unencodable_heldText rfl hheld hbad
      · exact not_unencodable_integerOfText s hbad
    next => simp [Issue.Complaint.isUnencodable]

@[simp] theorem not_unencodable_boundedInteger {least most : Int} :
    ¬ (boundedInteger least most v).Unencodable := by
  rw [boundedInteger, unencodable_andThen]
  rintro (hbad | ⟨i, -, hbad⟩)
  · exact not_unencodable_integer hbad
  · repeat' split at hbad
    all_goals simp [Issue.Complaint.isUnencodable] at hbad

@[simp] theorem not_unencodable_truth : ¬ (truth v).Unencodable := by
  have hinteger : ∀ i, ¬ (truthOfInteger i).Unencodable := by
    intro i
    unfold truthOfInteger
    repeat' split
    all_goals simp [Issue.Complaint.isUnencodable]
  have htext : ∀ s, ¬ (truthOfText s).Unencodable := by
    intro s
    unfold truthOfText
    dsimp only
    repeat' split
    all_goals simp [Issue.Complaint.isUnencodable]
  unfold truth
  split
  · exact not_unencodable_valid _
  · split
    · exact hinteger _
    · simp [Issue.Complaint.isUnencodable]
  · split
    · exact hinteger _
    · simp [Issue.Complaint.isUnencodable]
  · split
    next held hheld =>
      rw [unencodable_andThen]
      rintro (hbad | ⟨s, -, hbad⟩)
      · exact not_unencodable_heldText rfl hheld hbad
      · exact htext s hbad
    next => simp [Issue.Complaint.isUnencodable]

@[simp] theorem not_unencodable_choice [Choice α] : ¬ (choice α v).Unencodable := by
  unfold choice
  dsimp only
  split
  next held hheld =>
    rw [unencodable_andThen]
    rintro (hbad | ⟨s, -, hbad⟩)
    · exact not_unencodable_heldText rfl hheld hbad
    · cases hparse : (Choice.parse? s : Option α) with
      | none => simp [hparse, Issue.Complaint.isUnencodable] at hbad
      | some a => simp [hparse] at hbad
  next => simp [Issue.Complaint.isUnencodable]

@[simp] theorem not_unencodable_choiceOr [Choice α] {aliased : String} {member : α} :
    ¬ (choiceOr aliased member v).Unencodable := by
  unfold choiceOr
  split
  · split
    · exact not_unencodable_valid _
    · exact not_unencodable_choice
  · exact not_unencodable_choice

@[simp] theorem not_unencodable_textMap : ¬ (textMap v).Unencodable := by
  unfold textMap
  split
  · rintro hbad
    obtain ⟨y, hy, hbad⟩ := unencodable_all.mp (unencodable_map.mp hbad)
    obtain ⟨e, -, rfl⟩ := List.mem_map.mp hy
    exact not_unencodable_text
      (unencodable_under.mp (unencodable_under.mp (unencodable_map.mp hbad)))
  · simp [Issue.Complaint.isUnencodable]

@[simp] theorem not_unencodable_optional_text : ¬ (optional text v).Unencodable :=
  not_unencodable_optional fun _ ↦ not_unencodable_text

@[simp] theorem not_unencodable_texts : ¬ (list text v).Unencodable := by
  intro h
  obtain ⟨_, -, x, -, hbad⟩ := unencodable_list h
  exact not_unencodable_text hbad

end Lax

namespace Config

open Checked Lax

variable {v : Value}

/-- A rule with both outcomes or none, whose name holds half of a surrogate pair. -/
def CustomRule.IsUnspeakable (v : Value) : Prop :=
  ∃ r, withFields v = .valid r ∧ r.action.isNone = r.override.isNone ∧
    Text.holdsHalf r.name = true

theorem CustomRule.not_unencodable_withFields : ¬ (withFields v).Unencodable := by
  intro h
  obtain ⟨es, -, hread⟩ := unencodable_record h
  have hchoice : ∀ {α : Type} [Choice α] {w : Value},
      ¬ (optional (fun v ↦ choice α (normalized v)) w).Unencodable :=
    not_unencodable_optional fun _ ↦ not_unencodable_choice
  simp [unencodable_field, hchoice] at hread

theorem CustomRule.isUnspeakable_of_unencodable (h : (CustomRule.ofValue v).Unencodable) :
    IsUnspeakable v := by
  obtain hbad | ⟨r, hr, hbad⟩ := unencodable_andThen.mp h
  · exact absurd hbad not_unencodable_withFields
  · unfold checkOutcome at hbad
    split at hbad
    next houtcome =>
      refine ⟨r, hr, houtcome, ?_⟩
      have hmessage : Text.holdsHalf ("custom rule '" ++ r.name ++
          "' must set exactly one of action or override_action") = true :=
        unencodable_fail.mp hbad
      rwa [Text.holdsHalf_between (by decide) (by decide)] at hmessage
    next => exact absurd hbad (not_unencodable_valid r)

theorem GroupToggle.not_unencodable_ofValue : ¬ (GroupToggle.ofValue v).Unencodable := by
  intro h
  obtain ⟨es, -, hread⟩ := unencodable_record h
  simp [unencodable_field] at hread

theorem RateLimit.not_unencodable_ofValue : ¬ (RateLimit.ofValue v).Unencodable := by
  intro h
  obtain ⟨es, -, hread⟩ := unencodable_record h
  simp [unencodable_field] at hread

theorem not_unencodable_logSinkOfValue : ¬ (logSinkOfValue v).Unencodable := by
  intro h
  obtain ⟨es, -, hread⟩ := unencodable_record h
  have hretention : ∀ w, ¬ (retention w).Unencodable := by
    intro w hbad
    obtain hbad | ⟨days, -, hbad⟩ := unencodable_andThen.mp hbad
    · exact not_unencodable_integer hbad
    · split at hbad
      · exact not_unencodable_valid _ hbad
      · exact absurd (unencodable_fail.mp hbad) (by decide +kernel)
  simp [unencodable_field, hretention] at hread

/-- Only a rule can have an issue that cannot be handed on. -/
theorem unencodable_ofValue {es : List (Value × Value)}
    (h : (Config.ofValue (.map es)).Unencodable) : ∃ name ∈ ["pre_rules", "post_rules"],
      ∃ rules, Value.lookup? (.str name) es = some rules ∧
        ∃ items, items? rules = some items ∧ ∃ v ∈ items, CustomRule.IsUnspeakable v := by
  obtain ⟨es', heq, hread⟩ := unencodable_record h
  obtain rfl := Value.map.inj heq
  have htexts : ∀ w, ¬ (optional (list text) w).Unencodable := fun w ↦
    not_unencodable_optional fun _ ↦ not_unencodable_texts
  have htoggles : ∀ w, ¬ (list GroupToggle.ofValue w).Unencodable := fun w hbad ↦ by
    obtain ⟨_, -, x, -, hx⟩ := unencodable_list hbad
    exact GroupToggle.not_unencodable_ofValue hx
  have hlimit : ∀ w, ¬ (optional RateLimit.ofValue w).Unencodable := fun w ↦
    not_unencodable_optional fun _ ↦ RateLimit.not_unencodable_ofValue
  simp only [unencodable_apply, unencodable_map, unencodable_field, htexts, htoggles, hlimit,
    not_unencodable_logSinkOfValue, not_unencodable_integer, not_unencodable_text,
    not_unencodable_choiceOr, not_unencodable_choice, not_unencodable_truth, not_unencodable_texts,
    and_false, exists_false, or_false, false_or] at hread
  have hrules : ∀ {rules}, (list CustomRule.ofValue rules).Unencodable →
      ∃ items, items? rules = some items ∧ ∃ v ∈ items, CustomRule.IsUnspeakable v := by
    intro rules hbad
    obtain ⟨items, hitems, x, hx, hbad⟩ := unencodable_list hbad
    exact ⟨items, hitems, x, hx, CustomRule.isUnspeakable_of_unencodable hbad⟩
  obtain ⟨rules, hlookup, hbad⟩ | ⟨rules, hlookup, hbad⟩ := hread
  · exact ⟨"pre_rules", by simp, rules, hlookup, hrules hbad⟩
  · exact ⟨"post_rules", by simp, rules, hlookup, hrules hbad⟩

end Config

end WebAcl
