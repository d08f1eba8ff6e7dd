import WebAcl.Proofs.BuiltIn
import WebAcl.Proofs.OrdinaryDepth
import WebAcl.Proofs.PolicyParts
import WebAcl.Proofs.Shape

namespace WebAcl

open Hcl Outcome Terraform Text

/-- Policies of one name that are the same up to the contents of their texts. The mode does not
count, as far as it does not show in the rules. -/
structure Policy.SameShape (p q : Policy) : Prop where
  name : p.name = q.name
  scope : p.scope = q.scope
  defaultAction : p.defaultAction = q.defaultAction
  logSink : p.logSink = q.logSink
  rules : p.rules.map Rule.shape = q.rules.map Rule.shape
  associations : p.associations.length = q.associations.length
  visibility : p.visibility.shape = q.visibility.shape

namespace Policy.SameShape

variable {p q : Policy}

theorem shape_eq (h : p.SameShape q) : p.shape = { q.shape with enforce := p.enforce } := by
  have hassociations : (p.associations.map fun _ ↦ "") = q.associations.map fun _ ↦ "" := by
    rw [List.map_const', List.map_const', h.associations]
  simp only [shape, h.name, h.scope, h.defaultAction, h.logSink, h.rules, h.visibility,
    hassociations]

theorem blankedAll_mainBlocks [Machine] (h : p.SameShape q) :
    Item.blankedAll <$> mainBlocks p = Item.blankedAll <$> mainBlocks q := by
  rw [← blankedAll_mainBlocks_shape p, h.shape_eq, ← blankedAll_mainBlocks_shape q]
  rfl

theorem blankedAll_outputBlocks (h : p.SameShape q) :
    Item.blankedAll (outputBlocks p) = Item.blankedAll (outputBlocks q) := by
  rw [← blankedAll_outputBlocks_shape p, h.shape_eq, ← blankedAll_outputBlocks_shape q]
  rfl

end Policy.SameShape

/-- Texts that are the same outside of their literals. No literal is left open or starts a
template. -/
structure Hcl.SameOutside (cs ds : List Char) : Prop where
  left : IsContained cs
  right : IsContained ds
  erase_eq : erase cs = erase ds

theorem Hcl.sameOutside_file {blocks blocks' : List Item}
    (h : ∀ part ∈ Item.partsOf blocks, part.Tidy)
    (heq : Item.blankedAll blocks = Item.blankedAll blocks') :
    SameOutside (file blocks).toList (file blocks').toList where
  left := isContained_file h
  right := isContained_file (Item.partsOf_eq_of_blankedAll_eq heq ▸ h)
  erase_eq := erase_file_eq h heq

/-- The files of two policies are the same outside of their literals, or there are none for the same
reason. -/
def Terraform.AgreeOutside [Machine] (p q : Policy) : Prop :=
  (∃ crash, files p = .error crash ∧ files q = .error crash) ∨
  ∃ main main' outputs outputs' : String,
    files p = .ok [("main.tf", main), ("variables.tf", file variableBlocks),
      ("outputs.tf", outputs)] ∧
    files q = .ok [("main.tf", main'), ("variables.tf", file variableBlocks),
      ("outputs.tf", outputs')] ∧
    SameOutside main.toList main'.toList ∧ SameOutside outputs.toList outputs'.toList

namespace Config

/-- The texts of a compiled policy have no effect on its files but inside of literals, where they
neither end the literal nor start a template. -/
theorem agreeOutside_of_compile [Machine] {registry : Registry} {c : Config} {p q : Policy}
    (h : c.compile registry = .ok p) (hkeys : ∀ key ∈ p.statementKeys, '"' ∉ key.toList)
    (hshape : p.SameShape q) : AgreeOutside p q := by
  have hregular := isRegular_of_compile h
  have hblocks := hshape.blankedAll_mainBlocks
  -- the blocks tell which of the two cases it is
  unfold AgreeOutside
  rw [files_eq, files_eq]
  cases hmain : mainBlocks p with
  | error crash =>
    cases hmain' : mainBlocks q with
    | error crash' =>
      obtain rfl : crash = crash' := by simpa [hmain, hmain'] using hblocks
      exact .inl ⟨crash, rfl, rfl⟩
    | ok main' => simp [hmain, hmain'] at hblocks
  | ok main =>
    cases hmain' : mainBlocks q with
    | error crash' => simp [hmain, hmain'] at hblocks
    | ok main' =>
      have heq : Item.blankedAll main = Item.blankedAll main' := by
        simpa [hmain, hmain'] using hblocks
      exact .inr ⟨_, _, _, _, rfl, rfl, sameOutside_file (tidy_mainBlocks hregular hkeys hmain) heq,
        sameOutside_file (tidy_outputBlocks hregular) hshape.blankedAll_outputBlocks⟩

theorem compile_of_ascending [Machine] {registry : Registry} {c : Config}
    (out : Category → List Rule) {rules : List Rule} (hname : strip c.name ≠ "")
    (hout : ∀ k, (c.feature registry (strip c.name) k).alone = .ok (out k))
    (hrules : Choice.all.flatMap out = rules) (hnames : (rules.map (·.name)).Nodup)
    (hascending : (rules.map (·.priority)).Pairwise (· < ·))
    (hbreach : ∀ r ∈ rules, RuleList.breach? c.enforce r = none) :
    c.compile registry = .ok (c.toPolicy rules) := by
  have hsorted := SortedBy.mergeSort_eq_self Rule.priority
    ((List.pairwise_map.mp hascending).imp fun h ↦ Int.le_of_lt h)
  have harrange := RuleList.arrange_eq_ok_iff.mpr
    ⟨hnames, hascending.imp Int.ne_of_lt, hbreach, hsorted.symm⟩
  exact compile_eq_ok_iff.mpr ⟨hname, out, hout, rules, hrules ▸ harrange, rfl⟩

def mandatoryRules : List Rule :=
  ManagedGroups.placed [("bad-actors", []), ("common", [])] false ManagedGroup.builtIn

theorem alone_mandatory [Machine] {c : Config} {name : String} (henforce : c.enforce = false)
    (htoggles : c.managedGroups = []) (hexcluded : c.excludedCommonRules = []) :
    (c.feature .builtIn name .managed).alone = .ok mandatoryRules := by
  refine alone_managed_eq_ok_iff.mpr ⟨[("bad-actors", []), ("common", [])], ?_, ?_⟩
  · rw [htoggles, hexcluded]
    unfold ManagedGroups.select Registry.mandatory
    rw [Registry.inOrder_builtIn]
    rfl
  · rw [henforce]
    exact ManagedGroups.rules_builtIn _ _

theorem breach?_mandatoryRules : ∀ r ∈ mandatoryRules, RuleList.breach? false r = none := by
  decide

def withRule (associations : List String) (r : CustomRule) : Config where
  name := "acme"
  associations := associations
  preRules := [r]

theorem compile_withRule [Machine] {associations : List String} {r : CustomRule}
    (hr : r.Passes .preCustom) (hpriority : r.priority = 0)
    (hnew : r.name ∉ mandatoryRules.map (·.name))
    (hbreach : RuleList.breach? false (r.made .preCustom) = none) :
    (withRule associations r).compile .builtIn =
      .ok ((withRule associations r).toPolicy (r.made .preCustom :: mandatoryRules)) := by
  let out : Category → List Rule
    | .preCustom => [r.made .preCustom]
    | .managed => mandatoryRules
    | _ => []
  refine compile_of_ascending out (show strip "acme" ≠ "" by decide) (fun k ↦ ?_) rfl ?_ ?_ ?_
  · cases k with
    | preCustom =>
      exact (alone_custom_eq_ok_iff rfl).mpr ⟨List.forall_mem_singleton.mpr hr, rfl⟩
    | managed => exact alone_mandatory rfl rfl rfl
    | _ => rfl
  · exact List.nodup_cons.mpr ⟨hnew, by decide⟩
  · have hpriorities : (r.priority :: mandatoryRules.map (·.priority)).Pairwise (· < ·) := by
      rw [hpriority]
      decide
    exact hpriorities
  · exact List.forall_mem_cons.mpr ⟨hbreach, breach?_mandatoryRules⟩

def quotingRule (text : String) : CustomRule where
  name := text
  priority := 0
  action := some .block
  statement := [("ByteMatchStatement", .record [("SearchString", .str text)])]

def quoting (text : String) : Config :=
  withRule [text] (quotingRule text)

theorem compile_quoting [Machine] [Machine.IsRoomy] {text : String} (h : strip text ≠ "")
    (hnew : text ∉ mandatoryRules.map (·.name)) : (quoting text).compile .builtIn =
    .ok ((quoting text).toPolicy ((quotingRule text).made .preCustom :: mandatoryRules)) := by
  have hpasses : (quotingRule text).Passes .preCustom := {
    name := h
    statement := by simp [quotingRule]
    priority := rfl
    depth := Machine.IsRoomy.copying.fits rfl }
  exact compile_withRule hpasses rfl hnew rfl

section

open UsualMachine

theorem agreeOutside_quoting : ∃ p q, (quoting "a").compile .builtIn = .ok p ∧
    (quoting "\"\x7d\n$\x7bvar.key").compile .builtIn = .ok q ∧ AgreeOutside p q := by
  have hp := compile_quoting (show strip "a" ≠ "" by decide) (by decide)
  have hq := compile_quoting (show strip "\"\x7d\n$\x7bvar.key" ≠ "" by decide) (by decide)
  refine ⟨_, _, hp, hq, agreeOutside_of_compile hp ?_ ?_⟩
  · decide
  · exact ⟨rfl, rfl, rfl, rfl, rfl, rfl, rfl⟩

end

end Config

end WebAcl
