import WebAcl.Proofs.Outcome
import WebAcl.Terraform.Basic

namespace WebAcl.Terraform

open Hcl Outcome Text

def ruleBlock (r : Rule) (outcome : Item) (statement : List Item) : Item :=
  .block "rule" [
    .attributes [("name", .text r.name), ("priority", .bare (toString r.priority))],
    .blank,
    outcome,
    .blank,
    .block "statement" (Item.orBlank statement),
    .blank,
    visibilityBlock r.visibility]

theorem ruleItems_eq [Machine] (r : Rule) : ruleItems r = (do
    let outcome ← outcomeBlock r
    let statement ← statementItems r.statement
    if Number.isWritable r.priority then .ok [.blank, ruleBlock r outcome statement]
    else .error .hugeInteger) := by
  unfold ruleItems
  cases outcomeBlock r with
  | error e => rfl
  | ok outcome =>
    cases statementItems r.statement with
    | error e => rfl
    | ok statement => cases Number.isWritable r.priority <;> rfl

theorem ruleItems_eq_ok_iff [Machine] {r : Rule} {items : List Item} : ruleItems r = .ok items ↔
    ∃ outcome statement, outcomeBlock r = .ok outcome ∧ statementItems r.statement = .ok statement ∧
      Number.isWritable r.priority = true ∧ items = [.blank, ruleBlock r outcome statement] := by
  rw [ruleItems_eq]
  cases outcomeBlock r with
  | error e => simp
  | ok outcome =>
    cases statementItems r.statement with
    | error e => simp
    | ok statement => cases Number.isWritable r.priority <;> simp [eq_comm]

theorem exists_ruleItems_iff [Machine] {r : Rule} : (∃ items, ruleItems r = .ok items) ↔
    (∃ outcome, outcomeBlock r = .ok outcome) ∧
      (∃ statement, statementItems r.statement = .ok statement) ∧
        Number.isWritable r.priority = true := by
  constructor
  · rintro ⟨items, h⟩
    obtain ⟨outcome, statement, houtcome, hstatement, hpriority, -⟩ := ruleItems_eq_ok_iff.mp h
    exact ⟨⟨outcome, houtcome⟩, ⟨statement, hstatement⟩, hpriority⟩
  · rintro ⟨⟨outcome, houtcome⟩, ⟨statement, hstatement⟩, hpriority⟩
    exact ⟨_, ruleItems_eq_ok_iff.mpr ⟨outcome, statement, houtcome, hstatement, hpriority, rfl⟩⟩

variable {p : Policy}

def aclBlock (p : Policy) (rules : List (List Item)) : Item :=
  resource "aws_wafv2_web_acl" (aclLabel p.name) ([
      .attributes [("name", .text p.name), ("scope", .word (Choice.text p.scope))],
      .blank,
      .block "default_action" [.flag (lowered p.defaultAction)]]
    ++ Item.orBlank rules.flatten
    ++ [visibilityBlock p.visibility])

def allBlocks (p : Policy) (rules : List (List Item)) : List Item :=
  providerBlocks ++ (orderedSets p).map (setResource p) ++ [aclBlock p rules] ++
    associationResources p ++ loggingResources p

theorem mainBlocks_eq [Machine] (p : Policy) :
    mainBlocks p = allBlocks p <$> p.rules.mapM ruleItems := by
  unfold mainBlocks aclResource
  cases p.rules.mapM ruleItems <;> rfl

theorem mainBlocks_eq_ok_iff [Machine] {main : List Item} : mainBlocks p = .ok main ↔
    ∃ rules, p.rules.mapM ruleItems = .ok rules ∧ main = allBlocks p rules := by
  rw [mainBlocks_eq]
  cases p.rules.mapM ruleItems <;> simp [eq_comm]

theorem files_eq [Machine] (p : Policy) : files p = (fun main ↦ [("main.tf", file main),
    ("variables.tf", file variableBlocks), ("outputs.tf", file (outputBlocks p))]) <$>
      mainBlocks p := by
  unfold files
  cases mainBlocks p <;> rfl

theorem exists_files_iff [Machine] : (∃ main outputs, files p = .ok [("main.tf", main),
    ("variables.tf", file variableBlocks), ("outputs.tf", outputs)]) ↔
      ∀ r ∈ p.rules, ∃ items, ruleItems r = .ok items := by
  rw [← exists_mapM_iff, files_eq, mainBlocks_eq]
  cases p.rules.mapM ruleItems <;> simp

end WebAcl.Terraform
