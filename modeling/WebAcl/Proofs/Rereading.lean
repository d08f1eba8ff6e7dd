import WebAcl.Config.Plain
import WebAcl.Proofs.TemplateReferences
import WebAcl.Proofs.Validated

namespace WebAcl

namespace Checked

variable {α β : Type}

@[simp] theorem map_valid (f : α → β) (a : α) : f <$> (.valid a : Checked α) = .valid (f a) := rfl

@[simp] theorem apply_valid (f : α → β) (a : α) :
    (.valid f : Checked (α → β)) <*> .valid a = .valid (f a) := rfl

@[simp] theorem under_valid (step : Issue.Step) (a : α) :
    (valid a).under step = .valid a := rfl

end Checked

namespace Lax

open Checked Text

variable {α : Type}

@[simp] theorem text_str (s : String) : text (.str s) = .valid s := rfl

@[simp] theorem integer_int (i : Int) : integer (.int i) = .valid i := rfl

@[simp] theorem truth_bool (b : Bool) : truth (.bool b) = .valid b := rfl

theorem optional_some {read : Value → Checked α} {v : Value} {a : α} (hv : v ≠ .null)
    (hread : read v = .valid a) : optional read v = .valid (some a) := by
  cases v with
  | null => exact absurd rfl hv
  | _ =>
    rw [optional, hread]
    · rfl
    · simp

theorem listed_eq_valid_iff {read : Value → Checked α} {xs : List Value} {as : List α} :
    list read (.list xs) = .valid as ↔ xs.map read = as.map .valid := by
  simp [list_eq_valid_iff, items?]

theorem list_map {read : Value → Checked α} {write : α → Value} {as : List α}
    (h : ∀ a ∈ as, read (write a) = .valid a) : list read (.list (as.map write)) = .valid as := by
  rw [listed_eq_valid_iff, List.map_map]
  exact List.map_congr_left h

@[simp] theorem list_strings (ss : List String) : list text (.strings ss) = .valid ss :=
  list_map fun _ _ ↦ rfl

@[simp] theorem optional_texts (ss : Option (List String)) :
    optional (list text) (Config.optionalTexts ss) = .valid ss := by
  cases ss with
  | none => rfl
  | some ss => exact optional_some (by simp [Config.optionalTexts, Value.strings]) (list_strings ss)

@[simp] theorem optional_text (s : Option String) :
    optional text ((s.map .str).getD .null) = .valid s := by
  cases s <;> rfl

end Lax

namespace Config

open Checked Lax

@[simp] theorem defaultAction_text (a : DefaultAction) :
    choice DefaultAction (normalized (.str (Choice.text a))) = .valid a := by
  cases a <;> rfl

@[simp] theorem removalPolicy_text (a : RemovalPolicy) :
    choice RemovalPolicy (normalized (.str (Choice.text a))) = .valid a := by
  cases a <;> rfl

@[simp] theorem scope_text (a : Scope) :
    choiceOr "EDGE" Scope.edge (.str (Choice.text a)) = .valid a := by
  cases a <;> rfl

@[simp] theorem aggregation_text (a : Aggregation) :
    choiceOr "SOURCE_IP" Aggregation.sourceIp (.str (Choice.text a)) = .valid a := by
  cases a <;> rfl

end Config

end WebAcl
