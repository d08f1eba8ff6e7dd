import WebAcl.Proofs.DashedNames
import WebAcl.Terraform.Basic

namespace WebAcl.Terraform

open Text

variable {cs : List Char}

def isSmallLetter (c : Char) : Bool := 'a' ≤ c && c ≤ 'z'

def isLabelChar (c : Char) : Bool := isSmallLetter c || '0' ≤ c && c ≤ '9' || c == '_'

def IsResourceLabel (cs : List Char) : Prop :=
  ∃ c ds, cs = c :: ds ∧ isSmallLetter c = true ∧ ∀ d ∈ ds, isLabelChar d = true

/-- The words of the name in lower case with an underscore between each two of them, without the
characters that a label cannot have. -/
def labelWords (name : String) : List Char :=
  (['_'].intercalate (wordsBetween isNameGap (lower name).toList)).filter isLabelChar

theorem map_intercalate (f : Char → Char) (sep : List Char) (ws : List (List Char)) :
    (sep.intercalate ws).map f = (sep.map f).intercalate (ws.map (List.map f)) := by
  induction ws with
  | nil => rfl
  | cons w ws ih =>
    cases ws with
    | nil =>
      rw [List.map_singleton, List.intercalate_singleton, List.intercalate_singleton]
    | cons v vs =>
      rw [List.intercalate_cons_cons, List.map_append, List.map_append, ih]
      simp only [List.map_cons, List.intercalate_cons_cons]

/-- No word has a dash, so only the dashes between the words become underscores. -/
theorem map_dashed (name : String) :
    ((dashed name).toList.map fun c ↦ if c = '-' then '_' else c) =
      ['_'].intercalate (wordsBetween isNameGap (lower name).toList) := by
  have hword : ∀ w ∈ wordsBetween isNameGap (lower name).toList,
      (w.map fun c ↦ if c = '-' then '_' else c) = w := by
    intro w hw
    obtain ⟨-, huncut⟩ := of_mem_wordsBetween hw
    have hkeep : ∀ c ∈ w, (if c = '-' then '_' else c) = c := by
      intro c hc
      refine if_neg fun hdash ↦ ?_
      obtain ⟨-, hword⟩ := huncut c hc
      rw [hdash] at hword
      exact absurd hword (by decide)
    rw [List.map_congr_left hkeep, List.map_id']
  rw [toList_dashed, map_intercalate, List.map_congr_left hword, List.map_id']
  rfl

theorem toList_aclLabel (name : String) :
    (aclLabel name).toList =
      if (labelWords name).head?.any isSmallLetter then labelWords name
      else "waf_".toList ++ labelWords name := by
  unfold aclLabel labelWords
  rw [String.toList_ofList, map_dashed]
  rfl

theorem isLabelChar_of_mem_labelWords {name : String} {c : Char} (h : c ∈ labelWords name) :
    isLabelChar c = true :=
  (List.mem_filter.mp h).2

theorem isResourceLabel_aclLabel (name : String) : IsResourceLabel (aclLabel name).toList := by
  rw [toList_aclLabel]
  split
  next hletter =>
    cases hwords : labelWords name with
    | nil => simp [hwords] at hletter
    | cons c ds =>
      rw [hwords] at hletter
      refine ⟨c, ds, rfl, hletter, fun d hd ↦ ?_⟩
      have hmem : d ∈ labelWords name := hwords ▸ List.mem_cons_of_mem c hd
      exact isLabelChar_of_mem_labelWords hmem
  next =>
    refine ⟨'w', "af_".toList ++ labelWords name, rfl, rfl, fun d hd ↦ ?_⟩
    rcases List.mem_append.mp hd with hprefix | hword
    · have hall : ∀ d ∈ "af_".toList, isLabelChar d = true := by decide
      exact hall d hprefix
    · exact isLabelChar_of_mem_labelWords hword

/-- For every name the label is an identifier. It consists of the words of the name, and `waf_`
stands before them exactly where they do not start with a letter. -/
theorem aclLabel_identifies (name : String) :
    IsResourceLabel (aclLabel name).toList ∧
    (aclLabel name).toList =
      if (labelWords name).head?.any isSmallLetter then labelWords name
      else "waf_".toList ++ labelWords name :=
  ⟨isResourceLabel_aclLabel name, toList_aclLabel name⟩

-- The first word is lost, the underscore after it is not.
example : aclLabel "É-A..b" = "waf__a_b" := by decide

end WebAcl.Terraform
