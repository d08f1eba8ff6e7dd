import WebAcl.Proofs.BackingSets
import WebAcl.Proofs.DecimalText
import WebAcl.Proofs.HclReader
import WebAcl.Proofs.TerraformBlocks

namespace WebAcl

open Hcl Text

namespace Terraform

/-- The type and the label of the resource that a word refers to. -/
def target? (cs : List Char) : Option (List Char × List Char) :=
  match cs.splitOn '.' with
  | type :: label :: _ => if "aws_".toList <+: type then some (type, label) else none
  | _ => none

theorem target?_eq_none {cs : List Char} (h : cs.head? ≠ some 'a') : target? cs = none := by
  unfold target?
  split
  next type label rest hsplit =>
    obtain ⟨-, ⟨-, hnil⟩ | ⟨rest', rfl, -⟩⟩ := splitOn_eq_cons_iff.mp hsplit
    · simp at hnil
    · refine if_neg fun hstart ↦ h ?_
      obtain ⟨tail, rfl⟩ := hstart
      rfl
  next => rfl

theorem target?_eq_some {type label part : List Char} (htype : '.' ∉ type) (hlabel : '.' ∉ label)
    (hstart : "aws_".toList <+: type) :
    target? (type ++ '.' :: (label ++ '.' :: part)) = some (type, label) := by
  rw [target?, splitOn_append_cons htype, splitOn_append_cons hlabel]
  exact if_pos hstart

variable {p : Policy}

def addresses (p : Policy) : List (String × String) :=
  (orderedSets p).map (fun s ↦ (setType s, setLabel s)) ++
    [("aws_wafv2_web_acl", aclLabel p.name)] ++
    (List.range p.associations.length).map
      (fun i ↦ ("aws_wafv2_web_acl_association", s!"association_{i}")) ++
    if p.logSink.enabled then
      [("aws_cloudwatch_log_group", "waf_logs"),
        ("aws_wafv2_web_acl_logging_configuration", "waf_logs")]
    else []

def header? : Item → Option String
  | .block header _ => some header
  | _ => none

theorem headers_mainBlocks [Machine] {main : List Item} (h : mainBlocks p = .ok main) :
    main.map header? = [some "terraform", some (header "provider" ["aws"])] ++
      (addresses p).map fun a ↦ some (header "resource" [a.1, a.2]) := by
  obtain ⟨rules, -, rfl⟩ := mainBlocks_eq_ok_iff.mp h
  have hassociations : (associationResources p).map header? =
      (List.range p.associations.length).map fun i ↦
        some (header "resource" ["aws_wafv2_web_acl_association", s!"association_{i}"]) :=
    List.ext_getElem (by simp [associationResources]) (by
      simp [associationResources, resource, header?])
  have hlogging : (loggingResources p).map header? =
      (if p.logSink.enabled then
        [("aws_cloudwatch_log_group", "waf_logs"),
          ("aws_wafv2_web_acl_logging_configuration", "waf_logs")]
      else []).map fun a : String × String ↦ some (header "resource" [a.1, a.2]) := by
    unfold loggingResources
    split <;> rfl
  simp only [allBlocks, List.map_append, hassociations, hlogging, addresses]
  simp [providerBlocks, header?, setResource, resource, aclBlock, Function.comp_def]

def label? : Category → Option String
  | .blockV4 => some "blocked_ip_set_ipv4"
  | .blockV6 => some "blocked_ip_set_ipv6"
  | .allowPath => some "allowed_path_set"
  | .allowV4 => some "allowed_ip_set_ipv4"
  | .allowV6 => some "allowed_ip_set_ipv6"
  | .allowUserAgent => some "allowed_user_agent_set"
  | _ => none

theorem setLabel_eq {b : BackingSet} {k : Category} (h : k.setId? = some b.logicalId) :
    label? k = some (setLabel b) := by
  have hall : ∀ k : Category, k.setId?.map snakeCase = label? k := by
    intro k
    cases k <;> decide +kernel
  rw [← hall k, h]
  rfl

theorem eq_of_label? {k l : Category} {label : String} (hk : label? k = some label)
    (hl : label? l = some label) : k = l := by
  have hall : ∀ k l : Category, label? k = label? l → label? k ≠ none → k = l := by
    intro k l
    cases k <;> cases l <;> decide
  exact hall k l (hk.trans hl.symm) (by simp [hk])

theorem label?_setLabel (h : p.ReferencesByCategory) {b : BackingSet} (hb : b ∈ orderedSets p) :
    ∃ k, k.setId? = some b.logicalId ∧ label? k = some (setLabel b) := by
  obtain ⟨k, hk⟩ := h.setId_of_mem hb
  exact ⟨k, hk, setLabel_eq hk⟩

theorem nodup_addresses (h : p.ReferencesByCategory) : (addresses p).Nodup := by
  have hsets : ((orderedSets p).map fun s ↦ (setType s, setLabel s)).Nodup := by
    refine h.nodup_orderedSets.map_on fun b hb d hd heq ↦ ?_
    obtain ⟨k, hk, hbl⟩ := label?_setLabel h hb
    obtain ⟨l, hl, hdl⟩ := label?_setLabel h hd
    have hlabel : setLabel b = setLabel d := congrArg Prod.snd heq
    obtain rfl := eq_of_label? hbl (hlabel ▸ hdl)
    refine h.unambiguous b (h.mem_orderedSets.mp hb) d (h.mem_orderedSets.mp hd) ?_
    exact Option.some.inj (hk.symm.trans hl)
  have hassociations : ((List.range p.associations.length).map fun i ↦
      ("aws_wafv2_web_acl_association", s!"association_{i}")).Nodup :=
    List.nodup_range.map fun i j h ↦ Number.eq_of_repr_eq (by simpa [toString] using h)
  -- lists of addresses are disjoint if their types are
  have hdisjoint : ∀ {as bs : List (String × String)} (types : List String),
      (∀ a ∈ as, a.1 ∈ types) → (∀ b ∈ bs, b.1 ∉ types) → ∀ a ∈ as, ∀ b ∈ bs, a ≠ b :=
    fun types has hbs a ha b hb heq ↦ hbs b hb (heq ▸ has a ha)
  have hsetType : ∀ a ∈ (orderedSets p).map fun s ↦ (setType s, setLabel s),
      a.1 ∈ ["aws_wafv2_ip_set", "aws_wafv2_regex_pattern_set"] := by
    refine List.forall_mem_map.mpr fun b _ ↦ ?_
    cases b <;> simp [setType]
  have hassociationType : ∀ a ∈ (List.range p.associations.length).map fun i ↦
      ("aws_wafv2_web_acl_association", s!"association_{i}"),
      a.1 = "aws_wafv2_web_acl_association" := by simp
  have hacl := List.nodup_append.mpr ⟨hsets,
    List.nodup_singleton ("aws_wafv2_web_acl", aclLabel p.name), hdisjoint _ hsetType (by simp)⟩
  have hmost := List.nodup_append.mpr ⟨hacl, hassociations, hdisjoint
    ["aws_wafv2_ip_set", "aws_wafv2_regex_pattern_set", "aws_wafv2_web_acl"]
    (by grind) (by simp)⟩
  unfold addresses
  split
  · exact List.nodup_append.mpr ⟨hmost, by simp, hdisjoint ["aws_wafv2_ip_set",
      "aws_wafv2_regex_pattern_set", "aws_wafv2_web_acl", "aws_wafv2_web_acl_association"]
      (by grind) (by simp)⟩
  · simpa using hmost

theorem not_mem_aclLabel (name : String) : '.' ∉ (aclLabel name).toList := by
  have hkept : '.' ∉ ((dashed name).toList.map fun c ↦ if c = '-' then '_' else c).filter
      fun c ↦ c.isLower || c.isDigit || c == '_' :=
    fun h ↦ absurd (List.mem_filter.mp h).2 (by decide)
  simp only [aclLabel, String.toList_ofList]
  split
  · exact hkept
  · exact fun h ↦ (List.mem_append.mp h).elim (by decide) hkept

theorem not_mem_setLabel (h : p.ReferencesByCategory) {b : BackingSet} (hb : b ∈ orderedSets p) :
    '.' ∉ (setLabel b).toList := by
  obtain ⟨k, -, hlabel⟩ := label?_setLabel h hb
  have hall : ∀ k : Category, ∀ label ∈ label? k, '.' ∉ label.toList := by
    intro k
    cases k <;> decide
  exact hall k _ hlabel

theorem plain_aclLabel (name : String) : Plain (aclLabel name).toList := by
  have hkept : ∀ cs : List Char, Plain (cs.filter fun c ↦ c.isLower || c.isDigit || c == '_') :=
    fun cs ↦ .of_all (by decide) fun c hc ↦ (List.mem_filter.mp hc).2
  simp only [aclLabel, String.toList_ofList]
  split
  · exact hkept _
  · exact .append (by decide) (hkept _)

theorem plain_associationLabel (i : Nat) : Plain s!"association_{i}".toList := by
  have hdigits : Plain (Nat.toDigits 10 i) :=
    .of_all (by decide) fun _ hc ↦ Nat.isDigit_of_mem_toDigits (by decide) (by decide) hc
  simpa [toString] using Plain.append (show Plain "association_".toList by decide) hdigits

theorem plain_setLabel (h : p.ReferencesByCategory) {b : BackingSet} (hb : b ∈ orderedSets p) :
    Plain (setLabel b).toList := by
  obtain ⟨k, -, hlabel⟩ := label?_setLabel h hb
  have hall : ∀ k : Category, ∀ label ∈ label? k, Plain label.toList := by
    intro k
    cases k <;> decide
  exact hall k _ hlabel

theorem plain_address (h : p.ReferencesByCategory) {a : String × String} (ha : a ∈ addresses p) :
    Plain a.1.toList ∧ Plain a.2.toList := by
  simp only [addresses, List.mem_append, List.mem_map, List.mem_singleton] at ha
  obtain ((⟨b, hb, rfl⟩ | rfl) | ⟨i, -, rfl⟩) | ha := ha
  · refine ⟨?_, plain_setLabel h hb⟩
    cases b <;> simp [setType]
  · exact ⟨by simp, plain_aclLabel p.name⟩
  · exact ⟨by simp, plain_associationLabel i⟩
  · have hlogs : ∀ a ∈ [("aws_cloudwatch_log_group", "waf_logs"),
        ("aws_wafv2_web_acl_logging_configuration", "waf_logs")],
        Plain a.1.toList ∧ Plain a.2.toList := by decide
    split at ha
    · exact hlogs a ha
    · simp at ha

def headerTokens (kind : String) (labels : List String) : List Token :=
  .word kind.toList :: labels.map fun l ↦ .literal l.toList

theorem lexes_labels {labels : List String} (h : ∀ l ∈ labels, Inside l.toList) :
    Lexes (" ".intercalate (labels.map fun l ↦ "\"" ++ l ++ "\"")).toList
      (labels.map fun l ↦ .literal l.toList) := by
  induction labels with
  | nil => exact .nil
  | cons l labels ih =>
    obtain ⟨hl, hlabels⟩ := List.forall_mem_cons.mp h
    have hfirst : Lexes ("\"" ++ l ++ "\"").toList [.literal l.toList] := by
      simpa using Lexes.quoted hl
    cases labels with
    | nil => simpa using hfirst
    | cons l' labels =>
      have hrest := (ih hlabels).blank (show Hcl.isBlank ' ' = true by decide)
      simpa [String.intercalate_cons_cons] using hfirst.append hrest (by simp [Hcl.isBlank])

theorem lexes_header {kind : String} {labels : List String} (hkind : IsWord kind.toList)
    (h : ∀ l ∈ labels, Inside l.toList) :
    Lexes (header kind labels).toList (headerTokens kind labels) := by
  cases labels with
  | nil => simpa [header, headerTokens] using Lexes.word hkind
  | cons l labels =>
    have hlabels := (lexes_labels h).blank (show Hcl.isBlank ' ' = true by decide)
    have hheader := (Lexes.word hkind).append hlabels (by simp [Hcl.isBlank])
    simpa [header, headerTokens, String.intercalate_cons_cons] using hheader

end Terraform

end WebAcl
