import WebAcl.Proofs.Containment
import WebAcl.Proofs.ExactAcceptance
import WebAcl.Proofs.HclWords

namespace WebAcl

open Hcl Outcome Text

namespace Hcl

/-- A name in which no comment starts. -/
def IsFieldName (key : String) : Prop :=
  IsName key ∧ ∀ d ∈ commentMarks, d ∉ key.toList

instance (key : String) : Decidable (IsFieldName key) :=
  inferInstanceAs (Decidable (_ ∧ ∀ d ∈ commentMarks, _))

theorem isSeparator_of_mem_commentMarks {d : Char} (h : d ∈ commentMarks) :
    isSeparator d = true :=
  List.all_eq_true.mp (by decide : commentMarks.all isSeparator = true) d h

theorem IsScalarText.isUncommented {s : String} (h : IsScalarText s) :
    (Part.bare s).IsUncommented := by
  have hmarks : ∀ d ∈ commentMarks, (Number.isNumberChar d || d.isLower) = false := by decide
  refine uncommented_wordChars h.isWord.2 fun d hd hmem ↦ ?_
  simpa [hmarks d hd] using List.all_eq_true.mp h.chars d hmem

theorem Part.IsOfData.isUncommented {keys : List String} (hkeys : ∀ key ∈ keys, IsFieldName key)
    {part : Part} (h : part.IsOfData keys) : part.IsUncommented := by
  have hname : ∀ key ∈ keys, ∀ d ∈ commentMarks, d ∉ (snakeCase key).toList := fun key hkey d hd ↦
    not_mem_snakeCase (isSeparator_of_mem_commentMarks hd) ((hkeys key hkey).2 d hd)
  have hword : ∀ key ∈ keys, IsWord (snakeCase key).toList :=
    fun key hkey ↦ isWord_snakeCase (hkeys key hkey).1
  cases part with
  | name s =>
    obtain ⟨key, hkey, rfl⟩ := h
    exact uncommented_wordChars (hword key hkey).2 (hname key hkey)
  | header s =>
    obtain ⟨key, hkey, rfl | rfl⟩ := h
    · exact uncommented_wordChars (hword key hkey).2 (hname key hkey)
    · exact uncommented_wordChars (isWordChar_singular (hword key hkey))
        fun d hd ↦ not_mem_singular (hname key hkey d hd)
  | word s => exact h.elim
  | bare s => exact IsScalarText.isUncommented h

end Hcl

namespace Terraform

theorem uncommented_vocabulary {s : String} (h : s ∈ vocabulary) :
    ∀ t ∈ tokens s.toList, t.IsUncommented := by
  have hall : ∀ s ∈ vocabulary, ∀ d ∈ commentMarks, d ∉ s.toList := by decide +kernel
  exact uncommented_wordChars (isWord_of_vocabulary h).2 (hall s h)

theorem uncommented_reference {cs : List Char} (h : ∀ c ∈ cs, isReferenceChar c = true) :
    ∀ t ∈ tokens cs, t.IsUncommented := by
  have hmarks : ∀ d ∈ commentMarks, isReferenceChar d = false := by decide
  refine uncommented_wordChars (fun c hc ↦ isWordChar_of (by decide) (h c hc)) fun d hd hmem ↦ ?_
  simpa [hmarks d hd] using h d hmem

theorem tokens_header {kind : String} {labels : List String} (hkind : IsWord kind.toList)
    (h : ∀ l ∈ labels, Plain l.toList) :
    tokens (header kind labels).toList = headerTokens kind labels :=
  (lexes_header hkind fun l hl ↦ (h l hl).inside).tokens_eq

theorem uncommented_header {kind : String} {labels : List String}
    (hkind : kind ∈ ["provider", "resource", "output"]) (h : ∀ l ∈ labels, Plain l.toList) :
    ∀ t ∈ tokens (header kind labels).toList, t.IsUncommented := by
  have hall : ∀ kind ∈ ["provider", "resource", "output"],
      IsWord kind.toList ∧ ∀ d ∈ commentMarks, d ∉ kind.toList := by decide
  rw [tokens_header (hall kind hkind).1 h]
  exact List.forall_mem_cons.mpr
    ⟨(hall kind hkind).2, List.forall_mem_map.mpr fun _ _ ↦ trivial⟩

theorem IsPart.isUncommented {p : Policy} {keys : List String} {part : Part}
    (h : p.ReferencesByCategory)
    (hdata : ∀ {part : Part}, part.IsOfData keys → part.IsUncommented)
    (hpart : IsPart p keys part) : part.IsUncommented := by
  cases hpart with
  | rule hrule =>
    cases hrule with
    | name mem | header mem => exact uncommented_vocabulary mem
    | word => exact List.forall_mem_singleton.mpr trivial
    | scalar hs => exact hs.isUncommented
    | reference mem =>
      have hlabel := (label?_setLabel h mem).imp fun _ ↦ And.right
      exact uncommented_reference (forall_mem_setReference hlabel)
    | data h => exact hdata h
  | provider => exact show ∀ t ∈ tokens "aws =".toList, t.IsUncommented by decide
  | labelled hkind hplain => exact uncommented_header hkind hplain
  | region => exact uncommented_reference (by decide)
  | acl mem => exact uncommented_reference (forall_mem_aclReference p.name mem)
  | logs => exact uncommented_reference (by decide)

variable {p : Policy}

def isResource (type label : List Char) : Node → Bool
  | .block header _ => header == [.word "resource".toList, .literal type, .literal label]
  | .attribute _ _ => false

def headerOf? : Node → Option (List Token)
  | .block header _ => some header
  | .attribute _ _ => none

theorem headers_nodesOf {items : List Item} (h : ∀ item ∈ items, (header? item).isSome = true) :
    (Item.nodesOf items).map headerOf? =
      (items.map header?).map (Option.map fun s ↦ tokens s.toList) := by
  induction items with
  | nil => rfl
  | cons item items ih =>
    obtain ⟨hitem, hitems⟩ := List.forall_mem_cons.mp h
    cases item with
    | block header body =>
      rw [Item.nodesOf, Item.nodes, List.singleton_append, List.map_cons, List.map_cons,
        List.map_cons, ih hitems]
      rfl
    | _ => simp [header?] at hitem

theorem headers_nodesOf_mainBlocks [Machine] (h : p.ReferencesByCategory) {main : List Item}
    (hmain : mainBlocks p = .ok main) : (Item.nodesOf main).map headerOf? =
      [some (headerTokens "terraform" []), some (headerTokens "provider" ["aws"])] ++
        (addresses p).map fun a ↦ some (headerTokens "resource" [a.1, a.2]) := by
  have hheaders := headers_mainBlocks hmain
  have hblocks : ∀ item ∈ main, (header? item).isSome = true := by
    intro item hitem
    have hmem : header? item ∈ main.map header? := List.mem_map_of_mem hitem
    rw [hheaders] at hmem
    generalize header? item = found at hmem
    simp only [List.mem_append, List.mem_cons, List.mem_map, List.not_mem_nil, or_false] at hmem
    obtain (rfl | rfl) | ⟨a, -, rfl⟩ := hmem <;> rfl
  have hresources : (addresses p).map (fun a ↦
      some (tokens (header "resource" [a.1, a.2]).toList)) =
        (addresses p).map fun a ↦ some (headerTokens "resource" [a.1, a.2]) :=
    List.map_congr_left fun a ha ↦ by
      have hplain := plain_address h ha
      rw [tokens_header (by decide) (by simp [hplain])]
  have hterraform : tokens "terraform".toList = headerTokens "terraform" [] :=
    tokens_of_isWord (by decide)
  have hprovider : tokens (header "provider" ["aws"]).toList = headerTokens "provider" ["aws"] :=
    tokens_header (by decide) (by decide)
  rw [headers_nodesOf hblocks, hheaders, List.map_append, List.map_map]
  refine congrArg₂ (· ++ ·) ?_ hresources
  simp only [List.map_cons, List.map_nil, Option.map_some, hterraform, hprovider]

theorem nodup_headers (h : p.ReferencesByCategory) :
    ([some (headerTokens "terraform" []), some (headerTokens "provider" ["aws"])] ++
      (addresses p).map fun a ↦ some (headerTokens "resource" [a.1, a.2])).Nodup := by
  refine List.nodup_append.mpr ⟨by decide, ?_, ?_⟩
  · refine (nodup_addresses h).map fun a b heq ↦ ?_
    obtain ⟨htype, hlabel⟩ : a.1 = b.1 ∧ a.2 = b.2 := by
      simpa [headerTokens, String.toList_inj] using heq
    exact Prod.ext htype hlabel
  · rintro first hfirst _ hrest rfl
    obtain ⟨a, -, rfl⟩ := List.mem_map.mp hrest
    simp [headerTokens] at hfirst

/-- Every resource of a policy has exactly one block. -/
theorem countP_isResource [Machine] (h : p.ReferencesByCategory) {main : List Item}
    (hmain : mainBlocks p = .ok main) {a : String × String} (ha : a ∈ addresses p) :
    (Item.nodesOf main).countP (isResource a.1.toList a.2.toList) = 1 := by
  have hcount : (Item.nodesOf main).countP (isResource a.1.toList a.2.toList) =
      ((Item.nodesOf main).map headerOf?).count
        (some (headerTokens "resource" [a.1, a.2])) := by
    rw [List.count, List.countP_map]
    refine List.countP_congr fun n _ ↦ ?_
    cases n <;> simp [isResource, headerOf?, headerTokens]
  rw [hcount, headers_nodesOf_mainBlocks h hmain]
  exact List.count_eq_one_of_mem (nodup_headers h)
    (List.mem_append_right _ (List.mem_map_of_mem ha))

/-- The files of a policy can be read, and whatever a word of them refers to has exactly one block
in the main file. -/
def IsClosed [Machine] (p : Policy) : Prop :=
  ∀ rendered, files p = .ok rendered → ∃ main outputs mainNodes outputNodes,
    rendered = [("main.tf", main), ("variables.tf", file variableBlocks),
      ("outputs.tf", outputs)] ∧
    IsReadAs main.toList mainNodes ∧ IsReadAs outputs.toList outputNodes ∧
    ∀ word ∈ Node.wordsOf mainNodes ++ Node.wordsOf outputNodes, ∀ type label,
      target? word = some (type, label) → mainNodes.countP (isResource type label) = 1

theorem isReadAs_outputs (h : p.IsRegular) :
    IsReadAs (file (outputBlocks p)).toList (Item.nodesOf (outputBlocks p)) := by
  have hparts : ∀ part ∈ Item.partsOf (outputBlocks p), IsPart p [] part := parts_outputBlocks h
  have hdata : ∀ {part : Part}, part.IsOfData [] → part.IsUncommented :=
    Part.IsOfData.isUncommented (List.forall_mem_nil _)
  exact isReadAs_file
    (fun part hpart ↦ (hparts part hpart).readable h.references (List.forall_mem_nil _))
    fun part hpart ↦ (hparts part hpart).isUncommented h.references hdata

theorem isClosed_of_isRegular [Machine] (h : p.IsRegular)
    (hkeys : ∀ key ∈ p.statementKeys, IsFieldName key) : IsClosed p := by
  intro rendered hrendered
  rw [files_eq] at hrendered
  obtain ⟨main, hmain, rfl⟩ := map_eq_ok_iff.mp hrendered
  have hparts := parts_mainBlocks h hmain
  have houtputs : ∀ part ∈ Item.partsOf (outputBlocks p), IsPart p p.statementKeys part :=
    parts_outputBlocks h
  refine ⟨_, _, _, _, rfl, isReadAs_file (fun part hpart ↦ ?_) fun part hpart ↦ ?_,
    isReadAs_outputs h, ?_⟩
  · exact (hparts part hpart).readable h.references fun key hkey ↦ (hkeys key hkey).1
  · exact (hparts part hpart).isUncommented h.references fun hdata ↦ hdata.isUncommented hkeys
  · rw [wordsOf_nodesOf, wordsOf_nodesOf, ← List.filterMap_append]
    intro word hword type label htarget
    obtain ⟨s, hs, rfl⟩ : ∃ s, IsPart p p.statementKeys (.bare s) ∧ s.toList = word := by
      obtain ⟨part, hpart, hbare⟩ := List.mem_filterMap.mp hword
      have hpart := (List.mem_append.mp hpart).elim (hparts part) (houtputs part)
      cases part with
      | bare s => exact ⟨s, hpart, Option.some.inj hbare⟩
      | _ => simp [Part.bare?] at hbare
    obtain ⟨a, ha, rfl, rfl⟩ := hs.target_mem h.references htarget
    exact countP_isResource h.references hmain ha

end Terraform

/-- All references that are made for a policy lead to what they are made for. In its files, this
takes the keys of custom statements to be names. -/
structure Policy.ReferencesClosed [Machine] (p : Policy) : Prop where
  sets : p.ListsItsSets
  template : Template.IsClosed p
  terraform : (∀ key ∈ p.statementKeys, IsFieldName key) → Terraform.IsClosed p

namespace Config

/-- Whatever the configuration, the references of a compiled policy, of its template and of its
files are closed. -/
theorem referencesClosed_of_compile [Machine] {registry : Registry} {c : Config} {p : Policy}
    (h : c.compile registry = .ok p) : p.ReferencesClosed :=
  have hregular := isRegular_of_compile h
  { sets := hregular.references.listsItsSets
    template := Template.isClosed_of_referencesByCategory hregular.references
    terraform := Terraform.isClosed_of_isRegular hregular }

section

open UsualMachine

theorem referencesClosed_sampler : ∃ p, sampler.compile .builtIn = .ok p ∧ p.ReferencesClosed ∧
    ∀ key ∈ p.statementKeys, IsFieldName key := by
  obtain ⟨p, hp⟩ := exists_compile_sampler
  refine ⟨p, hp, referencesClosed_of_compile hp, fun key hkey ↦ ?_⟩
  obtain ⟨r, hr, hkey⟩ := List.mem_flatMap.mp hkey
  obtain hbuilt | ⟨k, s, hs, rfl⟩ := isBuiltIn_or_made hp hr
  · have hmade := hbuilt.statement
    generalize r.statement = st at hmade hkey
    cases hmade <;> simp [Statement.keys] at hkey
  · have hall : ∀ s ∈ sampler.preRules ++ sampler.postRules,
        ∀ key ∈ (s.made .preCustom).statement.keys, IsFieldName key := by decide +kernel
    cases k with
    | preCustom => exact hall s (List.mem_append_left _ hs) key hkey
    | postCustom => exact hall s (List.mem_append_right _ hs) key hkey
    | _ => simp [customRules] at hs

end

/-- A key that ends the blocks around it and starts others, with the header of the list. -/
def breakingKey : String :=
  "a \x7b\x7d\n\x7d\n\x7d\n\x7d\nresource \"aws_wafv2_web_acl\" \"acme\" \x7b\nb \x7b\nb \x7b\nb"

def breakingRule : CustomRule where
  name := "r"
  priority := 0
  action := some .block
  statement := [(breakingKey, .record [])]

def breakingPolicy : Policy :=
  (withRule [] breakingRule).toPolicy (breakingRule.made .preCustom :: mandatoryRules)

theorem compile_breakingRule [Machine] [Machine.IsRoomy] :
    (withRule [] breakingRule).compile .builtIn = .ok breakingPolicy := by
  have hpasses : breakingRule.Passes .preCustom := {
    name := by decide
    statement := by simp [breakingRule]
    priority := rfl
    depth := Machine.IsRoomy.copying.fits rfl }
  exact compile_withRule hpasses rfl (by decide) rfl

theorem snakeCase_breakingKey : snakeCase breakingKey = breakingKey := by
  decide +kernel

theorem parts_breakingKey {part : Part} (h : part.IsOfData breakingPolicy.statementKeys) :
    part.IsClosed ∧ part.IsUncommented := by
  have hkeys : breakingPolicy.statementKeys = [breakingKey] := by
    decide +kernel
  have hclosed : Closed breakingKey.toList := closed_of_pieces (by decide +kernel)
  have huncommented : ∀ t ∈ tokens breakingKey.toList, t.IsUncommented := by decide +kernel
  have hsingular : singular breakingKey = breakingKey := by decide +kernel
  rw [hkeys] at h
  cases part with
  | name s =>
    obtain rfl : s = breakingKey := by simpa [Part.IsOfData, snakeCase_breakingKey] using h
    exact ⟨hclosed, huncommented⟩
  | header s =>
    obtain rfl : s = breakingKey := by
      simpa [Part.IsOfData, snakeCase_breakingKey, hsingular] using h
    exact ⟨hclosed, huncommented⟩
  | word s => exact h.elim
  | bare s => exact ⟨(IsScalarText.isWord h |> Lexes.word).closed, IsScalarText.isUncommented h⟩

section

open UsualMachine

/-- A reference that leads to two blocks. -/
theorem block_repeated : (withRule [] breakingRule).Validated ∧
    ∃ p main outputs mainNodes outputNodes,
      (withRule [] breakingRule).compile .builtIn = .ok p ∧
      Terraform.files p = .ok [("main.tf", main), ("variables.tf", file Terraform.variableBlocks),
        ("outputs.tf", outputs)] ∧
      IsReadAs main.toList mainNodes ∧ IsReadAs outputs.toList outputNodes ∧
      ∃ word ∈ Node.wordsOf outputNodes, ∃ type label,
        Terraform.target? word = some (type, label) ∧
        mainNodes.countP (Terraform.isResource type label) = 2 := by
  have hregular := isRegular_of_compile compile_breakingRule
  have hcount : (Terraform.mainBlocks breakingPolicy).toOption.bind (fun main ↦
      ((Reader.start.run (Item.tokensOf main)).bind Reader.nodes?).map fun nodes ↦
        nodes.countP (Terraform.isResource "aws_wafv2_web_acl".toList "acme".toList)) =
      some 2 := by decide +kernel
  cases hmain : Terraform.mainBlocks breakingPolicy with
  | error crash => simp [hmain, Except.toOption] at hcount
  | ok main =>
    have hparts := Terraform.parts_mainBlocks hregular hmain
    have hclosed : ∀ part ∈ Item.partsOf main, part.IsClosed := fun part hpart ↦
      ((hparts part hpart).readable_or hregular.references).elim Part.Readable.isClosed
        fun hdata ↦ (parts_breakingKey hdata).1
    have huncommented : ∀ part ∈ Item.partsOf main, part.IsUncommented := fun part hpart ↦
      (hparts part hpart).isUncommented hregular.references fun hdata ↦ (parts_breakingKey hdata).2
    obtain ⟨mainNodes, hread, hnodes⟩ : ∃ mainNodes, read (file main).toList = some mainNodes ∧
        mainNodes.countP
          (Terraform.isResource "aws_wafv2_web_acl".toList "acme".toList) = 2 := by
      rw [Hcl.read, (lexes_file hclosed).tokens_eq]
      rw [hmain] at hcount
      exact Option.map_eq_some_iff.mp hcount
    refine ⟨⟨by decide, by decide, by decide⟩, breakingPolicy, _, _, mainNodes, _,
      compile_breakingRule, by rw [Terraform.files_eq, hmain]; rfl,
      ⟨uncommented_file hclosed huncommented, hread⟩, Terraform.isReadAs_outputs hregular,
      "aws_wafv2_web_acl.acme.arn".toList, ?_, _, _, ?_, hnodes⟩
    · rw [wordsOf_nodesOf]
      decide +kernel
    · decide

end

end Config

end WebAcl
