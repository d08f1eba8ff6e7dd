import WebAcl.Proofs.HclParts
import WebAcl.Proofs.Literals

namespace WebAcl.Hcl

/-- Two texts that are the same outside of their literals, and what the literals of the first
contain. -/
structure Reads (cs ds : List Char) (contents : List (List Char)) : Prop where
  closed_left : Closed cs
  closed_right : Closed ds
  erase_eq : erase cs = erase ds
  literals_eq : literals cs = contents

namespace Reads

variable {cs ds cs' ds' : List Char} {contents contents' : List (List Char)}

theorem of_closed (h : Closed cs) : Reads cs cs (literals cs) :=
  ⟨h, h, rfl, rfl⟩

theorem of_not_mem (h : '"' ∉ cs) : Reads cs cs [] :=
  ⟨closed_of_not_mem h, closed_of_not_mem h, rfl, literals_of_not_mem h⟩

theorem quoted (hcs : Inside cs) (hds : Inside ds) :
    Reads ('"' :: (cs ++ ['"'])) ('"' :: (ds ++ ['"'])) [cs] :=
  ⟨closed_quoted hcs, closed_quoted hds, (erase_quoted hcs).trans (erase_quoted hds).symm,
    literals_quoted hcs⟩

theorem append (h : Reads cs ds contents) (h' : Reads cs' ds' contents') :
    Reads (cs ++ cs') (ds ++ ds') (contents ++ contents') where
  closed_left := h.closed_left.append h'.closed_left
  closed_right := h.closed_right.append h'.closed_right
  erase_eq := by
    rw [erase_append h.closed_left, erase_append h.closed_right, h.erase_eq, h'.erase_eq]
  literals_eq := by rw [literals_append h.closed_left, h.literals_eq, h'.literals_eq]

theorem prepend (h : Reads cs ds contents) {before : List Char} (hbefore : '"' ∉ before) :
    Reads (before ++ cs) (before ++ ds) contents :=
  (of_not_mem hbefore).append h

theorem extend (h : Reads cs ds contents) {after : List Char} (hafter : '"' ∉ after) :
    Reads (cs ++ after) (ds ++ after) contents := by
  simpa using h.append (of_not_mem hafter)

end Reads

inductive ReadLines : List String → List String → List (List Char) → Prop
  | nil : ReadLines [] [] []
  | cons {s t : String} {ss ts : List String} {contents contents' : List (List Char)} :
    Reads s.toList t.toList contents → ReadLines ss ts contents' →
      ReadLines (s :: ss) (t :: ts) (contents ++ contents')

namespace ReadLines

variable {ss ts ss' ts' : List String} {contents contents' : List (List Char)}

theorem single {s t : String} (h : Reads s.toList t.toList contents) :
    ReadLines [s] [t] contents := by
  simpa using cons h nil

theorem append (h : ReadLines ss ts contents) (h' : ReadLines ss' ts' contents') :
    ReadLines (ss ++ ss') (ts ++ ts') (contents ++ contents') := by
  induction h with
  | nil => exact h'
  | cons hs _ ih => simpa using cons hs ih

theorem intercalate (h : ReadLines ss ts contents) {separator : String}
    (hseparator : '"' ∉ separator.toList) :
    Reads (separator.intercalate ss).toList (separator.intercalate ts).toList contents := by
  induction h with
  | nil => exact .of_not_mem (by simp)
  | cons hs hss ih =>
    cases hss with
    | nil => simpa using hs
    | cons hs' hss' =>
      simp only [String.intercalate_cons_cons, String.toList_append]
      exact (hs.extend hseparator).append ih

end ReadLines

mutual

def Expr.blanked : Expr → Expr
  | text _ => text ""
  | word s => word s
  | bare s => bare s
  | inline items => inline (Expr.blankedAll items)
  | column items => column (items.map fun _ ↦ "")

def Expr.blankedAll : List Expr → List Expr
  | [] => []
  | e :: es => e.blanked :: Expr.blankedAll es

end

inductive Source where
  | text (s : String)
  | fixed (content : List Char)

def Source.content : Source → List Char
  | text s => escape s.toList
  | fixed content => content

mutual

def Expr.sources : Expr → List Source
  | text s => [.text s]
  | word s => [.fixed s.toList]
  | bare _ => []
  | inline items => Expr.sourcesOf items
  | column items => items.map .text

def Expr.sourcesOf : List Expr → List Source
  | [] => []
  | e :: es => e.sources ++ Expr.sourcesOf es

end

namespace Item

mutual

def blanked : Item → Item
  | blank => blank
  | attributes fields => attributes (fields.map fun f ↦ (f.1, f.2.blanked))
  | flag name => flag name
  | block header body => block header (blankedAll body)

def blankedAll : List Item → List Item
  | [] => []
  | item :: items => item.blanked :: blankedAll items

end

mutual

def sources : Item → List Source
  | blank | flag _ => []
  | attributes fields => fields.flatMap fun f ↦ f.2.sources
  | block header body => (literals header.toList).map .fixed ++ sourcesOf body

def sourcesOf : List Item → List Source
  | [] => []
  | item :: items => item.sources ++ sourcesOf items

end

end Item

/-- Characters that have a meaning in literals or may not stand there. -/
def marks : List Char :=
  ['"', '\\', '$', '%', '\n', '\r']

/-- A text that is its own content as a literal. -/
def Plain (cs : List Char) : Prop :=
  ∀ c ∈ cs, c ∉ marks

instance (cs : List Char) : Decidable (Plain cs) :=
  List.decidableBAll (· ∉ marks) cs

@[simp] theorem plain_nil : Plain [] :=
  List.forall_mem_nil _

@[simp] theorem plain_cons {c : Char} {cs : List Char} :
    Plain (c :: cs) ↔ c ∉ ['"', '\\', '$', '%', '\n', '\r'] ∧ Plain cs :=
  List.forall_mem_cons

namespace Plain

variable {cs ds : List Char}

theorem of_all {p : Char → Bool} (hp : marks.any p = false) (h : ∀ c ∈ cs, p c = true) :
    Plain cs :=
  fun c hc hmark ↦ List.any_eq_false.mp hp c hmark (h c hc)

theorem append (hcs : Plain cs) (hds : Plain ds) : Plain (cs ++ ds) :=
  List.forall_mem_append.mpr ⟨hcs, hds⟩

theorem not_mem_quote (h : Plain cs) : '"' ∉ cs :=
  fun hc ↦ h _ hc (by decide)

theorem inside (h : Plain cs) : Inside cs :=
  inside_of_not_mem h.not_mem_quote fun hc ↦ h _ hc (by decide)

theorem startsTemplate (h : Plain cs) : startsTemplate cs = false :=
  startsTemplate_of_not_mem (fun hc ↦ h _ hc (by decide)) fun hc ↦ h _ hc (by decide)

end Plain

def Part.Tidy : Part → Prop
  | name s | bare s => '"' ∉ s.toList
  | header s => Closed s.toList ∧ ∀ content ∈ literals s.toList, Plain content
  | word s => Plain s.toList

namespace Part

@[simp] theorem tidy_name_iff {s : String} : (name s).Tidy ↔ '"' ∉ s.toList :=
  Iff.rfl

@[simp] theorem tidy_bare_iff {s : String} : (bare s).Tidy ↔ '"' ∉ s.toList :=
  Iff.rfl

@[simp] theorem tidy_word_iff {s : String} : (word s).Tidy ↔ Plain s.toList :=
  Iff.rfl

theorem tidy_header {s : String} (h : '"' ∉ s.toList) : (header s).Tidy :=
  ⟨closed_of_not_mem h, by simp [literals_of_not_mem h]⟩

end Part

theorem not_mem_margin (depth : Nat) : '"' ∉ (margin depth).toList := by
  simp [margin]

theorem reads_quote (s t : String) :
    Reads (quote s).toList (quote t).toList [escape s.toList] := by
  simpa [quote, escapeText] using Reads.quoted (inside_escape s.toList) (inside_escape t.toList)

theorem readLines_column (depth : Nat) (items : List String) :
    ReadLines (items.map fun s ↦ margin depth ++ quote s ++ ",")
      ((items.map fun _ ↦ "").map fun s ↦ margin depth ++ quote s ++ ",")
      (items.map fun s ↦ escape s.toList) := by
  induction items with
  | nil => exact .nil
  | cons s items ih =>
    have hline : Reads (margin depth ++ quote s ++ ",").toList
        (margin depth ++ quote "" ++ ",").toList [escape s.toList] := by
      simpa using ((reads_quote s "").prepend (not_mem_margin depth)).extend
        (show '"' ∉ ",".toList by decide)
    exact .cons hline ih

mutual

theorem reads_expr (depth : Nat) : ∀ {e : Expr}, (∀ part ∈ e.parts, part.Tidy) →
    Reads (e.toText depth).toList (e.blanked.toText depth).toList (e.sources.map Source.content)
  | .text s, _ => by
    simpa [Expr.toText, Expr.blanked, Expr.sources, Source.content] using reads_quote s ""
  | .word s, h => by
    have hplain : Plain s.toList := h (.word s) (by simp [Expr.parts])
    simpa [Expr.toText, Expr.blanked, Expr.sources, Source.content] using
      Reads.quoted hplain.inside hplain.inside
  | .bare s, h => by
    have hquote : '"' ∉ s.toList := h (.bare s) (by simp [Expr.parts])
    simpa [Expr.toText, Expr.blanked, Expr.sources, Source.content] using Reads.of_not_mem hquote
  | .inline items, h => by
    have hitems := (readLines_texts depth h).intercalate (show '"' ∉ ", ".toList by decide)
    simpa [Expr.toText, Expr.blanked, Expr.sources, Source.content] using
      (hitems.prepend (show '"' ∉ ['['] by decide)).extend (show '"' ∉ [']'] by decide)
  | .column [], _ => show Reads "[]".toList "[]".toList [] from .of_not_mem (by decide)
  | .column (s :: items), _ => by
    have hlines := (readLines_column (depth + 1) (s :: items)).intercalate
      (show '"' ∉ "\n".toList by decide)
    have hend : '"' ∉ ("\n" ++ margin depth ++ "]").toList := by
      simp [not_mem_margin]
    simpa [Expr.toText, Expr.blanked, Expr.sources, Source.content, Function.comp_def] using
      (hlines.prepend (show '"' ∉ "[\n".toList by decide)).extend hend

theorem readLines_texts (depth : Nat) : ∀ {es : List Expr},
    (∀ part ∈ Expr.partsOf es, part.Tidy) →
      ReadLines (Expr.texts depth es) (Expr.texts depth (Expr.blankedAll es))
        ((Expr.sourcesOf es).map Source.content)
  | [], _ => .nil
  | e :: es, h => by
    obtain ⟨he, hes⟩ := List.forall_mem_append.mp h
    rw [Expr.sourcesOf, List.map_append]
    exact .cons (reads_expr depth he) (readLines_texts depth hes)

end

namespace Item

def attributeLine (depth width : Nat) (f : String × Expr) : String :=
  margin depth ++ f.1 ++ String.ofList (List.replicate (width - f.1.length) ' ') ++ " = " ++
    f.2.toText depth

theorem readLines_attributes (depth width : Nat) : ∀ {fields : List (String × Expr)},
    (∀ f ∈ fields, Part.Tidy (.name f.1) ∧ ∀ part ∈ f.2.parts, part.Tidy) →
      ReadLines (fields.map (attributeLine depth width))
        ((fields.map fun f ↦ (f.1, f.2.blanked)).map (attributeLine depth width))
        ((fields.flatMap fun f ↦ f.2.sources).map Source.content)
  | [], _ => .nil
  | f :: fields, h => by
    obtain ⟨⟨hname, hvalue⟩, hfields⟩ := List.forall_mem_cons.mp h
    have hname : '"' ∉ f.1.toList := hname
    have hstart : '"' ∉ (margin depth ++ f.1 ++
        String.ofList (List.replicate (width - f.1.length) ' ') ++ " = ").toList := by
      simp [not_mem_margin, hname]
    have hline := (reads_expr depth hvalue).prepend hstart
    rw [← String.toList_append, ← String.toList_append] at hline
    rw [List.flatMap_cons, List.map_append]
    exact .cons hline (readLines_attributes depth width hfields)

mutual

theorem readLines_lines : ∀ (depth : Nat) {item : Item}, (∀ part ∈ item.parts, part.Tidy) →
    ReadLines (item.lines depth) (item.blanked.lines depth) (item.sources.map Source.content)
  | depth, .blank, _ => .single (.of_not_mem (by decide))
  | depth, .attributes fields, h => by
    have hfields : ∀ f ∈ fields, Part.Tidy (.name f.1) ∧ ∀ part ∈ f.2.parts, part.Tidy :=
      fun f hf ↦ List.forall_mem_cons.mp fun part hpart ↦
        h part (by simpa [parts] using ⟨f.1, f.2, hf, by simpa using hpart⟩)
    have hwidth : (fields.map fun f ↦ (f.1, f.2.blanked)).map (·.1.length) =
        fields.map (·.1.length) := by
      simp [Function.comp_def]
    simp only [lines, attributeLines, blanked, sources, hwidth]
    exact readLines_attributes depth _ hfields
  | depth, .flag name, h => by
    have hname : '"' ∉ name.toList := h (.name name) (by simp [parts])
    refine .single (.of_not_mem ?_)
    simp [not_mem_margin, hname]
  | depth, .block header body, h => by
    obtain ⟨hheader, hbody⟩ := List.forall_mem_cons.mp h
    have hclosed : Closed header.toList := hheader.1
    have hfirst := ((Reads.of_closed hclosed).prepend (not_mem_margin depth)).extend
      (show '"' ∉ " \x7b".toList by decide)
    have hlast : ReadLines [margin depth ++ "\x7d"] [margin depth ++ "\x7d"] [] :=
      .single (.of_not_mem (by simp [not_mem_margin]))
    rw [← String.toList_append, ← String.toList_append] at hfirst
    simpa [lines, blanked, sources, Function.comp_def, Source.content] using
      ReadLines.cons hfirst ((readLines_allLines (depth + 1) hbody).append hlast)

theorem readLines_allLines : ∀ (depth : Nat) {items : List Item},
    (∀ part ∈ partsOf items, part.Tidy) →
      ReadLines (allLines depth items) (allLines depth (blankedAll items))
        ((sourcesOf items).map Source.content)
  | _, [], _ => .nil
  | depth, item :: items, h => by
    obtain ⟨hitem, hitems⟩ := List.forall_mem_append.mp h
    rw [sourcesOf, List.map_append]
    exact (readLines_lines depth hitem).append (readLines_allLines depth hitems)

end

end Item

theorem reads_render (depth : Nat) {items : List Item}
    (h : ∀ part ∈ Item.partsOf items, part.Tidy) :
    Reads (render depth items).toList (render depth (Item.blankedAll items)).toList
      ((Item.sourcesOf items).map Source.content) :=
  (Item.readLines_allLines depth h).intercalate (by decide)

theorem readLines_blocks : ∀ {blocks : List Item}, (∀ part ∈ Item.partsOf blocks, part.Tidy) →
    ReadLines (blocks.map fun b ↦ render 0 [b] ++ "\n")
      ((Item.blankedAll blocks).map fun b ↦ render 0 [b] ++ "\n")
      ((Item.sourcesOf blocks).map Source.content)
  | [], _ => .nil
  | b :: blocks, h => by
    obtain ⟨hb, hblocks⟩ := List.forall_mem_append.mp h
    have hparts : ∀ part ∈ Item.partsOf [b], part.Tidy := by simpa using hb
    have hrender := (reads_render 0 hparts).extend (show '"' ∉ "\n".toList by decide)
    rw [← String.toList_append, ← String.toList_append] at hrender
    simpa [Item.blankedAll, Item.sourcesOf] using ReadLines.cons hrender (readLines_blocks hblocks)

/-- The literals of a file contain the texts and the words of its blocks, and outside of them the
file is the same as one without texts. -/
theorem reads_file {blocks : List Item} (h : ∀ part ∈ Item.partsOf blocks, part.Tidy) :
    Reads (file blocks).toList (file (Item.blankedAll blocks)).toList
      ((Item.sourcesOf blocks).map Source.content) :=
  (readLines_blocks h).intercalate (by decide)

def Source.Tidy : Source → Prop
  | text _ => True
  | fixed content => Plain content

theorem Source.Tidy.startsTemplate {source : Source} (h : source.Tidy) :
    startsTemplate source.content = false := by
  cases source with
  | text s => exact startsTemplate_escape s.toList
  | fixed content => exact Plain.startsTemplate h

mutual

theorem tidy_sources_expr : ∀ {e : Expr}, (∀ part ∈ e.parts, part.Tidy) →
    ∀ source ∈ e.sources, source.Tidy
  | .text s, _ => List.forall_mem_singleton.mpr trivial
  | .word s, h => by simpa [Expr.parts, Expr.sources, Part.Tidy, Source.Tidy] using h
  | .bare s, _ => by simp [Expr.sources]
  | .inline items, h => tidy_sourcesOf_expr h
  | .column items, _ => List.forall_mem_map.mpr fun _ _ ↦ trivial

theorem tidy_sourcesOf_expr : ∀ {es : List Expr}, (∀ part ∈ Expr.partsOf es, part.Tidy) →
    ∀ source ∈ Expr.sourcesOf es, source.Tidy
  | [], _ => by simp [Expr.sourcesOf]
  | e :: es, h => by
    obtain ⟨he, hes⟩ := List.forall_mem_append.mp h
    exact List.forall_mem_append.mpr ⟨tidy_sources_expr he, tidy_sourcesOf_expr hes⟩

end

namespace Item

mutual

theorem tidy_sources : ∀ {item : Item}, (∀ part ∈ item.parts, part.Tidy) →
    ∀ source ∈ item.sources, source.Tidy
  | .blank, _ => by simp [sources]
  | .flag name, _ => by simp [sources]
  | .attributes fields, h => by
    intro source hsource
    obtain ⟨f, hf, hsource⟩ := List.mem_flatMap.mp hsource
    refine tidy_sources_expr (fun part hpart ↦ h part ?_) source hsource
    exact List.mem_flatMap.mpr ⟨f, hf, List.mem_cons_of_mem _ hpart⟩
  | .block header body, h => by
    obtain ⟨hheader, hbody⟩ := List.forall_mem_cons.mp h
    exact List.forall_mem_append.mpr
      ⟨List.forall_mem_map.mpr hheader.2, tidy_sourcesOf hbody⟩

theorem tidy_sourcesOf : ∀ {items : List Item}, (∀ part ∈ partsOf items, part.Tidy) →
    ∀ source ∈ sourcesOf items, source.Tidy
  | [], _ => by simp [sourcesOf]
  | item :: items, h => by
    obtain ⟨hitem, hitems⟩ := List.forall_mem_append.mp h
    exact List.forall_mem_append.mpr ⟨tidy_sources hitem, tidy_sourcesOf hitems⟩

end

end Item

/-- A text whose literals all end, and start no template. -/
structure IsContained (cs : List Char) : Prop where
  closed : Closed cs
  startsTemplate_eq : ∀ content ∈ literals cs, startsTemplate content = false

/-- Whatever texts a document holds, they stay in their literals. -/
theorem isContained_file {blocks : List Item} (h : ∀ part ∈ Item.partsOf blocks, part.Tidy) :
    IsContained (file blocks).toList where
  closed := (reads_file h).closed_left
  startsTemplate_eq := by
    rw [(reads_file h).literals_eq]
    exact List.forall_mem_map.mpr fun source hsource ↦
      (Item.tidy_sourcesOf h source hsource).startsTemplate

mutual

theorem parts_blanked_expr : ∀ e : Expr, e.blanked.parts = e.parts
  | .text _ | .word _ | .bare _ | .column _ => rfl
  | .inline items => partsOf_blankedAll_expr items

theorem partsOf_blankedAll_expr : ∀ es : List Expr,
    Expr.partsOf (Expr.blankedAll es) = Expr.partsOf es
  | [] => rfl
  | e :: es => by
    rw [Expr.blankedAll, Expr.partsOf, parts_blanked_expr e, partsOf_blankedAll_expr es,
      Expr.partsOf]

end

namespace Item

mutual

theorem parts_blanked : ∀ item : Item, item.blanked.parts = item.parts
  | .blank | .flag _ => rfl
  | .attributes fields => by
    simp [blanked, parts, List.flatMap_map, parts_blanked_expr]
  | .block header body => by
    rw [blanked, parts, parts, partsOf_blankedAll body]

theorem partsOf_blankedAll : ∀ items : List Item, partsOf (blankedAll items) = partsOf items
  | [] => rfl
  | item :: items => by
    rw [blankedAll, partsOf, parts_blanked item, partsOf_blankedAll items, partsOf]

end

end Item

theorem Item.partsOf_eq_of_blankedAll_eq {items items' : List Item}
    (h : blankedAll items = blankedAll items') : partsOf items = partsOf items' := by
  rw [← partsOf_blankedAll items, h, partsOf_blankedAll]

theorem erase_file_eq {blocks blocks' : List Item} (h : ∀ part ∈ Item.partsOf blocks, part.Tidy)
    (heq : Item.blankedAll blocks = Item.blankedAll blocks') :
    erase (file blocks).toList = erase (file blocks').toList := by
  have h' : ∀ part ∈ Item.partsOf blocks', part.Tidy :=
    Item.partsOf_eq_of_blankedAll_eq heq ▸ h
  rw [(reads_file h).erase_eq, heq, ← (reads_file h').erase_eq]

end WebAcl.Hcl
