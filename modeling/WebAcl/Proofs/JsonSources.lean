import WebAcl.Config.Source
import WebAcl.Proofs.Decoding
import WebAcl.Proofs.JsonNodes

namespace WebAcl

open Text Yaml JsonText

namespace JsonText

variable {cs : List Char}

def IsSolid (cs : List Char) : Prop := cs.head? ≠ some '\n'

theorem unifyLineEnds_cons {c : Char} (hc : c ≠ '\r') (cs : List Char) :
    unifyLineEnds (c :: cs) = c :: unifyLineEnds cs := by
  rw [unifyLineEnds.eq_3 _ _ fun _ hcr _ ↦ hc hcr, if_neg hc]

theorem unifyLineEnds_word {word : List Char} (h : ∀ c ∈ word, c ≠ '\r') (cs : List Char) :
    unifyLineEnds (word ++ cs) = word ++ unifyLineEnds cs := by
  induction word with
  | nil => rfl
  | cons c word ih =>
    obtain ⟨hc, hword⟩ := List.forall_mem_cons.mp h
    rw [List.cons_append, unifyLineEnds_cons hc, ih hword, List.cons_append]

theorem unifyLineEnds_gap (gap : Gap) (h : IsSolid cs) :
    unifyLineEnds (gap.chars ++ cs) = unifyLineEnds gap.chars ++ unifyLineEnds cs :=
  unifyLineEnds_append fun _ ↦ h

theorem isSolid_quotedText (ps : List Piece) (cs : List Char) : IsSolid (quotedText ps ++ cs) := by
  simp [IsSolid, quotedText]

theorem unifyLineEnds_quotedText {ps : List Piece} (hps : StringIsYaml ps) (cs : List Char) :
    unifyLineEnds (quotedText ps ++ cs) = quotedText ps ++ unifyLineEnds cs := by
  refine unifyLineEnds_word (forall_quotedText hps (by decide) ?_) cs
  rintro c h - rfl
  exact absurd h.1 (by decide)

theorem isSolid_text (t : JsonText) (layout : List Char → List Char) (cs : List Char) :
    IsSolid (t.text layout ++ cs) := by
  cases t with
  | null => simp [IsSolid, text]
  | bool b => cases b <;> simp [IsSolid, text]
  | number n =>
    obtain ⟨c, ds, hds, hc⟩ := exists_text n
    have hne : c ≠ '\n' := by
      rintro rfl
      exact absurd hc (by decide)
    simpa [IsSolid, text, hds] using hne
  | string ps => exact isSolid_quotedText ps cs
  | array gap items => simp [IsSolid, text]
  | object gap entries => simp [IsSolid, text]

theorem Items.isSolid_text (items : Items) (layout : List Char → List Char) (h : IsSolid cs) :
    IsSolid (items.text layout none ++ cs) := by
  cases items with
  | nil => exact h
  | cons => simp [IsSolid, Items.text, comma]

theorem Entries.isSolid_text (entries : Entries) (layout : List Char → List Char) (h : IsSolid cs) :
    IsSolid (entries.text layout none ++ cs) := by
  cases entries with
  | nil => exact h
  | cons => simp [IsSolid, Entries.text, comma]

theorem unifyLineEnds_comma (opening : Option Gap) (cs : List Char) :
    unifyLineEnds (comma opening ++ cs) = comma opening ++ unifyLineEnds cs := by
  cases opening with
  | none => exact unifyLineEnds_cons (by decide) cs
  | some gap => rfl

mutual

theorem unifyLineEnds_text (t : JsonText) (hyaml : t.IsYaml) (cs : List Char) :
    unifyLineEnds (t.text id ++ cs) = t.text unifyLineEnds ++ unifyLineEnds cs := by
  cases t with
  | null => exact unifyLineEnds_word (by decide) cs
  | bool b => cases b <;> exact unifyLineEnds_word (by decide) cs
  | number n =>
    refine unifyLineEnds_word (fun c hc ↦ ?_) cs
    exact ne_of_mem_text (by decide) hc
  | string ps => exact unifyLineEnds_quotedText hyaml cs
  | array gap items =>
    rw [text, text, List.cons_append, List.append_assoc, unifyLineEnds_cons (by decide),
      unifyLineEnds_items items (some gap) hyaml.2 (by simp [IsSolid]), List.cons_append,
      List.nil_append, unifyLineEnds_cons (by decide)]
    simp only [List.cons_append, List.append_assoc, List.nil_append]
  | object gap entries =>
    rw [text, text, List.cons_append, List.append_assoc, unifyLineEnds_cons (by decide),
      unifyLineEnds_entries entries (some gap) hyaml.2 (by simp [IsSolid]), List.cons_append,
      List.nil_append, unifyLineEnds_cons (by decide)]
    simp only [List.cons_append, List.append_assoc, List.nil_append]

theorem unifyLineEnds_items (items : Items) (opening : Option Gap) (hyaml : items.IsYaml)
    {cs : List Char} (h : IsSolid cs) : unifyLineEnds (items.text id opening ++ cs) =
      items.text unifyLineEnds opening ++ unifyLineEnds cs := by
  cases items with
  | nil =>
    cases opening with
    | none => rfl
    | some gap => exact unifyLineEnds_gap gap h
  | cons before item after others =>
    obtain ⟨-, hitem, -, hothers⟩ := hyaml
    rw [Items.text, Items.text]
    simp only [List.append_assoc, id]
    rw [unifyLineEnds_comma, unifyLineEnds_gap before (isSolid_text item id _),
      unifyLineEnds_text item hitem, unifyLineEnds_gap after (others.isSolid_text id h),
      unifyLineEnds_items others none hothers h]

theorem unifyLineEnds_entries (entries : Entries) (opening : Option Gap) (hyaml : entries.IsYaml)
    {cs : List Char} (h : IsSolid cs) : unifyLineEnds (entries.text id opening ++ cs) =
      entries.text unifyLineEnds opening ++ unifyLineEnds cs := by
  cases entries with
  | nil =>
    cases opening with
    | none => rfl
    | some gap => exact unifyLineEnds_gap gap h
  | cons before key colon between value after others =>
    obtain ⟨-, hkey, -, -, -, hvalue, -, hothers⟩ := hyaml
    rw [Entries.text, Entries.text]
    simp only [List.append_assoc, List.cons_append, id]
    rw [unifyLineEnds_comma, unifyLineEnds_gap before (isSolid_quotedText key _),
      unifyLineEnds_quotedText hkey, unifyLineEnds_gap colon (by simp [IsSolid]),
      unifyLineEnds_cons (by decide), unifyLineEnds_gap between (isSolid_text value id _),
      unifyLineEnds_text value hvalue, unifyLineEnds_gap after (others.isSolid_text id h),
      unifyLineEnds_entries others none hothers h]

end

theorem isAllowed_char {c : Char} {h : 0x20 ≤ c.toNat ∧ c ≠ '"' ∧ c ≠ '\\'}
    (hyaml : (Piece.char c h).IsYaml) : isAllowed c = true := by
  obtain ⟨hrange, -, -, hfirst, hlast⟩ := hyaml
  have hlow := h.1
  have hvalid : c.toNat < 0xd800 ∨ 0xdfff < c.toNat := by
    have hc := c.valid
    change c.toNat < 0xd800 ∨ 0xdfff < c.toNat ∧ c.toNat < 0x110000 at hc
    omega
  simp only [isAllowed, Bool.or_eq_true, Bool.and_eq_true, decide_eq_true_eq, beq_iff_eq]
  omega

theorem isAllowed_gap {gap : Gap} (h : gap.IsYaml) :
    ∀ c ∈ unifyLineEnds gap.chars, isAllowed c = true := by
  have hall : ∀ c ∈ Yaml.blanks, isAllowed c = true := by decide
  exact fun c hc ↦ hall c (Gap.blanks h c hc)

theorem isAllowed_spaces {gap : List Char} (h : ∀ c ∈ gap, c = ' ') :
    ∀ c ∈ unifyLineEnds gap, isAllowed c = true := by
  intro c hc
  rw [unifyLineEnds_spaces h] at hc
  rw [h c hc]
  decide

theorem isAllowed_quotedText {ps : List Piece} (hps : StringIsYaml ps) :
    ∀ c ∈ quotedText ps, isAllowed c = true :=
  forall_quotedText hps (by decide) fun _ _ ↦ isAllowed_char

theorem isAllowed_comma (opening : Option Gap) : ∀ c ∈ comma opening, isAllowed c = true := by
  cases opening with
  | none => decide
  | some gap => simp [comma]

theorem isAllowed_opening {opening : Option Gap} (h : ∀ g, opening = some g → g.IsYaml) :
    ∀ c ∈ (opening.map fun gap ↦ unifyLineEnds gap.chars).getD [], isAllowed c = true := by
  cases opening with
  | none => simp
  | some gap => exact isAllowed_gap (h gap rfl)

mutual

theorem isAllowed_text (t : JsonText) (hyaml : t.IsYaml) :
    ∀ c ∈ t.text unifyLineEnds, isAllowed c = true := by
  cases t with
  | null => decide
  | bool b => cases b <;> decide
  | number n =>
    exact fun c hc ↦ forall_numeralChar (P := fun c ↦ isAllowed c = true) (by decide) (by decide)
      (isNumeralChar_text hc)
  | string ps => exact isAllowed_quotedText hyaml
  | array gap items =>
    have hitems := isAllowed_items items (some gap) hyaml.2 fun g hg ↦ Option.some.inj hg ▸ hyaml.1
    rw [text, List.forall_mem_cons, List.forall_mem_append, List.forall_mem_singleton]
    exact ⟨by decide, hitems, by decide⟩
  | object gap entries =>
    have hentries :=
      isAllowed_entries entries (some gap) hyaml.2 fun g hg ↦ Option.some.inj hg ▸ hyaml.1
    rw [text, List.forall_mem_cons, List.forall_mem_append, List.forall_mem_singleton]
    exact ⟨by decide, hentries, by decide⟩

theorem isAllowed_items (items : Items) (opening : Option Gap) (hyaml : items.IsYaml)
    (hopening : ∀ g, opening = some g → g.IsYaml) :
    ∀ c ∈ items.text unifyLineEnds opening, isAllowed c = true := by
  cases items with
  | nil => exact isAllowed_opening hopening
  | cons before item after others =>
    obtain ⟨hbefore, hitem, hafter, hothers⟩ := hyaml
    simp only [Items.text, List.forall_mem_append]
    exact ⟨isAllowed_comma opening, isAllowed_gap hbefore, isAllowed_text item hitem,
      isAllowed_gap hafter, isAllowed_items others none hothers nofun⟩

theorem isAllowed_entries (entries : Entries) (opening : Option Gap) (hyaml : entries.IsYaml)
    (hopening : ∀ g, opening = some g → g.IsYaml) :
    ∀ c ∈ entries.text unifyLineEnds opening, isAllowed c = true := by
  cases entries with
  | nil => exact isAllowed_opening hopening
  | cons before key colon between value after others =>
    obtain ⟨hbefore, hkey, hcolon, -, hbetween, hvalue, hafter, hothers⟩ := hyaml
    simp only [Entries.text, List.forall_mem_append, List.forall_mem_cons]
    exact ⟨isAllowed_comma opening, isAllowed_gap hbefore, isAllowed_quotedText hkey,
      isAllowed_spaces hcolon, by decide, isAllowed_gap hbetween, isAllowed_text value hvalue,
      isAllowed_gap hafter, isAllowed_entries others none hothers nofun⟩

end

/-- The bytes of a file that holds an object are read as the value of the object. -/
theorem load_ofBytes [Machine] (levels : Nat) {before gap after : Gap} {entries : Entries}
    {bytes : List UInt8} (hbytes : Utf8.chars bytes =
      (before.chars ++ ((object gap entries).text id ++ after.chars), none))
    (hbefore : before.IsYaml) (hafter : after.IsYaml) (hyaml : (object gap entries).IsYaml)
    (hdepth : (object gap entries).nesting ≤ Machine.collections) :
    Yaml.load levels (.ofBytes bytes) = .ok (object gap entries).value := by
  have hunify : unifyLineEnds (before.chars ++ ((object gap entries).text id ++ after.chars)) =
      unifyLineEnds before.chars ++
        ((object gap entries).text unifyLineEnds ++ unifyLineEnds after.chars) := by
    rw [unifyLineEnds_gap before (isSolid_text _ id _), unifyLineEnds_text _ hyaml]
  have hallowed : ∀ c ∈ unifyLineEnds before.chars ++
      ((object gap entries).text unifyLineEnds ++ unifyLineEnds after.chars),
        isAllowed c = true := by
    rw [List.forall_mem_append, List.forall_mem_append]
    exact ⟨isAllowed_gap hbefore, isAllowed_text _ hyaml, isAllowed_gap hafter⟩
  rw [Source.ofBytes_eq hbytes (by rwa [hunify]), hunify]
  exact load_object hbefore hafter hyaml hdepth levels

end JsonText

namespace Config

variable {host : Host} {given : Option Path} {stem : String} {path : Path} {bytes : List UInt8}

theorem readEntries_of_map [Machine] {entries : List (Value × Value)}
    (hread : host.read path = .ok bytes)
    (hload : Yaml.load levels (.ofBytes bytes) = .ok (.map entries)) :
    readEntries host path = .ok entries := by
  unfold readEntries
  rw [hread]
  simp only [Except.mapError, bind, Except.bind, hload]
  rfl

theorem overrides_of_none (henforce : host.lookup? (stem ++ "ENFORCE") = none)
    (hscope : host.lookup? (stem ++ "SCOPE") = none) : Overrides.ofHost host stem = .ok {} := by
  rw [Overrides.ofHost, henforce, hscope]
  rfl

theorem load_of_entries [Machine] {entries : List (Value × Value)}
    (hsource : source host given = .ok path) (hentries : readEntries host path = .ok entries)
    (hoverrides : Overrides.ofHost host stem = .ok {}) :
    load host given stem = ofEntries path entries := by
  unfold load loadLogged
  simp only [hsource, hentries, hoverrides, bind, Except.bind, Except.mapError, pure, Except.pure]
  rfl

variable {before gap after : Gap} {entries : Entries}

/-- A file that holds an object in JSON gives the configuration that the value of the object
describes, or fails on the same fields. -/
theorem load_json [Machine] (hsource : source host given = .ok path)
    (hread : host.read path = .ok bytes) (hbytes : Utf8.chars bytes =
      (before.chars ++ ((object gap entries).text id ++ after.chars), none))
    (henforce : host.lookup? (stem ++ "ENFORCE") = none)
    (hscope : host.lookup? (stem ++ "SCOPE") = none)
    (hbefore : before.IsYaml) (hafter : after.IsYaml) (hyaml : (object gap entries).IsYaml)
    (hdepth : (object gap entries).nesting ≤ Machine.collections) :
    load host given stem = match ofValue (object gap entries).value with
      | .valid c => .ok c
      | .invalid issues => .error (refusal path issues) := by
  obtain ⟨es, hes⟩ : ∃ es, (object gap entries).value = .map es := ⟨_, rfl⟩
  have hvalue := load_ofBytes levels hbytes hbefore hafter hyaml hdepth
  rw [hes] at hvalue ⊢
  exact load_of_entries hsource (readEntries_of_map hread hvalue)
    (overrides_of_none henforce hscope)

def jsonHost (text : String) : Host where
  tree := { files := [(["policy.json", "work"], text.toList.map (·.toNat.toUInt8))] }
  directory := ["work"]

def jsonPath : Path := ⟨false, ["policy.json"]⟩

theorem read_jsonHost (text : String) :
    (jsonHost text).read jsonPath = .ok (text.toList.map (·.toNat.toUInt8)) := rfl

theorem source_jsonHost (text : String) :
    source (jsonHost text) (some jsonPath) = .ok jsonPath := rfl

def plainPieces (cs : List Char) (h : ∀ c ∈ cs, 0x20 ≤ c.toNat ∧ c ≠ '"' ∧ c ≠ '\\') : List Piece :=
  cs.pmap Piece.char h

def noGap : Gap := ⟨[], by simp⟩

def space : Gap := ⟨[' '], by simp⟩

def lineEnd : Gap := ⟨['\r', '\n'], by simp⟩

def spacedEntries : Entries :=
  .cons lineEnd (plainPieces "name".toList (by decide)) space space
    (.string [.char 'a' (by decide), .short '/' 0x2f (by decide), .unit "00e9".toList (by decide)])
    noGap <|
  .cons noGap (plainPieces "rate_limit".toList (by decide)) noGap noGap
    (.number ⟨true, ⟨['1'], by decide, by decide⟩, by decide, some ⟨['5'], by decide, by decide⟩,
      some ⟨'E', .inr rfl, some false, ⟨['2'], by decide, by decide⟩⟩⟩) lineEnd .nil

def spacedText : String :=
  "\x7b\r\n\"name\" : \"a\\/\\u00e9\",\"rate_limit\":-1.5E+2\r\n\x7d"

section

open UsualMachine

theorem load_json_spaced : load (jsonHost spacedText) (some jsonPath) variableStem =
    match ofValue (object noGap spacedEntries).value with
      | .valid c => .ok c
      | .invalid issues => .error (refusal jsonPath issues) :=
  have hbytes : Utf8.chars (spacedText.toList.map (·.toNat.toUInt8)) =
      (noGap.chars ++ ((object noGap spacedEntries).text id ++ noGap.chars), none) := by
    decide +kernel
  load_json (source_jsonHost _) (read_jsonHost _) hbytes rfl rfl (by decide) (by decide)
    (by decide) (by decide)

def tabbedEntries : Entries :=
  .cons ⟨['\n', '\t'], by simp⟩ (plainPieces "name".toList (by decide)) noGap space
    (.string (plainPieces "acme".toList (by decide))) ⟨['\n'], by simp⟩ .nil

def tabbedText : String := "\x7b\n\t\"name\": \"acme\"\n\x7d"

/-- Tabs are white space of JSON only. -/
theorem load_json_tabbed : ¬ ∀ host given stem path bytes (before gap after : Gap) entries,
    source host given = .ok path → host.read path = .ok bytes →
    Utf8.chars bytes = (before.chars ++ ((object gap entries).text id ++ after.chars), none) →
    host.lookup? (stem ++ "ENFORCE") = none → host.lookup? (stem ++ "SCOPE") = none →
    load host given stem = match ofValue (object gap entries).value with
      | .valid c => .ok c
      | .invalid issues => .error (refusal path issues) := by
  intro hall
  have hbytes : Utf8.chars (tabbedText.toList.map (·.toNat.toUInt8)) =
      (noGap.chars ++ ((object noGap tabbedEntries).text id ++ noGap.chars), none) := by
    decide +kernel
  have hload := hall (jsonHost tabbedText) (some jsonPath) variableStem jsonPath _ noGap noGap noGap
    tabbedEntries (source_jsonHost _) (read_jsonHost _) hbytes rfl rfl
  have hrefused : (load (jsonHost tabbedText) (some jsonPath) variableStem).toBool = false := by
    decide +kernel
  have hvalid : (match ofValue (object noGap tabbedEntries).value with
      | .valid _ => true
      | .invalid _ => false) = true := by
    decide +kernel
  rw [hload] at hrefused
  split at hrefused
  next heq => exact absurd hrefused Bool.noConfusion
  next heq =>
    rw [heq] at hvalid
    exact absurd hvalid Bool.noConfusion

end

end Config

end WebAcl
