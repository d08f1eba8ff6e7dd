import WebAcl.Proofs.LoadFailures
import WebAcl.Proofs.LogDestination
import WebAcl.Proofs.WordForms

namespace WebAcl

open Text

namespace Value

def besides (names : List String) (entries : List (Value × Value)) : List (Value × Value) :=
  entries.filter fun e ↦ !names.any fun name ↦ e.1.same (str name)

/-- Each setting is in the place of what was there before, and all other entries are as they were,
in the same order. -/
structure Replaces (settings : List (String × Value)) (es es' : List (Value × Value)) : Prop where
  setting : ∀ s ∈ settings, lookup? (str s.1) es' = some s.2
  others : besides (settings.map (·.1)) es' = besides (settings.map (·.1)) es

variable {names : List String} {name : String} {es fs : List (Value × Value)}

theorem besides_insert (h : name ∈ names) (v : Value) (es : List (Value × Value)) :
    besides names (insert (str name) v es) = besides names es := by
  have hdropped : ∀ {k : Value}, k.same (str name) = true →
      (names.any fun name ↦ k.same (str name)) = true :=
    fun hk ↦ List.any_eq_true.mpr ⟨name, h, hk⟩
  unfold besides
  induction es with
  | nil => simp [insert, hdropped (beq_self_eq_true name ▸ same_str name name)]
  | cons e es ih =>
    rw [insert]
    split
    next hsame => simp [hdropped hsame]
    next => rw [List.filter_cons, ih, List.filter_cons]

theorem lookup?_besides (h : name ∉ names) (es : List (Value × Value)) :
    lookup? (str name) (besides names es) = lookup? (str name) es := by
  unfold lookup? besides
  rw [List.find?_filter]
  congr 2
  funext e
  by_cases hsame : e.1.same (str name) = true
  · have hkept : (names.any fun name ↦ e.1.same (str name)) = false := by
      rw [List.any_eq_false]
      intro other hother
      rw [eq_str_of_same hsame, same_str, beq_iff_eq]
      exact fun heq ↦ h (heq ▸ hother)
    simp [hkept]
  · simp [hsame]

theorem lookup?_eq (hothers : besides names es = besides names fs)
    (hnames : ∀ name ∈ names, lookup? (str name) es = lookup? (str name) fs) (name : String) :
    lookup? (str name) es = lookup? (str name) fs := by
  by_cases h : name ∈ names
  · exact hnames name h
  · rw [← lookup?_besides h es, hothers, lookup?_besides h fs]

def settle (settings : List (String × Value)) (es : List (Value × Value)) : List (Value × Value) :=
  settings.foldl (fun es s ↦ insert (str s.1) s.2 es) es

variable {settings : List (String × Value)}

theorem lookup?_settle_of_not_mem (h : name ∉ settings.map (·.1)) :
    lookup? (str name) (settle settings es) = lookup? (str name) es := by
  unfold settle
  induction settings generalizing es with
  | nil => rfl
  | cons s settings ih =>
    obtain ⟨hname, hnames⟩ := not_or.mp (List.mem_cons.not.mp h)
    rw [List.foldl_cons, ih hnames, lookup?_insert_of_ne hname]

theorem lookup?_settle (h : (settings.map (·.1)).Nodup) :
    ∀ s ∈ settings, lookup? (str s.1) (settle settings es) = some s.2 := by
  induction settings generalizing es with
  | nil => simp
  | cons s settings ih =>
    obtain ⟨hname, hnames⟩ := List.nodup_cons.mp h
    refine List.forall_mem_cons.mpr ⟨?_, ih hnames⟩
    exact (lookup?_settle_of_not_mem hname).trans (lookup?_insert s.1 s.2 es)

theorem besides_settle (h : ∀ s ∈ settings, s.1 ∈ names) :
    besides names (settle settings es) = besides names es := by
  unfold settle
  induction settings generalizing es with
  | nil => rfl
  | cons s settings ih =>
    obtain ⟨hname, hnames⟩ := List.forall_mem_cons.mp h
    rw [List.foldl_cons, ih hnames, besides_insert hname]

theorem replaces_settle (h : (settings.map (·.1)).Nodup) (es : List (Value × Value)) :
    Replaces settings es (settle settings es) where
  setting := lookup?_settle h
  others := besides_settle fun _ hs ↦ List.mem_map_of_mem hs

end Value

namespace Lax

open Value

variable {fields names : List String} {es fs : List (Value × Value)}

theorem strays_besides (h : ∀ name ∈ names, name ∈ fields) (es : List (Value × Value)) :
    strays fields (besides names es) = strays fields es := by
  unfold strays besides
  induction es with
  | nil => rfl
  | cons e es ih =>
    rw [List.filter_cons]
    split
    next => rw [List.filterMap_cons, ih, List.filterMap_cons]
    next hdropped =>
      obtain ⟨key, v⟩ := e
      obtain ⟨name, hname, hsame⟩ : ∃ name ∈ names, key.same (str name) = true := by
        simpa using hdropped
      obtain rfl := eq_str_of_same hsame
      rw [ih, List.filterMap_cons]
      simp [h name hname]

theorem any_besides {p : Value → Bool} (h : ∀ name ∈ names, p (str name) = false)
    (es : List (Value × Value)) :
    (besides names es).any (fun e ↦ p e.1) = es.any fun e ↦ p e.1 := by
  unfold besides
  rw [List.any_filter]
  congr 1
  funext e
  by_cases hdropped : ∃ name ∈ names, e.1.same (str name) = true
  · obtain ⟨name, hname, hsame⟩ := hdropped
    rw [eq_str_of_same hsame, h name hname, Bool.and_false]
  · have hkept : (names.any fun name ↦ e.1.same (str name)) = false := by
      simpa using hdropped
    rw [hkept, Bool.not_false, Bool.true_and]

def halved : Value → Bool
  | .str s => holdsHalf s
  | _ => false

theorem record_congr {α : Type} {type : String} {read : List (Value × Value) → Checked α}
    (hfields : ∀ name ∈ names, name ∈ fields) (hhalf : ∀ name ∈ names, halved (str name) = false)
    (hothers : besides names es = besides names fs) (hread : read es = read fs) :
    record type fields read (.map es) = record type fields read (.map fs) := by
  have hany : (es.any fun e ↦ halved e.1) = fs.any fun e ↦ halved e.1 := by
    rw [← any_besides hhalf es, hothers, any_besides hhalf fs]
  have hstrays : strays fields es = strays fields fs := by
    rw [← strays_besides hfields es, hothers, strays_besides hfields fs]
  rw [record, record, hread, hstrays]
  exact if_congr (Bool.eq_iff_iff.mp hany) rfl rfl

end Lax

namespace Config

open Lax Value

variable {names : List String} {es fs : List (Value × Value)}

theorem ofValue_congr (hfields : ∀ name ∈ names, name ∈ fieldNames)
    (hothers : besides names es = besides names fs)
    (hnames : ∀ name ∈ names, lookup? (str name) es = lookup? (str name) fs) :
    ofValue (.map es) = ofValue (.map fs) := by
  have hhalf : ∀ name ∈ fieldNames, halved (.str name) = false := by decide
  have hfield : ∀ {α : Type} (name : String) (read : Value → Checked α) (default : Option α),
      field es name read default = field fs name read default := by
    intro α name read default
    rw [field.eq_def, lookup?_eq hothers hnames, ← field.eq_def]
  unfold ofValue
  exact record_congr hfields (fun name h ↦ hhalf name (hfields name h)) hothers
    (by simp only [hfield])

namespace Overrides

def words : Bool → List String
  | true => ["1", "true", "yes", "on"]
  | false => ["0", "false", "no", "off"]

def Says (text : String) (b : Bool) : Prop := ∃ word ∈ words b, Spells text word

theorem says_iff {text : String} {b : Bool} : Says text b ↔ lower (strip text) ∈ words b := by
  have hplain : ∀ word ∈ words b, ∀ d ∈ word.toList, IsPlain d := by
    cases b <;> decide
  constructor
  · rintro ⟨word, hword, hspells⟩
    rwa [(lower_strip_eq_iff (hplain word hword)).mpr hspells]
  · exact fun h ↦ ⟨_, h, (lower_strip_eq_iff (hplain _ h)).mp rfl⟩

def notTruth (name text : String) : Problem where
  cause := .configFile ""
  note := s!"Environment variable {name} must be a boolean, got " ++ quoted text
  advice := "Use true/false, yes/no, on/off or 1/0."

theorem truth_eq (name text : String) : truth name text =
    if lower (strip text) ∈ words true then .ok true
    else if lower (strip text) ∈ words false then .ok false
    else .error (notTruth name text) := by
  simp only [truth, List.contains_iff_mem]
  rfl

theorem truth_eq_ok {text : String} {b : Bool} (h : Says text b) (name : String) :
    truth name text = .ok b := by
  rw [says_iff] at h
  have hapart : ∀ word ∈ words false, word ∉ words true := by decide
  rw [truth_eq]
  cases b with
  | true => rw [if_pos h]
  | false => rw [if_neg (hapart _ h), if_pos h]

theorem truth_eq_error {text : String} (h : ∀ b, ¬ Says text b) (name : String) :
    truth name text = .error (notTruth name text) := by
  rw [truth_eq, if_neg (mt says_iff.mpr (h true)), if_neg (mt says_iff.mpr (h false))]

/-- What the variables of the environment replace: one setting if its variable is there, the other
one if its variable is not empty. -/
structure IsSetBy (o : Overrides) (host : Host) (stem : String) : Prop where
  enforce : Option.Rel Says (host.lookup? (stem ++ "ENFORCE")) o.enforce
  scope : ∀ text, o.scope = some text ↔ host.lookup? (stem ++ "SCOPE") = some text ∧ text ≠ ""

variable {o : Overrides} {host : Host} {stem : String}

theorem filter_nonempty_iff {given : Option String} {text : String} :
    given.filter (· != "") = some text ↔ given = some text ∧ text ≠ "" := by
  simp

theorem ofHost_eq_ok (h : o.IsSetBy host stem) : ofHost host stem = .ok o := by
  obtain ⟨enforce, scope⟩ := o
  have hscope : (host.lookup? (stem ++ "SCOPE")).filter (· != "") = scope := by
    ext text
    rw [h.scope text, filter_nonempty_iff]
  have henforce := h.enforce
  unfold ofHost
  rw [hscope]
  cases hlookup : host.lookup? (stem ++ "ENFORCE") with
  | none =>
    rw [hlookup] at henforce
    cases henforce
    rfl
  | some text =>
    rw [hlookup] at henforce
    cases henforce with
    | some htruth =>
      rw [Option.mapM_some, truth_eq_ok htruth]
      rfl

theorem ofHost_eq_error {text : String}
    (hlookup : host.lookup? (stem ++ "ENFORCE") = some text) (h : ∀ b, ¬ Says text b) :
    ofHost host stem = .error (notTruth (stem ++ "ENFORCE") text) := by
  unfold ofHost
  rw [hlookup, Option.mapM_some, truth_eq_error h]
  rfl

def settings (o : Overrides) : List (String × Value) :=
  (o.enforce.map fun b ↦ ("enforce", .bool b)).toList ++
    (o.scope.map fun text ↦ ("scope", .str text)).toList

theorem apply_eq (o : Overrides) (es : List (Value × Value)) :
    o.apply es = settle o.settings es := by
  obtain ⟨_ | b, _ | text⟩ := o <;> rfl

theorem settings_names (o : Overrides) :
    (o.settings.map (·.1)).Sublist ["enforce", "scope"] := by
  obtain ⟨_ | b, _ | text⟩ := o <;> simp [settings]

end Overrides

variable {host : Host} {given : Option Path} {stem : String} {path : Path} {o : Overrides}

def reported (path : Path) : Checked Config → Except Failure Config
  | .valid c => .ok c
  | .invalid issues => .error (refusal path issues)

theorem load_of_isSetBy [Machine] (hsource : source host given = .ok path)
    (hentries : readEntries host path = .ok es) (h : o.IsSetBy host stem) :
    load host given stem = reported path (ofValue (.map (settle o.settings es))) := by
  rw [← o.apply_eq]
  unfold load loadLogged
  simp only [hsource, hentries, Overrides.ofHost_eq_ok h, bind, Except.bind, Except.mapError,
    pure, Except.pure]
  rfl

theorem load_eq_error [Machine] {text : String} (hsource : source host given = .ok path)
    (hentries : readEntries host path = .ok es)
    (hlookup : host.lookup? (stem ++ "ENFORCE") = some text)
    (h : ∀ b, ¬ Overrides.Says text b) :
    load host given stem =
      .error (.problem (Overrides.notTruth (stem ++ "ENFORCE") text)) := by
  unfold load loadLogged
  simp only [hsource, hentries, Overrides.ofHost_eq_error hlookup h, bind, Except.bind,
    Except.mapError]

theorem exists_isSetBy_iff : (∃ o : Overrides, o.IsSetBy host stem) ↔
    ∀ text, host.lookup? (stem ++ "ENFORCE") = some text → ∃ b, Overrides.Says text b := by
  constructor
  · rintro ⟨⟨enforce, scope⟩, h⟩ text hlookup
    have henforce := h.enforce
    rw [hlookup] at henforce
    cases henforce with
    | some htruth => exact ⟨_, htruth⟩
  · intro h
    obtain ⟨enforce, henforce⟩ : ∃ enforce,
        Option.Rel Overrides.Says (host.lookup? (stem ++ "ENFORCE")) enforce := by
      cases hlookup : host.lookup? (stem ++ "ENFORCE") with
      | none => exact ⟨none, .none⟩
      | some text =>
        obtain ⟨b, htruth⟩ := h text hlookup
        exact ⟨some b, .some htruth⟩
    exact ⟨⟨enforce, _⟩, henforce, fun _ ↦ Overrides.filter_nonempty_iff⟩

theorem ofValue_of_replaces (h : Replaces o.settings es fs) :
    ofValue (.map fs) = ofValue (.map (settle o.settings es)) := by
  have hnames := o.settings_names
  have hsettled := replaces_settle (hnames.nodup (by decide)) es
  have hfields : ∀ name ∈ ["enforce", "scope"], name ∈ fieldNames := by decide
  refine ofValue_congr (fun name hname ↦ hfields name (hnames.subset hname))
    (h.others.trans hsettled.others.symm) fun name hname ↦ ?_
  obtain ⟨s, hs, rfl⟩ := List.mem_map.mp hname
  rw [h.setting s hs, hsettled.setting s hs]

/-- A file with a map is loaded with the settings of the environment in the place of its own, and
all other entries as they are. Hence files that agree on the other entries give the same
configuration, or are refused for the same issues. A text for a truth value that says none is
refused whatever the file holds. -/
theorem load_replacing_settings [Machine] (hsource : source host given = .ok path)
    (hentries : readEntries host path = .ok es) :
    ((∃ o : Overrides, o.IsSetBy host stem) ↔
      ∀ text, host.lookup? (stem ++ "ENFORCE") = some text → ∃ b, Overrides.Says text b) ∧
    (∀ text, host.lookup? (stem ++ "ENFORCE") = some text → (∀ b, ¬ Overrides.Says text b) →
      load host given stem =
          .error (.problem (Overrides.notTruth (stem ++ "ENFORCE") text)) ∧
        (Overrides.notTruth (stem ++ "ENFORCE") text).cause.kind = .configFile) ∧
    ∀ o : Overrides, o.IsSetBy host stem →
      (∃ es', Replaces o.settings es es') ∧
      (∀ es', Replaces o.settings es es' →
        load host given stem = reported path (ofValue (.map es'))) ∧
      ∀ host' given' stem' path' fs, source host' given' = .ok path' →
        readEntries host' path' = .ok fs → o.IsSetBy host' stem' →
        besides (o.settings.map (·.1)) fs = besides (o.settings.map (·.1)) es →
        ∃ result : Checked Config, load host given stem = reported path result ∧
          load host' given' stem' = reported path' result := by
  refine ⟨exists_isSetBy_iff,
    fun text hlookup h ↦ ⟨load_eq_error hsource hentries hlookup h, rfl⟩, fun o ho ↦ ?_⟩
  have hsettled := replaces_settle (o.settings_names.nodup (by decide)) es
  refine ⟨⟨_, hsettled⟩, fun es' hes' ↦ ?_, ?_⟩
  · rw [load_of_isSetBy hsource hentries ho, ofValue_of_replaces hes']
  · intro host' given' stem' path' fs hsource' hentries' ho' hothers
    -- what replaces the settings in the one file also replaces them in the other
    have hboth : Replaces o.settings fs (settle o.settings es) :=
      ⟨hsettled.setting, hsettled.others.trans hothers.symm⟩
    refine ⟨_, load_of_isSetBy hsource hentries ho, ?_⟩
    rw [load_of_isSetBy hsource' hentries' ho', ofValue_of_replaces hboth]

def areTexts : List (Value × Value) → List (String × String) → Bool
  | (.str key, .str text) :: es, t :: texts => (key, text) == t && areTexts es texts
  | [], [] => true
  | _, _ => false

theorem eq_of_areTexts {texts : List (String × String)} (h : areTexts es texts = true) :
    es = texts.map fun t ↦ (.str t.1, .str t.2) := by
  fun_induction areTexts es texts with
  | case1 key text es t texts ih =>
    obtain ⟨hfirst, hrest⟩ := Bool.and_eq_true_iff.mp h
    obtain rfl := beq_iff_eq.mp hfirst
    rw [ih hrest, List.map_cons]
  | case2 => rfl
  | case3 => exact absurd h Bool.false_ne_true

theorem readEntries_of_texts [Machine] (texts : List (String × String))
    (h : (match readEntries host path with
      | .ok es => areTexts es texts
      | .error _ => false) = true) :
    readEntries host path = .ok (texts.map fun t ↦ (.str t.1, .str t.2)) := by
  split at h
  next es heq => rw [heq, eq_of_areTexts h]
  next => exact absurd h Bool.false_ne_true

def settingsHost (text : String) : Host where
  __ := policyHost text
  environment := [("WAFPOLICY_ENFORCE", " YES "), ("WAFPOLICY_SCOPE", "edge")]

theorem isSetBy_settingsHost (text : String) :
    Overrides.IsSetBy ⟨some true, some "edge"⟩ (settingsHost text) variableStem where
  enforce := .some ⟨"yes", by decide, [' '], "YES".toList, [' '], by decide, by decide, by decide,
    by decide⟩
  scope := by
    have hlookup : (settingsHost text).lookup? (variableStem ++ "SCOPE") = some "edge" := rfl
    intro given
    rw [hlookup]
    constructor
    · intro h
      obtain rfl := Option.some.inj h
      exact ⟨rfl, by decide⟩
    · exact And.left

def bareText : String := "name: acme\n"

def spoiledText : String := "name: acme\nenforce: maybe\nscope: nowhere\n"

section

open UsualMachine

theorem readEntries_bare :
    readEntries (settingsHost bareText) policyPath = .ok [(.str "name", .str "acme")] :=
  readEntries_of_texts [("name", "acme")] (by decide +kernel)

theorem readEntries_spoiled : readEntries (settingsHost spoiledText) policyPath =
    .ok [(.str "name", .str "acme"), (.str "enforce", .str "maybe"),
      (.str "scope", .str "nowhere")] :=
  readEntries_of_texts [("name", "acme"), ("enforce", "maybe"), ("scope", "nowhere")]
    (by decide +kernel)

theorem load_replacing_settings_spoiled :
    source (settingsHost spoiledText) (some policyPath) = .ok policyPath ∧
    readEntries (settingsHost spoiledText) policyPath =
      .ok [(.str "name", .str "acme"), (.str "enforce", .str "maybe"),
        (.str "scope", .str "nowhere")] ∧
    load (settingsHost spoiledText) (some policyPath) variableStem =
      reported policyPath (ofValue (.map [(.str "name", .str "acme"), (.str "enforce", .bool true),
        (.str "scope", .str "edge")])) ∧
    ∃ result, load (settingsHost spoiledText) (some policyPath) variableStem =
        reported policyPath result ∧
      load (settingsHost bareText) (some policyPath) variableStem = reported policyPath result := by
  have hset := isSetBy_settingsHost
  have hsource : source (settingsHost spoiledText) (some policyPath) = .ok policyPath := rfl
  obtain ⟨-, -, hload⟩ := load_replacing_settings hsource readEntries_spoiled
  obtain ⟨-, hreplaced, htwo⟩ := hload _ (hset spoiledText)
  refine ⟨hsource, readEntries_spoiled, hreplaced _ ⟨?_, ?_⟩,
    htwo _ _ _ _ _ rfl readEntries_bare (hset bareText) ?_⟩
  · simp [Overrides.settings, lookup?, same_str]
  · simp [Overrides.settings, besides, same_str]
  · simp [Overrides.settings, besides, same_str]

end

end Config

end WebAcl
