import WebAcl.Proofs.Containment
import WebAcl.Proofs.TemplateReferences
import WebAcl.Proofs.Validated

namespace WebAcl

open Text

namespace Value

theorem part_map {entries : List (Value × Value)} {key : String} {v : Value}
    (h : lookup? (str key) entries = some v) : (map entries).part (str key) = .ok v := by
  simp only [part, changeablePart?, h]

theorem part_ofFields_last (fields : List (String × Value)) (key : String) (v : Value) :
    (ofFields (fields ++ [(key, v)])).part (str key) = .ok v := by
  refine part_map ?_
  rw [List.foldl_append]
  exact lookup?_insert key v _

theorem part_ofFields_of_ne (fields : List (String × Value)) {key key' : String} (h : key ≠ key')
    (v : Value) :
    (ofFields (fields ++ [(key', v)])).part (str key) = (ofFields fields).part (str key) := by
  have hlookup := lookup?_insert_of_ne h v (fields.foldl (fun es f ↦ insert (str f.1) f.2 es) [])
  simp only [ofFields, List.foldl_append, List.foldl_cons, List.foldl_nil, part, changeablePart?,
    hlookup]

end Value

namespace Template

/-- A part of a text in which names are filled in on deployment: `${X}` stands for the value of `X`,
and `${!X}` for the text `${X}`. -/
inductive Segment where
  | char (c : Char)
  | hole (name : List Char)
  | escaped (name : List Char)

def Segment.ofName : List Char → Segment
  | '!' :: name => .escaped name
  | name => .hole name

mutual

def segments : List Char → List Segment
  | c :: d :: cs =>
    if c = '$' ∧ d = '\x7b' then reference [] cs else .char c :: segments (d :: cs)
  | [c] => [.char c]
  | [] => []

/-- Goes on with a name of which the given part has been read. A brace that is never closed is
text. -/
def reference (name : List Char) : List Char → List Segment
  | [] => ('$' :: '\x7b' :: name).map .char
  | c :: cs =>
    if c = '\x7d' then .ofName name :: segments cs else reference (name ++ [c]) cs

end

def Segment.hole? : Segment → Option (List Char)
  | hole name => some name
  | char _ | escaped _ => none

def Segment.filled (values : List Char → List Char) : Segment → List Char
  | char c => [c]
  | hole name => values name
  | escaped name => '$' :: '\x7b' :: (name ++ ['\x7d'])

def holes (s : String) : List String :=
  ((segments s.toList).filterMap Segment.hole?).map String.ofList

def filled (values : String → String) (s : String) : String :=
  String.ofList ((segments s.toList).flatMap
    (Segment.filled fun name ↦ (values (String.ofList name)).toList))

/-- Somewhere in the text a name or an escape stands between `${` and `}`. -/
def HoldsReference (cs : List Char) : Prop :=
  ∃ before name after, cs = before ++ '$' :: '\x7b' :: (name ++ '\x7d' :: after)

variable {cs : List Char}

theorem segments_cons {c : Char} (hc : c ≠ '$') (cs : List Char) :
    segments (c :: cs) = .char c :: segments cs := by
  cases cs with
  | nil => simp [segments]
  | cons d cs => simp [segments, hc]

theorem segments_append (h : '$' ∉ cs) (rest : List Char) :
    segments (cs ++ rest) = cs.map .char ++ segments rest := by
  induction cs with
  | nil => rfl
  | cons c cs ih =>
    obtain ⟨hc, hcs⟩ := not_or.mp (List.mem_cons.not.mp h)
    rw [List.cons_append, segments_cons (Ne.symm hc), ih hcs, List.map_cons, List.cons_append]

theorem reference_closed {name key : List Char} (h : '\x7d' ∉ key) (rest : List Char) :
    reference name (key ++ '\x7d' :: rest) = .ofName (name ++ key) :: segments rest := by
  induction key generalizing name with
  | nil => simp [reference]
  | cons c key ih =>
    obtain ⟨hc, hkey⟩ := not_or.mp (List.mem_cons.not.mp h)
    rw [List.cons_append, reference, if_neg (Ne.symm hc), ih hkey, List.append_assoc,
      List.singleton_append]

theorem segments_reference {key : List Char} (h : '\x7d' ∉ key) (rest : List Char) :
    segments ('$' :: '\x7b' :: (key ++ '\x7d' :: rest)) = .ofName key :: segments rest := by
  rw [segments, if_pos ⟨rfl, rfl⟩, reference_closed h, List.nil_append]

theorem reference_unclosed {name : List Char} (h : '\x7d' ∉ cs) :
    reference name cs = ('$' :: '\x7b' :: (name ++ cs)).map .char := by
  induction cs generalizing name with
  | nil => rw [reference, List.append_nil]
  | cons c cs ih =>
    obtain ⟨hc, hcs⟩ := not_or.mp (List.mem_cons.not.mp h)
    rw [reference, if_neg (Ne.symm hc), ih hcs, List.append_assoc, List.singleton_append]

theorem HoldsReference.cons (h : HoldsReference cs) (c : Char) : HoldsReference (c :: cs) := by
  obtain ⟨before, name, after, rfl⟩ := h
  exact ⟨c :: before, name, after, rfl⟩

theorem holdsReference_open : HoldsReference ('$' :: '\x7b' :: cs) ↔ '\x7d' ∈ cs := by
  constructor
  · rintro ⟨before, name, after, heq⟩
    have hmem : '\x7d' ∈ '$' :: '\x7b' :: cs := by
      rw [heq]
      simp
    simpa using hmem
  · intro h
    obtain ⟨name, after, rfl⟩ := List.append_of_mem h
    exact ⟨[], name, after, rfl⟩

theorem holdsReference_cons {c d : Char} (h : ¬ (c = '$' ∧ d = '\x7b')) :
    HoldsReference (c :: d :: cs) ↔ HoldsReference (d :: cs) := by
  constructor
  · rintro ⟨before, name, after, heq⟩
    cases before with
    | nil =>
      obtain ⟨hc, hrest⟩ := List.cons.inj heq
      obtain ⟨hd, -⟩ := List.cons.inj hrest
      exact absurd ⟨hc, hd⟩ h
    | cons e before =>
      obtain ⟨-, heq⟩ := List.cons.inj heq
      exact ⟨before, name, after, heq⟩
  · exact fun h ↦ h.cons c

theorem segments_of_not_holds : ∀ {cs : List Char}, ¬ HoldsReference cs →
    segments cs = cs.map .char
  | [], _ => rfl
  | [c], _ => by simp [segments]
  | c :: d :: cs, h => by
    by_cases hopen : c = '$' ∧ d = '\x7b'
    · obtain ⟨rfl, rfl⟩ := hopen
      have hcs : '\x7d' ∉ cs := fun hmem ↦ h (holdsReference_open.mpr hmem)
      rw [segments, if_pos ⟨rfl, rfl⟩, reference_unclosed hcs, List.nil_append]
    · have hrest : ¬ HoldsReference (d :: cs) := (holdsReference_cons hopen).not.mp h
      rw [segments, if_neg hopen, segments_of_not_holds hrest]
      rfl

def emptied (segs : List Segment) : List Char :=
  segs.flatMap (Segment.filled fun _ ↦ [])

theorem length_emptied_ofName (name : List Char) (segs : List Segment) :
    (emptied (.ofName name :: segs)).length < name.length + 3 + (emptied segs).length := by
  unfold Segment.ofName
  split
  · simp only [emptied, List.flatMap_cons, Segment.filled, List.length_append, List.length_cons,
      List.length_nil]
    omega
  · simp only [emptied, List.flatMap_cons, Segment.filled, List.nil_append]
    omega

mutual

theorem length_emptied_le : ∀ cs : List Char, (emptied (segments cs)).length ≤ cs.length
  | [] => by simp [segments, emptied]
  | [c] => by simp [segments, emptied, Segment.filled]
  | c :: d :: cs => by
    rw [segments]
    split
    · have h := length_emptied_reference_le [] cs
      simp only [List.length_nil, List.length_cons] at h ⊢
      omega
    · have h := length_emptied_le (d :: cs)
      have hc : emptied (.char c :: segments (d :: cs)) = c :: emptied (segments (d :: cs)) := rfl
      rw [hc, List.length_cons, List.length_cons]
      omega

theorem length_emptied_reference_le (name : List Char) : ∀ cs : List Char,
    (emptied (reference name cs)).length ≤ name.length + 2 + cs.length
  | [] => by simp [reference, emptied, Segment.filled, List.flatMap_map]
  | c :: cs => by
    rw [reference]
    split
    · have h := length_emptied_le cs
      have hname := length_emptied_ofName name (segments cs)
      rw [List.length_cons]
      omega
    · have h := length_emptied_reference_le (name ++ [c]) cs
      rw [List.length_append, List.length_singleton] at h
      rw [List.length_cons]
      omega

end

/-- A reference that is filled in with nothing leaves a shorter text. -/
theorem length_emptied_lt : ∀ {cs : List Char}, HoldsReference cs →
    (emptied (segments cs)).length < cs.length
  | [], h => by
    obtain ⟨before, name, after, heq⟩ := h
    simp at heq
  | [c], h => by
    obtain ⟨before, name, after, heq⟩ := h
    have := congrArg List.length heq
    simp at this
    omega
  | c :: d :: cs, h => by
    by_cases hopen : c = '$' ∧ d = '\x7b'
    · obtain ⟨rfl, rfl⟩ := hopen
      -- the name ends at the first closing brace
      obtain ⟨key, rest, rfl, hkey⟩ := List.eq_append_cons_of_mem (holdsReference_open.mp h)
      have hrest := length_emptied_le rest
      have hname := length_emptied_ofName key (segments rest)
      rw [segments_reference hkey]
      simp only [List.length_cons, List.length_append]
      omega
    · have hlt := length_emptied_lt ((holdsReference_cons hopen).mp h)
      have hc : emptied (.char c :: segments (d :: cs)) = c :: emptied (segments (d :: cs)) := rfl
      rw [segments, if_neg hopen, hc, List.length_cons, List.length_cons]
      omega

theorem filterMap_hole?_chars (cs : List Char) :
    (cs.map Segment.char).filterMap Segment.hole? = [] := by
  rw [List.filterMap_map]
  simp [Segment.hole?]

theorem flatMap_filled_chars (values : List Char → List Char) (cs : List Char) :
    (cs.map Segment.char).flatMap (Segment.filled values) = cs := by
  rw [List.flatMap_map]
  simp [Segment.filled]

theorem holes_of_not_holds {s : String} (h : ¬ HoldsReference s.toList) : holes s = [] := by
  rw [holes, segments_of_not_holds h, filterMap_hole?_chars, List.map_nil]

theorem filled_of_not_holds (values : String → String) {s : String}
    (h : ¬ HoldsReference s.toList) : filled values s = s := by
  rw [filled, segments_of_not_holds h, flatMap_filled_chars, String.ofList_toList]

theorem filled_ne_of_holds {s : String} (h : HoldsReference s.toList) :
    filled (fun _ ↦ "") s ≠ s := by
  intro heq
  have hlt := length_emptied_lt h
  have hsame : emptied (segments s.toList) = s.toList := by
    rw [← String.toList_ofList (l := emptied (segments s.toList))]
    exact congrArg String.toList heq
  rw [hsame] at hlt
  omega

variable {p : Policy}

/-- The names that have a value wherever a template is deployed. -/
def knownNames : List String :=
  ["AWS::Partition", "AWS::Region", "AWS::AccountId"]

/-- The name of the policy comes last and is read on its own. -/
theorem segments_logDestination (p : Policy) : segments (logDestination p).toList =
    "arn:".toList.map .char ++ .hole "AWS::Partition".toList ::
      (":logs:".toList.map .char ++ .hole "AWS::Region".toList ::
        (":".toList.map .char ++ .hole "AWS::AccountId".toList ::
          (":log-group:".toList.map .char ++ ("aws-waf-logs-".toList.map .char ++
            segments p.name.toList)))) := by
  have hfixed : String.toList
      "arn:$\x7bAWS::Partition\x7d:logs:$\x7bAWS::Region\x7d:$\x7bAWS::AccountId\x7d:log-group:" =
      "arn:".toList ++ '$' :: '\x7b' :: ("AWS::Partition".toList ++ '\x7d' ::
        (":logs:".toList ++ '$' :: '\x7b' :: ("AWS::Region".toList ++ '\x7d' ::
          (":".toList ++ '$' :: '\x7b' :: ("AWS::AccountId".toList ++ '\x7d' ::
            ":log-group:".toList))))) := by
    decide
  have htext : (logDestination p).toList = String.toList
      "arn:$\x7bAWS::Partition\x7d:logs:$\x7bAWS::Region\x7d:$\x7bAWS::AccountId\x7d:log-group:" ++
        ("aws-waf-logs-".toList ++ p.name.toList) := by
    rw [← String.toList_append, ← String.toList_append]
    rfl
  rw [htext, hfixed]
  simp only [List.append_assoc, List.cons_append]
  rw [segments_append (by decide), segments_reference (by decide), segments_append (by decide),
    segments_reference (by decide), segments_append (by decide), segments_reference (by decide),
    segments_append (by decide), segments_append (by decide)]
  rfl

theorem holes_logDestination (p : Policy) :
    holes (logDestination p) = knownNames ++ holes p.name := by
  rw [holes, segments_logDestination]
  simp only [List.filterMap_append, List.filterMap_cons, filterMap_hole?_chars, Segment.hole?,
    List.nil_append, List.map_cons, String.ofList_toList]
  rfl

theorem filled_logDestination (values : String → String) (p : Policy) :
    filled values (logDestination p) = "arn:" ++ values "AWS::Partition" ++ ":logs:" ++
      values "AWS::Region" ++ ":" ++ values "AWS::AccountId" ++ ":log-group:" ++
        LogSink.groupName (filled values p.name) := by
  rw [← String.toList_inj, filled, segments_logDestination]
  simp only [List.flatMap_append, List.flatMap_cons, flatMap_filled_chars, Segment.filled, filled,
    LogSink.groupName, String.toList_append, String.toList_ofList, String.ofList_toList,
    List.append_assoc]

/-- Once its names are filled in, a destination leads to a log group of the same account. -/
structure LeadsTo (destination group : String) : Prop where
  mem_holes_iff : ∀ name, name ∈ holes destination ↔ name ∈ knownNames
  filled_eq : ∀ values : String → String, filled values destination =
    "arn:" ++ values "AWS::Partition" ++ ":logs:" ++ values "AWS::Region" ++ ":" ++
      values "AWS::AccountId" ++ ":log-group:" ++ group

theorem leadsTo_iff : LeadsTo (logDestination p) (LogSink.groupName p.name) ↔
    ¬ HoldsReference p.name.toList := by
  constructor
  · intro h hholds
    have hfilled := (filled_logDestination (fun _ ↦ "") p).symm.trans (h.filled_eq fun _ ↦ "")
    have hgroup := (String.append_right_inj _).mp hfilled
    exact filled_ne_of_holds hholds ((String.append_right_inj _).mp hgroup)
  · intro h
    refine ⟨fun name ↦ ?_, fun values ↦ ?_⟩
    · rw [holes_logDestination, holes_of_not_holds h, List.append_nil]
    · rw [filled_logDestination, filled_of_not_holds values h]

/-- Where the template of a policy sends the logs, and what the log group that it makes is called.
-/
structure SendsLogs (p : Policy) (destination group : String) : Prop where
  destination : (ofPolicy p).partAt [.str "Resources", .str loggingKey, .str "Properties",
    .str "LogDestinationConfigs", .int 0, .str "Fn::Sub"] = .ok (.str destination)
  group : (ofPolicy p).partAt [.str "Resources", .str logGroupKey, .str "Properties",
    .str "LogGroupName"] = .ok (.str group)

theorem sendsLogs (h : p.logSink.enabled = true) :
    SendsLogs p (logDestination p) (LogSink.groupName p.name) := by
  obtain ⟨others, hothers⟩ : ∃ others, resources p =
      others ++ [(logGroupKey, logGroupResource p)] ++ [(loggingKey, loggingResource p)] := by
    rw [resources, if_pos h]
    exact ⟨_, (List.append_assoc _ [_] [_]).symm⟩
  have hresources : (ofPolicy p).part (.str "Resources") = .ok (.ofFields (resources p)) := by
    simp [ofPolicy, Value.part_record, List.lookup_cons]
  have hlogging : (Value.ofFields (resources p)).part (.str loggingKey) =
      .ok (loggingResource p) := by
    rw [hothers]
    exact Value.part_ofFields_last _ _ _
  have hgroup : (Value.ofFields (resources p)).part (.str logGroupKey) =
      .ok (logGroupResource p) := by
    rw [hothers, Value.part_ofFields_of_ne _ (by decide)]
    exact Value.part_ofFields_last _ _ _
  have hitem : ∀ v : Value, (Value.list [v]).part (.int 0) = .ok v :=
    fun v ↦ Value.part_list rfl
  constructor
  · simp [hresources, hlogging, loggingResource, resource, Value.part_record, List.lookup_cons,
      hitem]
  · simp [hresources, hgroup, logGroupResource, resource, Value.part_record, List.lookup_cons]

/-- A template sends the logs to the log group that it makes, unless the name of the policy holds a
text that is filled in on deployment, or that escapes one. -/
theorem leadsTo_iff_of_logging (h : p.logSink.enabled = true) : ∃ destination group : String,
    SendsLogs p destination group ∧
      (LeadsTo destination group ↔ ¬ HoldsReference p.name.toList) :=
  ⟨_, _, sendsLogs h, leadsTo_iff⟩

end Template

namespace Config

def named (name : String) : Config where
  name := name

theorem compile_named [Machine] {name : String} (h : strip name ≠ "") :
    (named name).compile .builtIn = .ok ((named name).toPolicy mandatoryRules) := by
  let out (k : Category) : List Rule := if k = .managed then mandatoryRules else []
  refine compile_of_ascending out h (fun k ↦ ?_) rfl (by decide) (by decide)
    breach?_mandatoryRules
  cases k with
  | managed => exact alone_mandatory rfl rfl rfl
  | _ => rfl

section

open UsualMachine

theorem leadsTo_iff_named : ∃ p, (named "acme").compile .builtIn = .ok p ∧
    p.logSink.enabled = true ∧ ∃ destination group, Template.SendsLogs p destination group ∧
      (Template.LeadsTo destination group ↔ ¬ Template.HoldsReference p.name.toList) :=
  ⟨_, compile_named (by decide), rfl, Template.leadsTo_iff_of_logging rfl⟩

/-- The name of a policy may hold the name of a stage to be filled in. -/
theorem stage_misleads : (named "acme-$\x7bstage\x7d").Validated ∧
    ∃ p, (named "acme-$\x7bstage\x7d").compile .builtIn = .ok p ∧ p.logSink.enabled = true ∧
      ∃ destination group, Template.SendsLogs p destination group ∧
        "stage" ∈ Template.holes destination ∧ ¬ Template.LeadsTo destination group := by
  refine ⟨⟨by decide, by decide, by decide⟩, _, compile_named (by decide), rfl, _, _,
    Template.sendsLogs rfl, ?_, ?_⟩
  · rw [Template.holes_logDestination]
    exact List.mem_append_right _ (by decide)
  · rw [Template.leadsTo_iff, not_not]
    exact ⟨"acme-".toList, "stage".toList, [], by decide⟩

end

end Config

end WebAcl
