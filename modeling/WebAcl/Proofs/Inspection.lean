import WebAcl.Proofs.NumberText
import WebAcl.Proofs.PlainData
import WebAcl.Proofs.QuotedText

namespace WebAcl

namespace Value

open Number Text

def kindOfStart (c : Char) : String :=
  if isNumberChar c then "int"
  else if c = 'N' then "NoneType"
  else if c = 'T' ∨ c = 'F' then "bool"
  else if c = '\'' ∨ c = '"' then "str"
  else if c = '[' then "list"
  else if c = '\x7b' then "dict"
  else ""

variable {P : String → Prop}

theorem inspect_bool (b : Bool) : (bool b).inspect = if b then "True" else "False" :=
  rfl

theorem inspect_int (i : Int) : (int i).inspect = toString i :=
  rfl

theorem inspect_str (s : String) : (str s).inspect = quoted s :=
  rfl

theorem inspect_list (xs : List Value) :
    (list xs).inspect = "[" ++ ", ".intercalate (inspectItems xs) ++ "]" :=
  rfl

theorem inspect_map (es : List (Value × Value)) :
    (map es).inspect = "\x7b" ++ ", ".intercalate (inspectEntries es) ++ "\x7d" :=
  rfl

theorem toList_list (xs : List Value) : (list xs).inspect.toList =
    '[' :: ((", ".intercalate (inspectItems xs)).toList ++ [']']) := by
  rw [inspect_list, String.toList_append, String.toList_append]
  rfl

theorem toList_map (es : List (Value × Value)) : (map es).inspect.toList =
    '\x7b' :: ((", ".intercalate (inspectEntries es)).toList ++ ['\x7d']) := by
  rw [inspect_map, String.toList_append, String.toList_append]
  rfl

theorem exists_start {v : Value} (hv : v.IsPlain P) :
    ∃ c cs, v.inspect.toList = c :: cs ∧ kindOfStart c = v.kindName := by
  cases v with
  | null => exact ⟨_, _, rfl, by decide⟩
  | bool b => cases b <;> exact ⟨_, _, rfl, by decide⟩
  | int i =>
    have hnumber : ∀ c ∈ (toString i).toList, kindOfStart c = "int" :=
      fun c hc ↦ if_pos (isNumberChar_int hc)
    have hne := Number.int_ne_nil i
    rw [inspect_int]
    cases h : (toString i).toList with
    | nil => exact absurd h hne
    | cons c cs => exact ⟨c, cs, rfl, hnumber c (h ▸ List.mem_cons_self)⟩
  | str s =>
    obtain ⟨q, cs, hs, hq⟩ := exists_quote s
    have hkind : kindOfStart q = "str" := by obtain rfl | rfl := hq <;> decide
    exact ⟨q, cs, by rw [inspect_str, hs], hkind⟩
  | list xs => exact ⟨_, _, toList_list xs, (by decide : kindOfStart '[' = "list")⟩
  | map es => exact ⟨_, _, toList_map es, (by decide : kindOfStart '\x7b' = "dict")⟩
  | _ => exact hv.elim

/-- What can follow the text of a value inside another one. -/
def Stops (cs : List Char) : Prop :=
  ∀ c ∈ cs.head?, c = ',' ∨ c = ':' ∨ c = ']' ∨ c = '\x7d'

theorem stops_nil : Stops [] := by
  simp [Stops]

theorem stops_cons {c : Char} {cs : List Char} :
    Stops (c :: cs) ↔ c = ',' ∨ c = ':' ∨ c = ']' ∨ c = '\x7d' := by
  simp [Stops]

theorem not_stops_append {cs ds : List Char} (h : ¬ Stops cs) : ¬ Stops (cs ++ ds) := by
  cases cs with
  | nil => exact absurd (by simp [Stops]) h
  | cons c cs => exact fun hstops ↦ h (stops_cons.mpr (stops_cons.mp hstops))

theorem number_append_inj {as bs cs ds : List Char} (has : ∀ c ∈ as, isNumberChar c = true)
    (hbs : ∀ c ∈ bs, isNumberChar c = true) (hcs : Stops cs) (hds : Stops ds)
    (h : as ++ cs = bs ++ ds) : as = bs ∧ cs = ds := by
  have hstop : ∀ {c : Char} {cs : List Char}, isNumberChar c = true → ¬ Stops (c :: cs) := by
    intro c cs hc hstops
    obtain rfl | rfl | rfl | rfl := stops_cons.mp hstops <;> exact absurd hc (by decide)
  induction as generalizing bs with
  | nil =>
    cases bs with
    | nil => exact ⟨rfl, h⟩
    | cons b bs =>
      rw [List.nil_append] at h
      exact absurd (h ▸ hcs) (hstop (hbs b List.mem_cons_self))
  | cons a as ih =>
    cases bs with
    | nil =>
      rw [List.nil_append] at h
      exact absurd (h ▸ hds) (hstop (has a List.mem_cons_self))
    | cons b bs =>
      obtain ⟨rfl, htail⟩ := List.cons.inj h
      obtain ⟨rfl, hrest⟩ := ih (fun c hc ↦ has c (List.mem_cons_of_mem _ hc))
        (fun c hc ↦ hbs c (List.mem_cons_of_mem _ hc)) htail
      exact ⟨rfl, hrest⟩

def following (ss : List String) : List Char :=
  ss.flatMap fun s ↦ ',' :: ' ' :: s.toList

theorem toList_commas (s : String) (ss : List String) :
    (", ".intercalate (s :: ss)).toList = s.toList ++ following ss := by
  induction ss generalizing s with
  | nil => simp [following]
  | cons t ss ih =>
    rw [String.intercalate_cons_cons, String.toList_append, String.toList_append, ih]
    simp [following]

theorem stops_following (ss : List String) {close : Char} (h : close = ']' ∨ close = '\x7d')
    (cs : List Char) : Stops (following ss ++ close :: cs) := by
  cases ss with
  | nil => exact stops_cons.mpr (.inr (.inr h))
  | cons s ss => exact stops_cons.mpr (.inl rfl)

variable {α : Type} {f : α → String} {close : Char} {xs ys : List α} {cs ds : List Char}

theorem following_append_inj (hclose : close = ']' ∨ close = '\x7d')
    (hf : ∀ a ∈ xs, ∀ b ∈ ys, ∀ {cs ds : List Char}, Stops cs → Stops ds →
      (f a).toList ++ cs = (f b).toList ++ ds → a = b ∧ cs = ds)
    (h : following (xs.map f) ++ close :: cs = following (ys.map f) ++ close :: ds) :
    xs = ys ∧ cs = ds := by
  have hcomma : close ≠ ',' := by
    rintro rfl
    simp at hclose
  induction xs generalizing ys with
  | nil =>
    cases ys with
    | nil => exact ⟨rfl, (List.cons.inj h).2⟩
    | cons b ys => exact absurd (List.cons.inj h).1 hcomma
  | cons a xs ih =>
    cases ys with
    | nil => exact absurd (List.cons.inj h).1.symm hcomma
    | cons b ys =>
      have hnext : (f a).toList ++ (following (xs.map f) ++ close :: cs) =
          (f b).toList ++ (following (ys.map f) ++ close :: ds) := by
        simpa [following] using h
      obtain ⟨rfl, hrest⟩ := hf a List.mem_cons_self b List.mem_cons_self
        (stops_following _ hclose _) (stops_following _ hclose _) hnext
      obtain ⟨rfl, hend⟩ := ih (fun a ha b hb ↦
        hf a (List.mem_cons_of_mem _ ha) b (List.mem_cons_of_mem _ hb)) hrest
      exact ⟨rfl, hend⟩

theorem commas_append_inj (hclose : close = ']' ∨ close = '\x7d')
    (hxs : ∀ a ∈ xs, ¬ Stops (f a).toList) (hys : ∀ b ∈ ys, ¬ Stops (f b).toList)
    (hf : ∀ a ∈ xs, ∀ b ∈ ys, ∀ {cs ds : List Char}, Stops cs → Stops ds →
      (f a).toList ++ cs = (f b).toList ++ ds → a = b ∧ cs = ds)
    (h : (", ".intercalate (xs.map f)).toList ++ close :: cs =
      (", ".intercalate (ys.map f)).toList ++ close :: ds) : xs = ys ∧ cs = ds := by
  have hend : ∀ (cs : List Char), Stops (close :: cs) := fun _ ↦
    stops_cons.mpr (.inr (.inr hclose))
  cases xs with
  | nil =>
    cases ys with
    | nil => exact ⟨rfl, (List.cons.inj h).2⟩
    | cons b ys =>
      rw [List.map_cons, toList_commas, List.append_assoc] at h
      have hstops : Stops ((f b).toList ++ (following (ys.map f) ++ close :: ds)) := h ▸ hend cs
      exact absurd hstops (not_stops_append (hys b List.mem_cons_self))
  | cons a xs =>
    cases ys with
    | nil =>
      rw [List.map_cons, toList_commas, List.append_assoc] at h
      have hstops : Stops ((f a).toList ++ (following (xs.map f) ++ close :: cs)) := h ▸ hend ds
      exact absurd hstops (not_stops_append (hxs a List.mem_cons_self))
    | cons b ys =>
      rw [List.map_cons, List.map_cons, toList_commas, toList_commas, List.append_assoc,
        List.append_assoc] at h
      obtain ⟨rfl, hrest⟩ := hf a List.mem_cons_self b List.mem_cons_self
        (stops_following _ hclose _) (stops_following _ hclose _) h
      obtain ⟨rfl, hcs⟩ := following_append_inj hclose (fun a ha b hb ↦
        hf a (List.mem_cons_of_mem _ ha) b (List.mem_cons_of_mem _ hb)) hrest
      exact ⟨rfl, hcs⟩

theorem inspectItems_eq_map (xs : List Value) : inspectItems xs = xs.map inspect := by
  induction xs with
  | nil => rfl
  | cons x xs ih => exact congrArg (x.inspect :: ·) ih

def inspectEntry (e : Value × Value) : String :=
  e.1.inspect ++ ": " ++ e.2.inspect

theorem toList_inspectEntry (e : Value × Value) : (inspectEntry e).toList =
    e.1.inspect.toList ++ ':' :: ' ' :: e.2.inspect.toList := by
  rw [inspectEntry, String.toList_append, String.toList_append, List.append_assoc]
  rfl

theorem inspectEntries_eq_map (es : List (Value × Value)) :
    inspectEntries es = es.map inspectEntry := by
  induction es with
  | nil => rfl
  | cons e es ih => exact congrArg (inspectEntry e :: ·) ih

theorem not_stops_inspect {v : Value} (hv : v.IsPlain P) : ¬ Stops v.inspect.toList := by
  obtain ⟨c, cs, hc, hkind⟩ := exists_start hv
  rw [hc]
  intro hstops
  have hnone : kindOfStart c = "" := by
    obtain rfl | rfl | rfl | rfl := stops_cons.mp hstops <;> decide
  rw [hnone] at hkind
  cases v <;> simp [kindName] at hkind

theorem not_stops_inspectEntry {e : Value × Value} (he : ∃ s, e.1 = str s ∧ P s) :
    ¬ Stops (inspectEntry e).toList := by
  obtain ⟨s, hkey, -⟩ := he
  have hquoted : ¬ Stops (str s).inspect.toList := not_stops_inspect (P := P) trivial
  rw [toList_inspectEntry, hkey]
  exact not_stops_append hquoted

theorem entry_append_inj {e f : Value × Value} (he : ∃ s, e.1 = str s ∧ P s)
    (hf : ∃ s, f.1 = str s ∧ P s) (h : (inspectEntry e).toList ++ cs =
      (inspectEntry f).toList ++ ds) :
    e.1 = f.1 ∧ e.2.inspect.toList ++ cs = f.2.inspect.toList ++ ds := by
  obtain ⟨s, hkey, -⟩ := he
  obtain ⟨t, hkey', -⟩ := hf
  rw [toList_inspectEntry, toList_inspectEntry, hkey, hkey', inspect_str, inspect_str,
    List.append_assoc, List.append_assoc] at h
  obtain ⟨rfl, hrest⟩ := quoted_append_inj h
  exact ⟨hkey.trans hkey'.symm, (List.cons.inj (List.cons.inj hrest).2).2⟩

theorem kindName_eq {v w : Value} (hv : v.IsPlain P) (hw : w.IsPlain P)
    (h : v.inspect.toList ++ cs = w.inspect.toList ++ ds) : v.kindName = w.kindName := by
  obtain ⟨c, cs', hc, hv⟩ := exists_start hv
  obtain ⟨d, ds', hd, hw⟩ := exists_start hw
  rw [hc, hd] at h
  rw [← hv, ← hw, (List.cons.inj h).1]

/-- The text of a value differs from those of all others, also where it starts a text. -/
def ToldApart (P : String → Prop) (v : Value) : Prop :=
  ∀ {w : Value} {cs ds : List Char}, w.IsPlain P → Stops cs → Stops ds →
    v.inspect.toList ++ cs = w.inspect.toList ++ ds → v = w ∧ cs = ds

theorem toldApart_null : ToldApart P null := by
  intro w cs ds hw _ _ h
  have hkind := kindName_eq (P := P) (v := null) trivial hw h
  cases w with
  | null => exact ⟨rfl, List.append_cancel_left h⟩
  | _ => simp [kindName] at hkind

theorem toldApart_bool (b : Bool) : ToldApart P (bool b) := by
  intro w cs ds hw _ _ h
  have hkind := kindName_eq (P := P) (v := bool b) trivial hw h
  cases w with
  | bool d => cases b <;> cases d <;> simp [inspect_bool] at h <;> exact ⟨rfl, h⟩
  | _ => simp [kindName] at hkind

theorem toldApart_int (i : Int) : ToldApart P (int i) := by
  intro w cs ds hw hcs hds h
  have hkind := kindName_eq (P := P) (v := int i) trivial hw h
  cases w with
  | int j =>
    rw [inspect_int, inspect_int] at h
    obtain ⟨htext, hrest⟩ := number_append_inj (fun _ ↦ isNumberChar_int)
      (fun _ ↦ isNumberChar_int) hcs hds h
    exact ⟨congrArg int (eq_of_toString_eq (String.toList_inj.mp htext)), hrest⟩
  | _ => simp [kindName] at hkind

theorem toldApart_str (s : String) : ToldApart P (str s) := by
  intro w cs ds hw _ _ h
  have hkind := kindName_eq (P := P) (v := str s) trivial hw h
  cases w with
  | str t =>
    rw [inspect_str, inspect_str] at h
    obtain ⟨rfl, hrest⟩ := quoted_append_inj h
    exact ⟨rfl, hrest⟩
  | _ => simp [kindName] at hkind

theorem toldApart_list {xs : List Value} (hxs : (list xs).IsPlain P)
    (ih : ∀ x ∈ xs, ToldApart P x) : ToldApart P (list xs) := by
  intro w cs ds hw _ _ h
  have hkind := kindName_eq hxs hw h
  cases w with
  | list ys =>
    have hxs := isPlain_list.mp hxs
    have hys := isPlain_list.mp hw
    rw [toList_list, toList_list, inspectItems_eq_map, inspectItems_eq_map] at h
    have hitems := commas_append_inj (.inl rfl) (fun x hx ↦ not_stops_inspect (hxs x hx))
      (fun y hy ↦ not_stops_inspect (hys y hy)) (fun x hx y hy ↦ ih x hx (hys y hy))
      (by simpa using (List.cons.inj h).2)
    exact ⟨congrArg list hitems.1, hitems.2⟩
  | _ => simp [kindName] at hkind

theorem toldApart_map {es : List (Value × Value)} (hes : (map es).IsPlain P)
    (ih : ∀ e ∈ es, ToldApart P e.2) : ToldApart P (map es) := by
  intro w cs ds hw _ _ h
  have hkind := kindName_eq hes hw h
  cases w with
  | map fs =>
    have hes := isPlain_map.mp hes
    have hfs := isPlain_map.mp hw
    rw [toList_map, toList_map, inspectEntries_eq_map, inspectEntries_eq_map] at h
    have hentry : ∀ e ∈ es, ∀ f ∈ fs, ∀ {cs ds : List Char}, Stops cs → Stops ds →
        (inspectEntry e).toList ++ cs = (inspectEntry f).toList ++ ds → e = f ∧ cs = ds := by
      intro e he f hf cs ds hcs hds h
      obtain ⟨hkey, hrest⟩ := entry_append_inj (hes e he).1 (hfs f hf).1 h
      obtain ⟨hvalue, hend⟩ := ih e he (hfs f hf).2 hcs hds hrest
      exact ⟨Prod.ext hkey hvalue, hend⟩
    have hentries := commas_append_inj (.inr rfl) (fun e he ↦ not_stops_inspectEntry (hes e he).1)
      (fun f hf ↦ not_stops_inspectEntry (hfs f hf).1) hentry (by simpa using (List.cons.inj h).2)
    exact ⟨congrArg map hentries.1, hentries.2⟩
  | endless => exact hw.elim
  | _ => simp [kindName] at hkind

mutual

theorem toldApart : ∀ {v : Value}, v.IsPlain P → ToldApart P v
  | null, _ => toldApart_null
  | bool b, _ => toldApart_bool b
  | int i, _ => toldApart_int i
  | str s, _ => toldApart_str s
  | list _, h => toldApart_list h (toldApart_items h)
  | map _, h => toldApart_map h (toldApart_entries h)

theorem toldApart_items : ∀ {xs : List Value}, ItemsPlain P xs → ∀ x ∈ xs, ToldApart P x
  | [], _ => by simp
  | _ :: _, ⟨hx, hxs⟩ => List.forall_mem_cons.mpr ⟨toldApart hx, toldApart_items hxs⟩

theorem toldApart_entries : ∀ {es : List (Value × Value)}, EntriesPlain P es →
    ∀ e ∈ es, ToldApart P e.2
  | [], _ => by simp
  | _ :: _, ⟨_, hv, hes⟩ => List.forall_mem_cons.mpr ⟨toldApart hv, toldApart_entries hes⟩

end

theorem eq_of_inspect_eq {v w : Value} (hv : v.IsPlain P) (hw : w.IsPlain P)
    (h : v.inspect = w.inspect) : v = w :=
  (toldApart hv hw stops_nil stops_nil (congrArg (·.toList ++ []) h)).1

end Value

end WebAcl
