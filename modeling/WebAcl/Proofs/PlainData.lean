import WebAcl.Proofs.HclAcceptance
import WebAcl.Proofs.HclTokens
import WebAcl.Proofs.NameChars
import WebAcl.Proofs.TemplateReferences

namespace WebAcl

open Hcl Outcome

namespace Value

mutual

def IsPlain (P : String → Prop) : Value → Prop
  | null | bool _ | int _ | str _ => True
  | list xs => ItemsPlain P xs
  | map es => EntriesPlain P es
  | _ => False

def ItemsPlain (P : String → Prop) : List Value → Prop
  | [] => True
  | x :: xs => IsPlain P x ∧ ItemsPlain P xs

def EntriesPlain (P : String → Prop) : List (Value × Value) → Prop
  | [] => True
  | (k, v) :: es => (∃ s, k = str s ∧ P s) ∧ IsPlain P v ∧ EntriesPlain P es

end

variable {P : String → Prop}

mutual

theorem thaw_freeze : ∀ {v : Value}, v.IsPlain P → v.freeze.thaw = v
  | null, _ | bool _, _ | int _, _ | str _, _ => rfl
  | list xs, h => by rw [freeze, thaw, thawItems_freezeItems h]
  | map es, h => by rw [freeze, thaw, thawEntries_freezeEntries h]

theorem thawItems_freezeItems : ∀ {xs : List Value}, ItemsPlain P xs →
    thawItems (freezeItems xs) = xs
  | [], _ => rfl
  | x :: xs, ⟨hx, hxs⟩ => by
    rw [freezeItems, thawItems, thaw_freeze hx, thawItems_freezeItems hxs]

theorem thawEntries_freezeEntries : ∀ {es : List (Value × Value)}, EntriesPlain P es →
    thawEntries (freezeEntries es) = es
  | [], _ => rfl
  | (k, v) :: es, ⟨_, hv, hes⟩ => by
    rw [freezeEntries, thawEntries, thaw_freeze hv, thawEntries_freezeEntries hes]

end

theorem entriesWithin_of_subset {es fs : List (Value × Value)} (hsubset : es ⊆ fs)
    (hself : ∀ e ∈ es, e.1.same e.1 = true ∧ e.2.same e.2 = true) :
    entriesWithin es fs = true := by
  induction es with
  | nil => rw [entriesWithin]
  | cons e es ih =>
    obtain ⟨he, hes⟩ := List.cons_subset.mp hsubset
    obtain ⟨hsame, hself⟩ := List.forall_mem_cons.mp hself
    rw [entriesWithin, ih hes hself, Bool.and_true, List.any_eq_true]
    exact ⟨e, he, by rw [hsame.1, hsame.2, Bool.and_true]⟩

mutual

theorem same_self : ∀ {v : Value}, v.IsPlain P → v.same v = true
  | null, _ => by simp [same, sameScalar]
  | bool b, _ => by simp [same, sameScalar, toInt?]
  | int i, _ => by simp [same, sameScalar, toInt?]
  | str s, _ => by simp [same_str]
  | list xs, h => by
    rw [same]
    exact sameItems_self h
  | map es, h => by
    rw [same, Bool.and_eq_true, beq_self_eq_true]
    exact ⟨rfl, entriesWithin_of_subset (List.Subset.refl es) (sameEntries_self h)⟩

theorem sameItems_self : ∀ {xs : List Value}, ItemsPlain P xs → sameItems xs xs = true
  | [], _ => by rw [sameItems]
  | x :: xs, ⟨hx, hxs⟩ => by rw [sameItems, same_self hx, sameItems_self hxs, Bool.and_true]

theorem sameEntries_self : ∀ {es : List (Value × Value)}, EntriesPlain P es →
    ∀ e ∈ es, e.1.same e.1 = true ∧ e.2.same e.2 = true
  | [], _ => by simp
  | (k, v) :: es, ⟨⟨s, hk, _⟩, hv, hes⟩ => by
    refine List.forall_mem_cons.mpr ⟨⟨?_, same_self hv⟩, sameEntries_self hes⟩
    rw [hk, same_str, beq_self_eq_true]

end

mutual

theorem keyTexts_of_isPlain : ∀ {v : Value}, v.IsPlain P → ∀ key ∈ v.keyTexts, P key
  | null, _ | bool _, _ | int _, _ | str _, _ => by simp [keyTexts]
  | list xs, h => keyTextsOfItems_of_itemsPlain h
  | map es, h => keyTextsOfEntries_of_entriesPlain h

theorem keyTextsOfItems_of_itemsPlain : ∀ {xs : List Value}, ItemsPlain P xs →
    ∀ key ∈ keyTextsOfItems xs, P key
  | [], _ => by simp [keyTextsOfItems]
  | x :: xs, ⟨hx, hxs⟩ => by
    rw [keyTextsOfItems]
    exact List.forall_mem_append.mpr ⟨keyTexts_of_isPlain hx, keyTextsOfItems_of_itemsPlain hxs⟩

theorem keyTextsOfEntries_of_entriesPlain : ∀ {es : List (Value × Value)}, EntriesPlain P es →
    ∀ key ∈ keyTextsOfEntries es, P key
  | [], _ => by simp [keyTextsOfEntries]
  | (_, v) :: es, ⟨⟨s, rfl, hs⟩, hv, hes⟩ => by
    rw [keyTextsOfEntries, List.forall_mem_append, List.forall_mem_append]
    exact ⟨⟨List.forall_mem_singleton.mpr hs, keyTexts_of_isPlain hv⟩,
      keyTextsOfEntries_of_entriesPlain hes⟩

end

theorem isPlain_list {xs : List Value} : (list xs).IsPlain P ↔ ∀ x ∈ xs, x.IsPlain P := by
  rw [IsPlain]
  induction xs with
  | nil => simp [ItemsPlain]
  | cons x xs ih => simp [ItemsPlain, ih]

theorem isPlain_map {es : List (Value × Value)} :
    (map es).IsPlain P ↔ ∀ e ∈ es, (∃ s, e.1 = str s ∧ P s) ∧ e.2.IsPlain P := by
  rw [IsPlain]
  induction es with
  | nil => simp [EntriesPlain]
  | cons e es ih => simp [EntriesPlain, ih, and_assoc]

theorem isPlain_record {fields : List (String × Value)} :
    (record fields).IsPlain P ↔ ∀ f ∈ fields, P f.1 ∧ f.2.IsPlain P := by
  rw [record, isPlain_map, List.forall_mem_map]
  simp

theorem same_single {key key' : String} {v w : Value} :
    (record [(key, v)]).same (record [(key', w)]) = true ↔ key = key' ∧ v.same w = true := by
  rw [record, record, same]
  simp [entriesWithin, same_str]

theorem same_record {fields fields' : List (String × Value)}
    (h : (record fields).same (record fields') = true) : fields.length = fields'.length ∧
      ∀ name v, (name, v) ∈ fields → ∃ w, (name, w) ∈ fields' ∧ v.same w = true := by
  rw [record, record, same, Bool.and_eq_true] at h
  obtain ⟨hlength, hwithin⟩ := h
  refine ⟨by simpa using hlength, fun name v hv ↦ ?_⟩
  clear hlength
  induction fields with
  | nil => simp at hv
  | cons f fields ih =>
    rw [List.map_cons, entriesWithin, Bool.and_eq_true] at hwithin
    obtain ⟨hfirst, hrest⟩ := hwithin
    obtain rfl | hv := List.mem_cons.mp hv
    · simpa [same_str] using hfirst
    · exact ih hrest hv

theorem same_of_mem {fields fields' : List (String × Value)}
    (h : (record fields).same (record fields') = true) (hnodup : (fields'.map (·.1)).Nodup)
    (name : String) {v w : Value} (hv : (name, v) ∈ fields) (hw : (name, w) ∈ fields') :
    v.same w = true := by
  obtain ⟨w', hw', hsame⟩ := (same_record h).2 name v hv
  obtain rfl : w = w' := congrArg Prod.snd (List.inj_on_of_nodup_map hnodup hw hw' rfl)
  exact hsame

theorem sameItems_map {α : Type} {f : α → Value}
    (hf : ∀ a b, (f a).same (f b) = true → a = b) {as bs : List α}
    (h : sameItems (as.map f) (bs.map f) = true) : as = bs := by
  induction as generalizing bs with
  | nil =>
    cases bs with
    | nil => rfl
    | cons b bs => simp [sameItems] at h
  | cons a as ih =>
    cases bs with
    | nil => simp [sameItems] at h
    | cons b bs =>
      rw [List.map_cons, List.map_cons, sameItems, Bool.and_eq_true] at h
      rw [hf a b h.1, ih h.2]

theorem same_int {i j : Int} : (int i).same (int j) = true ↔ i = j := by
  simp [same, sameScalar, toInt?]

theorem same_bool {b d : Bool} : (bool b).same (bool d) = true ↔ b = d := by
  cases b <;> cases d <;> simp [same, sameScalar, toInt?]

end Value

namespace Text

theorem isSeparator_of_mem {d : Char} (h : d ∈ separators) : isSeparator d = true :=
  List.all_eq_true.mp (by decide : separators.all isSeparator = true) d h

/-- Names stay names in the spelling of another convention. -/
theorem isWord_snakeCase {s : String} (h : IsWord s.toList) : IsWord (snakeCase s).toList :=
  ⟨snakeCase_ne_nil h.1, fun c hc ↦ isWordChar_iff.mpr fun hsep ↦
    not_mem_snakeCase (isSeparator_of_mem hsep) (fun hmem ↦ isWordChar_iff.mp (h.2 c hmem) hsep) hc⟩

end Text

namespace Hcl

open Text

def IsName (key : String) : Prop :=
  IsWord key.toList

instance (key : String) : Decidable (IsName key) :=
  inferInstanceAs (Decidable (IsWord _))

theorem isWordChar_singular {s : String} (h : IsWord s.toList) :
    ∀ c ∈ (singular s).toList, isWordChar c = true :=
  fun c hc ↦ isWordChar_iff.mpr fun hsep ↦
    not_mem_singular (fun hmem ↦ isWordChar_iff.mp (h.2 c hmem) hsep) hc

/-- Items made from data can be read if the keys are names. -/
theorem Part.IsOfData.readable {keys : List String} (hkeys : ∀ key ∈ keys, IsName key)
    {part : Part} (h : part.IsOfData keys) : part.Readable := by
  cases part with
  | name s =>
    obtain ⟨key, hkey, rfl⟩ := h
    exact isWord_snakeCase (hkeys key hkey)
  | header s =>
    obtain ⟨key, hkey, rfl | rfl⟩ := h
    · exact readable_header (isWord_snakeCase (hkeys key hkey)).2
    · exact readable_header (isWordChar_singular (isWord_snakeCase (hkeys key hkey)))
  | word s => exact h.elim
  | bare s => exact h.isWord

theorem readable_itemsOf [Machine] {used : Nat} {es : List (Value × Value)} {items : List Item}
    (hes : (Value.map es).IsPlain IsName) (h : itemsOf used es = .ok items) :
    ∀ part ∈ Item.partsOf items, part.Readable :=
  fun part hpart ↦ (parts_itemsOf h part hpart).readable (Value.keyTexts_of_isPlain hes)

variable {P : String → Prop}

mutual

theorem accepts_of_isPlain : ∀ {v : Value}, v.IsPlain P → v.isWritable = true →
    accepts v = true := by
  intro v hv hw
  cases v with
  | map es =>
    rw [accepts]
    exact acceptsEntries_of_isPlain hv hw
  | list xs =>
    rw [accepts]
    split
    · exact acceptsBlocks_of_isPlain hv hw
    · exact hw
  | _ => exact hw

theorem acceptsBlocks_of_isPlain : ∀ {xs : List Value}, Value.ItemsPlain P xs →
    Value.itemsWritable xs = true → acceptsBlocks xs = true
  | [], _, _ => rfl
  | x :: xs, ⟨hx, hxs⟩, hw => by
    rw [Value.itemsWritable, Bool.and_eq_true] at hw
    rw [acceptsBlocks, accepts_of_isPlain hx hw.1, acceptsBlocks_of_isPlain hxs hw.2]
    rfl

theorem acceptsEntries_of_isPlain : ∀ {es : List (Value × Value)}, Value.EntriesPlain P es →
    Value.entriesWritable es = true → acceptsEntries es = true
  | [], _, _ => rfl
  | (k, v) :: es, ⟨⟨s, hk, _⟩, hv, hes⟩, hw => by
    rw [Value.entriesWritable, Bool.and_eq_true, Bool.and_eq_true] at hw
    rw [acceptsEntries, hk, isText, accepts_of_isPlain hv hw.1.2,
      acceptsEntries_of_isPlain hes hw.2]
    rfl

end

end Hcl

end WebAcl
