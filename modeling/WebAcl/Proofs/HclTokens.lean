import WebAcl.Proofs.HclText

namespace WebAcl.Hcl

inductive Token where
  | word (cs : List Char)
  | literal (content : List Char)
  | mark (c : Char)
  deriving DecidableEq, Repr

def isBlank (c : Char) : Bool :=
  c == ' ' || c == '\n'

def isMark (c : Char) : Bool :=
  ['\x7b', '\x7d', '[', ']', ',', '='].contains c

def wordToken : List Char → List Token
  | [] => []
  | cs => [.word cs]

theorem wordToken_inj {cs ds : List Char} (h : wordToken cs = wordToken ds) : cs = ds := by
  cases cs <;> cases ds <;> simp [wordToken] at h ⊢
  exact h

/-- The tokens of the pieces of a text, where the given part of a word has been read. A literal that
is never closed leaves its quote as a mark. -/
@[simp] def tokensFrom (word : List Char) : List Piece → List Token
  | [] => wordToken word
  | .plain c :: ps =>
    if isBlank c then wordToken word ++ tokensFrom [] ps
    else if isMark c then wordToken word ++ .mark c :: tokensFrom [] ps
    else tokensFrom (word ++ [c]) ps
  | .literal content :: ps => wordToken word ++ .literal content :: tokensFrom [] ps
  | .unclosed _ :: ps => wordToken word ++ .mark '"' :: tokensFrom [] ps

def tokens (cs : List Char) : List Token :=
  tokensFrom [] (pieces cs)

/-- A text with which no word goes on. -/
def StartsApart (cs : List Char) : Prop :=
  ∀ c ∈ cs.head?, isBlank c = true ∨ isMark c = true

@[simp] theorem startsApart_nil : StartsApart [] := by
  simp [StartsApart]

@[simp] theorem startsApart_cons {c : Char} {cs : List Char} :
    StartsApart (c :: cs) ↔ isBlank c = true ∨ isMark c = true := by
  simp [StartsApart]

theorem StartsApart.append {cs ds : List Char} (hcs : StartsApart cs) (hds : StartsApart ds) :
    StartsApart (cs ++ ds) := by
  cases cs with
  | nil => exact hds
  | cons c cs => simpa using hcs

variable {cs ds : List Char} {ts us : List Token}

theorem ne_quote_of_apart {c : Char} (h : isBlank c = true ∨ isMark c = true) : c ≠ '"' := by
  rintro rfl
  exact absurd h (by decide)

theorem isBlank_of_isMark {c : Char} (h : isMark c = true) : isBlank c = false := by
  rw [isBlank, Bool.or_eq_false_iff, beq_eq_false_iff_ne, beq_eq_false_iff_ne]
  constructor <;> rintro rfl <;> exact absurd h (by decide)

theorem tokensFrom_blank {c : Char} (hc : isBlank c = true) (word cs : List Char) :
    tokensFrom word (pieces (c :: cs)) = wordToken word ++ tokens cs := by
  rw [pieces_plain (ne_quote_of_apart (.inl hc)), tokensFrom, if_pos hc]
  rfl

theorem tokensFrom_mark {c : Char} (hc : isMark c = true) (word cs : List Char) :
    tokensFrom word (pieces (c :: cs)) = wordToken word ++ .mark c :: tokens cs := by
  rw [pieces_plain (ne_quote_of_apart (.inr hc)), tokensFrom, isBlank_of_isMark hc,
    if_neg Bool.false_ne_true, if_pos hc]
  rfl

theorem tokens_blank {c : Char} (hc : isBlank c = true) (cs : List Char) :
    tokens (c :: cs) = tokens cs :=
  tokensFrom_blank hc [] cs

theorem tokens_mark {c : Char} (hc : isMark c = true) (cs : List Char) :
    tokens (c :: cs) = .mark c :: tokens cs :=
  tokensFrom_mark hc [] cs

theorem tokensFrom_of_apart (h : StartsApart cs) (word : List Char) :
    tokensFrom word (pieces cs) = wordToken word ++ tokens cs := by
  cases cs with
  | nil => simp [tokens, pieces, tokensFrom, wordToken]
  | cons c cs =>
    obtain hc | hc := startsApart_cons.mp h
    · rw [tokensFrom_blank hc, tokens_blank hc]
    · rw [tokensFrom_mark hc, tokens_mark hc]

theorem tokensFrom_append (hds : StartsApart ds) : ∀ (word : List Char) (ps : List Piece),
    tokensFrom word (ps ++ pieces ds) = tokensFrom word ps ++ tokens ds
  | word, [] => tokensFrom_of_apart hds word
  | word, .plain c :: ps => by
    rw [List.cons_append, tokensFrom, tokensFrom]
    split
    · rw [tokensFrom_append hds [] ps, List.append_assoc]
    · split
      · rw [tokensFrom_append hds [] ps, List.append_assoc, List.cons_append]
      · rw [tokensFrom_append hds (word ++ [c]) ps]
  | word, .literal content :: ps => by
    rw [List.cons_append, tokensFrom, tokensFrom, tokensFrom_append hds [] ps,
      List.append_assoc, List.cons_append]
  | word, .unclosed content :: ps => by
    rw [List.cons_append, tokensFrom, tokensFrom, tokensFrom_append hds [] ps,
      List.append_assoc, List.cons_append]

def isWordChar (c : Char) : Bool :=
  !isBlank c && !isMark c && c != '"'

def separators : List Char :=
  [' ', '\n', '\x7b', '\x7d', '[', ']', ',', '=', '"']

theorem isWordChar_iff {c : Char} : isWordChar c = true ↔ c ∉ separators := by
  simp [isWordChar, isBlank, isMark, separators, and_assoc]

theorem isWordChar_of {p : Char → Bool} (hp : separators.any p = false) {c : Char}
    (h : p c = true) : isWordChar c = true :=
  isWordChar_iff.mpr fun hc ↦ List.any_eq_false.mp hp c hc h

def IsWord (cs : List Char) : Prop :=
  cs ≠ [] ∧ ∀ c ∈ cs, isWordChar c = true

instance (cs : List Char) : Decidable (IsWord cs) :=
  @instDecidableAnd _ _ _ (List.decidableBAll (isWordChar · = true) cs)

theorem IsWord.append (hcs : IsWord cs) (hds : IsWord ds) : IsWord (cs ++ ds) :=
  ⟨by simp [hcs.1], List.forall_mem_append.mpr ⟨hcs.2, hds.2⟩⟩

theorem IsScalarText.isWord {s : String} (h : IsScalarText s) : IsWord s.toList := by
  have hp : separators.any (fun c ↦ Number.isNumberChar c || c.isLower) = false := by decide
  exact ⟨h.ne_nil, fun c hc ↦ isWordChar_of hp (List.all_eq_true.mp h.chars c hc)⟩

theorem tokensFrom_wordChars (hcs : ∀ c ∈ cs, isWordChar c = true) (word : List Char) :
    tokensFrom word (pieces cs) = wordToken (word ++ cs) := by
  induction cs generalizing word with
  | nil => rw [pieces, tokensFrom, List.append_nil]
  | cons c cs ih =>
    obtain ⟨hc, hcs⟩ := List.forall_mem_cons.mp hcs
    simp only [isWordChar, Bool.and_eq_true, Bool.not_eq_true', bne_iff_ne] at hc
    obtain ⟨⟨hblank, hmark⟩, hquote⟩ := hc
    rw [pieces_plain hquote, tokensFrom, hblank, hmark, if_neg Bool.false_ne_true,
      if_neg Bool.false_ne_true, ih hcs, List.append_assoc, List.singleton_append]

/-- A text that leaves no literal open, and its tokens. -/
structure Lexes (cs : List Char) (ts : List Token) : Prop where
  closed : Closed cs
  tokens_eq : tokens cs = ts

namespace Lexes

theorem nil : Lexes [] [] :=
  ⟨closed_nil, by rw [tokens, pieces, tokensFrom, wordToken]⟩

theorem append (hcs : Lexes cs ts) (hds : Lexes ds us) (h : StartsApart ds) :
    Lexes (cs ++ ds) (ts ++ us) where
  closed := hcs.closed.append hds.closed
  tokens_eq := by
    rw [tokens, hcs.closed ds, tokensFrom_append h, hds.tokens_eq]
    exact congrArg (· ++ us) hcs.tokens_eq

theorem blank {c : Char} (hc : isBlank c = true) (h : Lexes cs ts) : Lexes (c :: cs) ts where
  closed := by
    have hone : Closed [c] := closed_of_not_mem (by simpa using (ne_quote_of_apart (.inl hc)).symm)
    exact hone.append h.closed
  tokens_eq := by rw [tokens_blank hc, h.tokens_eq]

theorem mark {c : Char} (hc : isMark c = true) (h : Lexes cs ts) :
    Lexes (c :: cs) (.mark c :: ts) where
  closed := by
    have hone : Closed [c] := closed_of_not_mem (by simpa using (ne_quote_of_apart (.inr hc)).symm)
    exact hone.append h.closed
  tokens_eq := by rw [tokens_mark hc, h.tokens_eq]

theorem blanks (hcs : ∀ c ∈ cs, isBlank c = true) (h : Lexes ds us) : Lexes (cs ++ ds) us := by
  induction cs with
  | nil => exact h
  | cons c cs ih =>
    obtain ⟨hc, hcs⟩ := List.forall_mem_cons.mp hcs
    exact (ih hcs).blank hc

theorem wordChars (h : ∀ c ∈ cs, isWordChar c = true) : Lexes cs (wordToken cs) where
  closed := closed_of_not_mem fun hmem ↦ absurd (h _ hmem) (by decide)
  tokens_eq := tokensFrom_wordChars h []

theorem word (h : IsWord cs) : Lexes cs [.word cs] := by
  have hlexes := wordChars h.2
  cases cs with
  | nil => exact absurd rfl h.1
  | cons c cs => exact hlexes

theorem of_closed (h : Closed cs) : Lexes cs (tokens cs) :=
  ⟨h, rfl⟩

theorem quoted (h : Inside cs) : Lexes ('"' :: (cs ++ ['"'])) [.literal cs] where
  closed := closed_quoted h
  tokens_eq := by
    rw [tokens, pieces_quoted h, tokensFrom, pieces, tokensFrom, wordToken]
    rfl

end Lexes

theorem tokens_of_isWord (h : IsWord cs) : tokens cs = [.word cs] :=
  (Lexes.word h).tokens_eq

inductive LexLines : List String → List Token → Prop
  | nil : LexLines [] []
  | cons {s : String} {ss : List String} {ts us : List Token} :
    Lexes s.toList ts → LexLines ss us → LexLines (s :: ss) (ts ++ us)

namespace LexLines

variable {ss ss' : List String}

theorem single {s : String} (h : Lexes s.toList ts) : LexLines [s] ts := by
  simpa using cons h nil

theorem append (h : LexLines ss ts) (h' : LexLines ss' us) :
    LexLines (ss ++ ss') (ts ++ us) := by
  induction h with
  | nil => exact h'
  | cons hs _ ih => simpa using cons hs ih

theorem intercalate (h : LexLines ss ts) : Lexes ("\n".intercalate ss).toList ts := by
  induction h with
  | nil => exact .nil
  | cons hs hss ih =>
    cases hss with
    | nil => simpa using hs
    | cons hs' hss' =>
      have hbreak := ih.blank (show isBlank '\n' = true by decide)
      simpa [String.intercalate_cons_cons] using hs.append hbreak (by simp [isBlank])

end LexLines

mutual

def Expr.tokens : Expr → List Token
  | text s => [.literal (escape s.toList)]
  | word s => [.literal s.toList]
  | bare s => Hcl.tokens s.toList
  | inline items => .mark '[' :: (Expr.listed items ++ [.mark ']'])
  | column items =>
    .mark '[' :: (items.flatMap (fun s ↦ [.literal (escape s.toList), .mark ',']) ++ [.mark ']'])

def Expr.listed : List Expr → List Token
  | [] => []
  | [e] => e.tokens
  | e :: es => e.tokens ++ .mark ',' :: Expr.listed es

end

namespace Item

mutual

def tokens : Item → List Token
  | blank => []
  | attributes fields =>
    fields.flatMap fun f ↦ Hcl.tokens f.1.toList ++ .mark '=' :: f.2.tokens
  | flag name => Hcl.tokens name.toList ++ [.mark '\x7b', .mark '\x7d']
  | block header body =>
    Hcl.tokens header.toList ++ .mark '\x7b' :: (tokensOf body ++ [.mark '\x7d'])

def tokensOf : List Item → List Token
  | [] => []
  | item :: items => item.tokens ++ tokensOf items

end

end Item

def Token.IsName : Token → Prop
  | word _ | literal _ => True
  | mark _ => False

/-- What can stand before a block: names, or the name of an attribute and the sign after it. -/
def IsHeader (ts : List Token) : Prop :=
  (∀ t ∈ ts, t.IsName) ∨ ∃ cs, ts = [.word cs, .mark '=']

def Part.IsClosed : Part → Prop
  | name s | header s | bare s => Closed s.toList
  | word s => Inside s.toList

def Part.Readable : Part → Prop
  | name s | bare s => IsWord s.toList
  | header s => Closed s.toList ∧ IsHeader (tokens s.toList)
  | word s => Inside s.toList

namespace Part

theorem Readable.isClosed {part : Part} (h : part.Readable) : part.IsClosed := by
  cases part with
  | name s | bare s => exact (Lexes.word h).closed
  | header s => exact h.1
  | word s => exact h

theorem readable_header {s : String} (h : ∀ c ∈ s.toList, isWordChar c = true) :
    (header s).Readable := by
  have hlexes := Lexes.wordChars h
  refine ⟨hlexes.closed, .inl ?_⟩
  rw [hlexes.tokens_eq]
  cases s.toList with
  | nil => simp [wordToken]
  | cons c cs => simp [wordToken, Token.IsName]

end Part

namespace Lexes

theorem margin (depth : Nat) (h : Lexes cs ts) : Lexes ((Hcl.margin depth).toList ++ cs) ts := by
  refine h.blanks fun c hc ↦ ?_
  rw [Hcl.margin, String.toList_ofList] at hc
  rw [List.eq_of_mem_replicate hc]
  rfl

theorem quote (s : String) : Lexes (Hcl.quote s).toList [.literal (escape s.toList)] := by
  simpa [Hcl.quote, escapeText] using quoted (inside_escape s.toList)

theorem comma (h : Lexes cs ts) : Lexes (", ".toList ++ cs) (.mark ',' :: ts) :=
  (h.blank (show isBlank ' ' = true by decide)).mark (by decide)

end Lexes

theorem lexLines_column (depth : Nat) (items : List String) :
    LexLines (items.map fun s ↦ margin depth ++ quote s ++ ",")
      (items.flatMap fun s ↦ [.literal (escape s.toList), .mark ',']) := by
  induction items with
  | nil => exact .nil
  | cons s items ih =>
    have hcomma : Lexes ",".toList [.mark ','] := Lexes.nil.mark (by decide)
    have hline := ((Lexes.quote s).append hcomma (by simp [isMark])).margin depth
    rw [List.map_cons, List.flatMap_cons]
    exact .cons (by simpa using hline) ih

mutual

theorem lexes_expr (depth : Nat) : ∀ {e : Expr}, (∀ part ∈ e.parts, part.IsClosed) →
    Lexes (e.toText depth).toList e.tokens
  | .text s, _ => by
    rw [Expr.toText, Expr.tokens]
    exact .quote s
  | .word s, h => by
    have hinside : Inside s.toList := h (.word s) (by simp [Expr.parts])
    simpa [Expr.toText, Expr.tokens] using Lexes.quoted hinside
  | .bare s, h => by
    have hclosed : Closed s.toList := h (.bare s) (by simp [Expr.parts])
    rw [Expr.toText, Expr.tokens]
    exact .of_closed hclosed
  | .inline items, h => by
    have hclose : Lexes [']'] [.mark ']'] := Lexes.nil.mark (by decide)
    have hlist := ((lexes_listed depth h).append hclose (by simp [isMark])).mark
      (show isMark '[' = true by decide)
    simpa [Expr.toText, Expr.tokens] using hlist
  | .column [], _ => by
    have hclose : Lexes [']'] [.mark ']'] := Lexes.nil.mark (by decide)
    have hlist := hclose.mark (show isMark '[' = true by decide)
    simpa [Expr.toText, Expr.tokens] using hlist
  | .column (s :: items), _ => by
    have hclose : Lexes [']'] [.mark ']'] := Lexes.nil.mark (by decide)
    have hend := (hclose.margin depth).blank (show isBlank '\n' = true by decide)
    have hlines := (lexLines_column (depth + 1) (s :: items)).intercalate
    have hlist := ((hlines.append hend (by simp [isBlank])).blank
      (show isBlank '\n' = true by decide)).mark (show isMark '[' = true by decide)
    simpa [Expr.toText, Expr.tokens] using hlist

theorem lexes_listed (depth : Nat) : ∀ {es : List Expr},
    (∀ part ∈ Expr.partsOf es, part.IsClosed) →
      Lexes (", ".intercalate (Expr.texts depth es)).toList (Expr.listed es)
  | [], _ => .nil
  | [e], h => by
    have he : ∀ part ∈ e.parts, part.IsClosed := by simpa [Expr.partsOf] using h
    simpa [Expr.texts, Expr.listed] using lexes_expr depth he
  | e :: e' :: es, h => by
    obtain ⟨he, hes⟩ := List.forall_mem_append.mp h
    have hlist := (lexes_expr depth he).append (lexes_listed depth hes).comma (by simp [isMark])
    simpa [Expr.texts, Expr.listed, String.intercalate_cons_cons] using hlist

end

namespace Item

theorem lexes_attributeLine (depth width : Nat) {f : String × Expr} (hname : Closed f.1.toList)
    (hvalue : ∀ part ∈ f.2.parts, part.IsClosed) :
    Lexes (attributeLine depth width f).toList
      (Hcl.tokens f.1.toList ++ .mark '=' :: f.2.tokens) := by
  have hequals := ((lexes_expr depth hvalue).blank (show isBlank ' ' = true by decide)).mark
    (show isMark '=' = true by decide)
  -- at least one blank stands between the name and the sign
  have hrest : Lexes (List.replicate (width - f.1.length) ' ' ++ ' ' :: '=' :: ' ' ::
      (f.2.toText depth).toList) (.mark '=' :: f.2.tokens) := by
    refine (hequals.blank (show isBlank ' ' = true by decide)).blanks fun c hc ↦ ?_
    rw [List.eq_of_mem_replicate hc]
    rfl
  have hapart : StartsApart (List.replicate (width - f.1.length) ' ' ++ ' ' :: '=' :: ' ' ::
      (f.2.toText depth).toList) := by
    cases width - f.1.length <;> simp [List.replicate_succ, isBlank]
  have hline := ((Lexes.of_closed hname).append hrest hapart).margin depth
  simpa [attributeLine] using hline

mutual

theorem lexLines_lines : ∀ (depth : Nat) {item : Item}, (∀ part ∈ item.parts, part.IsClosed) →
    LexLines (item.lines depth) item.tokens
  | depth, .blank, _ => .single .nil
  | depth, .attributes fields, h => by
    have hfields : ∀ f ∈ fields, Closed f.1.toList ∧ ∀ part ∈ f.2.parts, part.IsClosed :=
      fun f hf ↦ List.forall_mem_cons.mp fun part hpart ↦
        h part (List.mem_flatMap.mpr ⟨f, hf, hpart⟩)
    rw [lines, tokens, attributeLines]
    generalize (fields.map (·.1.length)).foldl max 0 = width
    clear h
    induction fields with
    | nil => exact .nil
    | cons f fields ih =>
      obtain ⟨hf, hfields⟩ := List.forall_mem_cons.mp hfields
      rw [List.map_cons, List.flatMap_cons]
      exact .cons (lexes_attributeLine depth width hf.1 hf.2) (ih hfields)
  | depth, .flag name, h => by
    have hname : Closed name.toList := h (.name name) (by simp [parts])
    have hbraces : Lexes " \x7b\x7d".toList [.mark '\x7b', .mark '\x7d'] :=
      ((Lexes.nil.mark (by decide)).mark (by decide)).blank (by decide)
    have hline := ((Lexes.of_closed hname).append hbraces (by simp [isBlank])).margin depth
    rw [lines, tokens]
    exact .single (by simpa using hline)
  | depth, .block header body, h => by
    obtain ⟨hheader, hbody⟩ := List.forall_mem_cons.mp h
    have hopen : Lexes " \x7b".toList [.mark '\x7b'] :=
      (Lexes.nil.mark (by decide)).blank (by decide)
    have hfirst := ((Lexes.of_closed hheader).append hopen (by simp [isBlank])).margin depth
    have hclose : Lexes "\x7d".toList [.mark '\x7d'] := Lexes.nil.mark (by decide)
    have hlast := hclose.margin depth
    rw [← String.toList_append, ← String.toList_append, ← String.append_assoc] at hfirst
    rw [← String.toList_append] at hlast
    have hlines := LexLines.cons hfirst
      ((lexLines_allLines (depth + 1) hbody).append (.single hlast))
    simpa [lines, tokens] using hlines

theorem lexLines_allLines : ∀ (depth : Nat) {items : List Item},
    (∀ part ∈ partsOf items, part.IsClosed) → LexLines (allLines depth items) (tokensOf items)
  | _, [], _ => .nil
  | depth, item :: items, h => by
    obtain ⟨hitem, hitems⟩ := List.forall_mem_append.mp h
    rw [allLines, tokensOf]
    exact (lexLines_lines depth hitem).append (lexLines_allLines depth hitems)

end

end Item

theorem lexes_render (depth : Nat) {items : List Item}
    (h : ∀ part ∈ Item.partsOf items, part.IsClosed) :
    Lexes (render depth items).toList (Item.tokensOf items) :=
  (Item.lexLines_allLines depth h).intercalate

theorem lexLines_blocks : ∀ {blocks : List Item}, (∀ part ∈ Item.partsOf blocks, part.IsClosed) →
    LexLines (blocks.map fun b ↦ render 0 [b] ++ "\n") (Item.tokensOf blocks)
  | [], _ => .nil
  | b :: blocks, h => by
    obtain ⟨hb, hblocks⟩ := List.forall_mem_append.mp h
    have hrender : Lexes (render 0 [b]).toList (Item.tokensOf [b]) :=
      lexes_render 0 (by simpa using hb)
    have hend : Lexes "\n".toList [] := Lexes.nil.blank (by decide)
    have hline := hrender.append hend (by simp [isBlank])
    rw [← String.toList_append, List.append_nil, Item.tokensOf, Item.tokensOf, List.append_nil]
      at hline
    exact .cons hline (lexLines_blocks hblocks)

/-- The tokens of a file are those of its blocks. -/
theorem lexes_file {blocks : List Item} (h : ∀ part ∈ Item.partsOf blocks, part.IsClosed) :
    Lexes (file blocks).toList (Item.tokensOf blocks) :=
  (lexLines_blocks h).intercalate

end WebAcl.Hcl
