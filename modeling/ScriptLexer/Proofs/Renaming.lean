import ScriptLexer.Proofs.MaximalMunch

/-!
# Renamed characters

A scan tells characters apart by their classes: blanks, digits, letters, and the
characters that have a meaning of their own. So it does not see a renaming that
keeps the classes. The one exception is the table of reserved words: a name may
become a reserved word, and the other way round.

Results:

* `Token.WellFormed.rename`, `Token.joins_rename`: renamed tokens are well-formed and
  join what the tokens joined.
* `Layout.rename`: the layout of a renamed text.
* `tokenize_map`: the stream of a renamed text is the renamed stream.
-/

namespace ScriptLexer

open ScriptLexer.Unicode

/-! ## Renamings -/

/-- A renaming of characters that keeps their classes. It moves no character that has a meaning
    of its own, and makes none. -/
structure KeepsClasses (f : Char → Char) : Prop where
  blank : ∀ c, isBlank (f c) = isBlank c
  digit : ∀ c, isDigit (f c) = isDigit c
  letter : ∀ c, isLetter (f c) = isLetter c
  fixed : ∀ c ∈ meaningful, f c = c
  reflects : ∀ c, f c ∈ meaningful → c ∈ meaningful

theorem mem_meaningful_of_mem_marks {c : Char} (h : c ∈ Lead.marks) : c ∈ meaningful := by
  rw [meaningful_eq]
  exact List.mem_append_left _ h

/-- The kind of a token when its lexeme has been renamed. Of a word, the table of reserved
    words decides it anew. -/
def Kind.rename (lexeme : String) : Kind → Kind
  | .identifier | .keyword _ =>
    match Keyword.ofSpelling? lexeme with
    | some k => .keyword k
    | none => .identifier
  | kind => kind

/-- The token with its lexeme renamed. -/
def Token.rename (f : Char → Char) (t : Token) : Token :=
  ⟨t.kind.rename (t.lexeme.map f), t.lexeme.map f⟩

namespace KeepsClasses

variable {f : Char → Char} (hf : KeepsClasses f)
include hf

/-- Only a character that has a meaning of its own is renamed to it. -/
theorem eq_iff {m : Char} (hm : m ∈ meaningful) (c : Char) : f c = m ↔ c = m := by
  constructor
  · rintro rfl
    exact (hf.fixed c (hf.reflects c hm)).symm
  · rintro rfl
    exact hf.fixed c hm

theorem beq_eq {m : Char} (hm : m ∈ meaningful) (c : Char) : (f c == m) = (c == m) := by
  rw [Bool.eq_iff_iff, beq_iff_eq, beq_iff_eq]
  exact hf.eq_iff hm c

theorem isWord_eq (c : Char) : isWord (f c) = isWord c := by
  rw [isWord, isWord, hf.letter, hf.digit, hf.beq_eq (by decide)]

theorem map_eq_self {cs : List Char} (h : cs.all meaningful.contains = true) :
    cs.map f = cs := by
  conv => rhs; rw [← List.map_id cs]
  refine List.map_congr_left fun c hc => hf.fixed c ?_
  exact List.contains_iff_mem.mp (List.all_eq_true.mp h c hc)

/-- A renaming keeps what may be joined to an arithmetic sign. -/
theorem arithmetic_eq (c d : Char) :
    ((f c == '+' || f c == '-' || f c == '*') && (f d == f c || f d == '=')) =
      ((c == '+' || c == '-' || c == '*') && (d == c || d == '=')) := by
  rw [hf.beq_eq (m := '+') (by decide), hf.beq_eq (m := '-') (by decide),
    hf.beq_eq (m := '*') (by decide), hf.beq_eq (m := '=') (by decide)]
  by_cases hc : c ∈ meaningful
  · rw [hf.fixed c hc, hf.beq_eq hc]
  · have hne : ∀ m ∈ meaningful, (c == m) = false :=
      fun m hm => beq_eq_false_iff_ne.mpr fun h => hc (h ▸ hm)
    simp only [hne '+' (by decide), hne '-' (by decide), hne '*' (by decide), Bool.or_self,
      Bool.false_and]

theorem quote_not_mem_map {cs : List Char} (h : '"' ∉ cs) : '"' ∉ cs.map f := by
  intro hmem
  obtain ⟨c, hc, heq⟩ := List.mem_map.mp hmem
  rw [hf.eq_iff (by decide)] at heq
  exact h (heq ▸ hc)

theorem blank_map {gap : List Char} (h : ∀ c ∈ gap, isBlank c = true) :
    ∀ c ∈ gap.map f, isBlank c = true := by
  intro c hc
  obtain ⟨d, hd, rfl⟩ := List.mem_map.mp hc
  rw [hf.blank]
  exact h d hd

theorem isStray {c : Char} (h : IsStray c) : IsStray (f c) := by
  obtain ⟨hb, hd, hl, hm⟩ := h
  refine ⟨by rw [hf.blank, hb], by rw [hf.digit, hd], by rw [hf.letter, hl], fun hmem => hm ?_⟩
  have hc := (hf.eq_iff (mem_meaningful_of_mem_marks hmem) c).mp rfl
  rwa [← hc] at hmem

theorem isWordText_map {cs : List Char} (h : IsWordText cs) : IsWordText (cs.map f) := by
  cases cs with
  | nil => exact h.elim
  | cons c rest =>
    refine ⟨by rw [hf.letter, h.1], fun d hd => ?_⟩
    obtain ⟨e, he, rfl⟩ := List.mem_map.mp hd
    rw [hf.isWord_eq]
    exact h.2 e he

end KeepsClasses

/-! ## Renamed tokens -/

theorem Kind.rename_eq_string_iff {lexeme : String} {k : Kind} :
    k.rename lexeme = .string ↔ k = .string := by
  have hword : Token.wordKind lexeme ≠ .string := Token.wordKind_ne_string lexeme
  cases k <;> simp [Kind.rename]
  case identifier => exact hword
  case keyword => exact hword

namespace Token

variable {f : Char → Char}

theorem rename_eq (t : Token) :
    t.rename f = ofChars (t.kind.rename (.ofList (t.lexeme.toList.map f)))
      (t.lexeme.toList.map f) := by
  have hmap : t.lexeme.map f = .ofList (t.lexeme.toList.map f) := by
    rw [← String.toList_map, String.ofList_toList]
  rw [rename, hmap, ofChars]

variable (hf : KeepsClasses f)
include hf

/-- A renamed token occupies the renamed characters. -/
theorem source_rename (t : Token) : (t.rename f).source = t.source.map f := by
  have hquote : f '"' = '"' := hf.fixed _ (by decide)
  by_cases hk : t.kind = .string
  · have hk' : (t.rename f).kind = .string := Kind.rename_eq_string_iff.mpr hk
    rw [source_of_string hk', source_of_string hk, rename, String.toList_map]
    simp [hquote]
  · have hk' : (t.rename f).kind ≠ .string := fun h => hk (Kind.rename_eq_string_iff.mp h)
    rw [source_of_ne_string hk', source_of_ne_string hk, rename, String.toList_map]

theorem admits_rename {kind : Kind} {cs : List Char} (h : kind.Admits cs) :
    (kind.rename (.ofList (cs.map f))).Admits (cs.map f) := by
  -- A word is looked up again. All other kinds keep their name, and most their one spelling.
  cases kind
  case identifier =>
    exact wellFormed_ofChars.mp (wellFormed_word (hf.isWordText_map h.1))
  case keyword k =>
    have hword := isWordText_spelling k
    rw [← show cs = k.spelling.toList from h] at hword
    exact wellFormed_ofChars.mp (wellFormed_word (hf.isWordText_map hword))
  case number =>
    refine ⟨by simpa using h.1, fun c hc => ?_⟩
    obtain ⟨d, hd, rfl⟩ := List.mem_map.mp hc
    rw [hf.digit]
    exact h.2 d hd
  case string => exact hf.quote_not_mem_map h
  case space => exact h.elim
  case endOfInput => exact h.elim
  case unrecognized =>
    rcases h with rfl | ⟨c, rfl, hc⟩
    · exact Or.inl (hf.map_eq_self (by decide))
    · exact Or.inr ⟨f c, rfl, hf.isStray hc⟩
  case binaryOp =>
    have hfixed : cs.all meaningful.contains = true := by
      simp only [Kind.Admits, List.mem_cons, List.not_mem_nil, or_false] at h
      rcases h with rfl | rfl | rfl | rfl | rfl | rfl | rfl | rfl | rfl <;> decide
    rwa [hf.map_eq_self hfixed]
  case compoundOp =>
    have hfixed : cs.all meaningful.contains = true := by
      simp only [Kind.Admits, List.mem_cons, List.not_mem_nil, or_false] at h
      rcases h with rfl | rfl | rfl <;> decide
    rwa [hf.map_eq_self hfixed]
  all_goals
    obtain rfl : cs = _ := h
    exact hf.map_eq_self (by decide)

theorem WellFormed.rename {t : Token} (h : t.WellFormed) : (t.rename f).WellFormed := by
  rw [rename_eq, wellFormed_ofChars]
  exact admits_rename hf h

/-- A renamed token joins the renamed characters that the token joins. -/
theorem joins_rename (t : Token) (d : Char) : (t.rename f).joins (f d) = t.joins d := by
  by_cases hword : t.kind = .identifier ∨ ∃ k, t.kind = .keyword k
  · have hkind : (t.rename f).kind = wordKind (t.lexeme.map f) := by
      rcases hword with h | ⟨k, h⟩ <;> rw [rename, h] <;> rfl
    have hword' : (t.rename f).kind = .identifier ∨ ∃ k, (t.rename f).kind = .keyword k := by
      rw [hkind]
      exact wordKind_eq _
    rw [joins_of_word hword', joins_of_word hword, hf.isWord_eq]
  · have hkind : (t.rename f).kind = t.kind := by
      rw [rename]
      cases hk : t.kind <;> simp [hk] at hword <;> rfl
    have hequals := hf.beq_eq (m := '=') (by decide) d
    have htext : (t.rename f).lexeme.toList = t.lexeme.toList.map f := String.toList_map
    unfold joins
    rw [hkind, htext, hequals]
    cases t.kind <;> simp only [hf.digit, hf.isWord_eq]
    case binaryOp =>
      rcases t.lexeme.toList with _ | ⟨c, _ | ⟨e, rest⟩⟩
      · rfl
      · simpa [hequals] using hf.arithmetic_eq c d
      · rfl
    case unrecognized =>
      rcases t.lexeme.toList with _ | ⟨c, _ | ⟨e, rest⟩⟩
      · rfl
      · simp [hf.beq_eq (show '!' ∈ meaningful by decide)]
      · simp

theorem EndsBefore.rename {t : Token} {after : List Char} (h : t.EndsBefore after) :
    (t.rename f).EndsBefore (after.map f) := by
  cases after with
  | nil => trivial
  | cons d after => exact (joins_rename hf t d).trans h

end Token

/-! ## Renamed texts -/

section

variable {f : Char → Char} (hf : KeepsClasses f)

/-- The piece of a renamed token, with renamed blanks in front. -/
def Piece.rename (p : Piece) : Piece where
  gap := p.gap.map f
  token := p.token.rename f
  blank := hf.blank_map p.blank
  wellFormed := p.wellFormed.rename hf

namespace Piece

theorem chars_rename (p : Piece) : (p.rename hf).chars = p.chars.map f := by
  rw [chars, chars, List.map_append, rename, Token.source_rename hf]

theorem text_rename (ps : List Piece) : text (ps.map (rename hf)) = (text ps).map f := by
  induction ps with
  | nil => rfl
  | cons p ps ih => rw [List.map_cons, text_cons, text_cons, chars_rename, ih, List.map_append]

/-- Renamed pieces stay apart. -/
theorem Apart.rename {ps : List Piece} {after : List Char} (h : Apart ps after) :
    Apart (ps.map (rename hf)) (after.map f) := by
  induction ps with
  | nil => trivial
  | cons p ps ih =>
    obtain ⟨hend, hrest⟩ := h
    refine ⟨?_, ih hrest⟩
    rw [text_rename, ← List.map_append]
    exact hend.rename hf

end Piece

namespace Layout

/-- The layout of a renamed text. -/
def rename (l : Layout) : Layout where
  pieces := l.pieces.map (Piece.rename hf)
  gap := l.gap.map f
  literal := l.literal.map (List.map f)
  blank := hf.blank_map l.blank
  unclosed := by
    intro body hbody
    obtain ⟨body', hbody', rfl⟩ := Option.map_eq_some_iff.mp hbody
    exact hf.quote_not_mem_map (l.unclosed body' hbody')
  apart := by
    have hquote : f '"' = '"' := hf.fixed _ (by decide)
    have := l.apart.rename hf
    cases hl : l.literal <;> simpa [hl, hquote] using this

theorem literal_rename (l : Layout) : (l.rename hf).literal = l.literal.map (List.map f) := rfl

theorem tokens_rename (l : Layout) : (l.rename hf).tokens = l.tokens.map (Token.rename f) := by
  simp [tokens, rename, Piece.rename]

theorem chars_rename (l : Layout) : (l.rename hf).chars = l.chars.map f := by
  have hquote : f '"' = '"' := hf.fixed _ (by decide)
  simp only [chars, rest, rename, Piece.text_rename, List.map_append]
  cases l.literal <;> simp [hquote]

theorem stop_rename (l : Layout) : (l.rename hf).stop = l.stop := by
  simp [stop, rename, Piece.text_rename]

/-- A renamed text has the renamed stream, or fails where the text does. -/
theorem result_rename (l : Layout) :
    (l.rename hf).result = l.result.map (List.map (Token.rename f)) := by
  have hend : Token.endOfInput.rename f = Token.endOfInput := by
    simp [Token.rename, Token.endOfInput, Kind.rename]
  unfold result
  rw [tokens_rename, stop_rename, literal_rename]
  cases l.literal with
  | none => simp [Except.map, hend]
  | some body => rfl

end Layout

end

/-- **A scan sees the classes of characters only.** If a text is renamed and the renaming keeps
    the classes, the scan fails at the same offset, or it finds the renamed tokens in the same
    order. Their kinds are the same, but for words, which are looked up anew. -/
theorem tokenize_map {f : Char → Char} (hf : KeepsClasses f) (source : String) :
    tokenize (source.map f) = (tokenize source).map (List.map (Token.rename f)) := by
  obtain ⟨l, hl⟩ := Layout.exists_chars_eq source.toList
  have hchars : (l.rename hf).chars = (source.map f).toList := by
    rw [Layout.chars_rename, hl, String.toList_map]
  rw [Layout.tokenize_eq hl, Layout.tokenize_eq hchars, Layout.result_rename]

/-- A renaming that takes `a` to `e` makes the reserved word `let` of the name `lat`. It may
    also move the character U+0000, which a cursor sees behind the end of a text. -/
theorem tokenize_map_let :
    ∃ f : Char → Char, KeepsClasses f ∧ f '\x00' = '\x01' ∧
      tokenize ("lat\x00+\"a".map f) = .error (.unterminatedString 5) ∧
      tokenize ("lat\x00+=".map f) = .ok [Token.ofChars (.keyword .letKw) ['l', 'e', 't'],
        Token.ofChars .unrecognized ['\x01'], Token.ofChars .compoundOp ['+', '='],
        Token.endOfInput] := by
  have hclass : ∀ p : Char → Bool, p 'e' = p 'a' → p '\x01' = p '\x00' → ∀ c : Char,
      p (if c = 'a' then 'e' else if c = '\x00' then '\x01' else c) = p c := by
    intro p ha hzero c
    split
    · next h => rw [h, ha]
    · split
      · next h => rw [h, hzero]
      · rfl
  have hf : KeepsClasses fun c => if c = 'a' then 'e' else if c = '\x00' then '\x01' else c :=
    { blank := hclass isBlank (by decide +kernel) (by decide +kernel)
      digit := hclass isDigit (by decide +kernel) (by decide +kernel)
      letter := hclass isLetter (by decide +kernel) (by decide +kernel)
      fixed := by simp [meaningful]
      reflects := fun c hc => by
        have := hclass (fun c => decide (c ∈ meaningful)) (by decide) (by decide) c
        simpa [hc] using this }
  have hopen : tokenize "lat\x00+\"a" = .error (.unterminatedString 5) := by decide +kernel
  have hstream : tokenize "lat\x00+=" = .ok [Token.ofChars .identifier ['l', 'a', 't'],
      Token.ofChars .unrecognized ['\x00'], Token.ofChars .compoundOp ['+', '='],
      Token.endOfInput] := by decide +kernel
  refine ⟨_, hf, rfl, ?_, ?_⟩
  · rw [tokenize_map hf, hopen]
    rfl
  · rw [tokenize_map hf, hstream]
    decide +kernel

end ScriptLexer
