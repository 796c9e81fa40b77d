import Mathlib.Data.List.DropRight
import ScriptLexer.Proofs.Events
import ScriptLexer.Proofs.WordRuns

/-!
# The places of unrecognized characters

Whether a character is unrecognized shows without a scan. It depends on the
number of quotes in front of it, on the word characters right in front of it, and
on the next character behind it. So it can be told for each place of a text
alone, and also behind a literal that is not closed.

Results:

* `isUnrecognized_iff`: the characters that are unrecognized outside of literals are the
  stray ones, some underscores and some exclamation marks.
* `unrecognizedAt_append_iff`: when the places in a text do not depend on what
  stands in front of it.
* `Token.WellFormed.unrecognizedAt_source_iff`, `Piece.unrecognizedAt_text_iff`: the
  places in a text that starts with a token, or with many tokens.
* `unrecognized_iff`: the places where a scan finds unrecognized characters.
-/

namespace ScriptLexer

open ScriptLexer.Unicode

/-! ## Places -/

/-- There is no letter in the block of word characters that a text ends in. -/
def EndsLetterless (cs : List Char) : Prop := (cs.rtakeWhile isWord).any isLetter = false

instance : DecidablePred EndsLetterless := fun _ => inferInstanceAs (Decidable (_ = _))

/-- `IsUnrecognized before c next`: the character `c` is no part of a token, or of an unrecognized
    one only, where `before` stands in front of it and `next` right behind it. -/
def IsUnrecognized (before : List Char) (c : Char) (next : Option Char) : Prop :=
  before.count '"' % 2 = 0 ∧ isBlank c = false ∧
    (c = '!' ∧ next ≠ some '=' ∨
      c = '_' ∧ EndsLetterless before ∨
      c ∉ meaningful ∧ isLetter c = false ∧ isDigit c = false)

instance (before : List Char) (c : Char) (next : Option Char) :
    Decidable (IsUnrecognized before c next) :=
  inferInstanceAs (Decidable (_ ∧ _ ∧ (_ ∨ _ ∨ _)))

/-- The character at the index `i` is unrecognized. -/
def UnrecognizedAt (cs : List Char) (i : Nat) : Prop :=
  ∃ c ∈ cs[i]?, IsUnrecognized (cs.take i) c cs[i + 1]?

instance (cs : List Char) : DecidablePred (UnrecognizedAt cs) :=
  fun i => Option.decidableExistsMem cs[i]?

/-! ## Blocks of word characters -/

theorem endsLetterless_nil : EndsLetterless [] := rfl

theorem endsLetterless_concat {cs : List Char} {c : Char} :
    EndsLetterless (cs ++ [c]) ↔ isLetter c = false ∧ (isWord c = true → EndsLetterless cs) := by
  unfold EndsLetterless
  by_cases hc : isWord c = true
  · rw [List.rtakeWhile_concat_pos isWord cs c hc]
    simp [hc, and_comm]
  · have hletter : isLetter c = false := by
      rw [Bool.eq_false_iff]
      exact fun h => hc (isWord_of_isLetter h)
    rw [List.rtakeWhile_concat_neg isWord cs c hc]
    simp [hc, hletter]

theorem endsLetterless_of_forall {cs : List Char} (h : ∀ c ∈ cs, isLetter c = false) :
    EndsLetterless cs := by
  unfold EndsLetterless
  rw [List.any_eq_false]
  intro c hc
  rw [h c ((List.rtakeWhile_suffix _ _).mem hc)]
  exact Bool.false_ne_true

/-- The block at the end of two texts in a row reaches into the first one only if the second one
    belongs to it as a whole. -/
theorem endsLetterless_append {cs ds : List Char} :
    EndsLetterless (cs ++ ds) ↔
      EndsLetterless ds ∧ ((∀ d ∈ ds, isWord d = true) → EndsLetterless cs) := by
  induction ds using List.reverseRecOn with
  | nil => simp [endsLetterless_nil]
  | append_singleton ds d ih =>
    rw [← List.append_assoc, endsLetterless_concat, endsLetterless_concat, ih]
    rw [List.forall_mem_append, List.forall_mem_singleton]
    constructor
    · rintro ⟨hletter, h⟩
      exact ⟨⟨hletter, fun hd => (h hd).1⟩, fun ⟨hall, hd⟩ => (h hd).2 hall⟩
    · rintro ⟨⟨hletter, h⟩, hcs⟩
      exact ⟨hletter, fun hd => ⟨h hd, fun hall => hcs ⟨hall, hd⟩⟩⟩

/-! ## Characters -/

/-- Outside of literals, a character is unrecognized if it is stray. An underscore is one where
    it does not go on a word, and an exclamation mark where no equals sign follows it. -/
theorem isUnrecognized_iff {before : List Char} {c : Char} {next : Option Char} :
    IsUnrecognized before c next ↔ before.count '"' % 2 = 0 ∧
      (c = '!' ∧ next ≠ some '=' ∨ c = '_' ∧ EndsLetterless before ∨ c ≠ '_' ∧ IsStray c) := by
  have hbang : isBlank '!' = false := by decide +kernel
  have hunderscore : isBlank '_' = false := by decide +kernel
  unfold IsUnrecognized IsStray
  rw [meaningful_eq, List.mem_append, List.mem_singleton, not_or]
  apply and_congr_right'
  constructor
  · rintro ⟨hb, hc | hc | ⟨⟨hm, hne⟩, hl, hd⟩⟩
    · exact Or.inl hc
    · exact Or.inr (Or.inl hc)
    · exact Or.inr (Or.inr ⟨hne, hb, hd, hl, hm⟩)
  · rintro (⟨rfl, hc⟩ | ⟨rfl, hc⟩ | ⟨hne, hb, hd, hl, hm⟩)
    · exact ⟨hbang, Or.inl ⟨rfl, hc⟩⟩
    · exact ⟨hunderscore, Or.inr (Or.inl ⟨rfl, hc⟩)⟩
    · exact ⟨hb, Or.inr (Or.inr ⟨⟨hm, hne⟩, hl, hd⟩)⟩

namespace IsUnrecognized

variable {before : List Char} {c : Char} {next : Option Char}

theorem isLetter_eq_false (h : IsUnrecognized before c next) : isLetter c = false := by
  rcases (isUnrecognized_iff.mp h).2 with ⟨rfl, -⟩ | ⟨rfl, -⟩ | ⟨-, hc⟩
  · decide +kernel
  · exact isLetter_underscore
  · exact hc.2.2.1

theorem isDigit_eq_false (h : IsUnrecognized before c next) : isDigit c = false := by
  rcases (isUnrecognized_iff.mp h).2 with ⟨rfl, -⟩ | ⟨rfl, -⟩ | ⟨-, hc⟩
  · decide +kernel
  · exact isDigit_underscore
  · exact hc.2.1

/-- Of the marks, only an exclamation mark may be unrecognized. -/
theorem eq_of_mem_marks (h : IsUnrecognized before c next) (hc : c ∈ Lead.marks) :
    c = '!' ∧ next ≠ some '=' := by
  rcases (isUnrecognized_iff.mp h).2 with hbang | ⟨rfl, -⟩ | ⟨-, hstray⟩
  · exact hbang
  · exact absurd hc (by decide)
  · exact absurd hc hstray.2.2.2

end IsUnrecognized

/-! ## Texts in a row -/

/-- The places in a text do not depend on what stands in front of it, if no literal and no word
    in front of it goes on in the text. -/
theorem unrecognizedAt_append_iff {cs ds : List Char} (heven : cs.count '"' % 2 = 0)
    (hend : EndsLetterless cs ∨ ds.head?.any isWord = false) (i : Nat) :
    UnrecognizedAt (cs ++ ds) (cs.length + i) ↔ UnrecognizedAt ds i := by
  have hcount : (cs ++ ds.take i).count '"' % 2 = (ds.take i).count '"' % 2 := by
    rw [List.count_append]
    omega
  unfold UnrecognizedAt
  rw [List.take_length_add_append, Nat.add_assoc, List.getElem?_append_right (Nat.le_add_right _ _),
    List.getElem?_append_right (Nat.le_add_right _ _), Nat.add_sub_cancel_left,
    Nat.add_sub_cancel_left]
  apply exists_congr
  intro c
  apply and_congr_right
  intro hc
  have hunderscore : c = '_' → (EndsLetterless (cs ++ ds.take i) ↔ EndsLetterless (ds.take i)) := by
    rintro rfl
    rw [endsLetterless_append]
    refine ⟨And.left, fun h => ⟨h, fun hall => hend.resolve_right fun hhead => ?_⟩⟩
    -- From the start of `ds` up to the underscore there are word characters only.
    cases ds with
    | nil => exact absurd hc (Option.some_ne_none _).symm
    | cons d ds =>
      cases i with
      | zero =>
        obtain rfl : d = '_' := Option.some.inj hc
        have hword : isWord '_' = true := by decide +kernel
        rw [List.head?_cons, Option.any_some, hword] at hhead
        exact Bool.false_ne_true hhead.symm
      | succ i =>
        rw [List.head?_cons, Option.any_some, hall d List.mem_cons_self] at hhead
        exact Bool.false_ne_true hhead.symm
  rw [isUnrecognized_iff, isUnrecognized_iff, hcount]
  exact and_congr_right' (or_congr_right (or_congr_left (and_congr_right hunderscore)))

/-- Characters that are unrecognized nowhere. -/
theorem not_unrecognizedAt_of_forall {cs ds : List Char} {i : Nat} (hi : i < cs.length)
    (h : ∀ c ∈ cs, ∀ before next, ¬ IsUnrecognized before c next) :
    ¬ UnrecognizedAt (cs ++ ds) i := by
  rintro ⟨c, hc, hun⟩
  rw [List.getElem?_append_left hi] at hc
  exact h c (List.mem_of_getElem? hc) _ _ hun

/-- No character of a literal is unrecognized, closed or not. -/
theorem not_unrecognizedAt_literal {body ds : List Char} {i : Nat} (h : '"' ∉ body)
    (hi : i ≤ body.length) : ¬ UnrecognizedAt ('"' :: (body ++ ds)) i := by
  rintro ⟨c, hc, hun⟩
  cases i with
  | zero =>
    obtain rfl : '"' = c := Option.some.inj hc
    exact absurd (hun.eq_of_mem_marks (by decide)).1 (by decide)
  | succ i =>
    have hfront : (body.take i).count '"' = 0 :=
      List.count_eq_zero.mpr fun hmem => h (List.mem_of_mem_take hmem)
    have heven := hun.1
    rw [List.take_succ_cons, List.take_append_of_le_length (Nat.le_of_lt hi), List.count_cons_self,
      hfront] at heven
    omega

/-- No character of a word is unrecognized. -/
theorem not_unrecognizedAt_word {word ds : List Char} {i : Nat} (h : IsWordText word)
    (hi : i < word.length) : ¬ UnrecognizedAt (word ++ ds) i := by
  rintro ⟨c, hc, hun⟩
  rw [List.getElem?_append_left hi] at hc
  rw [List.take_append_of_le_length (Nat.le_of_lt hi)] at hun
  -- It would be an underscore, with the first letter of the word in the block in front of it.
  have hword := isWord_of_mem_isWordText h (List.mem_of_getElem? hc)
  rw [isWord, hun.isLetter_eq_false, hun.isDigit_eq_false, Bool.false_or, Bool.false_or,
    beq_iff_eq] at hword
  subst hword
  cases word with
  | nil => exact h
  | cons d rest =>
    cases i with
    | zero =>
      obtain rfl : d = '_' := Option.some.inj hc
      exact absurd h.1 (by rw [isLetter_underscore]; decide)
    | succ i =>
      have hall : ∀ e ∈ (d :: rest).take (i + 1), isWord e = true := fun e he =>
        isWord_of_mem_isWordText h (List.mem_of_mem_take he)
      rcases (isUnrecognized_iff.mp hun).2 with ⟨hbang, -⟩ | ⟨-, hend⟩ | ⟨hne, -⟩
      · exact absurd hbang (by decide)
      · rw [EndsLetterless, List.rtakeWhile_eq_self_iff.mpr hall, List.take_succ_cons,
          List.any_cons, h.1, Bool.true_or] at hend
        exact Bool.false_ne_true hend.symm
      · exact hne rfl

/-- Blanks are unrecognized nowhere, and they part what stands behind them from what stands in
    front. -/
theorem unrecognizedAt_blanks_iff {gap ds : List Char} (h : ∀ c ∈ gap, isBlank c = true) {i : Nat} :
    UnrecognizedAt (gap ++ ds) i ↔ ∃ j, i = gap.length + j ∧ UnrecognizedAt ds j := by
  have heven : gap.count '"' % 2 = 0 := by rw [count_quote_of_blank h]
  have hend : EndsLetterless gap :=
    endsLetterless_of_forall fun c hc => isLetter_of_isBlank (h c hc)
  constructor
  · intro hi
    rcases Nat.lt_or_ge i gap.length with hlt | hge
    · refine absurd hi (not_unrecognizedAt_of_forall hlt fun c hc before next hun => ?_)
      exact Bool.false_ne_true (hun.2.1.symm.trans (h c hc))
    · obtain ⟨j, rfl⟩ := Nat.exists_eq_add_of_le hge
      exact ⟨j, rfl, (unrecognizedAt_append_iff heven (Or.inl hend) j).mp hi⟩
  · rintro ⟨j, rfl, hj⟩
    exact (unrecognizedAt_append_iff heven (Or.inl hend) j).mpr hj

/-! ## Tokens -/

namespace Token

/-- The characters of an operator, a number or a word are not unrecognized. -/
theorem not_unrecognizedAt_of_admits {kind : Kind} {cs after : List Char} {i : Nat}
    (h : kind.Admits cs) (hs : kind ≠ .string) (hu : kind ≠ .unrecognized) (hi : i < cs.length) :
    ¬ UnrecognizedAt (cs ++ after) i := by
  rcases admits_cases h with ⟨hk, -⟩ | ⟨-, -, hdigits⟩ | ⟨-, hword⟩ | ⟨hk, -⟩ | hop
  · exact absurd hk hs
  · apply not_unrecognizedAt_of_forall hi
    intro c hc before next hun
    exact Bool.false_ne_true (hun.isDigit_eq_false.symm.trans (hdigits c hc))
  · exact not_unrecognizedAt_word hword hi
  · exact absurd hk hu
  · rintro ⟨c, hc, hun⟩
    rw [List.getElem?_append_left hi] at hc
    have hmem := List.mem_of_getElem? hc
    obtain ⟨rfl, hnext⟩ := hun.eq_of_mem_marks (Kind.mem_marks_of_mem_operators hop hmem).1
    -- An operator with an exclamation mark starts with it, and goes on with an equals sign.
    have hall : (Kind.operators.all fun p => decide ('!' ∈ p.2 → p.2 = ['!', '='])) = true := by
      decide
    obtain rfl : cs = ['!', '='] := of_decide_eq_true (List.all_eq_true.mp hall _ hop) hmem
    cases i with
    | zero => exact hnext rfl
    | succ i =>
      rw [List.getElem?_cons_succ] at hc
      exact absurd (List.mem_singleton.mp (List.mem_of_getElem? hc)) (by decide)

/-- The character of an unrecognized token is unrecognized. -/
theorem unrecognizedAt_zero_of_admits {cs after : List Char} (h : Kind.Admits .unrecognized cs)
    (hend : (ofChars .unrecognized cs).EndsBefore after) : UnrecognizedAt (cs ++ after) 0 := by
  rcases h with rfl | ⟨c, rfl, hc⟩
  · refine ⟨'!', rfl, isUnrecognized_iff.mpr ⟨rfl, Or.inl ⟨rfl, fun hnext => ?_⟩⟩⟩
    rw [List.singleton_append, List.getElem?_cons_succ, ← List.head?_eq_getElem?] at hnext
    have hjoin := endsBefore_iff.mp hend '=' hnext
    exact absurd hjoin (by decide)
  · refine ⟨c, rfl, isUnrecognized_iff.mpr ⟨rfl, Or.inr ?_⟩⟩
    by_cases hne : c = '_'
    · exact Or.inl ⟨hne, endsLetterless_nil⟩
    · exact Or.inr ⟨hne, hc⟩

/-- Where a token ends, no word goes on: it is no word itself, or the next character does not
    belong to words. -/
theorem WellFormed.endsLetterless_or {t : Token} {after : List Char} (h : t.WellFormed)
    (hend : t.EndsBefore after) :
    EndsLetterless t.source ∨ after.head?.any isWord = false := by
  rcases h.run_cases with hs | ⟨cs, -, hdigits, rfl⟩ | ⟨cs, -, rfl⟩ | rfl | ⟨hs, -, hno⟩
  · left
    rw [source_of_string hs, ← List.cons_append, endsLetterless_concat]
    exact ⟨by decide +kernel, fun hword => absurd hword (by decide +kernel)⟩
  · left
    rw [source_ofChars (by decide)]
    exact endsLetterless_of_forall fun c hc => isLetter_of_isDigit (hdigits c hc)
  · right
    rw [Option.any_eq_false]
    intro d hd
    have hjoin := endsBefore_iff.mp hend d hd
    rwa [joins_of_word (wordKind_eq _)] at hjoin
  · left
    rw [source_ofChars (by decide)]
    exact endsLetterless_of_forall (List.forall_mem_singleton.mpr isLetter_underscore)
  · left
    rw [source_of_ne_string hs]
    apply endsLetterless_of_forall
    intro c hc
    rw [Bool.eq_false_iff]
    intro hletter
    exact Bool.false_ne_true ((hno c hc).symm.trans (isWord_of_isLetter hletter))

/-- Of the characters that a token occupies, one is unrecognized exactly if it is all of an
    unrecognized token. -/
theorem WellFormed.unrecognizedAt_source_iff_of_lt {t : Token} {after : List Char}
    (h : t.WellFormed) (hend : t.EndsBefore after) {i : Nat} (hi : i < t.source.length) :
    UnrecognizedAt (t.source ++ after) i ↔ i = 0 ∧ t.kind = .unrecognized := by
  by_cases hs : t.kind = .string
  · rw [source_of_string hs] at hi ⊢
    refine iff_of_false (fun hat => ?_) (by simp [hs])
    rcases Nat.lt_or_ge t.lexeme.toList.length i with hlt | hle
    · -- The closing quote.
      obtain ⟨c, hc, hun⟩ := hat
      obtain rfl : i = t.lexeme.toList.length + 1 := by
        simp only [List.length_cons, List.length_append, List.length_nil] at hi
        omega
      obtain rfl : '"' = c := by simpa using hc
      exact absurd (hun.eq_of_mem_marks (by decide)).1 (by decide)
    · rw [List.cons_append, List.append_assoc] at hat
      exact not_unrecognizedAt_literal (h.quote_not_mem_lexeme hs) hle hat
  · have hlexeme := ofChars_toList_lexeme t
    by_cases hu : t.kind = .unrecognized
    · have hlen := h.length_source_of_unrecognized hu
      obtain rfl : i = 0 := by omega
      rw [source_of_ne_string hs]
      rw [hu] at hlexeme
      rw [WellFormed, hu] at h
      exact iff_of_true (unrecognizedAt_zero_of_admits h (by rwa [hlexeme])) ⟨rfl, hu⟩
    · rw [source_of_ne_string hs] at hi ⊢
      exact iff_of_false (not_unrecognizedAt_of_admits h hs hu hi) (by simp [hu])

/-- The places in a text that starts with a token: that of the token if it is unrecognized, and
    those of what follows it. -/
theorem WellFormed.unrecognizedAt_source_iff {t : Token} {after : List Char} (h : t.WellFormed)
    (hend : t.EndsBefore after) {i : Nat} :
    UnrecognizedAt (t.source ++ after) i ↔
      i = 0 ∧ t.kind = .unrecognized ∨ ∃ j, i = t.source.length + j ∧ UnrecognizedAt after j := by
  have hbehind := unrecognizedAt_append_iff h.count_quote_source (h.endsLetterless_or hend)
  have hpos := List.length_pos_of_ne_nil h.source_ne_nil
  constructor
  · intro hi
    rcases Nat.lt_or_ge i t.source.length with hlt | hge
    · exact Or.inl ((h.unrecognizedAt_source_iff_of_lt hend hlt).mp hi)
    · obtain ⟨j, rfl⟩ := Nat.exists_eq_add_of_le hge
      exact Or.inr ⟨j, rfl, (hbehind j).mp hi⟩
  · rintro (⟨rfl, hk⟩ | ⟨j, rfl, hj⟩)
    · exact (h.unrecognizedAt_source_iff_of_lt hend hpos).mpr ⟨rfl, hk⟩
    · exact (hbehind j).mpr hj

end Token

/-! ## Whole texts -/

/-- The places in a text that starts with some pieces: those of their unrecognized tokens, and
    those of what follows. -/
theorem Piece.unrecognizedAt_text_iff {ps : List Piece} {after : List Char} (h : Apart ps after)
    (offset : Nat) {i : Nat} :
    UnrecognizedAt (text ps ++ after) i ↔
      (∃ found ∈ located offset ps, found.offset = offset + i ∧
        found.token.kind = .unrecognized) ∨
      ∃ j, i = (text ps).length + j ∧ UnrecognizedAt after j := by
  induction ps generalizing offset i with
  | nil => simp [located]
  | cons p ps ih =>
    obtain ⟨hend, hrest⟩ := h
    rw [text_cons, chars, List.append_assoc, List.append_assoc, unrecognizedAt_blanks_iff p.blank,
      located, List.exists_mem_cons_iff, or_assoc]
    simp only [p.wellFormed.unrecognizedAt_source_iff hend, ih hrest (offset + p.chars.length)]
    simp only [chars, List.length_append]
    constructor
    · rintro ⟨j, rfl, ⟨rfl, hk⟩ | ⟨j, rfl, ⟨found, hfound, hoffset, hk⟩ | ⟨j, rfl, hj⟩⟩⟩
      · exact Or.inl ⟨rfl, hk⟩
      · exact Or.inr (Or.inl ⟨found, hfound, by omega, hk⟩)
      · exact Or.inr (Or.inr ⟨j, by omega, hj⟩)
    · rintro (⟨hoffset, hk⟩ | ⟨found, hfound, hoffset, hk⟩ | ⟨j, rfl, hj⟩)
      · exact ⟨0, by omega, Or.inl ⟨rfl, hk⟩⟩
      · have hspan := (span_of_mem_located hfound).1
        exact ⟨i - p.gap.length, by omega, Or.inr ⟨i - p.gap.length - p.token.source.length,
          by omega, Or.inl ⟨found, hfound, by omega, hk⟩⟩⟩
      · exact ⟨_, by omega, Or.inr ⟨_, rfl, Or.inr ⟨j, rfl, hj⟩⟩⟩

/-- The places in a text are those of its unrecognized tokens. -/
theorem Layout.unrecognizedAt_chars_iff (l : Layout) {i : Nat} :
    UnrecognizedAt l.chars i ↔
      ∃ found ∈ Piece.located 0 l.pieces, found.offset = i ∧ found.token.kind = .unrecognized := by
  have hrest : ∀ j, ¬ UnrecognizedAt l.rest j := by
    intro j hj
    cases h : l.literal with
    | none =>
      rw [rest_of_none h] at hj
      obtain ⟨c, hc, -⟩ := hj
      exact absurd hc (Option.some_ne_none c).symm
    | some body =>
      rw [rest_of_some h] at hj
      have hlt : j < ('"' :: body).length := by
        obtain ⟨c, hc, -⟩ := hj
        exact (List.getElem?_eq_some_iff.mp hc).1
      rw [List.length_cons] at hlt
      rw [← List.append_nil body] at hj
      exact not_unrecognizedAt_literal (l.unclosed body h) (Nat.le_of_lt_succ hlt) hj
  rw [chars, Piece.unrecognizedAt_text_iff l.apart_rest 0]
  simp only [unrecognizedAt_blanks_iff l.blank, hrest, and_false, exists_false, or_false,
    Nat.zero_add]

/-- What is reported of some tokens shows the places of the unrecognized ones. -/
theorem Located.exists_unrecognized_mem_reports_iff {found : List Located} {i : Nat} :
    (∃ lexeme, .unrecognized lexeme i ∈ Located.reports found) ↔
      ∃ l ∈ found, l.offset = i ∧ l.token.kind = .unrecognized := by
  unfold Located.reports
  simp only [List.mem_map, List.mem_filter, decide_eq_true_eq, Event.unrecognized.injEq]
  constructor
  · rintro ⟨lexeme, l, ⟨hl, hk⟩, -, hoffset⟩
    exact ⟨l, hl, hoffset, hk⟩
  · rintro ⟨l, hl, hoffset, hk⟩
    exact ⟨_, l, ⟨hl, hk⟩, rfl, hoffset⟩

/-- **The places of unrecognized characters.** A scan reports the character at an index as
    unrecognized exactly if an unrecognized token starts there, and exactly if the place says so:
    the number of quotes in front of it is even, the character is no blank, and it is an
    exclamation mark without an equals sign right behind it, or an underscore without a letter in
    the block of word characters right in front of it, or a character that is no letter, no digit
    and has no meaning of its own. This holds whether there is a stream or not. If there is one, it shows
    the tokens of the scan. -/
theorem unrecognized_iff (source : String) (i : Nat) :
    ((∃ lexeme, .unrecognized lexeme i ∈ events source) ↔ UnrecognizedAt source.toList i) ∧
    ((∃ found ∈ (Scan.of source).tokens, found.offset = i ∧ found.token.kind = .unrecognized) ↔
      UnrecognizedAt source.toList i) ∧
    ∀ ts, tokenize source = .ok ts →
      ts = (Scan.of source).tokens.map Located.token ++ [Token.endOfInput] := by
  obtain ⟨l, hl⟩ := Layout.exists_chars_eq source.toList
  have hplaces := l.unrecognizedAt_chars_iff (i := i)
  rw [hl, ← Layout.tokens_of hl] at hplaces
  have houtcome : ∀ lexeme, Event.unrecognized lexeme i ≠ l.outcome := by
    intro lexeme
    unfold Layout.outcome
    cases l.literal <;> exact Event.noConfusion
  refine ⟨?_, hplaces.symm, fun ts hts => ?_⟩
  · rw [hplaces, ← Located.exists_unrecognized_mem_reports_iff, Layout.events_eq hl]
    simp only [List.mem_append, List.mem_singleton, houtcome, or_false]
  · rw [Layout.tokenize_eq hl, Layout.result_eq_ok_iff] at hts
    rw [hts.2, l.tokens_eq_map, hl]
    rfl

/-- The first underscore of `1_a_!=!` is unrecognized, the second one goes on a word. The quote of
    `_"_` is not closed, so nothing is reported of the underscore behind it. -/
theorem unrecognized_iff_on_underscores :
    (∃ lexeme, .unrecognized lexeme 1 ∈ events "1_a_!=!") ∧
    (¬ ∃ lexeme, .unrecognized lexeme 3 ∈ events "1_a_!=!") ∧
    [Token.ofChars .number ['1'], Token.ofChars .unrecognized ['_'],
        Token.ofChars .identifier ['a', '_'], Token.ofChars .notEqual ['!', '='],
        Token.ofChars .unrecognized ['!'], Token.endOfInput] =
      (Scan.of "1_a_!=!").tokens.map Located.token ++ [Token.endOfInput] ∧
    (∃ lexeme, .unrecognized lexeme 0 ∈ events "_\"_") ∧
    ¬ ∃ lexeme, .unrecognized lexeme 2 ∈ events "_\"_" := by
  have hstream : tokenize "1_a_!=!" = .ok [Token.ofChars .number ['1'],
      Token.ofChars .unrecognized ['_'], Token.ofChars .identifier ['a', '_'],
      Token.ofChars .notEqual ['!', '='], Token.ofChars .unrecognized ['!'],
      Token.endOfInput] := by decide +kernel
  have hfirst : UnrecognizedAt "1_a_!=!".toList 1 := by decide +kernel
  have hsecond : ¬ UnrecognizedAt "1_a_!=!".toList 3 := by decide +kernel
  have hfront : UnrecognizedAt "_\"_".toList 0 := by decide +kernel
  have hbehind : ¬ UnrecognizedAt "_\"_".toList 2 := by decide +kernel
  refine ⟨(unrecognized_iff _ 1).1.mpr hfirst, fun h => hsecond ((unrecognized_iff _ 3).1.mp h),
    (unrecognized_iff _ 1).2.2 _ hstream, (unrecognized_iff _ 0).1.mpr hfront,
    fun h => hbehind ((unrecognized_iff _ 2).1.mp h)⟩

end ScriptLexer
