import ScriptLexer.Proofs.Layout

/-!
# Quotes

A scan leaves no quote out: each one opens or closes a string literal. So the
quotes of a text, taken in order, decide by themselves where its literals are
and whether the last one is closed.

Results:

* `Layout.idxsOf_quote`: the indices of all quotes of a text, read off a layout.
* `tokenize_pairs_quotes`: a text without stream has an odd number of quotes, the
  last of which is the one that is not closed, and a text with a stream has one
  literal for each pair of quotes, with all that stands between them.
-/

namespace ScriptLexer

open ScriptLexer.Unicode

/-! ## Quotes of tokens -/

theorem idxsOf_quote_of_not_mem {cs : List Char} (h : '"' ∉ cs) (offset : Nat) :
    cs.idxsOf '"' offset = [] := by
  rw [List.idxsOf_eq_nil_iff]
  intro c hc
  rw [beq_eq_false_iff_ne]
  rintro rfl
  exact h hc

theorem quote_not_mem_of_blank {gap : List Char} (h : ∀ c ∈ gap, isBlank c = true) :
    '"' ∉ gap := by
  intro hc
  exact absurd (h _ hc) (by decide +kernel)

theorem count_quote_of_blank {gap : List Char} (h : ∀ c ∈ gap, isBlank c = true) :
    gap.count '"' = 0 :=
  List.count_eq_zero.mpr (quote_not_mem_of_blank h)

namespace Located

/-- The indices of the two quotes of a string literal. -/
def quotes (l : Located) : List Nat := [l.offset, l.offset + l.token.lexeme.toList.length + 1]

end Located

theorem Token.WellFormed.idxsOf_quote_source {t : Token} (h : t.WellFormed) (offset : Nat) :
    t.source.idxsOf '"' offset =
      if t.kind = .string then (Located.mk offset t).quotes else [] := by
  split
  · next hk =>
    have hno := h.quote_not_mem_lexeme hk
    simp [Token.source, hk, idxsOf_quote_of_not_mem hno, Located.quotes]
    omega
  · next hk => exact idxsOf_quote_of_not_mem (h.quote_not_mem_source hk) offset

/-- The quotes of a token come in pairs. -/
theorem Token.WellFormed.count_quote_source {t : Token} (h : t.WellFormed) :
    t.source.count '"' % 2 = 0 := by
  rw [← List.length_idxsOf (s := 0), h.idxsOf_quote_source]
  split
  · exact Nat.mod_self 2
  · exact Nat.zero_mod 2

/-! ## Quotes of a text -/

/-- The string literals of some pieces, with their places. -/
def Piece.literals (offset : Nat) (ps : List Piece) : List Located :=
  (Piece.located offset ps).filter fun l => l.token.kind = .string

theorem Piece.idxsOf_quote_text (ps : List Piece) (offset : Nat) :
    (Piece.text ps).idxsOf '"' offset = (Piece.literals offset ps).flatMap Located.quotes := by
  induction ps generalizing offset with
  | nil => rfl
  | cons p ps ih =>
    simp only [Piece.text_cons, Piece.chars, List.idxsOf_append, List.length_append, ih,
      idxsOf_quote_of_not_mem (quote_not_mem_of_blank p.blank), List.nil_append,
      p.wellFormed.idxsOf_quote_source, Piece.literals, Piece.located, List.filter_cons,
      decide_eq_true_iff]
    split <;> simp

namespace Layout

/-- The string literals of a layout, with their places. -/
def literals (l : Layout) : List Located := Piece.literals 0 l.pieces

/-- The quotes of a text: two for each literal, and one that is not closed. -/
theorem idxsOf_quote (l : Layout) :
    l.chars.idxsOf '"' =
      l.literals.flatMap Located.quotes ++ (l.literal.map fun _ => l.stop).toList := by
  have hgap := idxsOf_quote_of_not_mem (quote_not_mem_of_blank l.blank)
  rw [chars, List.idxsOf_append, List.idxsOf_append, Piece.idxsOf_quote_text, hgap]
  cases h : l.literal with
  | none => simp [rest_of_none h, literals]
  | some body =>
    simp [rest_of_some h, idxsOf_quote_of_not_mem (l.unclosed body h), literals, stop]

theorem count_quote (l : Layout) :
    l.chars.count '"' = 2 * l.literals.length + l.literal.toList.length := by
  rw [← List.length_idxsOf (s := 0), idxsOf_quote]
  cases l.literal <;> simp [Located.quotes, List.length_flatMap, Nat.mul_comm]

/-- A text has no unclosed literal exactly if the number of its quotes is even. -/
theorem literal_eq_none_iff (l : Layout) : l.literal = none ↔ l.chars.count '"' % 2 = 0 := by
  rw [l.count_quote]
  cases l.literal <;> simp

theorem filter_string_tokens (l : Layout) :
    (l.tokens ++ [Token.endOfInput]).filter (·.kind = .string) = l.literals.map Located.token := by
  have hend : Token.endOfInput.kind ≠ .string := by decide
  rw [tokens, ← Piece.map_token_located 0, List.filter_append, List.filter_map]
  simp [literals, Piece.literals, hend, Function.comp_def]

/-- The quotes with the numbers `2 * i` and `2 * i + 1` belong to the `i`th literal. -/
theorem getElem?_flatMap_quotes {found : List Located} {i : Nat} {l : Located}
    (h : found[i]? = some l) :
    (found.flatMap Located.quotes)[2 * i]? = some l.offset ∧
      (found.flatMap Located.quotes)[2 * i + 1]? =
        some (l.offset + l.token.lexeme.toList.length + 1) := by
  induction found generalizing i with
  | nil => simp at h
  | cons first found ih =>
    cases i with
    | zero =>
      obtain rfl : first = l := by simpa using h
      simp [Located.quotes]
    | succ i =>
      have := ih (i := i) (by simpa using h)
      simpa [Located.quotes, Nat.mul_add, List.flatMap_cons] using this

/-- A literal is the text between its quotes. -/
theorem extract_of_mem_literals {l : Layout} {found : Located} (h : found ∈ l.literals) :
    l.chars.extract (found.offset + 1)
      (found.offset + found.token.lexeme.toList.length + 1) = found.token.lexeme.toList := by
  obtain ⟨hmem, hk⟩ := List.mem_filter.mp h
  have hk : found.token.kind = .string := by simpa using hk
  obtain ⟨before, after, htext, hoffset⟩ := Piece.exists_append_of_mem_located hmem
  rw [Nat.zero_add] at hoffset
  have hchars : l.chars = (before ++ ['"']) ++
      (found.token.lexeme.toList ++ ('"' :: (after ++ (l.gap ++ l.rest)))) := by
    simp [chars, htext, Token.source, hk]
  rw [List.extract_eq_take_drop, hchars, hoffset,
    List.drop_left' (by simp), List.take_left' (by omega)]

end Layout

/-- **Quotes come in pairs.** A text has no stream exactly if the number of its quotes is odd,
    and then the last one is not closed. With `2 * m` quotes, it has `m` string literals, and
    the `i`th one is the text between the quotes with the numbers `2 * i` and `2 * i + 1`,
    counted from zero. -/
theorem tokenize_pairs_quotes (source : String) :
    ((∃ e, tokenize source = .error e) ↔ source.toList.count '"' % 2 = 1) ∧
    (∀ e, tokenize source = .error e → ∃ last,
      (source.toList.idxsOf '"').getLast? = some last ∧ e = .unterminatedString last) ∧
    ∀ m, source.toList.count '"' = 2 * m → ∃ ts, tokenize source = .ok ts ∧
      (ts.filter (·.kind = .string)).length = m ∧
      ∀ i < m, ∃ t first last, (ts.filter (·.kind = .string))[i]? = some t ∧
        (source.toList.idxsOf '"')[2 * i]? = some first ∧
        (source.toList.idxsOf '"')[2 * i + 1]? = some last ∧
        t.lexeme.toList = source.toList.extract (first + 1) last := by
  obtain ⟨l, hl⟩ := Layout.exists_chars_eq source.toList
  have hcount := l.count_quote
  have hidxs := l.idxsOf_quote
  rw [Layout.tokenize_eq hl, ← hl]
  refine ⟨?_, ?_, ?_⟩
  · simp only [Layout.result_eq_error_iff, exists_and_left, exists_eq, and_true, ne_eq,
      l.literal_eq_none_iff]
    omega
  · intro e he
    obtain ⟨hsome, rfl⟩ := Layout.result_eq_error_iff.mp he
    obtain ⟨body, hbody⟩ := Option.ne_none_iff_exists'.mp hsome
    exact ⟨l.stop, by simp [hidxs, hbody], rfl⟩
  · intro m hm
    have hnone : l.literal = none := l.literal_eq_none_iff.mpr (by omega)
    have hlen : l.literals.length = m := by
      simp [hnone] at hcount
      omega
    refine ⟨_, Layout.result_eq_ok_iff.mpr ⟨hnone, rfl⟩, ?_, fun i hi => ?_⟩
    · rw [l.filter_string_tokens, List.length_map, hlen]
    · obtain ⟨found, hfound⟩ : ∃ found, l.literals[i]? = some found :=
        ⟨_, List.getElem?_eq_getElem (by omega)⟩
      have hquotes : l.chars.idxsOf '"' = l.literals.flatMap Located.quotes := by
        simp [hidxs, hnone]
      obtain ⟨hfirst, hlast⟩ := Layout.getElem?_flatMap_quotes hfound
      rw [hquotes]
      refine ⟨found.token, _, _, ?_, hfirst, hlast, ?_⟩
      · simp [l.filter_string_tokens, hfound]
      · exact (Layout.extract_of_mem_literals (List.mem_of_getElem? hfound)).symm

/-- The last of three quotes is not closed; four quotes make two literals. -/
theorem tokenize_three_and_four_quotes :
    tokenize "\"a\" \"b" = .error (.unterminatedString 4) ∧
    ∃ ts, tokenize "\"a, 1\"+\"\\\"" = .ok ts ∧
      (ts.filter (·.kind = .string)).length = 2 ∧
      ∃ t, (ts.filter (·.kind = .string))[1]? = some t ∧ t.lexeme.toList = ['\\'] := by
  constructor
  · obtain ⟨hfail, hlast, -⟩ := tokenize_pairs_quotes "\"a\" \"b"
    obtain ⟨e, he⟩ := hfail.mpr (by decide +kernel)
    obtain ⟨last, hget, rfl⟩ := hlast e he
    have hfour : ("\"a\" \"b".toList.idxsOf '"').getLast? = some 4 := by decide +kernel
    obtain rfl : last = 4 := Option.some.inj (hget.symm.trans hfour)
    exact he
  · obtain ⟨-, -, hpairs⟩ := tokenize_pairs_quotes "\"a, 1\"+\"\\\""
    obtain ⟨ts, hts, hlen, hall⟩ := hpairs 2 (by decide +kernel)
    obtain ⟨t, first, last, ht, hfirst, hlast, hlexeme⟩ := hall 1 (by decide)
    have htwo : ("\"a, 1\"+\"\\\"".toList.idxsOf '"')[2 * 1]? = some 7 := by decide +kernel
    have hthree : ("\"a, 1\"+\"\\\"".toList.idxsOf '"')[2 * 1 + 1]? = some 9 := by decide +kernel
    obtain rfl : first = 7 := Option.some.inj (hfirst.symm.trans htwo)
    obtain rfl : last = 9 := Option.some.inj (hlast.symm.trans hthree)
    exact ⟨ts, hts, hlen, t, ht, hlexeme⟩

end ScriptLexer
