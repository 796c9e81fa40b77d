import ScriptLexer.Proofs.Quotes

/-!
# Concatenation of texts

Two texts combine where they meet if the last token of the first one reaches
its end and joins the first character of the second one. Then, and only then,
the tokens of the two texts together are others than those of the one and the
other in a row.

Results:

* `Piece.Apart.of_tokens`: tokens that are found in a text stay apart there.
* `Layout.apart_chars_iff`: the pieces of a text stay apart in front of another
  text exactly if the two do not combine.
* `tokenize_append`: the stream of two texts together.
-/

namespace ScriptLexer

open ScriptLexer.Unicode

/-- The texts `a`, whose tokens are `ts`, and `b` combine: neither is empty, `a` does not end
    in a blank, and its last token joins the first character of `b`. -/
def Combines (a : String) (ts : List Token) (b : String) : Prop :=
  ∃ last t next, a.toList.getLast? = some last ∧ isBlank last = false ∧
    ts.getLast? = some t ∧ b.toList.head? = some next ∧ t.joins next = true

/-! ## Pieces in front of a text -/

namespace Piece

/-- The gap of a piece is the longest blank text in front of it. -/
theorem takeWhile_isBlank_chars (p : Piece) (after : List Char) :
    (p.chars ++ after).takeWhile isBlank = p.gap := by
  obtain ⟨c, rest, hsource, hb⟩ := p.wellFormed.exists_source
  rw [chars, List.append_assoc, List.takeWhile_append_of_pos p.blank, hsource]
  simp [hb]

/-- Two pieces that start the same text have the same blanks in front. -/
theorem eq_of_chars_append {p q : Piece} {after after' : List Char}
    (h : p.chars ++ after = q.chars ++ after') :
    p.gap = q.gap ∧ p.token.source ++ after = q.token.source ++ after' := by
  have hgap : p.gap = q.gap := by
    rw [← p.takeWhile_isBlank_chars after, h, q.takeWhile_isBlank_chars]
  refine ⟨hgap, ?_⟩
  rwa [chars, chars, hgap, List.append_assoc, List.append_assoc, List.append_cancel_left_eq] at h

/-- Pieces stay apart in front of a text if a layout of it all shows their tokens first. -/
theorem Apart.of_tokens {ps qs : List Piece} {us : List Token} {after after' : List Char}
    (h : Apart qs after') (htext : text ps ++ after = text qs ++ after')
    (htokens : qs.map token = ps.map token ++ us) : Apart ps after := by
  induction ps generalizing qs with
  | nil => trivial
  | cons p ps ih =>
    cases qs with
    | nil => simp at htokens
    | cons q qs =>
      obtain ⟨hend, hrest⟩ := h
      simp only [List.map_cons, List.cons_append, List.cons.injEq] at htokens
      obtain ⟨htoken, htokens⟩ := htokens
      simp only [text_cons, List.append_assoc] at htext
      -- The same blanks stand in front of the same token, so the same text stands behind it.
      obtain ⟨-, htext⟩ := eq_of_chars_append htext
      rw [htoken, List.append_cancel_left_eq] at htext
      exact ⟨by rwa [htext, ← htoken], ih hrest htext htokens⟩

end Piece

namespace Layout

theorem chars_of_none {l : Layout} (h : l.literal = none) :
    l.chars = Piece.text l.pieces ++ l.gap := by
  simp [chars, rest_of_none h]

/-- A text ends in a blank if there is one behind its last token. -/
theorem isBlank_getLast?_of_gap {l : Layout} (h : l.literal = none) (hgap : l.gap ≠ []) :
    ∃ last, l.chars.getLast? = some last ∧ isBlank last = true := by
  obtain ⟨last, hlast⟩ := Option.ne_none_iff_exists'.mp
    (show l.gap.getLast? ≠ none by simpa using hgap)
  refine ⟨last, ?_, l.blank last (List.mem_of_getLast? hlast)⟩
  rw [chars_of_none h, List.getLast?_append, hlast, Option.some_or]

/-- A text with no blank behind its last token ends with that token. -/
theorem getLast?_of_pieces {l : Layout} (h : l.literal = none) (hgap : l.gap = [])
    {ps : List Piece} {p : Piece} (hps : l.pieces = ps ++ [p]) :
    ∃ last, l.chars.getLast? = some last ∧ isBlank last = false := by
  obtain ⟨last, hlast⟩ := Option.ne_none_iff_exists'.mp
    (show p.token.source.getLast? ≠ none by simpa using p.wellFormed.source_ne_nil)
  refine ⟨last, ?_, p.wellFormed.isBlank_of_getLast? hlast⟩
  simp [chars_of_none h, hps, hgap, Piece.chars, hlast]

/-- The pieces of a text stay apart in front of another one exactly if the two do not
    combine. -/
theorem apart_chars_iff {a b : String} {l : Layout} (hl : l.chars = a.toList)
    (hnone : l.literal = none) :
    Piece.Apart l.pieces (l.gap ++ b.toList) ↔ ¬ Combines a l.tokens b := by
  have happart := l.apart_gap
  by_cases hgap : l.gap = []
  · rcases List.eq_nil_or_concat l.pieces with hps | ⟨ps, p, hps⟩
    · simp [hps, Piece.Apart, Combines, tokens]
    · rw [List.concat_eq_append] at hps
      obtain ⟨last, hlast, hb⟩ := getLast?_of_pieces hnone hgap hps
      rw [hps, Piece.apart_append] at happart
      -- All pieces but the last one have a character of the first text behind them.
      have hfront : Piece.Apart ps (Piece.text [p] ++ (l.gap ++ b.toList)) := by
        refine happart.1.congr ?_
        simp [List.head?_append_of_ne_nil _ p.chars_ne_nil]
      have hback : Piece.Apart [p] (l.gap ++ b.toList) ↔ p.token.EndsBefore b.toList := by
        simp [Piece.Apart, hgap]
      rw [hps, Piece.apart_append, and_iff_right hfront, hback, Token.endsBefore_iff]
      simp [Combines, ← hl, hlast, hb, tokens, hps]
  · obtain ⟨last, hlast, hb⟩ := isBlank_getLast?_of_gap hnone hgap
    rw [iff_true_left (happart.congr (List.head?_append_of_ne_nil _ hgap).symm)]
    rintro ⟨last', t, next, hlast', hb', -⟩
    rw [← hl, hlast] at hlast'
    obtain rfl := Option.some.inj hlast'
    simp [hb] at hb'

/-! ## Two layouts in a row -/

/-- The layout of two texts in a row that do not combine. -/
def append (l m : Layout) (h : Piece.Apart l.pieces (l.gap ++ m.chars)) : Layout :=
  (m.indent l.gap l.blank).behind l.pieces (by simpa using h)

variable {l m : Layout} (h : Piece.Apart l.pieces (l.gap ++ m.chars))

@[simp] theorem literal_append : (l.append m h).literal = m.literal := by
  simp [append]

@[simp] theorem tokens_append : (l.append m h).tokens = l.tokens ++ m.tokens := by
  rw [append, tokens_behind, tokens_indent, tokens, tokens]

theorem chars_append (hnone : l.literal = none) : (l.append m h).chars = l.chars ++ m.chars := by
  simp [append, chars_of_none hnone]

theorem stop_append (hnone : l.literal = none) :
    (l.append m h).stop = l.chars.length + m.stop := by
  have hstop := stop_add_length_chars (literal_append h)
  rw [chars_append h hnone, List.length_append] at hstop
  omega

/-- The quotes of two texts come in pairs, and so do those of the two in a row. -/
theorem literal_eq_none_of_append {l m n : Layout} (hchars : n.chars = l.chars ++ m.chars)
    (hl : l.literal = none) (hm : m.literal = none) : n.literal = none := by
  rw [literal_eq_none_iff] at hl hm ⊢
  rw [hchars, List.count_append]
  omega

/-- The tokens of a text come first in a longer text only if they stay apart there. -/
theorem apart_of_tokens {l m n : Layout} {us : List Token} (hnone : l.literal = none)
    (hchars : n.chars = l.chars ++ m.chars) (htokens : n.tokens = l.tokens ++ us) :
    Piece.Apart l.pieces (l.gap ++ m.chars) := by
  have htext : Piece.text l.pieces ++ (l.gap ++ m.chars) =
      Piece.text n.pieces ++ (n.gap ++ n.rest) := by
    rw [← List.append_assoc, ← chars_of_none hnone, ← hchars, chars]
  exact n.apart_rest.of_tokens htext htokens

end Layout

/-- **The stream of two texts in a row.** If the texts do not combine, the tokens of the second
    one follow those of the first one, and an unclosed literal of the second one stands behind
    the first one. If they combine, there is a stream as well, but another one. -/
theorem tokenize_append (a b : String) (ts : List Token)
    (ha : tokenize a = .ok (ts ++ [Token.endOfInput])) :
    (¬ Combines a ts b →
      (∀ us, tokenize b = .ok us → tokenize (a ++ b) = .ok (ts ++ us)) ∧
      ∀ k, tokenize b = .error (.unterminatedString k) →
        tokenize (a ++ b) = .error (.unterminatedString (a.length + k))) ∧
    (Combines a ts b → ∀ us, tokenize b = .ok us →
      ∃ vs, tokenize (a ++ b) = .ok vs ∧ vs ≠ ts ++ us) := by
  obtain ⟨l, hl⟩ := Layout.exists_chars_eq a.toList
  obtain ⟨m, hm⟩ := Layout.exists_chars_eq b.toList
  rw [Layout.tokenize_eq hl, Layout.result_eq_ok_iff] at ha
  obtain ⟨hnone, hts⟩ := ha
  obtain rfl := List.append_cancel_right hts
  rw [Layout.tokenize_eq hm]
  have happart := Layout.apart_chars_iff hl hnone (b := b)
  rw [← hm] at happart
  constructor
  · intro hcomb
    have h := happart.mpr hcomb
    have hchars : (l.append m h).chars = (a ++ b).toList := by
      rw [Layout.chars_append h hnone, hl, hm, String.toList_append]
    rw [Layout.tokenize_eq hchars]
    constructor
    · intro us hus
      obtain ⟨hnone', rfl⟩ := Layout.result_eq_ok_iff.mp hus
      simp [Layout.result_eq_ok_iff, hnone']
    · intro k hk
      obtain ⟨hsome, hk⟩ := Layout.result_eq_error_iff.mp hk
      obtain rfl := ScanError.unterminatedString.inj hk
      rw [Layout.result_eq_error_iff, Layout.literal_append, Layout.stop_append h hnone, hl,
        String.length_toList]
      exact ⟨hsome, rfl⟩
  · intro hcomb us hus
    obtain ⟨hnone', rfl⟩ := Layout.result_eq_ok_iff.mp hus
    obtain ⟨n, hn⟩ := Layout.exists_chars_eq (a ++ b).toList
    have hchars : n.chars = l.chars ++ m.chars := by rw [hn, String.toList_append, hl, hm]
    have hnone'' := Layout.literal_eq_none_of_append hchars hnone hnone'
    rw [Layout.tokenize_eq hn]
    refine ⟨_, Layout.result_eq_ok_iff.mpr ⟨hnone'', rfl⟩, fun heq => ?_⟩
    have htokens : n.tokens = l.tokens ++ m.tokens :=
      List.append_cancel_right (heq.trans (List.append_assoc ..).symm)
    exact happart.mp (Layout.apart_of_tokens hnone hchars htokens) hcomb

/-- `x+` and `+1` combine. `x+` and `*1 "` do not, and the quote is found behind `x+`. -/
theorem tokenize_append_to_plus :
    (∃ vs, tokenize ("x+" ++ "+1") = .ok vs ∧
      vs ≠ [Token.ofChars .identifier ['x'], Token.ofChars .binaryOp ['+']] ++
        [Token.ofChars .binaryOp ['+'], Token.ofChars .number ['1'], Token.endOfInput]) ∧
    tokenize ("x+" ++ "*1 \"") = .error (.unterminatedString ("x+".length + 3)) := by
  have hx : tokenize "x+" =
      .ok ([Token.ofChars .identifier ['x'], Token.ofChars .binaryOp ['+']] ++
        [Token.endOfInput]) := by
    rw [tokenize, show Scan.of "x+" = ⟨[⟨0, Token.ofChars .identifier ['x']⟩,
      ⟨1, Token.ofChars .binaryOp ['+']⟩], none, [.finished 2 3]⟩ by decide +kernel]
    rfl
  have hplus : tokenize "+1" = .ok [Token.ofChars .binaryOp ['+'], Token.ofChars .number ['1'],
      Token.endOfInput] := by
    rw [tokenize, show Scan.of "+1" = ⟨[⟨0, Token.ofChars .binaryOp ['+']⟩,
      ⟨1, Token.ofChars .number ['1']⟩], none, [.finished 2 3]⟩ by decide +kernel]
    rfl
  have hquote : tokenize "*1 \"" = .error (.unterminatedString 3) := by
    rw [tokenize, show Scan.of "*1 \"" = ⟨[⟨0, Token.ofChars .binaryOp ['*']⟩,
      ⟨1, Token.ofChars .number ['1']⟩], some 3, [.unterminatedString 3]⟩ by decide +kernel]
    rfl
  constructor
  · refine (tokenize_append "x+" "+1" _ hx).2 ⟨'+', _, '+', ?_, ?_, rfl, ?_, ?_⟩ _ hplus
    · decide
    · decide +kernel
    · decide
    · decide
  · refine ((tokenize_append "x+" "*1 \"" _ hx).1 ?_).2 3 hquote
    rintro ⟨last, t, next, -, -, ht, hnext, hjoins⟩
    obtain rfl := Option.some.inj ht
    obtain rfl : '*' = next := Option.some.inj (show some '*' = some next from hnext)
    exact absurd hjoins (by decide)

end ScriptLexer
