import ScriptLexer.Proofs.Concatenation

/-!
# Writing tokens down and reading them back

Tokens are written down one after the other, with blanks of one's choice in
front of each and behind the last one. The text can always be scanned. It reads
back as the tokens that were written exactly if a token that joins the next
character has a blank behind it.

Results:

* `Token.joins_of_isBlank`: no token joins a blank.
* `Piece.apart_iff_isChain`: pieces stay apart in front of blanks exactly if each
  one is parted from the next one.
* `tokenize_eq_ok_iff_exists_text`: the texts with a given stream are the tokens of
  the stream, written down with enough blanks between them.
* `tokenize_text`: when tokens that are written down read back.
-/

namespace ScriptLexer

open ScriptLexer.Unicode

/-! ## Neighbours -/

namespace Token

/-- A blank ends every token. -/
theorem joins_of_isBlank (t : Token) {d : Char} (h : isBlank d = true) : t.joins d = false := by
  have hmark : ∀ c ∈ Lead.marks, (d == c) = false := by
    intro c hc
    rw [beq_eq_false_iff_ne]
    rintro rfl
    simp [Lead.isBlank_of_mem_marks hc] at h
  have hequals := hmark '=' (by decide)
  unfold joins
  split <;> simp only [isDigit_of_isBlank h, isWord_of_isBlank h, hequals, Bool.and_false]
  split
  · next c _ =>
    by_cases hc : c = '+' ∨ c = '-' ∨ c = '*'
    · have hsame := hmark c (by rcases hc with rfl | rfl | rfl <;> decide)
      simp [hsame]
    · simp only [not_or] at hc
      simp [hc]
  · rfl

theorem endsBefore_of_blank (t : Token) {gap : List Char} (h : ∀ c ∈ gap, isBlank c = true) :
    t.EndsBefore gap := by
  rw [endsBefore_iff]
  intro d hd
  exact t.joins_of_isBlank (h d (List.mem_of_head? hd))

end Token

namespace Piece

/-- A piece is parted from the one behind it: there is a blank between the two tokens, or the
    first token does not join the first character of the second one. -/
def Parted (p q : Piece) : Prop := q.gap ≠ [] ∨ p.token.EndsBefore q.token.source

/-- The token of a piece ends before the next piece exactly if the two are parted. -/
theorem endsBefore_chars_iff (p q : Piece) (after : List Char) :
    p.token.EndsBefore (q.chars ++ after) ↔ p.Parted q := by
  unfold Parted
  by_cases hgap : q.gap = []
  · have hhead : (q.chars ++ after).head? = q.token.source.head? := by
      simp [chars, hgap, List.head?_append_of_ne_nil _ q.wellFormed.source_ne_nil]
    rw [Token.endsBefore_iff, Token.endsBefore_iff, hhead]
    simp [hgap]
  · have hhead : (q.chars ++ after).head? = q.gap.head? := by
      simp [chars, List.head?_append_of_ne_nil _ hgap]
    have hend := (p.token.endsBefore_of_blank q.blank).congr hhead.symm
    simp [hgap, hend]

/-- Pieces stay apart in front of blanks exactly if each one is parted from the next one. -/
theorem apart_iff_isChain {ps : List Piece} {gap : List Char}
    (hgap : ∀ c ∈ gap, isBlank c = true) : Apart ps gap ↔ ps.IsChain Parted := by
  induction ps with
  | nil => simp [Apart]
  | cons p ps ih =>
    cases ps with
    | nil => simp [Apart, p.token.endsBefore_of_blank hgap]
    | cons q ps =>
      rw [List.isChain_cons_cons, ← ih, Apart, text_cons, List.append_assoc,
        endsBefore_chars_iff]

/-- The quotes of written tokens come in pairs. -/
theorem count_quote_text (ps : List Piece) : (text ps).count '"' % 2 = 0 := by
  rw [← List.length_idxsOf (s := 0), idxsOf_quote_text]
  simp [Located.quotes, List.length_flatMap]

theorem count_quote_chars (p : Piece) : p.chars.count '"' % 2 = 0 := by
  simpa using count_quote_text [p]

end Piece

/-! ## Texts with a stream -/

/-- **The texts with a given stream.** They are the tokens of the stream, each well-formed,
    written down with blanks in front of them and behind the last one, and with a blank at
    least where a token joins the next character. -/
theorem tokenize_eq_ok_iff_exists_text {source : String} {ts : List Token} :
    tokenize source = .ok (ts ++ [Token.endOfInput]) ↔
      ∃ (ps : List Piece) (gap : List Char), (∀ c ∈ gap, isBlank c = true) ∧
        ps.IsChain Piece.Parted ∧ source.toList = Piece.text ps ++ gap ∧
        ps.map Piece.token = ts := by
  constructor
  · intro h
    obtain ⟨l, hl⟩ := Layout.exists_chars_eq source.toList
    rw [Layout.tokenize_eq hl, Layout.result_eq_ok_iff] at h
    obtain ⟨hnone, hts⟩ := h
    exact ⟨l.pieces, l.gap, l.blank, (Piece.apart_iff_isChain l.blank).mp l.apart_gap,
      by rw [← hl, Layout.chars_of_none hnone], (List.append_cancel_right hts).symm⟩
  · rintro ⟨ps, gap, hgap, hchain, hsource, rfl⟩
    have hapart : Piece.Apart ps (Layout.ofGap gap hgap).chars := by
      simpa using (Piece.apart_iff_isChain hgap).mpr hchain
    have hchars : ((Layout.ofGap gap hgap).behind ps hapart).chars = source.toList := by
      simp [hsource]
    rw [Layout.tokenize_eq hchars, Layout.result_eq_ok_iff]
    exact ⟨rfl, by rw [Layout.tokens_behind]; simp [Layout.tokens, Layout.ofGap]⟩

/-- Tokens that are written down always have a stream, if only another one. -/
theorem exists_tokenize_text (ps : List Piece) {gap : List Char}
    (hgap : ∀ c ∈ gap, isBlank c = true) :
    ∃ ts, tokenize (.ofList (Piece.text ps ++ gap)) = .ok ts := by
  obtain ⟨l, hl⟩ := Layout.exists_chars_eq (Piece.text ps ++ gap)
  have hcount := count_quote_of_blank hgap
  have hnone : l.literal = none := by
    rw [l.literal_eq_none_iff, hl, List.count_append, hcount, Nat.add_zero]
    exact Piece.count_quote_text ps
  rw [Layout.tokenize_eq (hl.trans String.toList_ofList.symm)]
  exact ⟨_, Layout.result_eq_ok_iff.mpr ⟨hnone, rfl⟩⟩

/-- **Tokens that are written down read back.** Well-formed tokens are written down, with any
    blanks in front of each one and behind the last one. There always is a stream. It is that
    of the tokens that were written exactly if no token joins the first character of the next
    one without a blank between the two. All streams arise so. -/
theorem tokenize_text :
    (∀ (ps : List Piece) (gap : List Char), (∀ c ∈ gap, isBlank c = true) →
      (∃ ts, tokenize (.ofList (Piece.text ps ++ gap)) = .ok ts) ∧
      (tokenize (.ofList (Piece.text ps ++ gap)) =
          .ok (ps.map Piece.token ++ [Token.endOfInput]) ↔ ps.IsChain Piece.Parted)) ∧
    ∀ (source : String) (ts : List Token), tokenize source = .ok ts →
      ∃ (ps : List Piece) (gap : List Char), (∀ c ∈ gap, isBlank c = true) ∧
        source = .ofList (Piece.text ps ++ gap) ∧
        ts = ps.map Piece.token ++ [Token.endOfInput] := by
  constructor
  · intro ps gap hgap
    refine ⟨exists_tokenize_text ps hgap, fun h => ?_, fun h => ?_⟩
    · obtain ⟨qs, gap', hgap', hchain, htext, htokens⟩ :=
        tokenize_eq_ok_iff_exists_text.mp h
      rw [String.toList_ofList] at htext
      have hapart := (Piece.apart_iff_isChain hgap').mpr hchain
      exact (Piece.apart_iff_isChain hgap).mp
        (hapart.of_tokens htext (htokens.trans (List.append_nil _).symm))
    · exact tokenize_eq_ok_iff_exists_text.mpr ⟨ps, gap, hgap, h, String.toList_ofList, rfl⟩
  · intro source ts h
    obtain ⟨l, hl⟩ := Layout.exists_chars_eq source.toList
    have hts := h
    rw [Layout.tokenize_eq hl, Layout.result_eq_ok_iff] at hts
    obtain ⟨-, rfl⟩ := hts
    obtain ⟨ps, gap, hgap, -, hsource, htokens⟩ := tokenize_eq_ok_iff_exists_text.mp h
    exact ⟨ps, gap, hgap, by rw [← hsource, String.ofList_toList], by rw [htokens]⟩

/-- A plus and then `+=` behind it read back if there is a blank between them. Without the
    blank, they read as `++` and `=`. -/
theorem tokenize_text_of_plus :
    tokenize "+ +=\n" = .ok [Token.ofChars .binaryOp ['+'], Token.ofChars .compoundOp ['+', '='],
      Token.endOfInput] ∧
    (∃ ts, tokenize "++=\n" = .ok ts) ∧
    tokenize "++=\n" ≠ .ok [Token.ofChars .binaryOp ['+'], Token.ofChars .compoundOp ['+', '='],
      Token.endOfInput] := by
  have hplus : (Token.ofChars .binaryOp ['+']).WellFormed :=
    Token.wellFormed_ofChars.mpr (by simp [Kind.Admits])
  have hplusEquals : (Token.ofChars .compoundOp ['+', '=']).WellFormed :=
    Token.wellFormed_ofChars.mpr (by simp [Kind.Admits])
  have hline : ∀ c ∈ ['\n'], isBlank c = true :=
    List.forall_mem_singleton.mpr (by decide +kernel)
  have hspace : ∀ c ∈ [' '], isBlank c = true :=
    List.forall_mem_singleton.mpr (by decide +kernel)
  -- The second token, once right behind the plus and once with a space in front.
  let plus : Piece := ⟨[], _, by simp, hplus⟩
  let near : Piece := ⟨[], _, by simp, hplusEquals⟩
  let far : Piece := ⟨[' '], _, hspace, hplusEquals⟩
  have hsource : near.token.source = ['+', '='] := Token.source_ofChars (by decide)
  have hnear : String.ofList (Piece.text [plus, near] ++ ['\n']) = "++=\n" := by
    simp [plus, near, Piece.chars, Token.source]
  have hfar : String.ofList (Piece.text [plus, far] ++ ['\n']) = "+ +=\n" := by
    simp [plus, far, Piece.chars, Token.source]
  have hjoin : ¬ plus.token.EndsBefore near.token.source := by
    simp [hsource, plus, Token.EndsBefore, Token.joins]
  obtain ⟨hstream, hiff⟩ := tokenize_text.1 [plus, near] ['\n'] hline
  rw [hnear] at hstream hiff
  refine ⟨?_, hstream, fun h => ?_⟩
  · rw [← hfar]
    refine (tokenize_text.1 [plus, far] ['\n'] hline).2.mpr ?_
    simp [Piece.Parted, far]
  · have hparted := hiff.mp h
    simp [Piece.Parted, hjoin, near] at hparted

end ScriptLexer
