import ScriptLexer.Proofs.Quotes
import ScriptLexer.Text.Hexadecimal

/-!
# Scanning the text of a token

The text of a token shows its lexeme between quotes, and so does a string
literal. But the text of a token has escapes, and a scan knows none. To a scan,
a backslash is a character like all others, and the quote behind it closes the
literal. So the two agree on lexemes in which nothing is escaped, and only on
these.

Results:

* `Text.Escape.chars_eq_singleton_iff`: the characters that are not escaped.
* `Text.escaped_eq_self_iff`: a text is its own escaped form if no character of it
  is escaped.
* `Text.count_quote_escaped`: a text and its escaped form have the same quotes.
* `tokenize_text_eq_ok_iff`, `tokenize_text_eq_error_iff`: when the text of a string token
  is scanned as that token, and when it has no stream.
* `tokenize_text_string`: the stream of the text of a string token.
-/

namespace ScriptLexer

open ScriptLexer.Unicode

/-! ## Escaped characters -/

namespace Text

namespace Escape

/-- A written form is the character itself, or longer than one character. -/
theorem chars_eq_singleton_or (c : Char) : (of c).chars = [c] ∨ 1 < (of c).chars.length := by
  rw [of.eq_def]
  split
  iterate 6 exact Or.inr (by decide)
  split
  · exact Or.inr (by simp [chars])
  · exact Or.inl rfl

/-- Six characters have a short form, and those that do not print go by their code point. All
    others are not escaped. -/
theorem chars_eq_singleton_iff {c : Char} :
    (of c).chars = [c] ↔
      c ∉ ['"', '\\', '\x00', '\t', '\n', '\r'] ∧ isUnprintable c = false := by
  rw [of.eq_def]
  split
  iterate 6 exact iff_of_false (by decide) (fun h => absurd h.1 (by decide))
  next hnul htab hline hreturn hquote hslash =>
  have hshort : c ∉ ['"', '\\', '\x00', '\t', '\n', '\r'] := by
    simp only [List.mem_cons, List.not_mem_nil, or_false, not_or]
    exact ⟨hquote, hslash, hnul, htab, hline, hreturn⟩
  rw [and_iff_right hshort]
  split
  · next h => exact iff_of_false (by simp [chars]) (by simp [h])
  · next h => exact iff_of_true rfl (by simpa using h)

/-- The written form of a character has a quote exactly if the character is one. -/
theorem count_quote_chars (c : Char) : (of c).chars.count '"' = [c].count '"' := by
  rw [of.eq_def]
  split
  iterate 6 decide
  next hquote _ =>
  split
  · have hdigits : '"' ∉ Hexadecimal.digits c.toNat := by
      intro hmem
      exact absurd (Hexadecimal.mem_alphabet_of_mem_digits hmem) (by decide)
    have hne : '"' ∉ [c] := by simpa [eq_comm] using hquote
    simp [chars, List.count_eq_zero.mpr hdigits, List.count_eq_zero.mpr hne]
  · rfl

end Escape

theorem count_quote_escaped (cs : List Char) : (escaped cs).count '"' = cs.count '"' := by
  induction cs with
  | nil => rfl
  | cons c cs ih =>
    rw [escaped_cons, List.count_append, Escape.count_quote_chars, ih, ← List.count_append,
      List.singleton_append]

theorem length_le_length_escaped (cs : List Char) : cs.length ≤ (escaped cs).length := by
  induction cs with
  | nil => exact Nat.le_refl _
  | cons c cs ih =>
    have hpos : 1 ≤ (Escape.of c).chars.length := by
      rcases Escape.chars_eq_singleton_or c with h | h
      · exact Nat.le_of_eq (by rw [h, List.length_singleton])
      · omega
    rw [escaped_cons, List.length_append, List.length_cons]
    omega

/-- A text is its own escaped form exactly if no character of it is escaped. -/
theorem escaped_eq_self_iff {cs : List Char} :
    escaped cs = cs ↔ ∀ c ∈ cs, (Escape.of c).chars = [c] := by
  induction cs with
  | nil => simp
  | cons c cs ih =>
    rw [escaped_cons, List.forall_mem_cons, ← ih]
    rcases Escape.chars_eq_singleton_or c with h | h
    · rw [h, List.singleton_append, List.cons_inj_right, and_iff_right rfl]
    · -- A longer form of one character cannot be made up for by the other ones.
      have hne : (Escape.of c).chars ≠ [c] := by
        intro heq
        rw [heq, List.length_singleton] at h
        omega
      have hlong : (Escape.of c).chars ++ escaped cs ≠ c :: cs := by
        intro heq
        have hlen := congrArg List.length heq
        have hle := length_le_length_escaped cs
        rw [List.length_append, List.length_cons] at hlen
        omega
      exact iff_of_false hlong fun hboth => hne hboth.1

end Text

/-! ## Streams with one literal -/

/-- A literal without quotes in it is the only token of its text. -/
theorem tokenize_literal {body : List Char} (h : '"' ∉ body) :
    tokenize (.ofList ('"' :: (body ++ ['"']))) =
      .ok [Token.ofChars .string body, Token.endOfInput] := by
  apply tokenize_of_first? (Lead.isBlank_of_mem_marks (by decide)) _ tokenize_nil
  rw [Token.first?_quote]
  exact Token.literal?_eq_some_iff.mpr ⟨body, h, rfl, rfl⟩

namespace Layout

/-- All tokens of a stream in front of the sentinel are well-formed. -/
theorem wellFormed_of_mem_tokens {l : Layout} {t : Token} (h : t ∈ l.tokens) : t.WellFormed := by
  obtain ⟨p, -, rfl⟩ := List.mem_map.mp h
  exact p.wellFormed

/-- A literal that is not closed has no characters if the text ends in a quote. -/
theorem stop_of_getLast? {l : Layout} (h : l.literal ≠ none)
    (hlast : l.chars.getLast? = some '"') : l.stop = l.chars.length - 1 := by
  obtain ⟨body, hbody⟩ := Option.ne_none_iff_exists'.mp h
  have hno := l.unclosed body hbody
  have hrest := rest_of_some hbody
  have hnil : body = [] := by
    by_contra hne
    have hmem : l.chars.getLast? = body.getLast? := by
      have hchars : l.chars = (Piece.text l.pieces ++ (l.gap ++ ['"'])) ++ body := by
        simp [chars, hrest]
      rw [hchars, List.getLast?_append_of_ne_nil _ hne]
    exact hno (List.mem_of_getLast? (hmem.symm.trans hlast))
  have hlen := l.length_chars
  rw [hrest, hnil, List.length_singleton] at hlen
  omega

end Layout

/-- A literal that is the only token of its text has no quotes in it. -/
theorem quote_not_mem_of_tokenize {source lexeme : String}
    (h : tokenize source = .ok [⟨.string, lexeme⟩, Token.endOfInput]) : '"' ∉ lexeme.toList := by
  obtain ⟨l, hl⟩ := Layout.exists_chars_eq source.toList
  rw [Layout.tokenize_eq hl, Layout.result_eq_ok_iff] at h
  have htokens : [⟨.string, lexeme⟩] = l.tokens := List.append_cancel_right h.2
  have hform : Token.WellFormed ⟨.string, lexeme⟩ :=
    Layout.wellFormed_of_mem_tokens (htokens ▸ List.mem_singleton_self _)
  exact hform.quote_not_mem_lexeme rfl

/-! ## The text of a string token -/

section text

variable {lexeme : String}

theorem toList_text (kind : Kind) :
    (Token.text ⟨kind, lexeme⟩).toList = '"' :: (Text.escaped lexeme.toList ++ ['"']) :=
  Text.toList_quoted lexeme

/-- A lexeme without quotes is scanned in its escaped form. -/
theorem tokenize_text_of_not_mem (h : '"' ∉ lexeme.toList) :
    tokenize (Token.text ⟨.string, lexeme⟩) =
      .ok [Token.ofChars .string (Text.escaped lexeme.toList), Token.endOfInput] := by
  have hno : '"' ∉ Text.escaped lexeme.toList := by
    rw [← List.count_eq_zero, Text.count_quote_escaped]
    exact List.count_eq_zero.mpr h
  rw [← tokenize_literal hno, ← toList_text .string, String.ofList_toList]

/-- The stream is the token itself exactly if no character of the lexeme is escaped. -/
theorem tokenize_text_eq_ok_iff :
    tokenize (Token.text ⟨.string, lexeme⟩) = .ok [⟨.string, lexeme⟩, Token.endOfInput] ↔
      ∀ c ∈ lexeme.toList, (Text.Escape.of c).chars = [c] := by
  constructor
  · intro h
    have hno := quote_not_mem_of_tokenize h
    rw [tokenize_text_of_not_mem hno, Except.ok.injEq, List.cons.injEq] at h
    have heq := congrArg (fun t => t.lexeme.toList) h.1
    dsimp only at heq
    rw [Token.toList_lexeme_ofChars] at heq
    exact Text.escaped_eq_self_iff.mp heq
  · intro h
    have hno : '"' ∉ lexeme.toList := by
      intro hmem
      exact absurd (h _ hmem) (by decide)
    rw [tokenize_text_of_not_mem hno, Text.escaped_eq_self_iff.mpr h, Token.ofChars,
      String.ofList_toList]

/-- There is no stream exactly if the lexeme has an odd number of quotes. The literal that is not
    closed starts at the last character then. -/
theorem tokenize_text_eq_error_iff {e : ScanError} :
    tokenize (Token.text ⟨.string, lexeme⟩) = .error e ↔
      lexeme.toList.count '"' % 2 = 1 ∧
        e = .unterminatedString ((Token.text ⟨.string, lexeme⟩).length - 1) := by
  obtain ⟨l, hl⟩ := Layout.exists_chars_eq (Token.text ⟨.string, lexeme⟩).toList
  have hcount : l.chars.count '"' = lexeme.toList.count '"' + 2 := by
    rw [hl, toList_text, List.count_cons_self, List.count_append, Text.count_quote_escaped,
      List.count_singleton_self]
  have hlast : l.chars.getLast? = some '"' := by
    rw [hl, toList_text]
    simp [List.getLast?_cons]
  have hopen : l.literal ≠ none ↔ lexeme.toList.count '"' % 2 = 1 := by
    rw [Ne, l.literal_eq_none_iff, hcount]
    omega
  rw [Layout.tokenize_eq hl, Layout.result_eq_error_iff, ← hopen]
  apply and_congr_right
  intro hsome
  rw [Layout.stop_of_getLast? hsome hlast, hl, String.length_toList]

end text

/-- **The text of a string token is a literal only if it has no escapes.** Each token text is
    scanned. If no character of the lexeme is escaped, the stream is the token, and only then. If
    the lexeme has no quotes, the stream is one literal, which holds the escaped lexeme. With
    quotes in the lexeme, there is a stream exactly if their number is even; if it is odd, the last
    character of the text opens a literal that is not closed. -/
theorem tokenize_text_string (lexeme : String) :
    (tokenize (Token.text ⟨.string, lexeme⟩) = .ok [⟨.string, lexeme⟩, Token.endOfInput] ↔
      ∀ c ∈ lexeme.toList, (Text.Escape.of c).chars = [c]) ∧
    (∀ c, (Text.Escape.of c).chars = [c] ↔
      c ∉ ['"', '\\', '\x00', '\t', '\n', '\r'] ∧ isUnprintable c = false) ∧
    ('"' ∉ lexeme.toList → tokenize (Token.text ⟨.string, lexeme⟩) =
      .ok [Token.ofChars .string (Text.escaped lexeme.toList), Token.endOfInput]) ∧
    ((∃ e, tokenize (Token.text ⟨.string, lexeme⟩) = .error e) ↔
      lexeme.toList.count '"' % 2 = 1) ∧
    ∀ e, tokenize (Token.text ⟨.string, lexeme⟩) = .error e →
      e = .unterminatedString ((Token.text ⟨.string, lexeme⟩).length - 1) := by
  refine ⟨tokenize_text_eq_ok_iff, fun c => Text.Escape.chars_eq_singleton_iff,
    tokenize_text_of_not_mem, ?_, fun e he => (tokenize_text_eq_error_iff.mp he).2⟩
  constructor
  · rintro ⟨e, he⟩
    exact (tokenize_text_eq_error_iff.mp he).1
  · intro hodd
    exact ⟨_, tokenize_text_eq_error_iff.mpr ⟨hodd, rfl⟩⟩

/-- The text of a token with the lexeme `a b` is scanned as that token. With a tab in place of the
    blank, the literal holds a backslash and a `t`. A quote as lexeme makes the last of four
    characters a quote that is not closed. -/
theorem tokenize_text_string_of_blank_tab_quote :
    tokenize "\"a b\"" = .ok [⟨.string, "a b"⟩, Token.endOfInput] ∧
    tokenize "\"a\\tb\"" = .ok [Token.ofChars .string ['a', '\\', 't', 'b'], Token.endOfInput] ∧
    tokenize "\"\\\"\"" = .error (.unterminatedString 3) := by
  have hblank : Token.text ⟨.string, "a b"⟩ = "\"a b\"" := by decide +kernel
  have htab : Token.text ⟨.string, "a\tb"⟩ = "\"a\\tb\"" := by decide +kernel
  have hescaped : Text.escaped "a\tb".toList = ['a', '\\', 't', 'b'] := by decide +kernel
  have hquote : Token.text ⟨.string, "\""⟩ = "\"\\\"\"" := by decide +kernel
  refine ⟨?_, ?_, ?_⟩
  · rw [← hblank]
    apply (tokenize_text_string "a b").1.mpr
    intro c hc
    have hcases : c = 'a' ∨ c = ' ' ∨ c = 'b' := by simpa using hc
    rcases hcases with rfl | rfl | rfl <;> decide +kernel
  · rw [← htab, ← hescaped]
    exact (tokenize_text_string "a\tb").2.2.1 (by decide)
  · obtain ⟨-, -, -, hfail, hlast⟩ := tokenize_text_string "\""
    obtain ⟨e, he⟩ := hfail.mpr (by decide)
    have hthree := hlast e he
    rw [hquote] at he hthree
    rw [he, hthree]
    rfl

end ScriptLexer
