import ScriptLexer.Proofs.Concatenation
import ScriptLexer.Proofs.MaximalMunch

/-!
# Texts that grow

A text is scanned again when something has been added behind it. The new scan
finds the same tokens again, up to the last one, which may have grown. A literal
that was not closed swallows what is added until a quote comes, and then the
text behind the quote is read as if it stood alone.

Results:

* `Piece.Apart.exists_grown`: pieces that stay apart are found in a longer text,
  and the one behind them starts a token there.
* `Layout.settled`, `Layout.prolong`, `Layout.close`: what stands in front of an
  unclosed literal, the literal with more text in it, and the literal when it is
  closed.
* `tokenize_grow`: the streams and failures of a text and of one that goes on
  from it.
-/

namespace ScriptLexer

open ScriptLexer.Unicode

/-! ## Tokens of a longer text -/

namespace Token

/-- A text that starts with a token has a first token that starts with it. -/
theorem EndsBefore.isPrefix_source {t u : Token} {after after' : List Char}
    (huend : u.EndsBefore after') (ht : t.WellFormed) (hu : u.WellFormed)
    (h : t.source ++ after = u.source ++ after') : t.source <+: u.source := by
  have hprefix : t.source <+: u.source ++ after' := ⟨after, h⟩
  have hlen := huend.length_source_le hu ht hprefix
  exact List.prefix_of_prefix_length_le hprefix (List.prefix_append _ _) hlen

end Token

namespace Piece

/-- A text that is blank starts with no piece. -/
theorem chars_append_ne_of_blank (p : Piece) {after gap : List Char}
    (hgap : ∀ c ∈ gap, isBlank c = true) : p.chars ++ after ≠ gap := by
  rintro rfl
  obtain ⟨c, rest, hsource, hb⟩ := p.wellFormed.exists_source
  have hc := hgap c (by simp [chars, hsource])
  simp [hb] at hc

/-- The tokens of a text are found again in a longer one, up to the last token `p`, which is
    the start of the token that is found in its place. -/
theorem Apart.exists_grown {ps qs : List Piece} {p : Piece} {after gap : List Char}
    (h : Apart ps p.chars) (h' : Apart qs gap) (hgap : ∀ c ∈ gap, isBlank c = true)
    (htext : text ps ++ (p.chars ++ after) = text qs ++ gap) :
    ∃ u us, qs.map token = ps.map token ++ u :: us ∧ p.token.source <+: u.source := by
  induction ps generalizing qs with
  | nil =>
    cases qs with
    | nil => exact absurd htext (p.chars_append_ne_of_blank hgap)
    | cons q qs =>
      rw [text_nil, List.nil_append, text_cons, List.append_assoc] at htext
      obtain ⟨-, hsource⟩ := eq_of_chars_append htext
      exact ⟨q.token, qs.map token, rfl,
        h'.1.isPrefix_source p.wellFormed q.wellFormed hsource⟩
  | cons r ps ih =>
    obtain ⟨hend, hrest⟩ := h
    rw [text_cons, List.append_assoc] at htext
    cases qs with
    | nil => exact absurd htext (r.chars_append_ne_of_blank hgap)
    | cons q qs =>
      obtain ⟨hend', hrest'⟩ := h'
      rw [text_cons, List.append_assoc] at htext
      obtain ⟨-, hsource⟩ := eq_of_chars_append htext
      -- The longer text goes on behind `p` only, so `r` ends in it where it ended before.
      have hend : r.token.EndsBefore (text ps ++ (p.chars ++ after)) := by
        refine hend.congr ?_
        simp [List.head?_append_of_ne_nil _ p.chars_ne_nil]
      obtain ⟨htoken, htext⟩ :=
        r.wellFormed.eq_of_source_append q.wellFormed hend hend' hsource
      obtain ⟨u, us, hqs, hprefix⟩ := ih hrest hrest' htext
      exact ⟨u, us, by simp [hqs, htoken], hprefix⟩

end Piece

namespace Layout

/-- The tokens of a text that goes on from another one. -/
theorem exists_grown {l n : Layout} {q : List Char} {first : List Token} {t : Token}
    (hl : l.literal = none) (hn : n.literal = none) (hchars : n.chars = l.chars ++ q)
    (htokens : l.tokens = first ++ [t]) :
    ∃ u us, n.tokens = first ++ u :: us ∧ t.source <+: u.source := by
  obtain ⟨ps, ps', hps, rfl, hlast⟩ := List.map_eq_append_iff.mp htokens
  obtain ⟨p, rfl, rfl⟩ := List.map_eq_singleton_iff.mp hlast
  have hapart := l.apart_gap
  rw [hps, Piece.apart_append] at hapart
  have hfront : Piece.Apart ps (Piece.text [p]) := hapart.1.of_append
  rw [Piece.text_cons, Piece.text_nil, List.append_nil] at hfront
  have htext : Piece.text ps ++ (p.chars ++ (l.gap ++ q)) = Piece.text n.pieces ++ n.gap := by
    rw [← chars_of_none hn, hchars, chars_of_none hl, hps]
    simp
  exact hfront.exists_grown n.apart_gap n.blank htext

theorem drop_stop {l : Layout} {body : List Char} (h : l.literal = some body) :
    l.chars.drop (l.stop + 1) = body := by
  rw [← List.drop_drop, drop_stop_eq_rest, rest_of_some h, List.drop_one, List.tail_cons]

/-- A literal that is not closed does not start in a text whose literals are closed. -/
theorem length_le_stop {l n : Layout} {q : List Char} (hl : l.literal = none)
    (hn : n.literal ≠ none) (hchars : n.chars = l.chars ++ q) : l.chars.length ≤ n.stop := by
  by_contra hlt
  rw [Nat.not_le] at hlt
  obtain ⟨body, hbody⟩ := Option.ne_none_iff_exists'.mp hn
  -- All of `q` stands in the literal, so it holds no quote, and the quotes stay even.
  have hq : q = body.drop (l.chars.length - (n.stop + 1)) := by
    rw [← drop_stop hbody, List.drop_drop, Nat.add_sub_cancel' hlt, hchars, List.drop_left]
  have hno : '"' ∉ q := by
    rw [hq]
    exact fun hmem => n.unclosed body hbody (List.mem_of_mem_drop hmem)
  rw [literal_eq_none_iff] at hl
  rw [Ne, literal_eq_none_iff, hchars, List.count_append, List.count_eq_zero.mpr hno] at hn
  exact hn hl

/-! ## Behind an unclosed literal -/

/-- The layout of what stands in front of an unclosed literal. -/
def settled (l : Layout) : Layout :=
  (ofGap l.gap l.blank).behind l.pieces (by simpa using l.apart_gap)

@[simp] theorem literal_settled (l : Layout) : l.settled.literal = none := rfl

@[simp] theorem tokens_settled (l : Layout) : l.settled.tokens = l.tokens := by
  rw [settled, tokens_behind, ofGap]
  simp [tokens]

theorem chars_settled (l : Layout) : l.settled.chars = l.chars.take l.stop := by
  rw [settled, chars_behind, chars_ofGap, chars, ← List.append_assoc,
    List.take_left' (by rw [List.length_append, stop])]

/-- The layout with more text in its unclosed literal. -/
def prolong (l : Layout) (x : List Char) (hx : '"' ∉ x) : Layout :=
  { l with
    literal := l.literal.map (· ++ x)
    unclosed := by
      intro body hbody
      obtain ⟨body', hbody', rfl⟩ := Option.map_eq_some_iff.mp hbody
      simp [l.unclosed body' hbody', hx]
    apart := by
      refine l.apart.congr ?_
      cases l.literal <;> simp }

theorem literal_prolong {l : Layout} {body x : List Char} (hx : '"' ∉ x)
    (h : l.literal = some body) : (l.prolong x hx).literal = some (body ++ x) := by
  simp [prolong, h]

@[simp] theorem tokens_prolong {l : Layout} {x : List Char} {hx : '"' ∉ x} :
    (l.prolong x hx).tokens = l.tokens := rfl

theorem chars_prolong {l : Layout} {body x : List Char} {hx : '"' ∉ x}
    (h : l.literal = some body) : (l.prolong x hx).chars = l.chars ++ x := by
  have hrest := rest_of_some (literal_prolong hx h)
  rw [chars, hrest, chars, rest_of_some h]
  simp [prolong]

/-- The literal of a layout as a piece, when a quote has closed it. -/
def closing (l : Layout) {body : List Char} (h : l.literal = some body) : Piece where
  gap := l.gap
  token := .ofChars .string body
  blank := l.blank
  wellFormed := Token.wellFormed_ofChars.mpr (l.unclosed body h)

theorem chars_closing {l : Layout} {body : List Char} (h : l.literal = some body) :
    (l.closing h).chars = l.gap ++ (l.rest ++ ['"']) := by
  rw [Piece.chars, closing, Token.source_string, rest_of_some h, List.cons_append]

theorem apart_closing {l : Layout} {body : List Char} (h : l.literal = some body)
    (after : List Char) : Piece.Apart (l.pieces ++ [l.closing h]) after := by
  rw [Piece.apart_append]
  constructor
  · refine l.apart_rest.congr ?_
    simp [chars_closing h, rest_of_some h, List.head?_append]
  · have hend : (l.closing h).token.EndsBefore (Piece.text [] ++ after) := by
      rw [Token.endsBefore_iff]
      intro d _
      rfl
    exact ⟨hend, trivial⟩

/-- The layout of a text in which a quote closes the literal, with another text behind it. -/
def close (l m : Layout) {body : List Char} (h : l.literal = some body) : Layout :=
  m.behind (l.pieces ++ [l.closing h]) (l.apart_closing h m.chars)

section close

variable {l m : Layout} {body : List Char} (h : l.literal = some body)

@[simp] theorem literal_close : (l.close m h).literal = m.literal := rfl

theorem tokens_close :
    (l.close m h).tokens = l.tokens ++ Token.ofChars .string body :: m.tokens := by
  rw [close, tokens_behind]
  simp [tokens, closing]

theorem chars_close : (l.close m h).chars = l.chars ++ '"' :: m.chars := by
  rw [close, chars_behind]
  simp [chars_closing h, chars]

theorem stop_close : (l.close m h).stop = l.chars.length + 1 + m.stop := by
  have hstop := stop_add_length_chars (literal_close (m := m) h)
  rw [chars_close, List.length_append, List.length_cons] at hstop
  omega

end close

/-! ## Texts with an unclosed literal -/

section unclosed

variable {l : Layout} {p : String} (hl : l.chars = p.toList)
include hl

theorem tokenize_take_stop :
    tokenize (.ofList (p.toList.take l.stop)) = .ok (l.tokens ++ [Token.endOfInput]) := by
  have hfront : l.settled.chars = (String.ofList (p.toList.take l.stop)).toList := by
    rw [chars_settled, hl, String.toList_ofList]
  rw [tokenize_eq hfront, result_eq_ok_iff]
  exact ⟨l.literal_settled, by rw [tokens_settled]⟩

variable {body : List Char} (h : l.literal = some body)
include h

theorem tokenize_append_of_not_mem {q : String} (hq : '"' ∉ q.toList) :
    tokenize (p ++ q) = .error (.unterminatedString l.stop) := by
  have hchars : (l.prolong q.toList hq).chars = (p ++ q).toList := by
    rw [chars_prolong h, hl, String.toList_append]
  rw [tokenize_eq hchars, result_eq_error_iff, literal_prolong hq h]
  exact ⟨Option.some_ne_none _, rfl⟩

theorem tokenize_append_of_quote {q : String} {x : List Char} {m : Layout} (hx : '"' ∉ x)
    (hq : q.toList = x ++ '"' :: m.chars) :
    tokenize (p ++ q) = ((l.prolong x hx).close m (literal_prolong hx h)).result := by
  refine tokenize_eq ?_
  rw [chars_close, chars_prolong h, hl, String.toList_append, hq, List.append_assoc]

end unclosed

end Layout

/-- **A text that grows.** All tokens of a text but the last one are tokens of the longer text,
    and the last one is the start of the token in its place. If a literal of the text is not
    closed, what stands in front of it has a stream, and the longer text fails at the same
    quote, unless what was added holds a quote. Then the literal ends with the first such quote,
    and the text behind that is read as if it stood alone. If the longer text is the only one to
    fail, it fails at a quote that was added. -/
theorem tokenize_grow (p q : String) :
    (∀ (first : List Token) (t : Token) (us : List Token),
      tokenize p = .ok (first ++ [t] ++ [Token.endOfInput]) →
      tokenize (p ++ q) = .ok (us ++ [Token.endOfInput]) →
      ∃ u rest, us = first ++ u :: rest ∧ t.source <+: u.source) ∧
    (∀ k, tokenize p = .error (.unterminatedString k) →
      ∃ ts, tokenize (.ofList (p.toList.take k)) = .ok (ts ++ [Token.endOfInput]) ∧
        ('"' ∉ q.toList → tokenize (p ++ q) = .error (.unterminatedString k)) ∧
        ∀ x r, q.toList = x ++ '"' :: r → '"' ∉ x →
          (∀ us, tokenize (.ofList r) = .ok us → tokenize (p ++ q) =
            .ok (ts ++ Token.ofChars .string (p.toList.drop (k + 1) ++ x) :: us)) ∧
          ∀ j, tokenize (.ofList r) = .error (.unterminatedString j) → tokenize (p ++ q) =
            .error (.unterminatedString (p.length + x.length + 1 + j))) ∧
    ∀ ts k, tokenize p = .ok ts → tokenize (p ++ q) = .error (.unterminatedString k) →
      p.length ≤ k := by
  obtain ⟨l, hl⟩ := Layout.exists_chars_eq p.toList
  obtain ⟨n, hn⟩ := Layout.exists_chars_eq (p ++ q).toList
  have hchars : n.chars = l.chars ++ q.toList := by rw [hn, hl, String.toList_append]
  refine ⟨fun first t us hp hpq => ?_, fun k hp => ?_, fun ts k hp hpq => ?_⟩
  · rw [Layout.tokenize_eq hl, Layout.result_eq_ok_iff] at hp
    rw [Layout.tokenize_eq hn, Layout.result_eq_ok_iff] at hpq
    obtain ⟨hnone, hts⟩ := hp
    obtain ⟨hnone', hus⟩ := hpq
    rw [List.append_cancel_right hus]
    exact Layout.exists_grown hnone hnone' hchars (List.append_cancel_right hts).symm
  · rw [Layout.tokenize_eq hl, Layout.result_eq_error_iff] at hp
    obtain ⟨hsome, hk⟩ := hp
    obtain rfl := ScanError.unterminatedString.inj hk
    obtain ⟨body, hbody⟩ := Option.ne_none_iff_exists'.mp hsome
    refine ⟨l.tokens, Layout.tokenize_take_stop hl,
      Layout.tokenize_append_of_not_mem hl hbody, fun x r hq hx => ?_⟩
    obtain ⟨m, rfl⟩ := Layout.exists_chars_eq r
    rw [Layout.tokenize_eq (l := m) String.toList_ofList.symm,
      Layout.tokenize_append_of_quote hl hbody hx hq]
    constructor
    · intro us hus
      obtain ⟨hnone, rfl⟩ := Layout.result_eq_ok_iff.mp hus
      rw [Layout.result_eq_ok_iff, Layout.literal_close, Layout.tokens_close, ← hl,
        Layout.drop_stop hbody]
      exact ⟨hnone, by simp⟩
    · intro j hj
      obtain ⟨hsome', hj⟩ := Layout.result_eq_error_iff.mp hj
      obtain rfl := ScanError.unterminatedString.inj hj
      rw [Layout.result_eq_error_iff, Layout.literal_close, Layout.stop_close,
        Layout.chars_prolong hbody, hl, List.length_append, String.length_toList]
      exact ⟨hsome', rfl⟩
  · rw [Layout.tokenize_eq hl, Layout.result_eq_ok_iff] at hp
    rw [Layout.tokenize_eq hn, Layout.result_eq_error_iff] at hpq
    obtain ⟨hsome, hk⟩ := hpq
    obtain rfl := ScanError.unterminatedString.inj hk
    have hle := Layout.length_le_stop hp.1 hsome hchars
    rwa [hl, String.length_toList] at hle

/-- `a i` goes on as `a if`, and the name `i` becomes the word `if`. A quote closes the literal
    of `x "a`, and the next quote opens another literal. In `a "`, the quote was added to `a`. -/
theorem tokenize_grow_if_and_quotes :
    (∃ u rest, [Token.ofChars .identifier ['a'], Token.ofChars (.keyword .ifKw) ['i', 'f']] =
        [Token.ofChars .identifier ['a']] ++ u :: rest ∧
      (Token.ofChars .identifier ['i']).source <+: u.source) ∧
    tokenize ("x \"a" ++ "b") = .error (.unterminatedString 2) ∧
    tokenize ("x \"a" ++ "b\"+") = .ok [Token.ofChars .identifier ['x'],
      Token.ofChars .string ['a', 'b'], Token.ofChars .binaryOp ['+'], Token.endOfInput] ∧
    tokenize ("x \"a" ++ "b\"\"") = .error (.unterminatedString 6) ∧
    "a".length ≤ 2 := by
  have hi : tokenize "a i" = .ok ([Token.ofChars .identifier ['a']] ++
      [Token.ofChars .identifier ['i']] ++ [Token.endOfInput]) := by decide +kernel
  have hif : tokenize ("a i" ++ "f") = .ok ([Token.ofChars .identifier ['a'],
      Token.ofChars (.keyword .ifKw) ['i', 'f']] ++ [Token.endOfInput]) := by decide +kernel
  have hopen : tokenize "x \"a" = .error (.unterminatedString 2) := by decide +kernel
  have hfront : tokenize (.ofList ("x \"a".toList.take 2)) =
      .ok ([Token.ofChars .identifier ['x']] ++ [Token.endOfInput]) := by decide +kernel
  have hplus : tokenize (.ofList ['+']) =
      .ok [Token.ofChars .binaryOp ['+'], Token.endOfInput] := by decide +kernel
  have hquote : tokenize (.ofList ['"']) = .error (.unterminatedString 0) := by decide +kernel
  have ha : tokenize "a" = .ok [Token.ofChars .identifier ['a'], Token.endOfInput] := by
    decide +kernel
  have hadded : tokenize ("a" ++ " \"") = .error (.unterminatedString 2) := by decide +kernel
  refine ⟨(tokenize_grow "a i" "f").1 _ _ _ hi hif, ?_, ?_, ?_,
    (tokenize_grow "a" " \"").2.2 _ _ ha hadded⟩
  · obtain ⟨ts, -, hno, -⟩ := (tokenize_grow "x \"a" "b").2.1 2 hopen
    exact hno (by decide)
  · obtain ⟨ts, hts, -, hclosed⟩ := (tokenize_grow "x \"a" "b\"+").2.1 2 hopen
    obtain rfl := List.append_cancel_right (Except.ok.inj (hts.symm.trans hfront))
    exact (hclosed ['b'] ['+'] (by decide) (by decide)).1 _ hplus
  · obtain ⟨ts, hts, -, hclosed⟩ := (tokenize_grow "x \"a" "b\"\"").2.1 2 hopen
    exact (hclosed ['b'] ['"'] (by decide) (by decide)).2 0 hquote

end ScriptLexer
