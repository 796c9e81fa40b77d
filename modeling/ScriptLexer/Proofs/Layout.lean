import Mathlib.Data.List.Basic
import ScriptLexer.Scan.Basic
import ScriptLexer.Token.Boundary

/-!
# Layouts of texts

A piece is a token as it stands in a text, with the blanks in front of it. A
layout takes a whole text apart: pieces in a row, blanks behind the last one,
and possibly a string literal that is not closed. In a layout each token ends
where the characters behind it begin, so a scan finds exactly its tokens.

Results:

* `Scan.ofChars_text`: the scan of some pieces, whatever stands behind them.
* `Layout.exists_chars_eq`: every text has a layout.
* `Layout.tokenize_eq`: the stream of a text, or the reason why there is none,
  read off a layout of it.
* `tokenize_of_first?`: one token in front of a text with a stream.
-/

namespace ScriptLexer

open ScriptLexer.Unicode

/-! ## Tokens behind one another -/

namespace Token

theorem endsBefore_iff {t : Token} {after : List Char} :
    t.EndsBefore after ↔ ∀ d, after.head? = some d → t.joins d = false := by
  cases after <;> simp [EndsBefore]

/-- Whether a token ends depends on the next character only. -/
theorem EndsBefore.congr {t : Token} {after after' : List Char} (h : t.EndsBefore after)
    (hhead : after.head? = after'.head?) : t.EndsBefore after' := by
  rw [endsBefore_iff] at h ⊢
  rwa [← hhead]

theorem EndsBefore.of_append {t : Token} {cs ds : List Char} (h : t.EndsBefore (cs ++ ds)) :
    t.EndsBefore cs := by
  cases cs with
  | nil => trivial
  | cons c cs => exact h

theorem WellFormed.source_ne_nil {t : Token} (h : t.WellFormed) : t.source ≠ [] := by
  obtain ⟨c, rest, hsource, -⟩ := h.exists_source
  simp [hsource]

/-- The token that a text starts with, and what stands behind it, are determined by the text. -/
theorem WellFormed.eq_of_source_append {t u : Token} {after after' : List Char}
    (ht : t.WellFormed) (hu : u.WellFormed) (htend : t.EndsBefore after)
    (huend : u.EndsBefore after') (h : t.source ++ after = u.source ++ after') :
    t = u ∧ after = after' := by
  obtain ⟨c, rest, hsource, hb⟩ := ht.exists_source
  have htext : t.source ++ after = c :: (rest ++ after) := by simp [hsource]
  have h1 := (first?_eq_some_iff hb).mpr ⟨ht, htend, htext⟩
  have h2 := (first?_eq_some_iff hb).mpr ⟨hu, huend, h.symm.trans htext⟩
  simpa using h1.symm.trans h2

end Token

/-! ## Characters of tokens -/

theorem isWord_of_mem_isWordText {cs : List Char} {c : Char} (h : IsWordText cs) (hc : c ∈ cs) :
    isWord c = true := by
  cases cs with
  | nil => exact h.elim
  | cons d rest =>
    rcases List.mem_cons.mp hc with rfl | hc
    · exact isWord_of_isLetter h.1
    · exact h.2 c hc

namespace Token

/-- A lexeme of any kind but the string literal holds marks, word characters and stray
    characters only, and no quote. -/
theorem mem_cases_of_admits {kind : Kind} {cs : List Char} {c : Char} (h : kind.Admits cs)
    (hk : kind ≠ .string) (hc : c ∈ cs) :
    c ∈ Lead.marks ∧ c ≠ '"' ∨ isWord c = true ∨ IsStray c := by
  rcases admits_cases h with ⟨hs, -⟩ | ⟨-, -, hdigit⟩ | ⟨-, hword⟩ | ⟨-, rfl | ⟨d, rfl, hd⟩⟩ | hop
  · exact absurd hs hk
  · exact Or.inr (Or.inl (isWord_of_isDigit (hdigit c hc)))
  · exact Or.inr (Or.inl (isWord_of_mem_isWordText hword hc))
  · rw [List.mem_singleton.mp hc]
    exact Or.inl (by decide)
  · rw [List.mem_singleton.mp hc]
    exact Or.inr (Or.inr hd)
  · exact Or.inl (Kind.mem_marks_of_mem_operators hop hc)

theorem WellFormed.quote_not_mem_source {t : Token} (h : t.WellFormed) (hk : t.kind ≠ .string) :
    '"' ∉ t.source := by
  rw [source_of_ne_string hk]
  intro hc
  rcases mem_cases_of_admits h hk hc with ⟨-, hne⟩ | hword | hstray
  · exact hne rfl
  · exact absurd hword (by decide +kernel)
  · exact hstray.2.2.2 (by decide)

theorem WellFormed.isBlank_of_mem_source {t : Token} {c : Char} (h : t.WellFormed)
    (hk : t.kind ≠ .string) (hc : c ∈ t.source) : isBlank c = false := by
  rw [source_of_ne_string hk] at hc
  rcases mem_cases_of_admits h hk hc with ⟨hmark, -⟩ | hword | hstray
  · exact Lead.isBlank_of_mem_marks hmark
  · by_contra hb
    simp [isWord_of_isBlank (by simpa using hb)] at hword
  · exact hstray.1

/-- A token does not end in a blank, whatever a string literal holds. -/
theorem WellFormed.isBlank_of_getLast? {t : Token} {c : Char} (h : t.WellFormed)
    (hc : t.source.getLast? = some c) : isBlank c = false := by
  by_cases hk : t.kind = .string
  · have hquote : c = '"' := by simpa [source, hk, eq_comm, List.getLast?_cons] using hc
    exact Lead.isBlank_of_mem_marks (by rw [hquote]; decide)
  · exact h.isBlank_of_mem_source hk (List.mem_of_getLast? hc)

end Token

/-! ## Pieces -/

theorem blank_nil : ∀ c ∈ ([] : List Char), isBlank c = true := List.forall_mem_nil _

/-- A token as it stands in a text, with the blanks in front of it. -/
structure Piece where
  gap : List Char
  token : Token
  blank : ∀ c ∈ gap, isBlank c = true
  wellFormed : token.WellFormed

namespace Piece

/-- The characters of a piece. -/
def chars (p : Piece) : List Char := p.gap ++ p.token.source

/-- The characters of some pieces in a row. -/
def text (ps : List Piece) : List Char := ps.flatMap chars

/-- Each token of the pieces ends where the characters behind it begin. Behind the last
    piece stands `after`. -/
def Apart : List Piece → List Char → Prop
  | [], _ => True
  | p :: ps, after => p.token.EndsBefore (text ps ++ after) ∧ Apart ps after

/-- The tokens of the pieces with the indices of their first characters. The first piece
    stands at `offset`. -/
def located (offset : Nat) : List Piece → List Located
  | [] => []
  | p :: ps => ⟨offset + p.gap.length, p.token⟩ :: located (offset + p.chars.length) ps

@[simp] theorem text_nil : text [] = [] := rfl

@[simp] theorem text_cons (p : Piece) (ps : List Piece) : text (p :: ps) = p.chars ++ text ps :=
  List.flatMap_cons

@[simp] theorem text_append (ps qs : List Piece) : text (ps ++ qs) = text ps ++ text qs :=
  List.flatMap_append

theorem chars_ne_nil (p : Piece) : p.chars ≠ [] := by
  simp [chars, p.wellFormed.source_ne_nil]

@[simp] theorem map_token_located (offset : Nat) (ps : List Piece) :
    (located offset ps).map Located.token = ps.map token := by
  induction ps generalizing offset with
  | nil => rfl
  | cons p ps ih => simp [located, ih]

theorem apart_append {ps qs : List Piece} {after : List Char} :
    Apart (ps ++ qs) after ↔ Apart ps (text qs ++ after) ∧ Apart qs after := by
  induction ps with
  | nil => simp [Apart]
  | cons p ps ih => simp [Apart, ih, and_assoc]

/-- Whether the tokens stay apart depends on the next character behind them only. -/
theorem Apart.congr {ps : List Piece} {after after' : List Char} (h : Apart ps after)
    (hhead : after.head? = after'.head?) : Apart ps after' := by
  induction ps with
  | nil => trivial
  | cons p ps ih =>
    obtain ⟨hend, hrest⟩ := h
    exact ⟨hend.congr (by simp [List.head?_append, hhead]), ih hrest⟩

/-- Tokens that stay apart in front of a text do so in front of the start of it. -/
theorem Apart.of_append {ps : List Piece} {cs ds : List Char} (h : Apart ps (cs ++ ds)) :
    Apart ps cs := by
  induction ps with
  | nil => trivial
  | cons p ps ih =>
    obtain ⟨hend, hrest⟩ := h
    rw [← List.append_assoc] at hend
    exact ⟨hend.of_append, ih hrest⟩

/-- A token of the pieces stands where it is located. -/
theorem exists_append_of_mem_located {ps : List Piece} {offset : Nat} {found : Located}
    (h : found ∈ located offset ps) :
    ∃ before after, text ps = before ++ (found.token.source ++ after) ∧
      found.offset = offset + before.length := by
  induction ps generalizing offset with
  | nil => simp [located] at h
  | cons p ps ih =>
    rcases List.mem_cons.mp h with rfl | h
    · exact ⟨p.gap, text ps, by simp [chars], rfl⟩
    · obtain ⟨before, after, htext, hoffset⟩ := ih h
      refine ⟨p.chars ++ before, after, by simp [htext], ?_⟩
      rw [hoffset, List.length_append]
      omega

end Piece

/-! ## Scans of pieces -/

namespace Scan

theorem ofChars_blanks {gap : List Char} (h : ∀ c ∈ gap, isBlank c = true) (offset count : Nat)
    (rest : List Char) :
    ofChars offset count (gap ++ rest) = ofChars (offset + gap.length) count rest := by
  induction gap generalizing offset with
  | nil => rfl
  | cons c gap ih =>
    simp only [List.mem_cons, forall_eq_or_imp] at h
    rw [List.cons_append, ofChars_blank h.1, ih h.2, List.length_cons]
    congr 1
    omega

/-- A well-formed token is read where it stands if it ends there. -/
theorem ofChars_source {t : Token} {after : List Char} (ht : t.WellFormed)
    (hend : t.EndsBefore after) (offset count : Nat) :
    ofChars offset count (t.source ++ after) =
      (ofChars (offset + t.source.length) (count + 1) after).cons ⟨offset, t⟩ := by
  obtain ⟨c, rest, hsource, hb⟩ := ht.exists_source
  have htext : t.source ++ after = c :: (rest ++ after) := by simp [hsource]
  have hfirst := (Token.first?_eq_some_iff hb).mpr ⟨ht, hend, htext⟩
  rw [htext, ofChars_token hb hfirst]

theorem ofChars_literal {body : List Char} (h : '"' ∉ body) (offset count : Nat) :
    ofChars offset count ('"' :: body) = ⟨[], some offset, [.unterminatedString offset]⟩ :=
  ofChars_unclosed (by decide +kernel) (Token.first?_eq_none_iff.mpr ⟨rfl, h⟩) offset count

/-- A scan finds pieces that stay apart one after the other, and then what stands behind them. -/
theorem ofChars_text {ps : List Piece} {after : List Char} (h : Piece.Apart ps after)
    (offset count : Nat) :
    ofChars offset count (Piece.text ps ++ after) =
      (Piece.located offset ps).foldr cons
        (ofChars (offset + (Piece.text ps).length) (count + ps.length) after) := by
  induction ps generalizing offset count with
  | nil => rfl
  | cons p ps ih =>
    obtain ⟨hend, hrest⟩ := h
    rw [Piece.text_cons, Piece.chars, List.append_assoc, List.append_assoc,
      ofChars_blanks p.blank, ofChars_source p.wellFormed hend, ih hrest]
    simp only [Piece.located, Piece.chars, List.foldr_cons, List.length_append, List.length_cons,
      Nat.add_assoc, Nat.add_comm 1]

@[simp] theorem tokens_foldr_cons (found : List Located) (s : Scan) :
    (found.foldr cons s).tokens = found ++ s.tokens := by
  induction found with
  | nil => rfl
  | cons l found ih => simp [cons, ih]

@[simp] theorem unclosed_foldr_cons (found : List Located) (s : Scan) :
    (found.foldr cons s).unclosed = s.unclosed := by
  induction found with
  | nil => rfl
  | cons l found ih => simp [cons, ih]

end Scan

/-! ## Layouts -/

/-- A text taken apart as a scan reads it. -/
structure Layout where
  pieces : List Piece
  /-- The blanks behind the last token. -/
  gap : List Char
  /-- What stands behind the opening quote of a literal that is not closed, if the text
      ends in one. -/
  literal : Option (List Char)
  blank : ∀ c ∈ gap, isBlank c = true
  unclosed : ∀ body ∈ literal, '"' ∉ body
  apart : Piece.Apart pieces (gap ++ (literal.map ('"' :: ·)).getD [])

namespace Layout

/-- The characters behind the last blanks of a layout. -/
def rest (l : Layout) : List Char := (l.literal.map ('"' :: ·)).getD []

/-- The characters of a layout. -/
def chars (l : Layout) : List Char := Piece.text l.pieces ++ (l.gap ++ l.rest)

/-- The tokens of a layout. -/
def tokens (l : Layout) : List Token := l.pieces.map Piece.token

/-- The index of the first character behind the last blanks. -/
def stop (l : Layout) : Nat := (Piece.text l.pieces).length + l.gap.length

/-- The stream that a layout shows, or the reason why there is none. -/
def result (l : Layout) : Except ScanError (List Token) :=
  match l.literal with
  | none => .ok (l.tokens ++ [Token.endOfInput])
  | some _ => .error (.unterminatedString l.stop)

theorem rest_of_none {l : Layout} (h : l.literal = none) : l.rest = [] := by simp [rest, h]

theorem rest_of_some {l : Layout} {body : List Char} (h : l.literal = some body) :
    l.rest = '"' :: body := by simp [rest, h]

theorem apart_rest (l : Layout) : Piece.Apart l.pieces (l.gap ++ l.rest) := l.apart

theorem apart_gap (l : Layout) : Piece.Apart l.pieces l.gap := l.apart_rest.of_append

/-- The layout with more blanks in front. -/
def indent (l : Layout) (gap : List Char) (h : ∀ c ∈ gap, isBlank c = true) : Layout :=
  match hps : l.pieces with
  | [] =>
    { l with
      gap := gap ++ l.gap
      blank := List.forall_mem_append.mpr ⟨h, l.blank⟩
      apart := by rw [hps]; trivial }
  | p :: ps =>
    { l with
      pieces :=
        { p with
          gap := gap ++ p.gap
          blank := List.forall_mem_append.mpr ⟨h, p.blank⟩ } :: ps
      apart := by
        have := l.apart
        rw [hps] at this
        exact this }

/-- The layout with more pieces in front. -/
def behind (l : Layout) (ps : List Piece) (h : Piece.Apart ps l.chars) : Layout :=
  { l with
    pieces := ps ++ l.pieces
    apart := Piece.apart_append.mpr ⟨h, l.apart⟩ }

@[simp] theorem literal_indent (l : Layout) (gap : List Char) (h : ∀ c ∈ gap, isBlank c = true) :
    (l.indent gap h).literal = l.literal := by
  unfold indent
  split <;> rfl

@[simp] theorem tokens_indent (l : Layout) (gap : List Char) (h : ∀ c ∈ gap, isBlank c = true) :
    (l.indent gap h).tokens = l.tokens := by
  unfold indent tokens
  split
  · next hps => simp [hps]
  · next hps => simp [hps]

@[simp] theorem chars_indent (l : Layout) (gap : List Char) (h : ∀ c ∈ gap, isBlank c = true) :
    (l.indent gap h).chars = gap ++ l.chars := by
  unfold indent chars rest
  split
  · next hps => simp [hps]
  · next hps => simp [hps, Piece.chars]

@[simp] theorem literal_behind (l : Layout) (ps : List Piece) (h : Piece.Apart ps l.chars) :
    (l.behind ps h).literal = l.literal := rfl

@[simp] theorem tokens_behind (l : Layout) (ps : List Piece) (h : Piece.Apart ps l.chars) :
    (l.behind ps h).tokens = ps.map Piece.token ++ l.tokens := List.map_append

@[simp] theorem chars_behind (l : Layout) (ps : List Piece) (h : Piece.Apart ps l.chars) :
    (l.behind ps h).chars = Piece.text ps ++ l.chars := by
  simp [behind, chars, rest]

theorem length_chars (l : Layout) : l.chars.length = l.stop + l.rest.length := by
  simp only [chars, stop, List.length_append]
  omega

theorem drop_stop_eq_rest (l : Layout) : l.chars.drop l.stop = l.rest := by
  have hlen : (Piece.text l.pieces ++ l.gap).length = l.stop := List.length_append
  rw [chars, ← List.append_assoc, List.drop_left' hlen]

theorem rest_congr {l m : Layout} (h : l.literal = m.literal) : l.rest = m.rest := by
  rw [rest, rest, h]

/-- Two texts that end in the same literal, or in none, stop at the same distance from their
    ends. -/
theorem stop_add_length_chars {l m : Layout} (h : l.literal = m.literal) :
    l.stop + m.chars.length = m.stop + l.chars.length := by
  rw [length_chars, length_chars, rest_congr h]
  omega

/-! ## Every text has a layout -/

/-- The layout of a text without tokens. -/
def ofGap (gap : List Char) (h : ∀ c ∈ gap, isBlank c = true) : Layout where
  pieces := []
  gap := gap
  literal := none
  blank := h
  unclosed := by simp
  apart := trivial

@[simp] theorem chars_ofGap (gap : List Char) (h : ∀ c ∈ gap, isBlank c = true) :
    (ofGap gap h).chars = gap := by
  simp [ofGap, chars, rest]

/-- The layout of a literal that is not closed. -/
def ofLiteral (body : List Char) (h : '"' ∉ body) : Layout where
  pieces := []
  gap := []
  literal := some body
  blank := by simp
  unclosed := by simpa using h
  apart := trivial

theorem exists_chars_eq (cs : List Char) : ∃ l : Layout, l.chars = cs := by
  -- The text behind a blank or a token is shorter, so the induction is on the length.
  induction hn : cs.length using Nat.strongRecOn generalizing cs with
  | ind n ih =>
    subst hn
    rcases cs with _ | ⟨c, cs⟩
    · exact ⟨ofGap [] (by simp), rfl⟩
    by_cases hb : isBlank c = true
    · obtain ⟨l, hl⟩ := ih _ (Nat.lt_succ_self _) cs rfl
      exact ⟨l.indent [c] (by simpa using hb), by simp [hl]⟩
    · have hb : isBlank c = false := by simpa using hb
      rcases hfirst : Token.first? c cs with _ | ⟨t, after⟩
      · obtain ⟨rfl, hno⟩ := Token.first?_eq_none_iff.mp hfirst
        exact ⟨ofLiteral cs hno, rfl⟩
      · obtain ⟨l, hl⟩ := ih _ (Nat.lt_succ_of_le (Token.length_after_le hfirst)) after rfl
        obtain ⟨ht, hend, hsource⟩ := (Token.first?_eq_some_iff hb).mp hfirst
        have hapart : Piece.Apart [⟨[], t, by simp, ht⟩] l.chars := by
          simpa [Piece.Apart, hl] using hend
        exact ⟨l.behind _ hapart, by simp [hl, Piece.chars, hsource]⟩

/-! ## Scans of layouts -/

theorem tokens_ofChars (l : Layout) (offset count : Nat) :
    (Scan.ofChars offset count l.chars).tokens = Piece.located offset l.pieces := by
  rw [chars, Scan.ofChars_text l.apart_rest, Scan.tokens_foldr_cons, Scan.ofChars_blanks l.blank]
  cases h : l.literal with
  | none => simp [rest_of_none h, Scan.ofChars_nil]
  | some body => simp [rest_of_some h, Scan.ofChars_literal (l.unclosed body h)]

/-- The tokens of a layout are determined by its characters. -/
theorem tokens_eq_map (l : Layout) :
    l.tokens = (Scan.ofChars 0 0 l.chars).tokens.map Located.token := by
  rw [tokens_ofChars, Piece.map_token_located, tokens]

theorem unclosed_ofChars (l : Layout) (offset count : Nat) :
    (Scan.ofChars offset count l.chars).unclosed = l.literal.map fun _ => offset + l.stop := by
  rw [chars, Scan.ofChars_text l.apart_rest, Scan.unclosed_foldr_cons, Scan.ofChars_blanks l.blank]
  cases h : l.literal with
  | none => simp [rest_of_none h, Scan.ofChars_nil]
  | some body =>
    simp [rest_of_some h, Scan.ofChars_literal (l.unclosed body h), stop, Nat.add_assoc]

/-- The stream of a text is what a layout of the text shows. -/
theorem tokenize_eq {l : Layout} {source : String} (h : l.chars = source.toList) :
    tokenize source = l.result := by
  unfold tokenize Scan.of Scan.result result
  rw [← h, unclosed_ofChars, tokens_ofChars, Piece.map_token_located]
  cases l.literal with
  | none => rfl
  | some body => simp

theorem result_eq_ok_iff {l : Layout} {ts : List Token} :
    l.result = .ok ts ↔ l.literal = none ∧ ts = l.tokens ++ [Token.endOfInput] := by
  unfold result
  cases l.literal with
  | none => simp [eq_comm]
  | some body => simp

theorem result_eq_error_iff {l : Layout} {e : ScanError} :
    l.result = .error e ↔ l.literal ≠ none ∧ e = .unterminatedString l.stop := by
  unfold result
  cases l.literal with
  | none => simp
  | some body => simp [eq_comm]

end Layout

theorem tokenize_nil : tokenize (.ofList []) = .ok [Token.endOfInput] := by
  decide +kernel

/-- The stream of a text shows the token that the text starts with, and then the stream of what
    follows that token. -/
theorem tokenize_of_first? {c : Char} {rest after : List Char} {t : Token} {ts : List Token}
    (hb : isBlank c = false) (hfirst : Token.first? c rest = some (t, after))
    (h : tokenize (.ofList after) = .ok ts) :
    tokenize (.ofList (c :: rest)) = .ok (t :: ts) := by
  obtain ⟨ht, hend, hsource⟩ := (Token.first?_eq_some_iff hb).mp hfirst
  obtain ⟨l, rfl⟩ := Layout.exists_chars_eq after
  have hapart : Piece.Apart [⟨[], t, blank_nil, ht⟩] l.chars := by
    simpa [Piece.Apart] using hend
  have hchars : (l.behind _ hapart).chars = (String.ofList (c :: rest)).toList := by
    simpa [Piece.chars] using hsource
  rw [Layout.tokenize_eq String.toList_ofList.symm, Layout.result_eq_ok_iff] at h
  obtain ⟨hnone, rfl⟩ := h
  rw [Layout.tokenize_eq hchars, Layout.result_eq_ok_iff, Layout.tokens_behind]
  exact ⟨hnone, rfl⟩

end ScriptLexer
