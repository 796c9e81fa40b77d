import Mathlib.Data.List.Nodup
import ScriptLexer.Proofs.Growth

/-!
# Cutting a text in two

A token covers a span of its text. A text may be cut at any place that lies in
no span, that is between two tokens, among blanks, or in front of an unclosed
literal. The two parts are then scanned one without the other, and nothing
changes. A cut inside a span is always seen.

Results:

* `Piece.pairwise_located`: the spans of a text lie one behind the other.
* `Layout.extract_of_mem_located`: a token occupies its span.
* `Layout.exists_cut`: a layout is cut at a place that lies in no span.
* `tokenize_cut`: the streams of the two parts of a text.
-/

namespace ScriptLexer

open ScriptLexer.Unicode

/-! ## Spans -/

namespace Located

/-- The index behind the last character that the token occupies. -/
def stop (l : Located) : Nat := l.offset + l.token.source.length

/-- The index `p` lies inside of the token: characters of it stand on both sides of `p`. -/
def Covers (l : Located) (p : Nat) : Prop := l.offset < p ∧ p < l.stop

instance (l : Located) (p : Nat) : Decidable (l.Covers p) :=
  inferInstanceAs (Decidable (_ ∧ _))

/-- The tokens that end at the index `p` or in front of it. -/
def upTo (p : Nat) (found : List Located) : List Token :=
  (found.filter (·.stop ≤ p)).map token

/-- The tokens that start at the index `p` or behind it. -/
def onwards (p : Nat) (found : List Located) : List Token :=
  (found.filter (p ≤ ·.offset)).map token

end Located

namespace Piece

variable {ps qs : List Piece} {offset : Nat} {found : Located}

theorem located_append (ps qs : List Piece) (offset : Nat) :
    located offset (ps ++ qs) = located offset ps ++ located (offset + (text ps).length) qs := by
  induction ps generalizing offset with
  | nil => rfl
  | cons p ps ih =>
    simp only [List.cons_append, located, ih, text_cons, List.length_append, Nat.add_assoc]

theorem wellFormed_of_mem_located (h : found ∈ located offset ps) : found.token.WellFormed := by
  have hmem := List.mem_map_of_mem (f := Located.token) h
  rw [map_token_located] at hmem
  obtain ⟨p, -, hp⟩ := List.mem_map.mp hmem
  rw [← hp]
  exact p.wellFormed

/-- No span is empty. -/
theorem offset_lt_stop (h : found ∈ located offset ps) : found.offset < found.stop := by
  have := List.length_pos_of_ne_nil (wellFormed_of_mem_located h).source_ne_nil
  unfold Located.stop
  omega

/-- All spans lie in the text. -/
theorem span_of_mem_located (h : found ∈ located offset ps) :
    offset ≤ found.offset ∧ found.stop ≤ offset + (text ps).length := by
  obtain ⟨before, after, htext, hoffset⟩ := exists_append_of_mem_located h
  have hlen := congrArg List.length htext
  simp only [List.length_append] at hlen
  unfold Located.stop
  omega

/-- The spans of a text lie one behind the other. -/
theorem pairwise_located (ps : List Piece) (offset : Nat) :
    (located offset ps).Pairwise fun a b => a.stop ≤ b.offset := by
  induction ps generalizing offset with
  | nil => exact .nil
  | cons p ps ih =>
    rw [located, List.pairwise_cons]
    refine ⟨fun found hfound => ?_, ih _⟩
    have := (span_of_mem_located hfound).1
    rw [chars, List.length_append] at this
    show offset + p.gap.length + p.token.source.length ≤ found.offset
    omega

theorem pairwise_offset_located (ps : List Piece) (offset : Nat) :
    (located offset ps).Pairwise fun a b => a.offset < b.offset := by
  refine (pairwise_located ps offset).imp_of_mem ?_
  intro a b ha _ hab
  exact Nat.lt_of_lt_of_le (offset_lt_stop ha) hab

/-- No two tokens of a text start at the same place. -/
theorem eq_of_offset_eq {l : Located} (h : found ∈ located offset ps) (hl : l ∈ located offset ps)
    (heq : found.offset = l.offset) : found = l := by
  have hnodup : ((located offset ps).map Located.offset).Nodup := by
    rw [List.Nodup, List.pairwise_map]
    exact (pairwise_offset_located ps offset).imp Nat.ne_of_lt
  exact List.inj_on_of_nodup_map hnodup h hl heq

/-- The piece without its blanks. -/
def flush (p : Piece) : Piece := { p with gap := [], blank := blank_nil }

@[simp] theorem chars_flush (p : Piece) : p.flush.chars = p.token.source := rfl

end Piece

namespace Layout

variable {l m n : Layout} {source : String} {found : Located}

/-- The located tokens of a scan, read off a layout. -/
theorem tokens_of (h : l.chars = source.toList) :
    (Scan.of source).tokens = Piece.located 0 l.pieces := by
  rw [Scan.of, ← h, tokens_ofChars]

/-- A token occupies its span. -/
theorem extract_of_mem_located (h : found ∈ Piece.located 0 l.pieces) :
    l.chars.extract found.offset found.stop = found.token.source := by
  obtain ⟨before, after, htext, hoffset⟩ := Piece.exists_append_of_mem_located h
  rw [Nat.zero_add] at hoffset
  have hchars : l.chars = before ++ (found.token.source ++ (after ++ (l.gap ++ l.rest))) := by
    simp [chars, htext]
  have hlen : found.stop - found.offset = found.token.source.length := Nat.add_sub_cancel_left ..
  rw [List.extract_eq_take_drop, hlen, hchars, hoffset, List.drop_left' rfl, List.take_left' rfl]

/-! ## Two layouts in a row -/

theorem located_indent (l : Layout) (gap : List Char) (h : ∀ c ∈ gap, isBlank c = true)
    (offset : Nat) :
    Piece.located offset (l.indent gap h).pieces =
      Piece.located (offset + gap.length) l.pieces := by
  unfold indent
  split
  · next hps => rw [hps]; rfl
  · next p ps hps =>
    show _ = Piece.located (offset + gap.length) l.pieces
    simp only [hps, Piece.located, Piece.chars, List.length_append, Nat.add_assoc]

section append

variable (h : Piece.Apart l.pieces (l.gap ++ m.chars)) (hnone : l.literal = none)
include hnone

theorem located_append :
    Piece.located 0 (l.append m h).pieces =
      Piece.located 0 l.pieces ++ Piece.located l.chars.length m.pieces := by
  have hlen : l.chars.length = (Piece.text l.pieces).length + l.gap.length := by
    rw [chars_of_none hnone, List.length_append]
  show Piece.located 0 (l.pieces ++ (m.indent l.gap l.blank).pieces) = _
  rw [Piece.located_append, located_indent, hlen, Nat.zero_add]

theorem stop_le_length (hmem : found ∈ Piece.located 0 l.pieces) :
    found.stop ≤ l.chars.length := by
  have hspan := (Piece.span_of_mem_located hmem).2
  rw [chars_of_none hnone, List.length_append]
  omega

/-- Where two texts meet, no token of the two in a row is cut. -/
theorem not_covers_append :
    ∀ found ∈ Piece.located 0 (l.append m h).pieces, ¬ found.Covers l.chars.length := by
  intro found hfound
  rw [located_append h hnone] at hfound
  unfold Located.Covers
  rcases List.mem_append.mp hfound with hfound | hfound
  · have := stop_le_length hnone hfound
    omega
  · have := (Piece.span_of_mem_located hfound).1
    omega

/-- The tokens of the first text are those that end up to the place where the texts meet. -/
theorem upTo_append :
    Located.upTo l.chars.length (Piece.located 0 (l.append m h).pieces) = l.tokens := by
  have hfront : (Piece.located 0 l.pieces).filter (·.stop ≤ l.chars.length) =
      Piece.located 0 l.pieces := by
    rw [List.filter_eq_self]
    intro found hfound
    exact decide_eq_true (stop_le_length hnone hfound)
  have hback : (Piece.located l.chars.length m.pieces).filter (·.stop ≤ l.chars.length) = [] := by
    rw [List.filter_eq_nil_iff]
    intro found hfound
    have hle := (Piece.span_of_mem_located hfound).1
    have hlt := Piece.offset_lt_stop hfound
    rw [decide_eq_true_iff]
    omega
  rw [Located.upTo, located_append h hnone, List.filter_append, hfront, hback, List.append_nil,
    Piece.map_token_located, tokens]

/-- The tokens of the second text are those that start from there on. -/
theorem onwards_append :
    Located.onwards l.chars.length (Piece.located 0 (l.append m h).pieces) = m.tokens := by
  have hfront : (Piece.located 0 l.pieces).filter (l.chars.length ≤ ·.offset) = [] := by
    rw [List.filter_eq_nil_iff]
    intro found hfound
    have hle := stop_le_length hnone hfound
    have hlt := Piece.offset_lt_stop hfound
    rw [decide_eq_true_iff]
    omega
  have hback : (Piece.located l.chars.length m.pieces).filter (l.chars.length ≤ ·.offset) =
      Piece.located l.chars.length m.pieces := by
    rw [List.filter_eq_self]
    intro found hfound
    exact decide_eq_true (Piece.span_of_mem_located hfound).1
  rw [Located.onwards, located_append h hnone, List.filter_append, hfront, hback, List.nil_append,
    Piece.map_token_located, tokens]

end append

/-! ## Cuts -/

/-- The layout of what stands behind the last token. -/
def tail (n : Layout) : Layout := { n with pieces := [], apart := trivial }

@[simp] theorem literal_tail (n : Layout) : n.tail.literal = n.literal := rfl

@[simp] theorem tokens_tail (n : Layout) : n.tail.tokens = [] := rfl

@[simp] theorem chars_tail (n : Layout) : n.tail.chars = n.gap ++ n.rest := rfl

theorem apart_tail (n : Layout) : Piece.Apart n.pieces n.tail.chars := n.apart_rest

/-- The layout of what stands behind the last blanks. -/
def ending (n : Layout) : Layout :=
  { n with pieces := [], gap := [], blank := blank_nil, apart := trivial }

@[simp] theorem chars_ending (n : Layout) : n.ending.chars = n.rest := rfl

/-- Blanks in front of a layout are cut at any place among them. -/
theorem exists_cut_blanks (n : Layout) {gap : List Char} (h : ∀ c ∈ gap, isBlank c = true)
    {p : Nat} (hp : p ≤ gap.length) :
    ∃ l m : Layout, l.literal = none ∧ m.literal = n.literal ∧
      l.chars ++ m.chars = gap ++ n.chars ∧ l.chars.length = p ∧
      Piece.Apart l.pieces (l.gap ++ m.chars) := by
  have htake : ∀ c ∈ gap.take p, isBlank c = true := fun c hc => h c (List.mem_of_mem_take hc)
  have hdrop : ∀ c ∈ gap.drop p, isBlank c = true := fun c hc => h c (List.mem_of_mem_drop hc)
  refine ⟨ofGap (gap.take p) htake, n.indent (gap.drop p) hdrop, rfl, literal_indent .., ?_, ?_,
    trivial⟩
  · rw [chars_ofGap, chars_indent, ← List.append_assoc, List.take_append_drop]
  · rw [chars_ofGap, List.length_take, Nat.min_eq_left hp]

/-- Some pieces in front of a layout without pieces are cut at a place that lies in no span. -/
theorem exists_cut_behind {ps : List Piece} (offset : Nat) {p : Nat} (hn : n.pieces = [])
    (h : Piece.Apart ps n.chars) (hp : p ≤ (Piece.text ps).length + n.gap.length)
    (hcut : ∀ found ∈ Piece.located offset ps, ¬ found.Covers (offset + p)) :
    ∃ l m : Layout, l.literal = none ∧ m.literal = n.literal ∧
      l.chars ++ m.chars = Piece.text ps ++ n.chars ∧ l.chars.length = p ∧
      Piece.Apart l.pieces (l.gap ++ m.chars) := by
  induction ps generalizing offset p with
  | nil =>
    have hchars : n.chars = n.gap ++ n.ending.chars := by
      rw [chars_ending, chars, hn]
      rfl
    rw [Piece.text_nil, List.length_nil, Nat.zero_add] at hp
    rw [Piece.text_nil, List.nil_append, hchars]
    exact n.ending.exists_cut_blanks n.blank hp
  | cons q ps ih =>
    have hlen : q.chars.length = q.gap.length + q.token.source.length := List.length_append
    rw [Piece.text_cons, List.length_append] at hp
    -- The place lies among the blanks in front of the first token, or behind that token.
    rcases Nat.lt_or_ge q.gap.length p with hlt | hle
    · obtain ⟨hend, hrest⟩ := h
      have hge : q.chars.length ≤ p := by
        have := hcut ⟨offset + q.gap.length, q.token⟩ List.mem_cons_self
        unfold Located.Covers Located.stop at this
        dsimp only at this
        omega
      have hplace : offset + q.chars.length + (p - q.chars.length) = offset + p := by omega
      obtain ⟨l, m, hl, hm, hchars, hstop, hapart⟩ :=
        ih (offset + q.chars.length) (p := p - q.chars.length) hrest (by omega)
          (by rw [hplace]; exact fun found hfound => hcut found (List.mem_cons_of_mem _ hfound))
      have hq : Piece.Apart [q] l.chars := by
        rw [← hchars] at hend
        exact ⟨hend.of_append, trivial⟩
      refine ⟨l.behind [q] hq, m, hl, hm, ?_, ?_, ?_, hapart⟩
      · rw [chars_behind, List.append_assoc, hchars]
        simp
      · rw [chars_behind, List.length_append, hstop, Piece.text_cons, Piece.text_nil,
          List.append_nil]
        omega
      · show q.token.EndsBefore (Piece.text l.pieces ++ (l.gap ++ m.chars))
        rw [← List.append_assoc, ← chars_of_none hl, hchars]
        exact hend
    · have hapart : Piece.Apart (q.flush :: ps) n.chars := h
      have hchars : Piece.text (q :: ps) ++ n.chars =
          q.gap ++ (n.behind (q.flush :: ps) hapart).chars := by
        rw [chars_behind, Piece.text_cons, Piece.text_cons, Piece.chars_flush, Piece.chars]
        simp only [List.append_assoc]
      rw [hchars]
      exact (n.behind (q.flush :: ps) hapart).exists_cut_blanks q.blank hle

/-- A layout is cut at a place that lies in no span and not in an unclosed literal. -/
theorem exists_cut {p : Nat} (hp : p ≤ n.stop)
    (hcut : ∀ found ∈ Piece.located 0 n.pieces, ¬ found.Covers p) :
    ∃ (l m : Layout) (_ : Piece.Apart l.pieces (l.gap ++ m.chars)), l.literal = none ∧
      m.literal = n.literal ∧ l.chars = n.chars.take p ∧ m.chars = n.chars.drop p := by
  obtain ⟨l, m, hl, hm, hchars, hlen, hapart⟩ :=
    exists_cut_behind (n := n.tail) 0 rfl n.apart_tail hp (by rwa [Nat.zero_add])
  have hn : n.chars = l.chars ++ m.chars := hchars.symm
  exact ⟨l, m, hapart, hl, hm, by rw [hn, List.take_left' hlen], by rw [hn, List.drop_left' hlen]⟩

/-! ## The streams of the two parts -/

section parts

variable (h : Piece.Apart l.pieces (l.gap ++ m.chars)) (hnone : l.literal = none) {p : Nat}
  (hfront : l.chars = source.toList.take p) (hback : m.chars = source.toList.drop p)
include hnone hfront hback

theorem chars_append_parts : (l.append m h).chars = source.toList := by
  rw [chars_append h hnone, hfront, hback, List.take_append_drop]

variable (hp : p ≤ source.length)
include h hp

/-- Two parts of a text that stay apart share out the tokens of the text, and cut none. -/
theorem tokens_of_parts :
    l.tokens = Located.upTo p (Scan.of source).tokens ∧
      m.tokens = Located.onwards p (Scan.of source).tokens ∧
      l.tokens ++ m.tokens = (Scan.of source).tokens.map Located.token ∧
      ∀ found ∈ (Scan.of source).tokens, ¬ found.Covers p := by
  have hlen : l.chars.length = p := by
    rw [hfront, List.length_take, String.length_toList, Nat.min_eq_left hp]
  rw [tokens_of (chars_append_parts h hnone hfront hback), Piece.map_token_located, ← hlen]
  exact ⟨(upTo_append h hnone).symm, (onwards_append h hnone).symm, (tokens_append h).symm,
    not_covers_append h hnone⟩

theorem tokenize_parts :
    tokenize (.ofList (source.toList.take p)) =
        .ok (Located.upTo p (Scan.of source).tokens ++ [Token.endOfInput]) ∧
      tokenize (.ofList (source.toList.drop p)) = m.result := by
  have hl : l.chars = (String.ofList (source.toList.take p)).toList := by
    rw [hfront, String.toList_ofList]
  have hm : m.chars = (String.ofList (source.toList.drop p)).toList := by
    rw [hback, String.toList_ofList]
  rw [tokenize_eq hl, tokenize_eq hm, result_eq_ok_iff,
    (tokens_of_parts h hnone hfront hback hp).1]
  exact ⟨⟨hnone, rfl⟩, rfl⟩

end parts

section

variable {p : Nat} (hn : n.chars = source.toList)
include hn

/-- The two parts of a text with a stream that is cut at a place in no span. -/
theorem tokenize_cut_of_none (hnone : n.literal = none) (hp : p ≤ source.length)
    (hcut : ∀ found ∈ (Scan.of source).tokens, ¬ found.Covers p) :
    tokenize (.ofList (source.toList.take p)) =
        .ok (Located.upTo p (Scan.of source).tokens ++ [Token.endOfInput]) ∧
      tokenize (.ofList (source.toList.drop p)) =
        .ok (Located.onwards p (Scan.of source).tokens ++ [Token.endOfInput]) ∧
      Located.upTo p (Scan.of source).tokens ++ Located.onwards p (Scan.of source).tokens =
        (Scan.of source).tokens.map Located.token := by
  have hstop : p ≤ n.stop := by
    have := n.length_chars
    rw [hn, String.length_toList, rest_of_none hnone, List.length_nil] at this
    omega
  rw [tokens_of hn] at hcut
  obtain ⟨l, m, h, hl, hm, hfront, hback⟩ := exists_cut hstop hcut
  rw [hn] at hfront hback
  obtain ⟨hus, hvs⟩ := tokenize_parts h hl hfront hback hp
  obtain ⟨hupTo, honwards, hboth, -⟩ := tokens_of_parts h hl hfront hback hp
  refine ⟨hus, hvs.trans (result_eq_ok_iff.mpr ⟨hm.trans hnone, ?_⟩), ?_⟩
  · rw [honwards]
  · rw [← hupTo, ← honwards, hboth]

/-- Two parts whose streams in a row are the stream of the text cut no token of it. -/
theorem not_covers_of_tokenize {us vs : List Token}
    (hts : n.tokens ++ [Token.endOfInput] = us ++ vs) (hp : p ≤ source.length)
    (hus : tokenize (.ofList (source.toList.take p)) = .ok (us ++ [Token.endOfInput]))
    (hvs : tokenize (.ofList (source.toList.drop p)) = .ok vs) :
    ∀ found ∈ (Scan.of source).tokens, ¬ found.Covers p := by
  obtain ⟨l, hl⟩ := exists_chars_eq (source.toList.take p)
  obtain ⟨m, hm⟩ := exists_chars_eq (source.toList.drop p)
  rw [tokenize_eq (hl.trans String.toList_ofList.symm), result_eq_ok_iff] at hus
  rw [tokenize_eq (hm.trans String.toList_ofList.symm), result_eq_ok_iff] at hvs
  obtain ⟨hnone, hus⟩ := hus
  obtain ⟨-, rfl⟩ := hvs
  rw [List.append_cancel_right hus, ← List.append_assoc] at hts
  -- The first part shows tokens of the text, so they stay apart in front of the second part.
  have hchars : n.chars = l.chars ++ m.chars := by rw [hn, hl, hm, List.take_append_drop]
  have h := apart_of_tokens hnone hchars (List.append_cancel_right hts)
  exact (tokens_of_parts h hnone hl hm hp).2.2.2

/-- The two parts of a text with an unclosed literal that is cut in front of the literal. -/
theorem tokenize_cut_of_some (hsome : n.literal ≠ none) (hp : p ≤ n.stop)
    (hcut : ∀ found ∈ (Scan.of source).tokens, ¬ found.Covers p) :
    tokenize (.ofList (source.toList.take p)) =
        .ok (Located.upTo p (Scan.of source).tokens ++ [Token.endOfInput]) ∧
      tokenize (.ofList (source.toList.drop p)) =
        .error (.unterminatedString (n.stop - p)) := by
  have hlength := n.length_chars
  rw [hn, String.length_toList] at hlength
  rw [tokens_of hn] at hcut
  obtain ⟨l, m, h, hl, hm, hfront, hback⟩ := exists_cut hp hcut
  rw [hn] at hfront hback
  obtain ⟨hus, hvs⟩ := tokenize_parts h hl hfront hback (by omega)
  refine ⟨hus, hvs.trans (result_eq_error_iff.mpr ⟨by rwa [hm], ?_⟩)⟩
  -- Both parts in a row fail where the text does.
  have hstop : (l.append m h).stop = n.stop := by
    have hchars := (chars_append_parts h hl hfront hback).trans hn.symm
    have hboth := stop_add_length_chars ((literal_append h).trans hm)
    rwa [hchars, Nat.add_right_cancel_iff] at hboth
  have hlen : l.chars.length = p := by
    rw [hfront, List.length_take, String.length_toList]
    omega
  rw [stop_append h hl, hlen] at hstop
  congr 1
  omega

theorem tokens_of_take_stop :
    (Scan.of (.ofList (source.toList.take n.stop))).tokens = (Scan.of source).tokens := by
  have hchars : n.settled.chars = (String.ofList (source.toList.take n.stop)).toList := by
    rw [chars_settled, hn, String.toList_ofList]
  rw [tokens_of hchars, tokens_of hn]
  show Piece.located 0 (n.pieces ++ []) = _
  rw [List.append_nil]

end

end Layout

/-- **A text may be cut between its tokens, and only there.** A text with a stream is cut at the
    index `p`. Both parts have a stream, and the two streams in a row are the stream of the text,
    exactly if no token covers `p`. Then the first stream shows the tokens that end up to `p`, and
    the second one those that start from `p` on. A text with an unclosed literal may be cut at or
    in front of the quote that opens it. If no token covers the place, the first part shows the
    tokens in front of it, and the second part fails at the same quote. -/
theorem tokenize_cut (source : String) (p : Nat) (hp : p ≤ source.length) :
    (∀ ts, tokenize source = .ok ts →
      ts = (Scan.of source).tokens.map Located.token ++ [Token.endOfInput] ∧
      (∀ l ∈ (Scan.of source).tokens,
        source.toList.extract l.offset l.stop = l.token.source) ∧
      ((∃ us vs, tokenize (.ofList (source.toList.take p)) = .ok (us ++ [Token.endOfInput]) ∧
          tokenize (.ofList (source.toList.drop p)) = .ok vs ∧ us ++ vs = ts) ↔
        ∀ l ∈ (Scan.of source).tokens, ¬ l.Covers p) ∧
      ((∀ l ∈ (Scan.of source).tokens, ¬ l.Covers p) →
        tokenize (.ofList (source.toList.take p)) =
            .ok (Located.upTo p (Scan.of source).tokens ++ [Token.endOfInput]) ∧
          tokenize (.ofList (source.toList.drop p)) =
            .ok (Located.onwards p (Scan.of source).tokens ++ [Token.endOfInput]))) ∧
    ∀ k, tokenize source = .error (.unterminatedString k) → p ≤ k →
      (∀ l ∈ (Scan.of (.ofList (source.toList.take k))).tokens, ¬ l.Covers p) →
      tokenize (.ofList (source.toList.take p)) =
          .ok (Located.upTo p (Scan.of (.ofList (source.toList.take k))).tokens ++
            [Token.endOfInput]) ∧
        tokenize (.ofList (source.toList.drop p)) = .error (.unterminatedString (k - p)) := by
  obtain ⟨n, hn⟩ := Layout.exists_chars_eq source.toList
  constructor
  · intro ts hts
    rw [Layout.tokenize_eq hn, Layout.result_eq_ok_iff] at hts
    obtain ⟨hnone, rfl⟩ := hts
    have hparts := Layout.tokenize_cut_of_none hn hnone hp
    have htokens : n.tokens = (Scan.of source).tokens.map Located.token := by
      rw [Layout.tokens_of hn, Piece.map_token_located, Layout.tokens]
    refine ⟨by rw [htokens], ?_, ⟨?_, fun hcut => ?_⟩, fun hcut => ?_⟩
    · rw [Layout.tokens_of hn, ← hn]
      exact fun found hmem => Layout.extract_of_mem_located hmem
    · rintro ⟨us, vs, hus, hvs, hboth⟩
      exact Layout.not_covers_of_tokenize hn hboth.symm hp hus hvs
    · obtain ⟨hus, hvs, hboth⟩ := hparts hcut
      exact ⟨_, _, hus, hvs, by rw [← List.append_assoc, hboth, htokens]⟩
    · obtain ⟨hus, hvs, -⟩ := hparts hcut
      exact ⟨hus, hvs⟩
  · intro k hk hle hcut
    rw [Layout.tokenize_eq hn, Layout.result_eq_error_iff] at hk
    obtain ⟨hsome, hk⟩ := hk
    obtain rfl := ScanError.unterminatedString.inj hk
    rw [Layout.tokens_of_take_stop hn] at hcut ⊢
    exact Layout.tokenize_cut_of_some hn hsome hle hcut

/-- `a<=1` may be cut behind `a`, and not inside of `<=`. The text `a "b` may be cut behind `a`,
    and its second part then fails at the quote. -/
theorem tokenize_cut_at_comparison :
    (tokenize "a" = .ok [Token.ofChars .identifier ['a'], Token.endOfInput] ∧
      tokenize "<=1" = .ok [Token.ofChars .lessOrEqual ['<', '='], Token.ofChars .number ['1'],
        Token.endOfInput]) ∧
    (¬ ∃ us vs, tokenize "a<" = .ok (us ++ [Token.endOfInput]) ∧ tokenize "=1" = .ok vs ∧
      us ++ vs = [Token.ofChars .identifier ['a'], Token.ofChars .lessOrEqual ['<', '='],
        Token.ofChars .number ['1'], Token.endOfInput]) ∧
    tokenize " \"b" = .error (.unterminatedString 1) := by
  have hstream : tokenize "a<=1" = .ok [Token.ofChars .identifier ['a'],
      Token.ofChars .lessOrEqual ['<', '='], Token.ofChars .number ['1'], Token.endOfInput] := by
    decide +kernel
  have hfound : (Scan.of "a<=1").tokens = [⟨0, Token.ofChars .identifier ['a']⟩,
      ⟨1, Token.ofChars .lessOrEqual ['<', '=']⟩, ⟨3, Token.ofChars .number ['1']⟩] := by
    decide +kernel
  have hfront : (Scan.of "a ").tokens = [⟨0, Token.ofChars .identifier ['a']⟩] := by decide +kernel
  have hopen : tokenize "a \"b" = .error (.unterminatedString 2) := by decide +kernel
  refine ⟨?_, ?_, ?_⟩
  · have hcut := ((tokenize_cut "a<=1" 1 (by decide)).1 _ hstream).2.2.2
    rw [hfound] at hcut
    exact hcut (by decide)
  · have hcut := ((tokenize_cut "a<=1" 2 (by decide)).1 _ hstream).2.2.1
    intro h
    have hno := hcut.mp h
    rw [hfound] at hno
    exact absurd hno (by decide)
  · have hcut := (tokenize_cut "a \"b" 1 (by decide)).2 2 hopen (by decide)
    have hfree : ∀ l ∈ (Scan.of "a ").tokens, ¬ l.Covers 1 := by
      rw [hfront]
      decide
    exact (hcut hfree).2

end ScriptLexer
