import ScriptLexer.Proofs.Cuts
import ScriptLexer.Proofs.RoundTrip

/-!
# Going on behind an unrecognized character

A character that begins no token becomes an unrecognized token, and the scan
goes on behind it. To all other tokens such a character is as good as a blank.
So blanks may be written over some of the unrecognized characters of a text:
the tokens of these characters are gone, and nothing else changes.

Results:

* `Piece.overwrite_chars`, `Piece.overwrite_chars_unrecognized`: what is written over a
  single piece.
* `Layout.exists_overwritten`: the layout of a text after blanks were written over
  unrecognized characters.
* `tokenize_overwrite`: the stream of the text after that.
-/

namespace ScriptLexer

open ScriptLexer.Unicode

/-! ## Writing over characters -/

/-- The characters `cs`, the first of which has the index `i` in a text, after those that stand
    at an index for which `fill` names a character have been replaced by it. -/
def overwrite (fill : Nat → Option Char) (i : Nat) : List Char → List Char
  | [] => []
  | c :: cs => (fill i).getD c :: overwrite fill (i + 1) cs

section overwrite

variable (fill : Nat → Option Char)

@[simp] theorem length_overwrite (i : Nat) (cs : List Char) :
    (overwrite fill i cs).length = cs.length := by
  induction cs generalizing i with
  | nil => rfl
  | cons c cs ih => rw [overwrite, List.length_cons, List.length_cons, ih]

theorem overwrite_append (i : Nat) (cs ds : List Char) :
    overwrite fill i (cs ++ ds) = overwrite fill i cs ++ overwrite fill (i + cs.length) ds := by
  induction cs generalizing i with
  | nil => rfl
  | cons c cs ih =>
    rw [List.cons_append, overwrite, overwrite, ih, List.cons_append, List.length_cons,
      Nat.add_right_comm, Nat.add_assoc]

variable {fill}

theorem overwrite_eq_self {i : Nat} {cs : List Char}
    (h : ∀ j, i ≤ j → j < i + cs.length → fill j = none) : overwrite fill i cs = cs := by
  induction cs generalizing i with
  | nil => rfl
  | cons c cs ih =>
    rw [List.length_cons] at h
    have hrest : ∀ j, i + 1 ≤ j → j < i + 1 + cs.length → fill j = none := by
      intro j hle hlt
      exact h j (by omega) (by omega)
    rw [overwrite, h i (Nat.le_refl i) (by omega), ih hrest, Option.getD_none]

/-- What is written over a text by blanks joins no token that the text does not join. -/
theorem Token.EndsBefore.overwrite {t : Token} {cs ds : List Char} (h : t.EndsBefore (cs ++ ds))
    (hblank : ∀ i b, fill i = some b → isBlank b = true) (i : Nat) :
    t.EndsBefore (overwrite fill i cs ++ ds) := by
  cases cs with
  | nil => exact h
  | cons c cs =>
    show t.joins ((fill i).getD c) = false
    cases hi : fill i with
    | none => exact h
    | some b => exact t.joins_of_isBlank (hblank i b hi)

end overwrite

/-! ## Writing over unrecognized characters -/

namespace Piece

variable {fill : Nat → Option Char} {offset : Nat} {p : Piece} {ps : List Piece}

/-- Blanks are written over unrecognized tokens only: where `fill` names a character in the text
    of the pieces, that character is a blank, and an unrecognized token of them stands there. -/
def Fills (fill : Nat → Option Char) (offset : Nat) (ps : List Piece) : Prop :=
  ∀ i b, fill i = some b → offset ≤ i → i < offset + (text ps).length →
    ∃ l ∈ located offset ps, l.offset = i ∧ l.token.kind = .unrecognized

theorem Fills.tail (h : Fills fill offset (p :: ps)) : Fills fill (offset + p.chars.length) ps := by
  intro i b hi hle hlt
  have hlen : p.chars.length = p.gap.length + p.token.source.length := List.length_append
  rw [Fills, text_cons, List.length_append] at h
  obtain ⟨l, hl, hoffset, hk⟩ := h i b hi (by omega) (by omega)
  rcases List.mem_cons.mp hl with rfl | hl
  · have := p.wellFormed.length_source_of_unrecognized hk
    dsimp only at hoffset
    omega
  · exact ⟨l, hl, hoffset, hk⟩

/-- Of the first piece, at most the token is written over, and that only if it is unrecognized. -/
theorem Fills.head (h : Fills fill offset (p :: ps)) {i : Nat} {b : Char} (hi : fill i = some b)
    (hle : offset ≤ i) (hlt : i < offset + p.chars.length) :
    i = offset + p.gap.length ∧ p.token.kind = .unrecognized := by
  rw [Fills, text_cons, List.length_append] at h
  obtain ⟨l, hl, rfl, hk⟩ := h i b hi hle (by omega)
  rcases List.mem_cons.mp hl with rfl | hl
  · exact ⟨rfl, hk⟩
  · have := (span_of_mem_located hl).1
    omega

/-- A token at a place that is written over is unrecognized. -/
theorem Fills.kind_eq (h : Fills fill offset ps) {l : Located} (hl : l ∈ located offset ps)
    (hfill : fill l.offset ≠ none) : l.token.kind = .unrecognized := by
  obtain ⟨b, hb⟩ := Option.ne_none_iff_exists'.mp hfill
  have hspan := span_of_mem_located hl
  have hlt := offset_lt_stop hl
  obtain ⟨found, hfound, heq, hk⟩ := h l.offset b hb hspan.1 (by omega)
  rwa [← eq_of_offset_eq hfound hl heq]

/-- So the tokens at places that are written over are the unrecognized ones among them. -/
theorem Fills.filter_eq (h : Fills fill offset ps) :
    ((located offset ps).filter fun l => ¬ (l.token.kind = .unrecognized ∧ fill l.offset ≠ none)) =
      (located offset ps).filter fun l => fill l.offset = none := by
  apply List.filter_congr
  intro found hmem
  have hk := h.kind_eq hmem
  by_cases hnone : fill found.offset = none <;> simp [hnone, hk]

/-- Nothing is written over behind the last token. -/
theorem overwrite_behind (cs : List Char)
    (h : ∀ i b, fill i = some b → ∃ l ∈ located 0 ps, l.offset = i) :
    overwrite fill (text ps).length cs = cs := by
  apply overwrite_eq_self
  intro i hle _
  cases hi : fill i with
  | none => rfl
  | some b =>
    obtain ⟨found, hmem, rfl⟩ := h i b hi
    have hspan := (span_of_mem_located hmem).2
    have hlt := offset_lt_stop hmem
    omega

theorem overwrite_chars (h : Fills fill offset (p :: ps))
    (hnone : fill (offset + p.gap.length) = none) : overwrite fill offset p.chars = p.chars := by
  apply overwrite_eq_self
  intro i hle hlt
  cases hi : fill i with
  | none => rfl
  | some b =>
    obtain ⟨rfl, -⟩ := h.head hi hle hlt
    simp [hnone] at hi

theorem overwrite_chars_unrecognized {b : Char} (h : Fills fill offset (p :: ps))
    (hsome : fill (offset + p.gap.length) = some b) :
    overwrite fill offset p.chars = p.gap ++ [b] := by
  have hlen : p.chars.length = p.gap.length + p.token.source.length := List.length_append
  have hpos := List.length_pos_of_ne_nil p.wellFormed.source_ne_nil
  obtain ⟨-, hk⟩ := h.head hsome (by omega) (by omega)
  obtain ⟨c, -, hsource⟩ := p.wellFormed.exists_of_unrecognized hk
  have hgap : overwrite fill offset p.gap = p.gap := by
    apply overwrite_eq_self
    intro i hle hlt
    cases hi : fill i with
    | none => rfl
    | some d =>
      have := (h.head hi hle (by omega)).1
      omega
  rw [chars, hsource, overwrite_append, hgap, overwrite, hsome]
  rfl

end Piece

namespace Layout

variable {fill : Nat → Option Char}

/-- The layout of some pieces in front of a layout, after blanks were written over unrecognized
    tokens of the pieces. -/
theorem exists_overwritten {ps : List Piece} {base : Layout} {offset : Nat}
    (hblank : ∀ i b, fill i = some b → isBlank b = true) (hfill : Piece.Fills fill offset ps)
    (h : Piece.Apart ps base.chars) :
    ∃ l : Layout, l.chars = overwrite fill offset (Piece.text ps) ++ base.chars ∧
      l.literal = base.literal ∧
      l.tokens = ((Piece.located offset ps).filter fun l => fill l.offset = none).map
        Located.token ++ base.tokens := by
  induction ps generalizing offset with
  | nil => exact ⟨base, rfl, rfl, rfl⟩
  | cons p ps ih =>
    obtain ⟨hend, hrest⟩ := h
    obtain ⟨l, hchars, hliteral, htokens⟩ := ih hfill.tail hrest
    have htext : overwrite fill offset (Piece.text (p :: ps)) ++ base.chars =
        overwrite fill offset p.chars ++ l.chars := by
      rw [Piece.text_cons, overwrite_append, hchars, List.append_assoc]
    rw [htext, Piece.located, List.filter_cons]
    cases hp : fill (offset + p.gap.length) with
    | none =>
      have hapart : Piece.Apart [p] l.chars := by
        rw [hchars]
        exact ⟨hend.overwrite hblank _, trivial⟩
      refine ⟨l.behind [p] hapart, ?_, hliteral, ?_⟩
      · rw [chars_behind, Piece.overwrite_chars hfill hp]
        simp
      · rw [tokens_behind, htokens]
        simp
    | some b =>
      -- The blank and those in front of it stand in front of the next token now.
      have hgap : ∀ c ∈ p.gap ++ [b], isBlank c = true :=
        List.forall_mem_append.mpr ⟨p.blank, by simpa using hblank _ b hp⟩
      refine ⟨l.indent (p.gap ++ [b]) hgap, ?_, ?_, ?_⟩
      · rw [chars_indent, Piece.overwrite_chars_unrecognized hfill hp]
      · rw [literal_indent, hliteral]
      · rw [tokens_indent, htokens]
        simp

end Layout

/-- **Unrecognized characters are as good as blanks.** Blanks are written over some of the
    unrecognized characters of a text, any blank over each one. Then the text fails where it
    failed, or its stream lacks the tokens of these characters, and is the same otherwise. -/
theorem tokenize_overwrite (source : String) (fill : Nat → Option Char)
    (hfill : ∀ i b, fill i = some b → isBlank b = true ∧
      ∃ l ∈ (Scan.of source).tokens, l.offset = i ∧ l.token.kind = .unrecognized) :
    (∀ k, tokenize source = .error (.unterminatedString k) →
      tokenize (.ofList (overwrite fill 0 source.toList)) = .error (.unterminatedString k)) ∧
    ∀ ts, tokenize source = .ok ts →
      ts = (Scan.of source).tokens.map Located.token ++ [Token.endOfInput] ∧
      tokenize (.ofList (overwrite fill 0 source.toList)) =
        .ok (((Scan.of source).tokens.filter fun l =>
          ¬ (l.token.kind = .unrecognized ∧ fill l.offset ≠ none)).map Located.token ++
            [Token.endOfInput]) := by
  obtain ⟨n, hn⟩ := Layout.exists_chars_eq source.toList
  have hfound := Layout.tokens_of hn
  rw [hfound] at hfill ⊢
  have hblank : ∀ i b, fill i = some b → isBlank b = true := fun i b hi => (hfill i b hi).1
  have hfills : Piece.Fills fill 0 n.pieces := fun i b hi _ _ => (hfill i b hi).2
  obtain ⟨l, hl, hliteral, htokens⟩ := Layout.exists_overwritten hblank hfills n.apart_tail
  rw [Layout.chars_tail] at hl
  rw [Layout.literal_tail] at hliteral
  rw [Layout.tokens_tail, List.append_nil] at htokens
  have hbehind : overwrite fill (Piece.text n.pieces).length (n.gap ++ n.rest) =
      n.gap ++ n.rest := by
    apply Piece.overwrite_behind
    intro i b hi
    obtain ⟨-, found, hmem, hoffset, -⟩ := hfill i b hi
    exact ⟨found, hmem, hoffset⟩
  have hover : l.chars = overwrite fill 0 source.toList := by
    rw [hl, ← hn, Layout.chars, overwrite_append, Nat.zero_add, hbehind]
  rw [Layout.tokenize_eq hn, Layout.tokenize_eq (hover.trans String.toList_ofList.symm)]
  constructor
  · intro k hk
    obtain ⟨hsome, hk⟩ := Layout.result_eq_error_iff.mp hk
    -- The length and the literal are the same, so the literal starts where it started.
    have hstop : l.stop = n.stop := by
      have hboth := Layout.stop_add_length_chars hliteral
      rwa [hover, length_overwrite, ← hn, Nat.add_right_cancel_iff] at hboth
    rw [Layout.result_eq_error_iff, hliteral, hstop]
    exact ⟨hsome, hk⟩
  · intro ts hts
    obtain ⟨hnone, rfl⟩ := Layout.result_eq_ok_iff.mp hts
    rw [Piece.map_token_located, hfills.filter_eq, ← htokens]
    exact ⟨rfl, Layout.result_eq_ok_iff.mpr ⟨hliteral.trans hnone, rfl⟩⟩

/-- In `7_x!=!` followed by U+0000, blanks are written over `_` and over the second `!`. The first
    `!` belongs to `!=`, and the token of U+0000 stays. The quote of `_"` is not closed, whether or
    not there is a blank in front of it. -/
theorem tokenize_overwrite_marks :
    tokenize "7 x!=\n\x00" = .ok [Token.ofChars .number ['7'], Token.ofChars .identifier ['x'],
      Token.ofChars .notEqual ['!', '='], Token.ofChars .unrecognized ['\x00'],
      Token.endOfInput] ∧
    tokenize "\t\"" = .error (.unterminatedString 1) := by
  have hfound : (Scan.of "7_x!=!\x00").tokens = [⟨0, Token.ofChars .number ['7']⟩,
      ⟨1, Token.ofChars .unrecognized ['_']⟩, ⟨2, Token.ofChars .identifier ['x']⟩,
      ⟨3, Token.ofChars .notEqual ['!', '=']⟩, ⟨5, Token.ofChars .unrecognized ['!']⟩,
      ⟨6, Token.ofChars .unrecognized ['\x00']⟩] := by decide +kernel
  have hstream : tokenize "7_x!=!\x00" = .ok [Token.ofChars .number ['7'],
      Token.ofChars .unrecognized ['_'], Token.ofChars .identifier ['x'],
      Token.ofChars .notEqual ['!', '='], Token.ofChars .unrecognized ['!'],
      Token.ofChars .unrecognized ['\x00'], Token.endOfInput] := by decide +kernel
  have hopen : tokenize "_\"" = .error (.unterminatedString 1) := by decide +kernel
  have hfront : (Scan.of "_\"").tokens = [⟨0, Token.ofChars .unrecognized ['_']⟩] := by
    decide +kernel
  have hspace : isBlank ' ' = true := by decide +kernel
  have hline : isBlank '\n' = true := by decide +kernel
  have htab : isBlank '\t' = true := by decide +kernel
  have hfill : ∀ i b, (if i = 1 then some ' ' else if i = 5 then some '\n' else none) = some b →
      i = 1 ∧ b = ' ' ∨ i = 5 ∧ b = '\n' := by
    intro i b hi
    split at hi
    · next h => exact Or.inl ⟨h, (Option.some.inj hi).symm⟩
    · split at hi
      · next h => exact Or.inr ⟨h, (Option.some.inj hi).symm⟩
      · exact absurd hi (Option.some_ne_none b).symm
  have hfill' : ∀ i b, (if i = 0 then some '\t' else none) = some b → i = 0 ∧ b = '\t' := by
    intro i b hi
    split at hi
    · next h => exact ⟨h, (Option.some.inj hi).symm⟩
    · exact absurd hi (Option.some_ne_none b).symm
  constructor
  · have h := (tokenize_overwrite "7_x!=!\x00"
      (fun i => if i = 1 then some ' ' else if i = 5 then some '\n' else none) (by
        intro i b hi
        rw [hfound]
        rcases hfill i b hi with ⟨rfl, rfl⟩ | ⟨rfl, rfl⟩
        · exact ⟨hspace, by simp⟩
        · exact ⟨hline, by simp⟩)).2 _ hstream
    rw [hfound] at h
    exact h.2
  · have h := (tokenize_overwrite "_\"" (fun i => if i = 0 then some '\t' else none) (by
      intro i b hi
      rw [hfront]
      obtain ⟨rfl, rfl⟩ := hfill' i b hi
      exact ⟨htab, by simp⟩)).1 1 hopen
    exact h

end ScriptLexer
