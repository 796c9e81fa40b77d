import ScriptLexer.Scan.Event
import ScriptLexer.Token.First

/-!
# Scans

A scan reads a source from its first character to its last one. It skips the
blanks between tokens, reads one token after the other, and keeps where each
starts. It gives up only at a string literal that is not closed. While it runs
it reports events. This is the outer loop of section 4.6 of the specification,
told by the characters that are left; `Scan/Walk` tells it by a cursor.

All offsets count characters of the source.

Results:

* `ofChars_nil`, `ofChars_blank`, `ofChars_token`, `ofChars_unclosed`: what a
  scan does at the end of the source, at a blank, at a token, and at a quote
  that is not closed.
-/

namespace ScriptLexer

open ScriptLexer.Unicode

/-- A token with the index of the first character it occupies. -/
structure Located where
  offset : Nat
  token : Token
deriving DecidableEq, Repr

/-- What a scan finds and reports. -/
structure Scan where
  /-- The tokens in the order of the source, without the sentinel. -/
  tokens : List Located
  /-- The index of the quote that opens a literal without closing quote, if the scan
      met one. -/
  unclosed : Option Nat
  /-- What the scan reported, the earliest first. -/
  events : List Event
deriving DecidableEq, Repr

namespace Scan

/-- Puts a token in front of what the scan finds behind it. An unrecognized one is
    reported where it starts. -/
def cons (found : Located) (s : Scan) : Scan where
  tokens := found :: s.tokens
  unclosed := s.unclosed
  events :=
    if found.token.kind = .unrecognized then
      .unrecognized found.token.lexeme found.offset :: s.events
    else s.events

/-- The scan of the characters that stand at `offset` in the source, behind `count`
    tokens (section 4.6). -/
def ofChars (offset count : Nat) : List Char → Scan
  | [] => ⟨[], none, [.finished offset (count + 1)]⟩
  | c :: rest =>
    if isBlank c then ofChars (offset + 1) count rest
    else
      match h : Token.first? c rest with
      | none => ⟨[], some offset, [.unterminatedString offset]⟩
      | some (t, after) =>
        (ofChars (offset + t.source.length) (count + 1) after).cons ⟨offset, t⟩
termination_by cs => cs.length
decreasing_by
  · exact Nat.lt_succ_self _
  · exact Nat.lt_succ_of_le (Token.length_after_le h)

/-- The scan of a source. -/
def of (source : String) : Scan := ofChars 0 0 source.toList

/-- The stream of a scan, closed by the sentinel, or the reason why there is none. -/
def result (s : Scan) : Except ScanError (List Token) :=
  match s.unclosed with
  | none => .ok (s.tokens.map Located.token ++ [Token.endOfInput])
  | some offset => .error (.unterminatedString offset)

/-! ## Equations -/

theorem ofChars_nil (offset count : Nat) :
    ofChars offset count [] = ⟨[], none, [.finished offset (count + 1)]⟩ := by
  rw [ofChars]

theorem ofChars_blank {c : Char} (h : isBlank c = true) (offset count : Nat) (rest : List Char) :
    ofChars offset count (c :: rest) = ofChars (offset + 1) count rest := by
  rw [ofChars, if_pos h]

theorem ofChars_token {c : Char} {rest after : List Char} {t : Token} (hb : isBlank c = false)
    (h : Token.first? c rest = some (t, after)) (offset count : Nat) :
    ofChars offset count (c :: rest) =
      (ofChars (offset + t.source.length) (count + 1) after).cons ⟨offset, t⟩ := by
  rw [ofChars, if_neg (Bool.eq_false_iff.mp hb)]
  split
  · next heq => exact absurd (heq.symm.trans h) (Option.some_ne_none _).symm
  · next heq =>
    obtain ⟨rfl, rfl⟩ := Prod.mk.inj (Option.some.inj (heq.symm.trans h))
    rfl

theorem ofChars_unclosed {c : Char} {rest : List Char} (hb : isBlank c = false)
    (h : Token.first? c rest = none) (offset count : Nat) :
    ofChars offset count (c :: rest) = ⟨[], some offset, [.unterminatedString offset]⟩ := by
  rw [ofChars, if_neg (Bool.eq_false_iff.mp hb)]
  split
  · rfl
  · next heq => exact absurd (heq.symm.trans h) (Option.some_ne_none _)

end Scan

/-! ## Streams -/

/-- The stream of tokens of a source, closed by the sentinel (`tokenize`, section 10.1). -/
def tokenize (source : String) : Except ScanError (List Token) := (Scan.of source).result

/-- The events of the scan of a source, the earliest first. -/
def events (source : String) : List Event := (Scan.of source).events

/-- The streams of a source that grows part by part: one for each part, of all the text
    up to its end. `text` is what stands before the first part. -/
def tokenizeGrowing (text : String) : List String → List (Except ScanError (List Token))
  | [] => []
  | part :: parts => tokenize (text ++ part) :: tokenizeGrowing (text ++ part) parts

end ScriptLexer
