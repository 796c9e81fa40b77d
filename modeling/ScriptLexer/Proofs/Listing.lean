import Mathlib.Data.List.Forall2
import ScriptLexer.Token.ListingReader

/-!
# Lines of listings

The written form of a token holds no line feed, whatever its lexeme holds. So a
listing has one line for each token, and its columns can be told by counting
characters.

Results:

* `Text.lineFeed_not_mem_escaped`: escaped text stays on one line.
* `Token.splitOn_listingChars`: the lines of a listing are the rows of its tokens.
* `Token.fills_row`: what stands where in a row.
* `listing_lossless`: a listing reads back as the stream it shows, and two streams
  never have one listing.
-/

namespace ScriptLexer

open ScriptLexer.Unicode

/-! ## Line feeds -/

namespace Text

namespace Escape

/-- No written form holds a line feed, not even that of the line feed. -/
theorem lineFeed_not_mem_chars (c : Char) : '\n' ∉ (of c).chars := by
  rw [of.eq_def]
  split
  iterate 6 decide
  next hne _ _ _ =>
  split
  · intro h
    simp only [chars, List.mem_cons, List.mem_append, List.not_mem_nil, or_false] at h
    -- The only characters that depend on `c` are the digits of its code point.
    have hdigits : '\n' ∉ Hexadecimal.digits c.toNat := by
      intro hmem
      exact absurd (Hexadecimal.mem_alphabet_of_mem_digits hmem) (by decide)
    simp [hdigits] at h
  · simpa [chars, eq_comm] using hne

end Escape

theorem lineFeed_not_mem_escaped (cs : List Char) : '\n' ∉ escaped cs := by
  induction cs with
  | nil => simp
  | cons c cs ih => simp [Escape.lineFeed_not_mem_chars, ih]

theorem lineFeed_not_mem_quoted (text : String) : '\n' ∉ (quoted text).toList := by
  simp [toList_quoted, lineFeed_not_mem_escaped]

end Text

namespace Token

theorem lineFeed_not_mem_paddedName (k : Kind) : '\n' ∉ paddedName k := by
  have hall : (Kind.all.all fun k => decide ('\n' ∉ k.name.toList)) = true := by decide +kernel
  have hname : '\n' ∉ k.name.toList :=
    of_decide_eq_true (List.all_eq_true.mp hall k (Kind.mem_all k))
  simp [paddedName, hname]

/-! ## Rows -/

/-- The line of a token without the line feed that ends it. -/
def row (t : Token) : List Char := paddedName t.kind ++ ' ' :: t.text.toList

theorem line_eq_row (t : Token) : t.line = t.row ++ ['\n'] := by
  rw [line_eq, row, text, Text.toList_quoted]
  simp

theorem lineFeed_not_mem_row (t : Token) : '\n' ∉ t.row := by
  simp [row, text, lineFeed_not_mem_paddedName, Text.lineFeed_not_mem_quoted]

/-- The lines of a listing are the rows of its tokens. Nothing stands behind the last line feed. -/
theorem splitOn_listingChars (ts : List Token) :
    (listingChars ts).splitOn '\n' = ts.map row ++ [[]] := by
  induction ts with
  | nil => rfl
  | cons t ts ih =>
    rw [listingChars_cons, line_eq_row, List.append_assoc, List.singleton_append,
      List.splitOn_append_cons_self_of_not_mem t.lineFeed_not_mem_row, ih]
    rfl

theorem count_lineFeed_listingChars (ts : List Token) :
    (listingChars ts).count '\n' = ts.length := by
  induction ts with
  | nil => rfl
  | cons t ts ih =>
    rw [listingChars_cons, line_eq_row, List.count_append, List.count_append, ih,
      List.count_eq_zero_of_not_mem t.lineFeed_not_mem_row]
    simp
    omega

/-- The line `cs`, without its line feed, shows the token `t`: the name of the kind with blanks
    behind it, a space, and the token's text. -/
structure Fills (t : Token) (cs : List Char) : Prop where
  column : (cs.take 16).length = 16
  name : ∃ count, cs.take 16 = t.kind.name.toList ++ List.replicate count ' '
  space : cs[16]? = some ' '
  quote : cs[17]? = some '"'
  text : cs.drop 17 = (Text.quoted t.lexeme).toList

theorem fills_row (t : Token) : t.Fills t.row := by
  have hlen : (paddedName t.kind).length = 16 := length_paddedName t.kind
  have hquoted : t.text.toList = '"' :: (Text.escaped t.lexeme.toList ++ ['"']) :=
    Text.toList_quoted t.lexeme
  have htake : t.row.take 16 = paddedName t.kind := List.take_left' hlen
  unfold row at htake ⊢
  constructor
  case column => rw [htake, hlen]
  case name => exact ⟨_, htake⟩
  case space => simp [hlen]
  case quote =>
    rw [hquoted, List.getElem?_append_right (by omega), hlen]
    rfl
  case text =>
    rw [List.append_cons, List.drop_left' (by simp [hlen]), Token.text]

/-! ## Reading a listing -/

/-- The stream that a listing shows. -/
def ofListing (listing : String) : List Token := (ofListing? listing.toList).getD []

theorem ofListing_listing (ts : List Token) : ofListing (listing ts) = ts := by
  rw [ofListing, listing, String.toList_ofList, ofListing?_listingChars, Option.getD_some]

end Token

/-- **A listing loses nothing.** It reads back as the stream it shows, whatever the kinds and the
    lexemes are, so two streams never have one listing. It has one line feed and one line for
    each token, and every line is set in the same columns. -/
theorem listing_lossless :
    (∀ ts, Token.ofListing (Token.listing ts) = ts) ∧
    Function.Injective Token.listing ∧
    ∀ ts, (Token.listing ts).toList.count '\n' = ts.length ∧
      ∃ lines, (Token.listing ts).toList.splitOn '\n' = lines ++ [[]] ∧
        List.Forall₂ Token.Fills ts lines := by
  refine ⟨Token.ofListing_listing, ?_, fun ts => ?_⟩
  · exact Function.LeftInverse.injective Token.ofListing_listing
  · have hchars : (Token.listing ts).toList = Token.listingChars ts := String.toList_ofList
    rw [hchars]
    refine ⟨Token.count_lineFeed_listingChars ts, _, Token.splitOn_listingChars ts, ?_⟩
    rw [List.forall₂_map_right_iff, List.forall₂_same]
    intro t _
    exact t.fills_row

end ScriptLexer
