/-!
# Fields of a given width

A field says how a text is set among others: how many of its characters are
kept at most, and with what and on which side it is filled up to a width. Both
measures count characters. The column of a listing is one (specification,
section 10.6).

Results:

* `Field.length_pad`: a padded text has the width of the field, or its own
  length if that is greater.
-/

namespace ScriptLexer.Text

/-- The place of a text in a field that is wider than the text. -/
inductive Alignment where
  | left
  | center
  | right
deriving DecidableEq, Repr

/-- How a text is cut and padded. -/
structure Field where
  /-- What the padding consists of. -/
  fill : Char
  /-- Where the text stands, with the padding around it. -/
  alignment : Alignment
  /-- The least number of characters. -/
  width : Nat
  /-- The number of characters kept of the text; `none` keeps all of them. -/
  precision : Option Nat
deriving DecidableEq, Repr

namespace Field

/-- A field of blanks that loses nothing and starts with the text. -/
def column (width : Nat) : Field := ⟨' ', .left, width, none⟩

/-- The characters of a text that the precision keeps. -/
def cut (f : Field) (cs : List Char) : List Char :=
  match f.precision with
  | none => cs
  | some count => cs.take count

/-- Fills a text up to the width. Around a centered text, the smaller half of an odd
    padding is on the left. -/
def pad (f : Field) (cs : List Char) : List Char :=
  let missing := f.width - cs.length
  let before :=
    match f.alignment with
    | .left => 0
    | .center => missing / 2
    | .right => missing
  List.replicate before f.fill ++ cs ++ List.replicate (missing - before) f.fill

/-- The text as the field sets it: first cut, then padded. -/
def write (f : Field) (text : String) : String := .ofList (f.pad (f.cut text.toList))

theorem length_pad (f : Field) (cs : List Char) : (f.pad cs).length = max f.width cs.length := by
  rw [pad, List.length_append, List.length_append, List.length_replicate, List.length_replicate]
  rcases f.alignment <;> simp only <;> omega

end Field

end ScriptLexer.Text
