import ScriptLexer.Scan.Basic

/-!
# Surveys of characters

A survey puts one character after the other into the same surroundings, says
for each what comes of it, and joins neighbours with the same outcome into one
run. Its points are code points; those that are no characters, the surrogates,
are surveyed too.
-/

namespace ScriptLexer

/-- What becomes of a code point in a survey. -/
inductive Finding where
  /-- The code point is no character. -/
  | surrogate
  /-- The kinds of the tokens of the text, with the sentinel. -/
  | kinds (ks : List Kind)
  /-- The text has no stream. -/
  | failure (e : ScanError)
  /-- How quoted text writes the character. -/
  | escape (label : String)
deriving DecidableEq, Repr

/-- Neighbouring code points with one outcome, from `first` to `last`. -/
structure SurveyRun where
  first : Nat
  last : Nat
  finding : Finding
deriving DecidableEq, Repr

namespace Finding

/-- The outcome in words. -/
def label : Finding → String
  | surrogate => "surrogate"
  | kinds ks => " ".intercalate (ks.map Kind.name)
  | failure e => "error " ++ e.offset.repr
  | escape label => label

/-- The outcome of a tokenized text. -/
def ofResult : Except ScanError (List Token) → Finding
  | .ok ts => kinds (ts.map Token.kind)
  | .error e => failure e

end Finding

/-- How a survey looks at a character. -/
inductive View where
  /-- By the kinds of the tokens of a text with the character between `before` and
      `after`. -/
  | kinds (before after : String)
  /-- By the way in which quoted text writes it. -/
  | display

/-- What a view finds of a character. -/
def View.see (v : View) (c : Char) : Finding :=
  match v with
  | kinds before after => .ofResult (tokenize (before.push c ++ after))
  | display => .escape (Text.Escape.of c).label

namespace SurveyRun

/-- Puts a code point in front of the runs behind it. -/
def cons (point : Nat) (finding : Finding) (runs : List SurveyRun) : List SurveyRun :=
  match runs with
  | [] => [⟨point, point, finding⟩]
  | r :: rest =>
    if r.finding = finding then { r with first := point } :: rest
    else ⟨point, point, finding⟩ :: r :: rest

end SurveyRun

/-- The greatest code point. -/
def lastCodePoint : Nat := 0x10FFFF

/-- The finding at a code point. -/
def View.at (v : View) (point : Nat) : Finding :=
  if h : point.isValidChar then v.see (Char.ofNatAux point h) else .surrogate

/-- The runs of the code points from `first` to `last`, as far as there are code points. -/
def survey (v : View) (first last : Nat) : List SurveyRun :=
  (List.range' first (min last lastCodePoint + 1 - first)).foldr
    (fun point runs => SurveyRun.cons point (v.at point) runs) []

end ScriptLexer
