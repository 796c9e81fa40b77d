import ScriptLexer.Token.Kind
import ScriptLexer.Unicode.Word

/-!
# The first character of a token

The first character of a token decides how the token goes on. A lead is what it
decides: a token of that character alone, an operator that may take one more
character, a literal, a number or a word. This is the dispatch rule of section 4.2
of the specification.

Results:

* `mem_marks_or`: a character is a mark with the lead of the table, or it is no
  mark and its lead follows from its properties.
* `isDigit_of_mem_marks`, `isLetter_of_mem_marks`, `isBlank_of_mem_marks`: no
  mark has one of these properties.
* `of_eq_quote_iff`: only the quote leads a literal.
-/

namespace ScriptLexer

open ScriptLexer.Unicode

/-- What the first character of a token decides (`CharClass`, section 4.2). -/
inductive Lead where
  /-- A token of one character. -/
  | mark (kind : Kind)
  /-- An arithmetic operator, which may be doubled or take an equals sign. -/
  | arithmetic (doubled : Kind)
  /-- A token that becomes another one when an equals sign follows. -/
  | comparison (joined bare : Kind)
  /-- The opening quote of a string literal. -/
  | quote
  /-- The first digit of a number. -/
  | digit
  /-- The first letter of an identifier or a reserved word. -/
  | letter
deriving DecidableEq, Repr

namespace Lead

/-- The characters that have a meaning of their own, with what they lead. -/
def table : List (Char × Lead) :=
  [('(', mark .leftParen), (')', mark .rightParen), ('{', mark .leftBrace), ('}', mark .rightBrace),
    (',', mark .comma), (';', mark .semicolon), ('/', mark .binaryOp), ('%', mark .binaryOp),
    ('&', mark .binaryOp), ('|', mark .binaryOp), ('^', mark .binaryOp),
    ('+', arithmetic .increment), ('-', arithmetic .decrement), ('*', arithmetic .binaryOp),
    ('!', comparison .notEqual .unrecognized), ('<', comparison .lessOrEqual .lessThan),
    ('>', comparison .greaterOrEqual .greaterThan), ('=', comparison .equality .assignment),
    ('"', quote)]

/-- The characters of the table. -/
def marks : List Char := table.map Prod.fst

/-- The lead of a character without a meaning of its own. One that begins nothing is an
    unrecognized token by itself. -/
def unmarked (c : Char) : Lead :=
  if isDigit c then digit
  else if isLetter c then letter
  else if c = ' ' then mark .space
  else mark .unrecognized

/-- The lead of a character. The table comes before digits and letters. -/
def of (c : Char) : Lead := (table.lookup c).getD (unmarked c)

/-! ## The table -/

theorem of_of_not_mem_marks {c : Char} (h : c ∉ marks) : of c = unmarked c := by
  have hnone : table.lookup c = none := by
    rw [List.lookup_eq_none_iff]
    intro p hp
    rw [bne_iff_ne]
    rintro rfl
    exact h (List.mem_map_of_mem hp)
  rw [of, hnone, Option.getD_none]

/-- Each character of the table has the lead that the table gives it. -/
theorem of_of_mem_table {c : Char} {lead : Lead} (h : (c, lead) ∈ table) : of c = lead := by
  have hall : (table.all fun p => of p.1 == p.2) = true := by decide +kernel
  exact eq_of_beq (List.all_eq_true.mp hall _ h)

/-- A character is in the table or has no meaning of its own. -/
theorem mem_marks_or (c : Char) : (c, of c) ∈ table ∨ c ∉ marks := by
  by_cases h : c ∈ marks
  · obtain ⟨⟨d, lead⟩, hp, rfl⟩ := List.mem_map.mp h
    rw [of_of_mem_table hp]
    exact Or.inl hp
  · exact Or.inr h

theorem isDigit_of_mem_marks {c : Char} (h : c ∈ marks) : isDigit c = false := by
  have hall : (marks.all fun c => isDigit c == false) = true := by decide +kernel
  exact eq_of_beq (List.all_eq_true.mp hall c h)

theorem isLetter_of_mem_marks {c : Char} (h : c ∈ marks) : isLetter c = false := by
  have hall : (marks.all fun c => isLetter c == false) = true := by decide +kernel
  exact eq_of_beq (List.all_eq_true.mp hall c h)

theorem isBlank_of_mem_marks {c : Char} (h : c ∈ marks) : isBlank c = false := by
  have hall : (marks.all fun c => isBlank c == false) = true := by decide +kernel
  exact eq_of_beq (List.all_eq_true.mp hall c h)

/-! ## Every character -/

/-- The kinds that a lead names. -/
def kinds : Lead → List Kind
  | mark kind => [kind]
  | arithmetic doubled => [doubled]
  | comparison joined bare => [joined, bare]
  | quote => []
  | digit => []
  | letter => []

/-- The lexemes, with their kinds, that a lead spells out from its character on. -/
def spellings : Lead → Char → List (Kind × List Char)
  | mark kind, c => [(kind, [c])]
  | arithmetic doubled, c => [(.binaryOp, [c]), (doubled, [c, c]), (.compoundOp, [c, '='])]
  | comparison joined bare, c => [(bare, [c]), (joined, [c, '='])]
  | quote, _ => []
  | digit, _ => []
  | letter, _ => []

/-- A character without a meaning of its own leads a number, a word, a space or an
    unrecognized token. -/
theorem unmarked_cases (c : Char) :
    isDigit c = true ∧ unmarked c = digit ∨ isLetter c = true ∧ unmarked c = letter ∨
      c = ' ' ∧ unmarked c = mark .space ∨
      isDigit c = false ∧ isLetter c = false ∧ unmarked c = mark .unrecognized := by
  rw [unmarked]
  split
  · next h => exact Or.inl ⟨h, rfl⟩
  · next hd =>
    split
    · next h => exact Or.inr (Or.inl ⟨h, rfl⟩)
    · next hl =>
      split
      · next h => exact Or.inr (Or.inr (Or.inl ⟨h, rfl⟩))
      · exact Or.inr (Or.inr (Or.inr ⟨Bool.eq_false_iff.mpr hd, Bool.eq_false_iff.mpr hl, rfl⟩))

/-- No lead but the quote makes a string literal. -/
theorem string_not_mem_kinds (c : Char) : Kind.string ∉ (of c).kinds := by
  rcases mem_marks_or c with h | h
  · have hall : (table.all fun p => decide (Kind.string ∉ p.2.kinds)) = true := by decide
    exact of_decide_eq_true (List.all_eq_true.mp hall _ h)
  · rw [of_of_not_mem_marks h]
    rcases unmarked_cases c with ⟨_, hu⟩ | ⟨_, hu⟩ | ⟨_, hu⟩ | ⟨_, _, hu⟩ <;>
      exact hu ▸ (by decide)

theorem of_eq_quote_iff {c : Char} : of c = quote ↔ c = '"' := by
  constructor
  · intro hq
    rcases mem_marks_or c with h | h
    · have hall : (table.all fun p => decide (p.2 = quote → p.1 = '"')) = true := by decide
      exact of_decide_eq_true (List.all_eq_true.mp hall _ h) hq
    · rw [of_of_not_mem_marks h] at hq
      rcases unmarked_cases c with ⟨_, hu⟩ | ⟨_, hu⟩ | ⟨_, hu⟩ | ⟨_, _, hu⟩ <;>
        exact Lead.noConfusion (hu.symm.trans hq)
  · rintro rfl
    exact of_of_mem_table (by decide)

end Lead

/-- The characters that have a meaning of their own, at the start of a token or in a word. -/
def meaningful : List Char :=
  ['(', ')', '{', '}', ',', ';', '/', '%', '&', '|', '^', '+', '-', '*', '!', '<', '>', '=', '"',
    '_']

theorem meaningful_eq : meaningful = Lead.marks ++ ['_'] := rfl

end ScriptLexer
