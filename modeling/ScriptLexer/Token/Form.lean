import ScriptLexer.Token.Basic
import ScriptLexer.Token.Lead

/-!
# Well-formed tokens

Each kind admits certain lexemes: a fixed spelling, one of a few operators, or
the texts of a rule. A token is well-formed if its kind admits its lexeme. The
sentinel and spaces have no lexeme in a source, so they are never well-formed.

Results:

* `admits_cases`: the sorts of lexemes.
* `exists_head_of_admits`: what a lexeme starts with.
* `WellFormed.exists_source`: a well-formed token occupies some characters, and
  does not start with a blank.
-/

namespace ScriptLexer

open ScriptLexer.Unicode

/-- A character that begins no token but an unrecognized one. -/
def IsStray (c : Char) : Prop :=
  isBlank c = false ∧ isDigit c = false ∧ isLetter c = false ∧ c ∉ Lead.marks

instance (c : Char) : Decidable (IsStray c) :=
  inferInstanceAs (Decidable (_ ∧ _ ∧ _ ∧ _))

/-- A letter and then word characters. -/
def IsWordText : List Char → Prop
  | [] => False
  | c :: rest => isLetter c = true ∧ ∀ d ∈ rest, isWord d = true

instance : DecidablePred IsWordText
  | [] => isFalse id
  | _ :: rest =>
    have := List.decidableBAll (isWord · = true) rest
    inferInstanceAs (Decidable (_ ∧ _))

namespace Kind

/-- `k.Admits cs`: a token of the kind `k` may have the lexeme `cs`. -/
def Admits : Kind → List Char → Prop
  | leftParen, cs => cs = ['(']
  | rightParen, cs => cs = [')']
  | leftBrace, cs => cs = ['{']
  | rightBrace, cs => cs = ['}']
  | comma, cs => cs = [',']
  | semicolon, cs => cs = [';']
  | binaryOp, cs =>
    cs ∈ [['+'], ['-'], ['*'], ['*', '*'], ['/'], ['%'], ['&'], ['|'], ['^']]
  | compoundOp, cs => cs ∈ [['+', '='], ['-', '='], ['*', '=']]
  | increment, cs => cs = ['+', '+']
  | decrement, cs => cs = ['-', '-']
  | notEqual, cs => cs = ['!', '=']
  | lessThan, cs => cs = ['<']
  | lessOrEqual, cs => cs = ['<', '=']
  | greaterThan, cs => cs = ['>']
  | greaterOrEqual, cs => cs = ['>', '=']
  | equality, cs => cs = ['=', '=']
  | assignment, cs => cs = ['=']
  | string, cs => '"' ∉ cs
  | number, cs => cs ≠ [] ∧ ∀ c ∈ cs, isDigit c = true
  | identifier, cs => IsWordText cs ∧ Keyword.ofSpelling? (.ofList cs) = none
  | space, _ => False
  | endOfInput, _ => False
  | unrecognized, cs => cs = ['!'] ∨ ∃ c, cs = [c] ∧ IsStray c
  | keyword word, cs => cs = word.spelling.toList

/-- The lexemes of operators and brackets with their kinds. -/
def operators : List (Kind × List Char) :=
  [(leftParen, ['(']), (rightParen, [')']), (leftBrace, ['{']), (rightBrace, ['}']),
    (comma, [',']), (semicolon, [';']), (binaryOp, ['+']), (binaryOp, ['-']), (binaryOp, ['*']),
    (binaryOp, ['*', '*']), (binaryOp, ['/']), (binaryOp, ['%']), (binaryOp, ['&']),
    (binaryOp, ['|']), (binaryOp, ['^']), (compoundOp, ['+', '=']), (compoundOp, ['-', '=']),
    (compoundOp, ['*', '=']), (increment, ['+', '+']), (decrement, ['-', '-']),
    (notEqual, ['!', '=']), (lessThan, ['<']), (lessOrEqual, ['<', '=']), (greaterThan, ['>']),
    (greaterOrEqual, ['>', '=']), (equality, ['=', '=']), (assignment, ['='])]

theorem ne_nil_of_mem_operators {kind : Kind} {cs : List Char} (h : (kind, cs) ∈ operators) :
    cs ≠ [] := by
  have hall : (operators.all fun p => decide (p.2 ≠ [])) = true := by decide
  exact of_decide_eq_true (List.all_eq_true.mp hall _ h)

/-- Operators and brackets consist of marks other than the quote. -/
theorem mem_marks_of_mem_operators {kind : Kind} {cs : List Char} {c : Char}
    (h : (kind, cs) ∈ operators) (hc : c ∈ cs) : c ∈ Lead.marks ∧ c ≠ '"' := by
  have hall : (operators.all fun p => p.2.all fun c => decide (c ∈ Lead.marks ∧ c ≠ '"')) =
      true := by decide
  exact of_decide_eq_true (List.all_eq_true.mp (List.all_eq_true.mp hall _ h) c hc)

end Kind

namespace Token

/-- The kind of the token admits its lexeme. -/
def WellFormed (t : Token) : Prop := t.kind.Admits t.lexeme.toList

theorem wellFormed_ofChars {kind : Kind} {cs : List Char} :
    (ofChars kind cs).WellFormed ↔ kind.Admits cs := by
  rw [WellFormed, kind_ofChars, toList_lexeme_ofChars]

/-- A literal has no quotes between its own ones. -/
theorem WellFormed.quote_not_mem_lexeme {t : Token} (h : t.WellFormed) (hk : t.kind = .string) :
    '"' ∉ t.lexeme.toList := by
  rwa [WellFormed, hk] at h

theorem WellFormed.kind_ne_space {t : Token} (h : t.WellFormed) : t.kind ≠ .space := by
  intro hk
  rwa [WellFormed, hk] at h

theorem WellFormed.kind_ne_endOfInput {t : Token} (h : t.WellFormed) :
    t.kind ≠ .endOfInput := by
  intro hk
  rwa [WellFormed, hk] at h

/-! ## The sorts of lexemes -/

/-- The letters of a reserved word are letters. -/
theorem isWordText_spelling (k : Keyword) : IsWordText k.spelling.toList := by
  have hall : (Keyword.all.all fun k => decide (IsWordText k.spelling.toList)) = true := by
    decide +kernel
  exact of_decide_eq_true (List.all_eq_true.mp hall k (Keyword.mem_all k))

/-- A lexeme belongs to a literal, a number, a word, an unrecognized token, or an operator or
    bracket. -/
theorem admits_cases {kind : Kind} {cs : List Char} (h : kind.Admits cs) :
    kind = .string ∧ '"' ∉ cs ∨
      kind = .number ∧ cs ≠ [] ∧ (∀ c ∈ cs, isDigit c = true) ∨
      (kind = .identifier ∨ ∃ k, kind = .keyword k) ∧ IsWordText cs ∨
      kind = .unrecognized ∧ (cs = ['!'] ∨ ∃ c, cs = [c] ∧ IsStray c) ∨
      (kind, cs) ∈ Kind.operators := by
  cases kind
  case string => exact Or.inl ⟨rfl, h⟩
  case number => exact Or.inr (Or.inl ⟨rfl, h⟩)
  case identifier => exact Or.inr (Or.inr (Or.inl ⟨Or.inl rfl, h.1⟩))
  case keyword k =>
    obtain rfl : cs = k.spelling.toList := h
    exact Or.inr (Or.inr (Or.inl ⟨Or.inr ⟨k, rfl⟩, isWordText_spelling k⟩))
  case unrecognized => exact Or.inr (Or.inr (Or.inr (Or.inl ⟨rfl, h⟩)))
  case space => exact h.elim
  case endOfInput => exact h.elim
  case binaryOp =>
    simp only [Kind.Admits, List.mem_cons, List.not_mem_nil, or_false] at h
    rcases h with rfl | rfl | rfl | rfl | rfl | rfl | rfl | rfl | rfl <;>
      exact Or.inr (Or.inr (Or.inr (Or.inr (by decide))))
  case compoundOp =>
    simp only [Kind.Admits, List.mem_cons, List.not_mem_nil, or_false] at h
    rcases h with rfl | rfl | rfl <;> exact Or.inr (Or.inr (Or.inr (Or.inr (by decide))))
  all_goals
    obtain rfl : cs = _ := h
    exact Or.inr (Or.inr (Or.inr (Or.inr (by decide))))

/-! ## The first character -/

/-- A lexeme of any kind but the string literal has a first character, and it is a mark,
    a digit, a letter or a stray character. -/
theorem exists_head_of_admits {kind : Kind} {cs : List Char} (h : kind.Admits cs)
    (hne : kind ≠ .string) :
    ∃ c rest, cs = c :: rest ∧
      (c ∈ Lead.marks ∨ isDigit c = true ∨ isLetter c = true ∨ IsStray c) := by
  rcases admits_cases h with ⟨hk, -⟩ | ⟨-, hcs, hdigit⟩ | ⟨-, hword⟩ | ⟨-, rfl | ⟨c, rfl, hc⟩⟩ |
    hop
  · exact absurd hk hne
  · obtain ⟨c, rest, rfl⟩ := List.exists_cons_of_ne_nil hcs
    exact ⟨c, rest, rfl, Or.inr (Or.inl (hdigit c List.mem_cons_self))⟩
  · cases cs with
    | nil => exact hword.elim
    | cons c rest => exact ⟨c, rest, rfl, Or.inr (Or.inr (Or.inl hword.1))⟩
  · exact ⟨'!', [], rfl, Or.inl (by decide)⟩
  · exact ⟨c, [], rfl, Or.inr (Or.inr (Or.inr hc))⟩
  · obtain ⟨c, rest, rfl⟩ := List.exists_cons_of_ne_nil (Kind.ne_nil_of_mem_operators hop)
    exact ⟨c, rest, rfl, Or.inl (Kind.mem_marks_of_mem_operators hop List.mem_cons_self).1⟩

/-- A well-formed token occupies some characters, the first of which is no blank. -/
theorem WellFormed.exists_source {t : Token} (h : t.WellFormed) :
    ∃ c rest, t.source = c :: rest ∧ isBlank c = false := by
  by_cases hk : t.kind = .string
  · exact ⟨'"', t.lexeme.toList ++ ['"'], source_of_string hk, Lead.isBlank_of_mem_marks (by decide)⟩
  · obtain ⟨c, rest, hcs, hc⟩ := exists_head_of_admits h hk
    refine ⟨c, rest, (source_of_ne_string hk).trans hcs, ?_⟩
    rcases hc with hc | hc | hc | hc
    · exact Lead.isBlank_of_mem_marks hc
    · exact isBlank_of_isDigit hc
    · exact isBlank_of_isLetter hc
    · exact hc.1

/-- An unrecognized token is a single character. -/
theorem WellFormed.exists_of_unrecognized {t : Token} (h : t.WellFormed)
    (hk : t.kind = .unrecognized) : ∃ c, t.lexeme.toList = [c] ∧ t.source = [c] := by
  have hsource := source_of_ne_string (t := t) (by rw [hk]; decide)
  rw [WellFormed, hk] at h
  rcases h with h | ⟨c, h, -⟩
  · exact ⟨'!', h, hsource.trans h⟩
  · exact ⟨c, h, hsource.trans h⟩

theorem WellFormed.length_source_of_unrecognized {t : Token} (h : t.WellFormed)
    (hk : t.kind = .unrecognized) : t.source.length = 1 := by
  obtain ⟨c, -, hsource⟩ := h.exists_of_unrecognized hk
  rw [hsource, List.length_singleton]

end Token

end ScriptLexer
