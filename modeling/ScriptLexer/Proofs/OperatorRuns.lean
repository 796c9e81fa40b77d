import Mathlib.Data.Nat.Init
import ScriptLexer.Proofs.Layout

/-!
# Runs of operators

An operator that is written many times in a row, with equals signs behind it, is
read in pairs from the left. An arithmetic operator pairs with itself, and only
the one that is left over takes an equals sign. A comparison operator does not
pair with itself, so only the last one takes an equals sign.

Results:

* `tokenize_equalsSigns`: the stream of equals signs in a row.
* `tokenize_arithmeticRun`, `tokenize_comparisonRun`: the stream of a run of one
  operator with equals signs behind it.
* `tokenize_operatorRun`: these streams for each of the operators.
-/

namespace ScriptLexer

open ScriptLexer.Unicode

/-! ## Tokens of a run -/

/-- The tokens of `m` equals signs: two together as often as possible, and a bare one if `m` is
    odd. -/
def equalsSigns (m : Nat) : List Token :=
  List.replicate (m / 2) (Token.ofChars .equality ['=', '=']) ++
    if m % 2 = 1 then [Token.ofChars .assignment ['=']] else []

/-- The tokens of `n` arithmetic operators `c` and `m` equals signs: two operators together as
    often as possible. If one is left over, it takes the first equals sign, if there is one. -/
def arithmeticRun (doubled : Kind) (c : Char) (n m : Nat) : List Token :=
  List.replicate (n / 2) (Token.ofChars doubled [c, c]) ++
    if n % 2 = 0 then equalsSigns m
    else if m = 0 then [Token.ofChars .binaryOp [c]]
    else Token.ofChars .compoundOp [c, '='] :: equalsSigns (m - 1)

/-- The tokens of `n` comparison operators `c` and `m` equals signs: each operator is bare, but
    the last one takes the first equals sign, if there is one. -/
def comparisonRun (joined bare : Kind) (c : Char) (n m : Nat) : List Token :=
  if n = 0 then equalsSigns m
  else if m = 0 then List.replicate n (Token.ofChars bare [c])
  else List.replicate (n - 1) (Token.ofChars bare [c]) ++
    Token.ofChars joined [c, '='] :: equalsSigns (m - 1)

theorem equalsSigns_add_two (m : Nat) :
    equalsSigns (m + 2) = Token.ofChars .equality ['=', '='] :: equalsSigns m := by
  unfold equalsSigns
  rw [Nat.add_div_right m (by decide), Nat.add_mod_right, List.replicate_succ, List.cons_append]

theorem arithmeticRun_add_two (doubled : Kind) (c : Char) (n m : Nat) :
    arithmeticRun doubled c (n + 2) m =
      Token.ofChars doubled [c, c] :: arithmeticRun doubled c n m := by
  unfold arithmeticRun
  rw [Nat.add_div_right n (by decide), Nat.add_mod_right, List.replicate_succ, List.cons_append]

theorem comparisonRun_add_two (joined bare : Kind) (c : Char) (n m : Nat) :
    comparisonRun joined bare c (n + 2) m =
      Token.ofChars bare [c] :: comparisonRun joined bare c (n + 1) m := by
  unfold comparisonRun
  rw [if_neg (Nat.succ_ne_zero _), if_neg (Nat.succ_ne_zero _)]
  split
  · rfl
  · rw [Nat.add_sub_cancel, Nat.add_succ_sub_one, List.replicate_succ, List.cons_append]

/-! ## One token -/

section step

variable {c d : Char} {doubled joined bare : Kind} {rest : List Char} {ts : List Token}

theorem isBlank_of_mem_table {lead : Lead} (h : (c, lead) ∈ Lead.table) : isBlank c = false :=
  Lead.isBlank_of_mem_marks (List.mem_map_of_mem h)

/-- Two arithmetic operators of one sort are one token. -/
theorem tokenize_doubled (hc : (c, Lead.arithmetic doubled) ∈ Lead.table)
    (h : tokenize (.ofList rest) = .ok ts) :
    tokenize (.ofList (c :: c :: rest)) = .ok (Token.ofChars doubled [c, c] :: ts) := by
  apply tokenize_of_first? (isBlank_of_mem_table hc) _ h
  rw [Token.first?_arithmetic hc, Token.arithmetic, if_pos rfl]

/-- An arithmetic operator takes the equals sign behind it. -/
theorem tokenize_compound (hc : (c, Lead.arithmetic doubled) ∈ Lead.table)
    (h : tokenize (.ofList rest) = .ok ts) :
    tokenize (.ofList (c :: '=' :: rest)) = .ok (Token.ofChars .compoundOp [c, '='] :: ts) := by
  have hne : '=' ≠ c := by
    rcases Token.arithmetic_cases (Lead.of_of_mem_table hc) with ⟨rfl, -⟩ | ⟨rfl, -⟩ | ⟨rfl, -⟩ <;>
      decide
  apply tokenize_of_first? (isBlank_of_mem_table hc) _ h
  rw [Token.first?_arithmetic hc, Token.arithmetic, if_neg hne, if_pos rfl]

/-- So does a comparison operator. -/
theorem tokenize_joined (hc : (c, Lead.comparison joined bare) ∈ Lead.table)
    (h : tokenize (.ofList rest) = .ok ts) :
    tokenize (.ofList (c :: '=' :: rest)) = .ok (Token.ofChars joined [c, '='] :: ts) := by
  apply tokenize_of_first? (isBlank_of_mem_table hc) _ h
  rw [Token.first?_comparison hc, Token.comparison, if_pos rfl]

/-- In front of any other character, a comparison operator is bare. -/
theorem tokenize_bare (hc : (c, Lead.comparison joined bare) ∈ Lead.table) (hd : d ≠ '=')
    (h : tokenize (.ofList (d :: rest)) = .ok ts) :
    tokenize (.ofList (c :: d :: rest)) = .ok (Token.ofChars bare [c] :: ts) := by
  apply tokenize_of_first? (isBlank_of_mem_table hc) _ h
  rw [Token.first?_comparison hc, Token.comparison, if_neg hd]

theorem tokenize_arithmetic_last (hc : (c, Lead.arithmetic doubled) ∈ Lead.table) :
    tokenize (.ofList [c]) = .ok [Token.ofChars .binaryOp [c], Token.endOfInput] := by
  apply tokenize_of_first? (isBlank_of_mem_table hc) _ tokenize_nil
  rw [Token.first?_arithmetic hc, Token.arithmetic]

theorem tokenize_comparison_last (hc : (c, Lead.comparison joined bare) ∈ Lead.table) :
    tokenize (.ofList [c]) = .ok [Token.ofChars bare [c], Token.endOfInput] := by
  apply tokenize_of_first? (isBlank_of_mem_table hc) _ tokenize_nil
  rw [Token.first?_comparison hc, Token.comparison]

end step

/-! ## Whole runs -/

/-- The stream of equals signs in a row. -/
theorem tokenize_equalsSigns (m : Nat) :
    tokenize (.ofList (List.replicate m '=')) = .ok (equalsSigns m ++ [Token.endOfInput]) := by
  have hequals : ('=', Lead.comparison .equality .assignment) ∈ Lead.table := by decide
  -- Two signs are one token, so the induction takes two of them at a time.
  induction m using Nat.twoStepInduction with
  | zero => exact tokenize_nil
  | one => exact tokenize_comparison_last hequals
  | more m ih _ =>
    rw [equalsSigns_add_two]
    exact tokenize_joined hequals ih

/-- The stream of arithmetic operators in a row with equals signs behind them. -/
theorem tokenize_arithmeticRun {c : Char} {doubled : Kind}
    (hc : (c, Lead.arithmetic doubled) ∈ Lead.table) (n m : Nat) :
    tokenize (.ofList (List.replicate n c ++ List.replicate m '=')) =
      .ok (arithmeticRun doubled c n m ++ [Token.endOfInput]) := by
  induction n using Nat.twoStepInduction with
  | zero => exact tokenize_equalsSigns m
  | one =>
    cases m with
    | zero => exact tokenize_arithmetic_last hc
    | succ m => exact tokenize_compound hc (tokenize_equalsSigns m)
  | more n ih _ =>
    rw [arithmeticRun_add_two]
    exact tokenize_doubled hc ih

/-- The stream of comparison operators in a row with equals signs behind them. -/
theorem tokenize_comparisonRun {c : Char} {joined bare : Kind}
    (hc : (c, Lead.comparison joined bare) ∈ Lead.table) (hne : c ≠ '=') (n m : Nat) :
    tokenize (.ofList (List.replicate n c ++ List.replicate m '=')) =
      .ok (comparisonRun joined bare c n m ++ [Token.endOfInput]) := by
  cases n with
  | zero => exact tokenize_equalsSigns m
  | succ n =>
    -- Only the last operator may take an equals sign, so the induction starts with it.
    induction n with
    | zero =>
      cases m with
      | zero => exact tokenize_comparison_last hc
      | succ m => exact tokenize_joined hc (tokenize_equalsSigns m)
    | succ n ih =>
      rw [comparisonRun_add_two]
      exact tokenize_bare hc hne ih

/-- **Runs of operators are read in pairs from the left.** A text consists of `n` operators of one
    sort and `m` equals signs behind them. Arithmetic operators pair up, and the one that is left
    over takes an equals sign. Of comparison operators, and of exclamation marks, the last one
    takes an equals sign. The other equals signs pair up, and the last one is an assignment if
    their number is odd. -/
theorem tokenize_operatorRun (n m : Nat) :
    (∀ c doubled, (c, doubled) ∈ [('+', Kind.increment), ('-', .decrement), ('*', .binaryOp)] →
      tokenize (.ofList (List.replicate n c ++ List.replicate m '=')) =
        .ok (arithmeticRun doubled c n m ++ [Token.endOfInput])) ∧
    ∀ c joined bare, (c, joined, bare) ∈ [('<', Kind.lessOrEqual, Kind.lessThan),
        ('>', .greaterOrEqual, .greaterThan), ('!', .notEqual, .unrecognized)] →
      tokenize (.ofList (List.replicate n c ++ List.replicate m '=')) =
        .ok (comparisonRun joined bare c n m ++ [Token.endOfInput]) := by
  constructor
  · intro c doubled hc
    apply tokenize_arithmeticRun
    simp only [List.mem_cons, Prod.mk.injEq, List.not_mem_nil, or_false] at hc
    rcases hc with ⟨rfl, rfl⟩ | ⟨rfl, rfl⟩ | ⟨rfl, rfl⟩ <;> decide
  · intro c joined bare hc
    simp only [List.mem_cons, Prod.mk.injEq, List.not_mem_nil, or_false] at hc
    rcases hc with ⟨rfl, rfl, rfl⟩ | ⟨rfl, rfl, rfl⟩ | ⟨rfl, rfl, rfl⟩ <;>
      exact tokenize_comparisonRun (by decide) (by decide) n m

/-- `---===` has the tokens `--`, `-=` and `==`, and `!!!==` has two bare exclamation marks, `!=`
    and `=`. -/
theorem tokenize_operatorRun_minus_and_bang :
    tokenize "---===" = .ok [Token.ofChars .decrement ['-', '-'],
      Token.ofChars .compoundOp ['-', '='], Token.ofChars .equality ['=', '='],
      Token.endOfInput] ∧
    tokenize "!!!==" = .ok [Token.ofChars .unrecognized ['!'], Token.ofChars .unrecognized ['!'],
      Token.ofChars .notEqual ['!', '='], Token.ofChars .assignment ['='], Token.endOfInput] :=
  ⟨(tokenize_operatorRun 3 3).1 '-' .decrement (by decide),
    (tokenize_operatorRun 3 2).2 '!' .notEqual .unrecognized (by decide)⟩

end ScriptLexer
