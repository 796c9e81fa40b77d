import ScriptLexer.Token.First
import ScriptLexer.Token.Form

/-!
# Boundaries between tokens

A token joins a character if, with that character behind it, the text would be
read on: a number joins a digit, a word joins a word character, and some
operators join an operator. A token ends where what follows does not join it.

Results:

* `first?_eq_some_iff`: the first token of a text is the one well-formed token
  that the text starts with and that ends there.
-/

namespace ScriptLexer

open ScriptLexer.Unicode

namespace Token

/-- Whether the token and the character behind it are read together. -/
def joins (t : Token) (d : Char) : Bool :=
  match t.kind with
  | .number => isDigit d
  | .identifier => isWord d
  | .keyword _ => isWord d
  | .binaryOp =>
    match t.lexeme.toList with
    | [c] => (c == '+' || c == '-' || c == '*') && (d == c || d == '=')
    | _ => false
  | .lessThan => d == '='
  | .greaterThan => d == '='
  | .assignment => d == '='
  | .unrecognized => t.lexeme.toList == ['!'] && d == '='
  | _ => false

/-- The token ends where the given characters follow it. -/
def EndsBefore (t : Token) : List Char → Prop
  | [] => True
  | d :: _ => t.joins d = false

instance (t : Token) (after : List Char) : Decidable (t.EndsBefore after) :=
  match after with
  | [] => isTrue trivial
  | d :: _ => inferInstanceAs (Decidable (t.joins d = false))

/-- A word joins all word characters, reserved or not. -/
theorem joins_of_word {t : Token} (h : t.kind = .identifier ∨ ∃ k, t.kind = .keyword k)
    (d : Char) : t.joins d = isWord d := by
  unfold joins
  rcases h with h | ⟨k, h⟩ <;> rw [h]

/-! ## The first token is well-formed and ends -/

/-- What leads a token of one character is in the table or stray. -/
theorem mark_cases {c : Char} {kind : Kind} (h : Lead.of c = .mark kind)
    (hb : isBlank c = false) :
    (c, Lead.mark kind) ∈ Lead.table ∨ kind = .unrecognized ∧ IsStray c := by
  rcases Lead.mem_marks_or c with hc | hc
  · rw [h] at hc
    exact Or.inl hc
  · rw [Lead.of_of_not_mem_marks hc] at h
    rcases Lead.unmarked_cases c with ⟨_, hu⟩ | ⟨_, hu⟩ | ⟨rfl, _⟩ | ⟨hd, hl, hu⟩
    · exact Lead.noConfusion (hu.symm.trans h)
    · exact Lead.noConfusion (hu.symm.trans h)
    · exact absurd hb (by decide +kernel)
    · exact Or.inr ⟨(Lead.mark.inj (hu.symm.trans h)).symm, hb, hd, hl, hc⟩

theorem digit_cases {c : Char} (h : Lead.of c = .digit) : isDigit c = true := by
  rcases Lead.mem_marks_or c with hc | hc
  · rw [h] at hc
    exact absurd hc (by simp [Lead.table])
  · rw [Lead.of_of_not_mem_marks hc] at h
    rcases Lead.unmarked_cases c with ⟨hd, _⟩ | ⟨_, hu⟩ | ⟨_, hu⟩ | ⟨_, _, hu⟩
    · exact hd
    all_goals exact Lead.noConfusion (hu.symm.trans h)

theorem letter_cases {c : Char} (h : Lead.of c = .letter) : isLetter c = true := by
  rcases Lead.mem_marks_or c with hc | hc
  · rw [h] at hc
    exact absurd hc (by simp [Lead.table])
  · rw [Lead.of_of_not_mem_marks hc] at h
    rcases Lead.unmarked_cases c with ⟨_, hu⟩ | ⟨hl, _⟩ | ⟨_, hu⟩ | ⟨_, _, hu⟩
    · exact Lead.noConfusion (hu.symm.trans h)
    · exact hl
    · exact Lead.noConfusion (hu.symm.trans h)
    · exact Lead.noConfusion (hu.symm.trans h)

theorem arithmetic_cases {c : Char} {doubled : Kind} (h : Lead.of c = .arithmetic doubled) :
    c = '+' ∧ doubled = .increment ∨ c = '-' ∧ doubled = .decrement ∨
      c = '*' ∧ doubled = .binaryOp := by
  rcases Lead.mem_marks_or c with hc | hc
  · rw [h] at hc
    simpa [Lead.table] using hc
  · rw [Lead.of_of_not_mem_marks hc] at h
    rcases Lead.unmarked_cases c with ⟨_, hu⟩ | ⟨_, hu⟩ | ⟨_, hu⟩ | ⟨_, _, hu⟩ <;>
      exact Lead.noConfusion (hu.symm.trans h)

theorem comparison_cases {c : Char} {joined bare : Kind} (h : Lead.of c = .comparison joined bare) :
    c = '!' ∧ joined = .notEqual ∧ bare = .unrecognized ∨
      c = '<' ∧ joined = .lessOrEqual ∧ bare = .lessThan ∨
      c = '>' ∧ joined = .greaterOrEqual ∧ bare = .greaterThan ∨
      c = '=' ∧ joined = .equality ∧ bare = .assignment := by
  rcases Lead.mem_marks_or c with hc | hc
  · rw [h] at hc
    simpa [Lead.table] using hc
  · rw [Lead.of_of_not_mem_marks hc] at h
    rcases Lead.unmarked_cases c with ⟨_, hu⟩ | ⟨_, hu⟩ | ⟨_, hu⟩ | ⟨_, _, hu⟩ <;>
      exact Lead.noConfusion (hu.symm.trans h)

/-- What stands behind the characters taken while a property holds lacks it. -/
theorem dropWhile_head {p : Char → Bool} {cs rest : List Char} {d : Char}
    (h : cs.dropWhile p = d :: rest) : p d = false := by
  have hd := List.head?_dropWhile_not p cs
  rw [h] at hd
  simpa using hd

theorem mem_takeWhile {p : Char → Bool} {cs : List Char} {d : Char} (h : d ∈ cs.takeWhile p) :
    p d = true :=
  List.all_eq_true.mp List.all_takeWhile d h

/-- A token of one character is well-formed and joins nothing. -/
theorem mark_admits {c : Char} {kind : Kind} (h : Lead.of c = .mark kind)
    (hb : isBlank c = false) : kind.Admits [c] ∧ ∀ d, (ofChars kind [c]).joins d = false := by
  rcases mark_cases h hb with hc | ⟨rfl, hc⟩
  · simp only [Lead.table, List.mem_cons, Prod.mk.injEq, reduceCtorEq, and_false,
      Lead.mark.injEq, List.not_mem_nil, or_false] at hc
    rcases hc with ⟨rfl, rfl⟩ | ⟨rfl, rfl⟩ | ⟨rfl, rfl⟩ | ⟨rfl, rfl⟩ | ⟨rfl, rfl⟩ | ⟨rfl, rfl⟩ |
      ⟨rfl, rfl⟩ | ⟨rfl, rfl⟩ | ⟨rfl, rfl⟩ | ⟨rfl, rfl⟩ | ⟨rfl, rfl⟩ <;>
      exact ⟨by simp [Kind.Admits], fun d => by simp [joins]⟩
  · refine ⟨Or.inr ⟨c, rfl, hc⟩, fun d => ?_⟩
    have hne : c ≠ '!' := by
      rintro rfl
      exact hc.2.2.2 (by decide)
    simp [joins, hne]

theorem arithmetic_wellFormed {c : Char} {doubled : Kind} (h : Lead.of c = .arithmetic doubled)
    (rest : List Char) :
    (arithmetic doubled c rest).1.WellFormed ∧
      (arithmetic doubled c rest).1.EndsBefore (arithmetic doubled c rest).2 := by
  have hbare : Kind.Admits .binaryOp [c] := by
    rcases arithmetic_cases h with ⟨rfl, _⟩ | ⟨rfl, _⟩ | ⟨rfl, _⟩ <;> simp [Kind.Admits]
  rcases rest with _ | ⟨d, rest⟩
  · exact ⟨wellFormed_ofChars.mpr hbare, trivial⟩
  · rw [arithmetic]
    split
    · rcases arithmetic_cases h with ⟨rfl, rfl⟩ | ⟨rfl, rfl⟩ | ⟨rfl, rfl⟩ <;>
        refine ⟨wellFormed_ofChars.mpr (by simp [Kind.Admits]), ?_⟩ <;>
        rcases rest with _ | ⟨e, rest⟩ <;> simp [EndsBefore, joins]
    · next hne =>
      split
      · refine ⟨wellFormed_ofChars.mpr ?_, ?_⟩
        · rcases arithmetic_cases h with ⟨rfl, _⟩ | ⟨rfl, _⟩ | ⟨rfl, _⟩ <;> simp [Kind.Admits]
        · rcases rest with _ | ⟨e, rest⟩ <;> simp [EndsBefore, joins]
      · next hne' =>
        exact ⟨wellFormed_ofChars.mpr hbare, by simp [EndsBefore, joins, hne, hne']⟩

theorem comparison_wellFormed {c : Char} {joined bare : Kind}
    (h : Lead.of c = .comparison joined bare) (rest : List Char) :
    (comparison joined bare c rest).1.WellFormed ∧
      (comparison joined bare c rest).1.EndsBefore (comparison joined bare c rest).2 := by
  have hbare : bare.Admits [c] := by
    rcases comparison_cases h with ⟨rfl, _, rfl⟩ | ⟨rfl, _, rfl⟩ | ⟨rfl, _, rfl⟩ | ⟨rfl, _, rfl⟩ <;>
      simp [Kind.Admits]
  rcases rest with _ | ⟨d, rest⟩
  · exact ⟨wellFormed_ofChars.mpr hbare, trivial⟩
  · rw [comparison]
    split
    · rcases comparison_cases h with ⟨rfl, rfl, _⟩ | ⟨rfl, rfl, _⟩ | ⟨rfl, rfl, _⟩ | ⟨rfl, rfl, _⟩ <;>
        refine ⟨wellFormed_ofChars.mpr (by simp [Kind.Admits]), ?_⟩ <;>
        rcases rest with _ | ⟨e, rest⟩ <;> simp [EndsBefore, joins]
    · next hne =>
      refine ⟨wellFormed_ofChars.mpr hbare, ?_⟩
      rcases comparison_cases h with ⟨rfl, _, rfl⟩ | ⟨rfl, _, rfl⟩ | ⟨rfl, _, rfl⟩ |
        ⟨rfl, _, rfl⟩ <;>
        simp [EndsBefore, joins, hne]

theorem number_wellFormed {c : Char} (h : isDigit c = true) (rest : List Char) :
    (number c rest).1.WellFormed ∧ (number c rest).1.EndsBefore (number c rest).2 := by
  refine ⟨wellFormed_ofChars.mpr ⟨List.cons_ne_nil _ _, ?_⟩, ?_⟩
  · intro d hd
    rcases List.mem_cons.mp hd with rfl | hd
    · exact h
    · exact mem_takeWhile hd
  · rw [number]
    rcases hrest : rest.dropWhile isDigit with _ | ⟨d, after⟩
    · trivial
    · exact dropWhile_head hrest

theorem word_wellFormed {c : Char} (h : isLetter c = true) (rest : List Char) :
    (word c rest).1.WellFormed ∧ (word c rest).1.EndsBefore (word c rest).2 := by
  have htext : IsWordText (c :: rest.takeWhile isWord) := ⟨h, fun d hd => mem_takeWhile hd⟩
  rw [word]
  constructor
  · rw [WellFormed, wordKind]
    split
    · next k hk =>
      rw [String.toList_ofList]
      have := congrArg String.toList (Keyword.ofSpelling?_eq_some_iff.mp hk)
      rwa [String.toList_ofList] at this
    · next hk =>
      rw [String.toList_ofList]
      exact ⟨htext, hk⟩
  · rcases hrest : rest.dropWhile isWord with _ | ⟨d, after⟩
    · trivial
    · have hd := dropWhile_head hrest
      rcases wordKind_eq (.ofList (c :: rest.takeWhile isWord)) with hk | ⟨k, hk⟩ <;>
        simp only [EndsBefore, joins, hk, hd]

/-- The first token of a text is well-formed, and it ends before what follows. -/
theorem first?_wellFormed {c : Char} {rest after : List Char} {t : Token}
    (hb : isBlank c = false) (h : first? c rest = some (t, after)) :
    t.WellFormed ∧ t.EndsBefore after := by
  rw [first?] at h
  split at h
  · next kind hc =>
    obtain ⟨rfl, rfl⟩ := Prod.mk.inj (Option.some.inj h)
    obtain ⟨hadm, hjoin⟩ := mark_admits hc hb
    refine ⟨wellFormed_ofChars.mpr hadm, ?_⟩
    rcases rest with _ | ⟨d, rest⟩
    · trivial
    · exact hjoin d
  · next doubled hc =>
    have := arithmetic_wellFormed hc rest
    rwa [Option.some.inj h] at this
  · next joined bare hc =>
    have := comparison_wellFormed hc rest
    rwa [Option.some.inj h] at this
  · obtain ⟨body, hno, rfl, rfl⟩ := literal?_eq_some_iff.mp h
    refine ⟨wellFormed_ofChars.mpr hno, ?_⟩
    rcases after with _ | ⟨d, after⟩
    · trivial
    · rfl
  · next hc =>
    have := number_wellFormed (digit_cases hc) rest
    rwa [Option.some.inj h] at this
  · next hc =>
    have := word_wellFormed (letter_cases hc) rest
    rwa [Option.some.inj h] at this

/-! ## A well-formed token that ends is the first one -/

theorem first?_mark {c : Char} {kind : Kind} (h : (c, Lead.mark kind) ∈ Lead.table)
    (rest : List Char) : first? c rest = some (ofChars kind [c], rest) := by
  rw [first?, Lead.of_of_mem_table h]

theorem first?_arithmetic {c : Char} {doubled : Kind}
    (h : (c, Lead.arithmetic doubled) ∈ Lead.table) (rest : List Char) :
    first? c rest = some (arithmetic doubled c rest) := by
  rw [first?, Lead.of_of_mem_table h]

theorem first?_comparison {c : Char} {joined bare : Kind}
    (h : (c, Lead.comparison joined bare) ∈ Lead.table) (rest : List Char) :
    first? c rest = some (comparison joined bare c rest) := by
  rw [first?, Lead.of_of_mem_table h]

theorem first?_quote (rest : List Char) : first? '"' rest = literal? rest := by
  rw [first?, Lead.of_of_mem_table (by decide : ('"', Lead.quote) ∈ Lead.table)]

theorem first?_digit {c : Char} (h : isDigit c = true) (rest : List Char) :
    first? c rest = some (number c rest) := by
  have hm : c ∉ Lead.marks := fun hm => by
    rw [Lead.isDigit_of_mem_marks hm] at h
    exact Bool.false_ne_true h
  rw [first?, Lead.of_of_not_mem_marks hm, Lead.unmarked, if_pos h]

theorem first?_letter {c : Char} (h : isLetter c = true) (rest : List Char) :
    first? c rest = some (word c rest) := by
  have hm : c ∉ Lead.marks := fun hm => by
    rw [Lead.isLetter_of_mem_marks hm] at h
    exact Bool.false_ne_true h
  rw [first?, Lead.of_of_not_mem_marks hm, Lead.unmarked, isDigit_of_isLetter h,
    if_neg Bool.false_ne_true, if_pos h]

theorem first?_stray {c : Char} (h : IsStray c) (rest : List Char) :
    first? c rest = some (ofChars .unrecognized [c], rest) := by
  obtain ⟨hb, hd, hl, hm⟩ := h
  have hne : c ≠ ' ' := by
    rintro rfl
    exact absurd hb (by decide +kernel)
  rw [first?, Lead.of_of_not_mem_marks hm, Lead.unmarked, hd, hl, if_neg Bool.false_ne_true,
    if_neg Bool.false_ne_true, if_neg hne]

theorem arithmetic_bare {c : Char} {doubled : Kind} {after : List Char}
    (hc : (c, Lead.arithmetic doubled) ∈ Lead.table)
    (h : (ofChars .binaryOp [c]).EndsBefore after) :
    arithmetic doubled c after = (ofChars .binaryOp [c], after) := by
  rcases after with _ | ⟨d, after⟩
  · rfl
  · have hd : d ≠ c ∧ d ≠ '=' := by
      rcases arithmetic_cases (Lead.of_of_mem_table hc) with ⟨rfl, _⟩ | ⟨rfl, _⟩ | ⟨rfl, _⟩ <;>
        simpa [EndsBefore, joins] using h
    rw [arithmetic, if_neg hd.1, if_neg hd.2]

theorem arithmetic_doubled (doubled : Kind) (c : Char) (after : List Char) :
    arithmetic doubled c (c :: after) = (ofChars doubled [c, c], after) := by
  rw [arithmetic, if_pos rfl]

theorem arithmetic_compound {c : Char} {doubled : Kind}
    (hc : (c, Lead.arithmetic doubled) ∈ Lead.table) (after : List Char) :
    arithmetic doubled c ('=' :: after) = (ofChars .compoundOp [c, '='], after) := by
  have hne : '=' ≠ c := by
    rcases arithmetic_cases (Lead.of_of_mem_table hc) with ⟨rfl, _⟩ | ⟨rfl, _⟩ | ⟨rfl, _⟩ <;> decide
  rw [arithmetic, if_neg hne, if_pos rfl]

theorem comparison_bare {c : Char} {joined bare : Kind} {after : List Char}
    (hc : (c, Lead.comparison joined bare) ∈ Lead.table)
    (h : (ofChars bare [c]).EndsBefore after) :
    comparison joined bare c after = (ofChars bare [c], after) := by
  rcases after with _ | ⟨d, after⟩
  · rfl
  · have hd : d ≠ '=' := by
      rcases comparison_cases (Lead.of_of_mem_table hc) with ⟨rfl, _, rfl⟩ | ⟨rfl, _, rfl⟩ |
        ⟨rfl, _, rfl⟩ | ⟨rfl, _, rfl⟩ <;> simpa [EndsBefore, joins] using h
    rw [comparison, if_neg hd]

theorem comparison_joined (joined bare : Kind) (c : Char) (after : List Char) :
    comparison joined bare c ('=' :: after) = (ofChars joined [c, '='], after) := by
  rw [comparison, if_pos rfl]

/-- Each operator and bracket is spelled out by a character of the table. -/
theorem exists_mem_spellings {kind : Kind} {cs : List Char} (h : (kind, cs) ∈ Kind.operators) :
    ∃ c lead, (c, lead) ∈ Lead.table ∧ (kind, cs) ∈ lead.spellings c := by
  have hall : (Kind.operators.all fun o =>
      Lead.table.any fun p => decide (o ∈ p.2.spellings p.1)) = true := by decide
  obtain ⟨⟨c, lead⟩, hc, hmem⟩ := List.any_eq_true.mp (List.all_eq_true.mp hall _ h)
  exact ⟨c, lead, hc, of_decide_eq_true hmem⟩

/-- What a character of the table spells out is the first token where it ends. -/
theorem first?_of_mem_spellings {c : Char} {lead : Lead} {kind : Kind} {cs after : List Char}
    (hc : (c, lead) ∈ Lead.table) (h : (kind, cs) ∈ lead.spellings c)
    (hend : (ofChars kind cs).EndsBefore after) {d : Char} {rest : List Char}
    (hsource : cs ++ after = d :: rest) :
    first? d rest = some (ofChars kind cs, after) := by
  cases lead with
  | mark kind' =>
    obtain ⟨rfl, rfl⟩ := Prod.mk.inj (List.mem_singleton.mp h)
    obtain ⟨rfl, rfl⟩ := List.cons.inj hsource
    exact first?_mark hc _
  | arithmetic doubled =>
    simp only [Lead.spellings, List.mem_cons, List.not_mem_nil, or_false, Prod.mk.injEq] at h
    rcases h with ⟨rfl, rfl⟩ | ⟨rfl, rfl⟩ | ⟨rfl, rfl⟩ <;>
      obtain ⟨rfl, rfl⟩ := List.cons.inj hsource <;> rw [first?_arithmetic hc]
    · exact congrArg some (arithmetic_bare hc hend)
    · exact congrArg some (arithmetic_doubled _ _ _)
    · exact congrArg some (arithmetic_compound hc _)
  | comparison joined bare =>
    simp only [Lead.spellings, List.mem_cons, List.not_mem_nil, or_false, Prod.mk.injEq] at h
    rcases h with ⟨rfl, rfl⟩ | ⟨rfl, rfl⟩ <;>
      obtain ⟨rfl, rfl⟩ := List.cons.inj hsource <;> rw [first?_comparison hc]
    · exact congrArg some (comparison_bare hc hend)
    · exact congrArg some (comparison_joined _ _ _ _)
  | quote => exact absurd h List.not_mem_nil
  | digit => exact absurd h List.not_mem_nil
  | letter => exact absurd h List.not_mem_nil

/-- Characters with a property, followed by none with it, are what is taken while the
    property holds. -/
theorem takeWhile_exact {p : Char → Bool} {body after : List Char} (hin : ∀ c ∈ body, p c = true)
    (hout : ∀ d rest, after = d :: rest → p d = false) :
    (body ++ after).takeWhile p = body ∧ (body ++ after).dropWhile p = after := by
  rw [List.takeWhile_append_of_pos hin, List.dropWhile_append_of_pos hin]
  rcases after with _ | ⟨d, rest⟩
  · exact ⟨List.append_nil _, rfl⟩
  · have hd := Bool.eq_false_iff.mp (hout d rest rfl)
    rw [List.takeWhile_cons_of_neg hd, List.dropWhile_cons_of_neg hd]
    exact ⟨List.append_nil _, rfl⟩

/-- The kind of a word is the one that its lexeme has in a scan. -/
theorem wordKind_of_admits {kind : Kind} {cs : List Char} (h : kind.Admits cs)
    (hk : kind = .identifier ∨ ∃ k, kind = .keyword k) : wordKind (.ofList cs) = kind := by
  rcases hk with rfl | ⟨k, rfl⟩
  · rw [wordKind, h.2]
  · have hspell : cs = k.spelling.toList := h
    rw [hspell, String.ofList_toList, wordKind, Keyword.ofSpelling?_spelling]

theorem first?_literal {body after : List Char} (h : '"' ∉ body) :
    first? '"' (body ++ '"' :: after) = some (ofChars .string body, after) := by
  rw [first?_quote]
  exact literal?_eq_some_iff.mpr ⟨body, h, rfl, rfl⟩

/-- Digits are a number where no digit follows. -/
theorem first?_number {cs after : List Char} (h : ∀ c ∈ cs, isDigit c = true)
    (hend : (ofChars .number cs).EndsBefore after) {d : Char} {rest : List Char} (hne : cs ≠ [])
    (hsource : cs ++ after = d :: rest) :
    first? d rest = some (ofChars .number cs, after) := by
  obtain ⟨c, body, rfl⟩ := List.exists_cons_of_ne_nil hne
  rw [List.cons_append] at hsource
  obtain ⟨rfl, rfl⟩ := List.cons.inj hsource
  obtain ⟨hc, hbody⟩ := List.forall_mem_cons.mp h
  have hstop : ∀ d rest, after = d :: rest → isDigit d = false := by
    rintro d rest rfl
    exact hend
  obtain ⟨htake, hdrop⟩ := takeWhile_exact hbody hstop
  rw [first?_digit hc, number, htake, hdrop]

/-- A letter and word characters are a word where no word character follows. -/
theorem first?_word {kind : Kind} {cs after : List Char} (htext : IsWordText cs)
    (hkind : wordKind (.ofList cs) = kind) (hend : (ofChars kind cs).EndsBefore after) {d : Char}
    {rest : List Char} (hsource : cs ++ after = d :: rest) :
    first? d rest = some (ofChars kind cs, after) := by
  cases cs with
  | nil => exact htext.elim
  | cons c body =>
    rw [List.cons_append] at hsource
    obtain ⟨rfl, rfl⟩ := List.cons.inj hsource
    have hword : kind = .identifier ∨ ∃ k, kind = .keyword k := hkind ▸ wordKind_eq _
    have hstop : ∀ d rest, after = d :: rest → isWord d = false := by
      rintro d rest rfl
      exact (joins_of_word hword d).symm.trans hend
    obtain ⟨htake, hdrop⟩ := takeWhile_exact htext.2 hstop
    simp only [first?_letter htext.1, word, htake, hdrop, hkind, ofChars]

/-- A lexeme is the first token of a text that starts with it where it ends. -/
theorem first?_of_admits {kind : Kind} {cs after : List Char} (hadm : kind.Admits cs)
    (hend : (ofChars kind cs).EndsBefore after) {c : Char} {rest : List Char}
    (hsource : (ofChars kind cs).source ++ after = c :: rest) :
    first? c rest = some (ofChars kind cs, after) := by
  by_cases hk : kind = .string
  · subst hk
    rw [source_string, List.cons_append, List.append_assoc] at hsource
    obtain ⟨rfl, rfl⟩ := List.cons.inj hsource
    exact first?_literal hadm
  · rw [source_ofChars hk] at hsource
    rcases admits_cases hadm with ⟨hs, -⟩ | ⟨rfl, hne, hdigits⟩ | ⟨hword, htext⟩ |
      ⟨rfl, rfl | ⟨d, rfl, hd⟩⟩ | hop
    · exact absurd hs hk
    · exact first?_number hdigits hend hne hsource
    · exact first?_word htext (wordKind_of_admits hadm hword) hend hsource
    · have hbang : ('!', Lead.comparison .notEqual .unrecognized) ∈ Lead.table := by decide
      exact first?_of_mem_spellings hbang List.mem_cons_self hend hsource
    · obtain ⟨rfl, rfl⟩ := List.cons.inj hsource
      exact first?_stray hd _
    · obtain ⟨d, lead, hd, hmem⟩ := exists_mem_spellings hop
      exact first?_of_mem_spellings hd hmem hend hsource

/-- The first token of a text is the one well-formed token that the text starts with and
    that ends there. -/
theorem first?_eq_some_iff {c : Char} {rest after : List Char} {t : Token}
    (hb : isBlank c = false) :
    first? c rest = some (t, after) ↔
      t.WellFormed ∧ t.EndsBefore after ∧ t.source ++ after = c :: rest := by
  constructor
  · intro h
    obtain ⟨hform, hend⟩ := first?_wellFormed hb h
    exact ⟨hform, hend, first?_source h⟩
  · rintro ⟨hform, hend, hsource⟩
    rw [← ofChars_toList_lexeme t] at hform hend hsource ⊢
    exact first?_of_admits (wellFormed_ofChars.mp hform) hend hsource

end Token

end ScriptLexer
