import Mathlib.Data.List.SplitBy
import ScriptLexer.Proofs.Quotes

/-!
# Runs of word characters

Letters, digits and underscores that stand in a row outside of literals make up
a run. The tokens of a run depend on nothing around it. From its first letter
on, a run is one word. In front of that, digits in a row are numbers, and each
underscore is unrecognized.

Results:

* `wordRuns_skip`, `wordRuns_literal`, `wordRuns_cons_of_takeWhile`: the runs of a text
  behind characters that are in no run, behind a literal, and behind a run.
* `Token.WellFormed.run_cases`: which tokens stand in runs.
* `Token.WellFormed.wordTokens_source`, `wordTokens_text`: the tokens of the runs of a
  text, token by token, and for many tokens in a row.
* `tokenize_wordRuns`: the tokens of a stream that stand in runs.
-/

namespace ScriptLexer

open ScriptLexer.Unicode

/-! ## Runs -/

/-- A run of word characters starts at the index `i`: it lies outside of literals, and a word
    character stands there, but none right in front of it. -/
def StartsRun (cs : List Char) (i : Nat) : Prop :=
  (cs.take i).count '"' % 2 = 0 ∧ cs[i]?.any isWord = true ∧
    (cs.take i).getLast?.any isWord = false

instance (cs : List Char) : DecidablePred (StartsRun cs) :=
  fun _ => inferInstanceAs (Decidable (_ ∧ _ ∧ _))

/-- The runs of a text in their order. Each goes as far as there are word characters. -/
def wordRuns (cs : List Char) : List (List Char) :=
  ((List.range cs.length).filter (StartsRun cs ·)).map fun i => (cs.drop i).takeWhile isWord

theorem startsRun_append_iff {cs ds : List Char} (heven : cs.count '"' % 2 = 0)
    (hend : cs.getLast?.any isWord = false ∨ ds.head?.any isWord = false) (i : Nat) :
    StartsRun (cs ++ ds) (cs.length + i) ↔ StartsRun ds i := by
  have hcount : (cs ++ ds.take i).count '"' % 2 = (ds.take i).count '"' % 2 := by
    rw [List.count_append]
    omega
  unfold StartsRun
  rw [List.take_length_add_append, hcount, List.getElem?_append_right (Nat.le_add_right _ _),
    Nat.add_sub_cancel_left, List.getLast?_append]
  by_cases hnil : ds.take i = []
  · -- Nothing of `ds` stands in front of the index, so the last character of `cs` counts.
    have hfirst : ds[i]? = ds.head? ∨ ds[i]? = none := by
      rcases List.take_eq_nil_iff.mp hnil with rfl | rfl
      · exact Or.inl List.head?_eq_getElem?.symm
      · exact Or.inr rfl
    rw [hnil, List.getLast?_nil, Option.none_or]
    rcases hend with hend | hend
    · simp [hend]
    · have hno : ds[i]?.any isWord = false := by
        rcases hfirst with h | h <;> simp [h, hend]
      simp [hno]
  · obtain ⟨c, hc⟩ := Option.ne_none_iff_exists'.mp
      (show (ds.take i).getLast? ≠ none by simpa using hnil)
    rw [hc, Option.some_or]

/-- The runs of two texts in a row. -/
theorem wordRuns_append {cs ds : List Char} (heven : cs.count '"' % 2 = 0)
    (hend : cs.getLast?.any isWord = false ∨ ds.head?.any isWord = false) :
    wordRuns (cs ++ ds) = ((List.range cs.length).filter (StartsRun (cs ++ ds) ·)).map
      (fun i => ((cs ++ ds).drop i).takeWhile isWord) ++ wordRuns ds := by
  have hstarts : ∀ i, decide (StartsRun (cs ++ ds) (cs.length + i)) = decide (StartsRun ds i) :=
    fun i => decide_eq_decide.mpr (startsRun_append_iff heven hend i)
  unfold wordRuns
  rw [List.length_append, List.range_add, List.filter_append, List.map_append, List.filter_map,
    List.map_map]
  simp only [Function.comp_def, hstarts, List.drop_length_add_append]

/-- What has no run in it may be left out in front of a text. -/
theorem wordRuns_of_forall_not {cs ds : List Char} (heven : cs.count '"' % 2 = 0)
    (hend : cs.getLast?.any isWord = false ∨ ds.head?.any isWord = false)
    (hno : ∀ i < cs.length, ¬ StartsRun (cs ++ ds) i) : wordRuns (cs ++ ds) = wordRuns ds := by
  have hnil : (List.range cs.length).filter (StartsRun (cs ++ ds) ·) = [] := by
    rw [List.filter_eq_nil_iff]
    intro i hi
    rw [decide_eq_true_iff]
    exact hno i (List.mem_range.mp hi)
  rw [wordRuns_append heven hend, hnil, List.map_nil, List.nil_append]

theorem wordRuns_skip {cs : List Char} (heven : cs.count '"' % 2 = 0)
    (h : ∀ c ∈ cs, isWord c = false) (ds : List Char) : wordRuns (cs ++ ds) = wordRuns ds := by
  apply wordRuns_of_forall_not heven
  · left
    rw [Option.any_eq_false]
    intro c hc
    exact h c (List.mem_of_getLast? hc)
  · intro i hi hstart
    have hword := hstart.2.1
    rw [List.getElem?_append_left hi, List.getElem?_eq_getElem hi, Option.any_some,
      h _ (List.getElem_mem hi)] at hword
    exact Bool.false_ne_true hword

/-- There are no runs in a literal. -/
theorem wordRuns_literal {body : List Char} (h : '"' ∉ body) (ds : List Char) :
    wordRuns ('"' :: (body ++ ['"']) ++ ds) = wordRuns ds := by
  have hcount : body.count '"' = 0 := List.count_eq_zero.mpr h
  have hquote : isWord '"' = false := by decide +kernel
  apply wordRuns_of_forall_not
  · rw [List.count_cons_self, List.count_append, hcount, List.count_singleton_self]
  · left
    simp [List.getLast?_cons, hquote]
  · intro i hi hstart
    obtain ⟨heven, hword, -⟩ := hstart
    rw [List.getElem?_append_left hi] at hword
    rw [List.take_append_of_le_length (Nat.le_of_lt hi)] at heven
    cases i with
    | zero => simp [hquote] at hword
    | succ i =>
      -- Behind the opening quote, up to the closing one, the number of quotes is odd.
      rw [List.getElem?_cons_succ] at hword
      rw [List.take_succ_cons, List.count_cons_self] at heven
      rcases Nat.lt_or_ge i body.length with hlt | hge
      · have hfront : (body.take i).count '"' = 0 :=
          List.count_eq_zero.mpr fun hmem => h (List.mem_of_mem_take hmem)
        rw [List.take_append_of_le_length (Nat.le_of_lt hlt), hfront] at heven
        omega
      · have hlast : i = body.length := by
          simp only [List.length_cons, List.length_append, List.length_nil] at hi
          omega
        simp [hlast, hquote] at hword

/-- Of the places in a run, only the first one has no word character in front of it. -/
theorem filter_startsRun {c : Char} {run : List Char} (h : ∀ d ∈ c :: run, isWord d = true)
    (ds : List Char) :
    (List.range (c :: run).length).filter (StartsRun (c :: run ++ ds) ·) = [0] := by
  have hfirst : StartsRun (c :: run ++ ds) 0 := by
    refine ⟨rfl, ?_, rfl⟩
    rw [List.cons_append, List.getElem?_cons_zero, Option.any_some]
    exact h c List.mem_cons_self
  have hothers : ∀ i < run.length, ¬ StartsRun (c :: run ++ ds) (i + 1) := by
    intro i hi hstart
    have hlt : i < (c :: run).length := Nat.lt_succ_of_lt hi
    have hlast := hstart.2.2
    rw [List.take_append_of_le_length hlt, List.take_add_one, List.getElem?_eq_getElem hlt,
      Option.toList_some, List.getLast?_concat, Option.any_some,
      h _ (List.getElem_mem hlt)] at hlast
    exact Bool.false_ne_true hlast.symm
  rw [List.length_cons, List.range_succ_eq_map, List.filter_cons_of_pos (by simpa using hfirst),
    List.filter_eq_nil_iff.mpr]
  intro i hi
  obtain ⟨j, hj, rfl⟩ := List.mem_map.mp hi
  simpa using hothers j (List.mem_range.mp hj)

/-- A run at the start of a text is the first one, and it is left behind as a whole. -/
theorem wordRuns_cons_of_takeWhile {cs : List Char} (h : cs.takeWhile isWord ≠ []) :
    wordRuns cs = cs.takeWhile isWord :: wordRuns (cs.dropWhile isWord) := by
  obtain ⟨c, run, hrun⟩ := List.exists_cons_of_ne_nil h
  have hcs : c :: run ++ cs.dropWhile isWord = cs := by
    rw [← hrun, List.takeWhile_append_dropWhile]
  have hword : ∀ d ∈ c :: run, isWord d = true := fun d hd => Token.mem_takeWhile (hrun ▸ hd)
  have hhead : (cs.dropWhile isWord).head?.any isWord = false := by
    rw [Option.any_eq_false]
    intro d hd
    obtain ⟨rest, hrest⟩ := List.head?_eq_some_iff.mp hd
    exact Token.dropWhile_head hrest
  have heven : (c :: run).count '"' % 2 = 0 := by
    have hno : '"' ∉ c :: run := fun hmem => absurd (hword _ hmem) (by decide +kernel)
    rw [List.count_eq_zero.mpr hno]
  have hruns := wordRuns_append heven (Or.inr hhead)
  rw [filter_startsRun hword, hcs, List.map_singleton, List.drop_zero, List.singleton_append]
    at hruns
  exact hruns

/-! ## Tokens of a run -/

/-- Two digits in a row belong to one number. -/
def bothDigits (c d : Char) : Bool := isDigit c && isDigit d

/-- The tokens of digits and underscores: digits in a row are one number, and each underscore is
    a token of its own. -/
def numberTokens (cs : List Char) : List Token :=
  (cs.splitBy bothDigits).map fun block =>
    Token.ofChars (if block = ['_'] then .unrecognized else .number) block

/-- The token of a word, which may be reserved. Without characters there is none. -/
def nameTokens (cs : List Char) : List Token :=
  if cs = [] then [] else [Token.ofChars (Token.wordKind (.ofList cs)) cs]

/-- The tokens of a run: a word from the first letter on, and numbers and underscores in front of
    it. -/
def runTokens (run : List Char) : List Token :=
  numberTokens (run.takeWhile (!isLetter ·)) ++ nameTokens (run.dropWhile (!isLetter ·))

theorem isLetter_underscore : isLetter '_' = false := by decide +kernel

theorem isDigit_underscore : isDigit '_' = false := by decide +kernel

theorem runTokens_underscore (run : List Char) :
    runTokens ('_' :: run) = Token.ofChars .unrecognized ['_'] :: runTokens run := by
  have hletter : (!isLetter '_') = true := by rw [isLetter_underscore, Bool.not_false]
  have hsplit : ∀ cs : List Char,
      ('_' :: cs).splitBy bothDigits = ['_'] :: cs.splitBy bothDigits := by
    intro cs
    apply List.splitBy_append (l := ['_'])
    intro c hc d _
    obtain rfl : '_' = c := Option.some.inj hc
    rw [bothDigits, isDigit_underscore, Bool.false_and]
  unfold runTokens numberTokens
  rw [List.takeWhile_cons_of_pos (p := (!isLetter ·)) hletter,
    List.dropWhile_cons_of_pos (p := (!isLetter ·)) hletter, hsplit, List.map_cons, if_pos rfl,
    List.cons_append]

theorem runTokens_number {number run : List Char} (hne : number ≠ [])
    (hnumber : ∀ c ∈ number, isDigit c = true)
    (hrun : ∀ d, run.head? = some d → isDigit d = false) :
    runTokens (number ++ run) = Token.ofChars .number number :: runTokens run := by
  have hletter : ∀ c ∈ number, (!isLetter c) = true := by
    intro c hc
    rw [isLetter_of_isDigit (hnumber c hc), Bool.not_false]
  have hmark : number ≠ ['_'] := by
    rintro rfl
    exact absurd (hnumber '_' List.mem_cons_self) (by rw [isDigit_underscore]; decide)
  have hchain : number.IsChain fun c d => bothDigits c d = true := by
    apply List.Pairwise.isChain
    apply List.pairwise_of_forall_mem_list
    intro c hc d hd
    rw [bothDigits, hnumber c hc, hnumber d hd, Bool.true_and]
  have hsplit : (number ++ run.takeWhile (!isLetter ·)).splitBy bothDigits =
      number :: (run.takeWhile (!isLetter ·)).splitBy bothDigits := by
    rw [List.splitBy_append, List.splitBy_of_isChain hne hchain, List.singleton_append]
    intro c _ d hd
    rw [List.head?_takeWhile] at hd
    rw [bothDigits, hrun d (Option.filter_eq_some_iff.mp hd).1, Bool.and_false]
  unfold runTokens numberTokens
  rw [List.takeWhile_append_of_pos hletter, List.dropWhile_append_of_pos hletter, hsplit,
    List.map_cons, if_neg hmark, List.cons_append]

theorem runTokens_word {word : List Char} (h : IsWordText word) :
    runTokens word = [Token.ofChars (Token.wordKind (.ofList word)) word] := by
  cases word with
  | nil => exact h.elim
  | cons c cs =>
    have hletter : ¬ (!isLetter c) = true := by
      rw [h.1]
      decide
    unfold runTokens
    rw [List.takeWhile_cons_of_neg (p := (!isLetter ·)) hletter,
      List.dropWhile_cons_of_neg (p := (!isLetter ·)) hletter, nameTokens,
      if_neg (List.cons_ne_nil c cs)]
    rfl

/-! ## Tokens of all runs -/

/-- The tokens of the runs of a text, one run after the other. -/
def wordTokens (cs : List Char) : List Token := (wordRuns cs).flatMap runTokens

theorem wordTokens_skip {cs : List Char} (heven : cs.count '"' % 2 = 0)
    (h : ∀ c ∈ cs, isWord c = false) (ds : List Char) :
    wordTokens (cs ++ ds) = wordTokens ds := by
  rw [wordTokens, wordRuns_skip heven h, wordTokens]

theorem wordTokens_nil : wordTokens [] = [] := rfl

/-- The tokens of a text are those of the word characters that it starts with, and those of what
    stands behind them. -/
theorem wordTokens_eq (cs : List Char) :
    wordTokens cs = runTokens (cs.takeWhile isWord) ++ wordTokens (cs.dropWhile isWord) := by
  by_cases h : cs.takeWhile isWord = []
  · have hcs := List.takeWhile_append_dropWhile (p := isWord) (l := cs)
    rw [h, List.nil_append] at hcs
    rw [h, hcs]
    rfl
  · rw [wordTokens, wordRuns_cons_of_takeWhile h, List.flatMap_cons, wordTokens]

/-- Word characters in front of a text take part in its first run. -/
theorem wordTokens_append {cs : List Char} (h : ∀ c ∈ cs, isWord c = true) (ds : List Char) :
    wordTokens (cs ++ ds) =
      runTokens (cs ++ ds.takeWhile isWord) ++ wordTokens (ds.dropWhile isWord) := by
  rw [wordTokens_eq, List.takeWhile_append_of_pos h, List.dropWhile_append_of_pos h]

theorem wordTokens_blanks {gap : List Char} (h : ∀ c ∈ gap, isBlank c = true) (ds : List Char) :
    wordTokens (gap ++ ds) = wordTokens ds := by
  apply wordTokens_skip
  · rw [count_quote_of_blank h]
  · exact fun c hc => isWord_of_isBlank (h c hc)

theorem wordTokens_literal {body : List Char} (h : '"' ∉ body) (ds : List Char) :
    wordTokens ('"' :: (body ++ ['"']) ++ ds) = wordTokens ds := by
  rw [wordTokens, wordRuns_literal h, wordTokens]

theorem wordTokens_underscore (ds : List Char) :
    wordTokens ('_' :: ds) = Token.ofChars .unrecognized ['_'] :: wordTokens ds := by
  have hword : ∀ c ∈ ['_'], isWord c = true := List.forall_mem_singleton.mpr (by decide +kernel)
  have happend := wordTokens_append hword ds
  rw [List.singleton_append, List.singleton_append] at happend
  rw [happend, runTokens_underscore, wordTokens_eq ds, List.cons_append]

theorem wordTokens_number {number ds : List Char} (hne : number ≠ [])
    (hnumber : ∀ c ∈ number, isDigit c = true)
    (hnext : ∀ d, ds.head? = some d → isDigit d = false) :
    wordTokens (number ++ ds) = Token.ofChars .number number :: wordTokens ds := by
  have hhead : ∀ d, (ds.takeWhile isWord).head? = some d → isDigit d = false := by
    intro d hd
    rw [List.head?_takeWhile] at hd
    exact hnext d (Option.filter_eq_some_iff.mp hd).1
  rw [wordTokens_append fun c hc => isWord_of_isDigit (hnumber c hc),
    runTokens_number hne hnumber hhead, wordTokens_eq ds, List.cons_append]

theorem wordTokens_word {word ds : List Char} (h : IsWordText word)
    (hnext : ∀ d, ds.head? = some d → isWord d = false) :
    wordTokens (word ++ ds) =
      Token.ofChars (Token.wordKind (.ofList word)) word :: wordTokens ds := by
  have hnil : ds.takeWhile isWord = [] := by
    cases ds with
    | nil => rfl
    | cons d ds => exact List.takeWhile_cons_of_neg (Bool.eq_false_iff.mp (hnext d rfl))
  rw [wordTokens_append fun c hc => isWord_of_mem_isWordText h hc, hnil, List.append_nil,
    runTokens_word h, wordTokens_eq ds, hnil]
  rfl

/-! ## Tokens that stand in runs -/

namespace Token

/-- Whether a token stands in a run: numbers, words and single underscores do. -/
def ofRun (t : Token) : Bool :=
  match t.kind with
  | .number => true
  | .identifier => true
  | .keyword _ => true
  | .unrecognized => t.lexeme == "_"
  | _ => false

theorem wordKind_eq_keyword_iff {word : String} {k : Keyword} :
    wordKind word = .keyword k ↔ word = k.spelling := by
  rw [← Keyword.ofSpelling?_eq_some_iff, wordKind]
  cases Keyword.ofSpelling? word <;> simp

theorem isWord_of_mem_marks {c : Char} (h : c ∈ Lead.marks) : isWord c = false := by
  have hne : (c == '_') = false := by
    rw [beq_eq_false_iff_ne]
    rintro rfl
    exact absurd h (by decide)
  rw [isWord, Lead.isLetter_of_mem_marks h, Lead.isDigit_of_mem_marks h, hne, Bool.or_false,
    Bool.or_false]

theorem isWord_of_isStray {c : Char} (h : IsStray c) (hne : c ≠ '_') : isWord c = false := by
  rw [isWord, h.2.1, h.2.2.1, beq_eq_false_iff_ne.mpr hne, Bool.or_false, Bool.or_false]

/-- Of the unrecognized tokens, only the underscore has a word character. -/
theorem WellFormed.underscore_or {t : Token} (h : t.WellFormed) (hk : t.kind = .unrecognized) :
    t = ofChars .unrecognized ['_'] ∨
      t.ofRun = false ∧ ∀ c ∈ t.lexeme.toList, isWord c = false := by
  have hlexeme := ofChars_toList_lexeme t
  rw [WellFormed, hk] at h
  rw [hk] at hlexeme
  rcases h with hcs | ⟨c, hcs, hc⟩
  · rw [hcs] at hlexeme
    rw [← hlexeme]
    exact Or.inr ⟨rfl, List.forall_mem_singleton.mpr (isWord_of_mem_marks (by decide))⟩
  · rw [hcs] at hlexeme
    by_cases hne : c = '_'
    · rw [hne] at hlexeme
      exact Or.inl hlexeme.symm
    · have hrun : t.ofRun = false := by
        rw [ofRun, hk, beq_eq_false_iff_ne]
        intro hunderscore
        rw [hunderscore] at hcs
        exact hne (List.singleton_inj.mp hcs).symm
      rw [hcs]
      exact Or.inr ⟨hrun, List.forall_mem_singleton.mpr (isWord_of_isStray hc hne)⟩

/-- A token is a string literal, a number, a word or an underscore, or it has no word characters
    at all. -/
theorem WellFormed.run_cases {t : Token} (h : t.WellFormed) :
    t.kind = .string ∨
    (∃ cs, cs ≠ [] ∧ (∀ c ∈ cs, isDigit c = true) ∧ t = ofChars .number cs) ∨
    (∃ cs, IsWordText cs ∧ t = ofChars (wordKind (.ofList cs)) cs) ∨
    t = ofChars .unrecognized ['_'] ∨
    t.kind ≠ .string ∧ t.ofRun = false ∧ ∀ c ∈ t.lexeme.toList, isWord c = false := by
  have hlexeme := ofChars_toList_lexeme t
  rcases admits_cases h with ⟨hk, -⟩ | ⟨hk, hne, hdigits⟩ | ⟨hk, hword⟩ | ⟨hk, -⟩ | hop
  · exact Or.inl hk
  · exact Or.inr (Or.inl ⟨_, hne, hdigits, by rw [← hk, hlexeme]⟩)
  · exact Or.inr (Or.inr (Or.inl ⟨_, hword, by rw [wordKind_of_admits h hk, hlexeme]⟩))
  · have hs : t.kind ≠ .string := by rw [hk]; decide
    exact Or.inr (Or.inr (Or.inr ((h.underscore_or hk).imp_right (And.intro hs))))
  · have hall : (Kind.operators.all fun p => decide (p.1 ≠ .string) && !(ofChars p.1 p.2).ofRun) =
        true := by decide
    have hkind := List.all_eq_true.mp hall _ hop
    rw [Bool.and_eq_true, decide_eq_true_iff, hlexeme, Bool.not_eq_true'] at hkind
    have hno : ∀ c ∈ t.lexeme.toList, isWord c = false := fun c hc =>
      isWord_of_mem_marks (Kind.mem_marks_of_mem_operators hop hc).1
    exact Or.inr (Or.inr (Or.inr (Or.inr ⟨hkind.1, hkind.2, hno⟩)))

/-- The tokens of the runs of a text that starts with a token: the token itself if it stands in a
    run, and then those of what follows it. -/
theorem WellFormed.wordTokens_source {t : Token} {after : List Char} (h : t.WellFormed)
    (hend : t.EndsBefore after) :
    wordTokens (t.source ++ after) = [t].filter ofRun ++ wordTokens after := by
  rcases h.run_cases with hs | ⟨cs, hne, hdigits, rfl⟩ | ⟨cs, hword, rfl⟩ | rfl | ⟨hs, hrun, hno⟩
  · have hrun : t.ofRun = false := by rw [ofRun, hs]
    rw [source_of_string hs, wordTokens_literal (h.quote_not_mem_lexeme hs), List.filter_singleton, hrun]
    rfl
  · rw [source_ofChars (by decide), wordTokens_number hne hdigits (endsBefore_iff.mp hend)]
    rfl
  · have hkind := wordKind_eq (.ofList cs)
    have hrun : (ofChars (wordKind (.ofList cs)) cs).ofRun = true := by
      rcases hkind with hk | ⟨k, hk⟩ <;> rw [hk] <;> rfl
    have hnext : ∀ d, after.head? = some d → isWord d = false := by
      intro d hd
      rw [← joins_of_word (t := ofChars (wordKind (.ofList cs)) cs) hkind d]
      exact endsBefore_iff.mp hend d hd
    rw [source_ofChars (wordKind_ne_string _), wordTokens_word hword hnext, List.filter_singleton,
      hrun]
    rfl
  · rw [source_ofChars (by decide), List.singleton_append, wordTokens_underscore]
    rfl
  · rw [← source_of_ne_string hs] at hno
    rw [wordTokens_skip h.count_quote_source hno, List.filter_singleton, hrun]
    rfl

end Token

/-! ## Whole texts -/

/-- The tokens of the runs of a text that starts with some pieces are those of the pieces that
    stand in runs, and then those of what follows. -/
theorem wordTokens_text {ps : List Piece} {after : List Char} (h : Piece.Apart ps after) :
    wordTokens (Piece.text ps ++ after) =
      (ps.map Piece.token).filter Token.ofRun ++ wordTokens after := by
  induction ps with
  | nil => rfl
  | cons p ps ih =>
    obtain ⟨hend, hrest⟩ := h
    rw [Piece.text_cons, Piece.chars, List.append_assoc, List.append_assoc,
      wordTokens_blanks p.blank, p.wellFormed.wordTokens_source hend, ih hrest, List.map_cons,
      ← List.append_assoc, ← List.filter_append, List.singleton_append]

/-- The tokens of a text with a stream that stand in runs. -/
theorem Layout.wordTokens_chars {l : Layout} (h : l.literal = none) :
    wordTokens l.chars = l.tokens.filter Token.ofRun := by
  have hapart := l.apart_rest
  rw [rest_of_none h] at hapart
  rw [chars, rest_of_none h, wordTokens_text hapart, wordTokens_blanks l.blank, wordTokens_nil,
    List.append_nil, tokens]

/-- A reserved word is among the tokens of a run exactly if the run ends in it, from its first
    letter on. -/
theorem exists_keyword_mem_runTokens_iff {run : List Char} {k : Keyword} :
    (∃ t ∈ runTokens run, t.kind = .keyword k) ↔
      run.dropWhile (!isLetter ·) = k.spelling.toList := by
  have hne : k.spelling.toList ≠ [] := by
    intro hnil
    have hword := Token.isWordText_spelling k
    rw [hnil] at hword
    exact hword
  constructor
  · rintro ⟨t, ht, hk⟩
    rcases List.mem_append.mp ht with ht | ht
    · -- Numbers and underscores are no words.
      obtain ⟨block, -, rfl⟩ := List.mem_map.mp ht
      rw [Token.kind_ofChars] at hk
      split at hk <;> exact absurd hk (by simp)
    · unfold nameTokens at ht
      split at ht
      · exact absurd ht List.not_mem_nil
      · obtain rfl := List.mem_singleton.mp ht
        rw [Token.kind_ofChars, Token.wordKind_eq_keyword_iff] at hk
        rw [← hk, String.toList_ofList]
  · intro h
    refine ⟨Token.ofChars (.keyword k) k.spelling.toList, List.mem_append_right _ ?_, rfl⟩
    have hkind : Token.wordKind (.ofList k.spelling.toList) = .keyword k := by
      rw [Token.wordKind_eq_keyword_iff, String.ofList_toList]
    rw [h, nameTokens, if_neg hne, hkind]
    exact List.mem_singleton_self _

/-- **The tokens of word runs.** The numbers, words and single underscores of a stream are, in
    their order, the tokens of the runs of the text, one run after the other. So a word is reserved
    exactly if it is, from its first letter on, the whole rest of a run. -/
theorem tokenize_wordRuns (source : String) (ts : List Token) (h : tokenize source = .ok ts) :
    ts.filter Token.ofRun = (wordRuns source.toList).flatMap runTokens ∧
    ∀ k, (∃ t ∈ ts, t.kind = .keyword k) ↔
      ∃ run ∈ wordRuns source.toList, run.dropWhile (!isLetter ·) = k.spelling.toList := by
  obtain ⟨l, hl⟩ := Layout.exists_chars_eq source.toList
  rw [Layout.tokenize_eq hl, Layout.result_eq_ok_iff] at h
  obtain ⟨hnone, rfl⟩ := h
  have hend : [Token.endOfInput].filter Token.ofRun = [] := rfl
  have hruns : (l.tokens ++ [Token.endOfInput]).filter Token.ofRun =
      (wordRuns source.toList).flatMap runTokens := by
    rw [List.filter_append, hend, List.append_nil, ← Layout.wordTokens_chars hnone, hl, wordTokens]
  refine ⟨hruns, fun k => ?_⟩
  have hmem : (∃ t ∈ l.tokens ++ [Token.endOfInput], t.kind = .keyword k) ↔
      ∃ t ∈ (wordRuns source.toList).flatMap runTokens, t.kind = .keyword k := by
    rw [← hruns]
    constructor
    · rintro ⟨t, ht, hk⟩
      exact ⟨t, List.mem_filter.mpr ⟨ht, by rw [Token.ofRun, hk]⟩, hk⟩
    · rintro ⟨t, ht, hk⟩
      exact ⟨t, List.mem_of_mem_filter ht, hk⟩
  simp only [hmem, List.mem_flatMap, ← exists_keyword_mem_runTokens_iff]
  constructor
  · rintro ⟨t, ⟨run, hrun, ht⟩, hk⟩
    exact ⟨run, hrun, t, ht, hk⟩
  · rintro ⟨run, hrun, t, ht, hk⟩
    exact ⟨t, ⟨run, hrun, ht⟩, hk⟩

/-- The runs of `12_if+_If_ "if"iff` are `12_if`, `_If_` and `iff`. Only the first one ends in a
    reserved word. -/
theorem tokenize_wordRuns_if :
    ([Token.ofChars .number ['1', '2'], Token.ofChars .unrecognized ['_'],
        Token.ofChars (.keyword .ifKw) ['i', 'f'], Token.ofChars .unrecognized ['_'],
        Token.ofChars .identifier ['I', 'f', '_'], Token.ofChars .identifier ['i', 'f', 'f']] =
      [['1', '2', '_', 'i', 'f'], ['_', 'I', 'f', '_'], ['i', 'f', 'f']].flatMap runTokens) ∧
    ∃ run ∈ wordRuns "12_if+_If_ \"if\"iff".toList,
      run.dropWhile (!isLetter ·) = Keyword.ifKw.spelling.toList := by
  have hstream : tokenize "12_if+_If_ \"if\"iff" = .ok [Token.ofChars .number ['1', '2'],
      Token.ofChars .unrecognized ['_'], Token.ofChars (.keyword .ifKw) ['i', 'f'],
      Token.ofChars .binaryOp ['+'], Token.ofChars .unrecognized ['_'],
      Token.ofChars .identifier ['I', 'f', '_'], Token.ofChars .string ['i', 'f'],
      Token.ofChars .identifier ['i', 'f', 'f'], Token.endOfInput] := by decide +kernel
  have hruns : wordRuns "12_if+_If_ \"if\"iff".toList =
      [['1', '2', '_', 'i', 'f'], ['_', 'I', 'f', '_'], ['i', 'f', 'f']] := by decide +kernel
  obtain ⟨htokens, hword⟩ := tokenize_wordRuns _ _ hstream
  rw [hruns] at htokens
  exact ⟨htokens, (hword .ifKw).mp ⟨Token.ofChars (.keyword .ifKw) ['i', 'f'], by simp, rfl⟩⟩

end ScriptLexer
