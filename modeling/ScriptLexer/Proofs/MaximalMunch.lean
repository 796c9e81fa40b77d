import ScriptLexer.Proofs.Layout

/-!
# Maximal munch

Each kind of token has a form: the characters that such a token may occupy. A
text is cut by maximal munch if every token, read from left to right, occupies
the longest form that the rest of the text starts with, and all else is blank.

Results:

* `Token.WellFormed.extend`: a token that joins the next character is part of a
  longer one.
* `Token.endsBefore_iff_longest`: a token ends exactly where no longer one starts
  at its place.
* `Munch.unique`: a text has at most one cut by maximal munch.
* `tokenize_eq_ok_iff_munch`: the stream of a text is the cut by maximal munch,
  and there is none exactly when there is no such cut.
-/

namespace ScriptLexer

open ScriptLexer.Unicode

/-! ## Longer tokens -/

namespace Token

theorem wellFormed_word {cs : List Char} (h : IsWordText cs) :
    (ofChars (wordKind (.ofList cs)) cs).WellFormed := by
  rw [wellFormed_ofChars]
  unfold wordKind
  split
  · next k hk =>
    have := congrArg String.toList (Keyword.ofSpelling?_eq_some_iff.mp hk)
    rwa [String.toList_ofList] at this
  · next hk => exact ⟨h, hk⟩

theorem isWordText_append {cs : List Char} {d : Char} (h : IsWordText cs) (hd : isWord d = true) :
    IsWordText (cs ++ [d]) := by
  cases cs with
  | nil => exact h.elim
  | cons c rest =>
    have hrest : ∀ e ∈ rest ++ [d], isWord e = true := by
      rw [List.forall_mem_append]
      exact ⟨h.2, by simpa using hd⟩
    exact ⟨h.1, hrest⟩

theorem extend_word {cs : List Char} {d : Char} (h : IsWordText cs) (hd : isWord d = true) :
    ∃ u : Token, u.WellFormed ∧ u.source = cs ++ [d] :=
  ⟨_, wellFormed_word (isWordText_append h hd), source_ofChars (wordKind_ne_string _)⟩

theorem extend_ofChars (kind : Kind) {cs : List Char} (h : kind.Admits cs)
    (hk : kind ≠ .string) : ∃ u : Token, u.WellFormed ∧ u.source = cs :=
  ⟨_, wellFormed_ofChars.mpr h, source_ofChars hk⟩

/-- A token that joins the next character is part of a longer one. -/
theorem WellFormed.extend {t : Token} {d : Char} (h : t.WellFormed) (hd : t.joins d = true) :
    ∃ u : Token, u.WellFormed ∧ u.source = t.source ++ [d] := by
  have hk : t.kind ≠ .string := by
    intro hk
    simp [joins, hk] at hd
  rw [source_of_ne_string hk]
  unfold WellFormed at h
  unfold joins at hd
  generalize t.lexeme.toList = cs at h hd
  cases hkind : t.kind <;> simp only [hkind, Bool.false_eq_true] at h hd
  case number =>
    refine extend_ofChars .number ⟨by simp, ?_⟩ (by simp)
    rw [List.forall_mem_append]
    exact ⟨h.2, by simpa using hd⟩
  case identifier => exact extend_word h.1 hd
  case keyword k =>
    have hword := isWordText_spelling k
    rw [← show cs = k.spelling.toList from h] at hword
    exact extend_word hword hd
  case binaryOp =>
    simp only [Kind.Admits, List.mem_cons, List.not_mem_nil, or_false] at h
    rcases h with rfl | rfl | rfl | rfl | rfl | rfl | rfl | rfl | rfl <;> simp at hd
    · rcases hd with rfl | rfl
      · exact extend_ofChars .increment rfl (by simp)
      · exact extend_ofChars .compoundOp (by simp [Kind.Admits]) (by simp)
    · rcases hd with rfl | rfl
      · exact extend_ofChars .decrement rfl (by simp)
      · exact extend_ofChars .compoundOp (by simp [Kind.Admits]) (by simp)
    · rcases hd with rfl | rfl
      · exact extend_ofChars .binaryOp (by simp [Kind.Admits]) (by simp)
      · exact extend_ofChars .compoundOp (by simp [Kind.Admits]) (by simp)
  case lessThan =>
    obtain rfl : cs = ['<'] := h
    obtain rfl : d = '=' := by simpa using hd
    exact extend_ofChars .lessOrEqual rfl (by simp)
  case greaterThan =>
    obtain rfl : cs = ['>'] := h
    obtain rfl : d = '=' := by simpa using hd
    exact extend_ofChars .greaterOrEqual rfl (by simp)
  case assignment =>
    obtain rfl : cs = ['='] := h
    obtain rfl : d = '=' := by simpa using hd
    exact extend_ofChars .equality rfl (by simp)
  case unrecognized =>
    simp only [Bool.and_eq_true, beq_iff_eq] at hd
    obtain ⟨rfl, rfl⟩ := hd
    exact extend_ofChars .notEqual rfl (by simp)

/-- No token that starts at the place of a token that ends is longer. -/
theorem EndsBefore.length_source_le {t u : Token} {after : List Char} (ht : t.WellFormed)
    (hend : t.EndsBefore after) (hu : u.WellFormed) (h : u.source <+: t.source ++ after) :
    u.source.length ≤ t.source.length := by
  obtain ⟨rest, hrest⟩ := h
  -- Either `u` ends as well, and then the two are one, or it is part of a longer token.
  induction rest generalizing u with
  | nil =>
    have huend : u.EndsBefore [] := trivial
    obtain ⟨rfl, -⟩ := ht.eq_of_source_append hu hend huend hrest.symm
    exact Nat.le_refl _
  | cons d rest ih =>
    by_cases hd : u.joins d = false
    · have huend : u.EndsBefore (d :: rest) := hd
      obtain ⟨rfl, -⟩ := ht.eq_of_source_append hu hend huend hrest.symm
      exact Nat.le_refl _
    · obtain ⟨v, hv, hsource⟩ := hu.extend (by simpa using hd)
      have := ih hv (by simp [hsource, hrest])
      rw [hsource, List.length_append] at this
      omega

/-- A token ends exactly where no longer one starts at its place. -/
theorem endsBefore_iff_longest {t : Token} {after : List Char} (ht : t.WellFormed) :
    t.EndsBefore after ↔ ∀ u : Token, u.WellFormed → u.source <+: t.source ++ after →
      u.source.length ≤ t.source.length := by
  constructor
  · intro hend u hu hprefix
    exact hend.length_source_le ht hu hprefix
  · intro hmax
    rw [endsBefore_iff]
    intro d hhead
    by_contra hd
    obtain ⟨u, hu, hsource⟩ := ht.extend (by simpa using hd)
    obtain ⟨rest, rfl⟩ : ∃ rest, after = d :: rest := List.head?_eq_some_iff.mp hhead
    have := hmax u hu ⟨rest, by simp [hsource]⟩
    rw [hsource, List.length_append, List.length_singleton] at this
    omega

end Token

/-! ## Forms -/

/-- A character that no token but an unrecognized one may start with. -/
def IsLeftOver (c : Char) : Prop :=
  isBlank c = false ∧ isLetter c = false ∧ isDigit c = false ∧
    ∀ t : Token, t.WellFormed → t.kind ≠ .unrecognized → t.source.head? ≠ some c

/-- The form of a kind: `k.Form cs` if a token of the kind `k` may occupy the characters
    `cs` in a text. -/
def Kind.Form : Kind → List Char → Prop
  | .string, cs => ∃ body, '"' ∉ body ∧ cs = '"' :: (body ++ ['"'])
  | .unrecognized, cs => cs = ['!'] ∨ ∃ c, cs = [c] ∧ IsLeftOver c
  | k, cs => k.Admits cs

theorem exists_head_of_form {kind : Kind} {c : Char} {cs : List Char} (h : kind.Admits (c :: cs))
    (hs : kind ≠ .string) (hu : kind ≠ .unrecognized) :
    ∃ t : Token, t.WellFormed ∧ t.kind ≠ .unrecognized ∧ t.source.head? = some c :=
  ⟨_, Token.wellFormed_ofChars.mpr h, hu, by rw [Token.source_ofChars hs]; rfl⟩

/-- A mark starts a token that is not unrecognized. -/
theorem exists_head_of_mem_marks {c : Char} (h : c ∈ Lead.marks) :
    ∃ t : Token, t.WellFormed ∧ t.kind ≠ .unrecognized ∧ t.source.head? = some c := by
  have hmem := (Lead.mem_marks_or c).resolve_right (not_not_intro h)
  rcases hlead : Lead.of c with kind | doubled | ⟨joined, bare⟩ | _ | _ | _
  case mark =>
    have hadm := (Token.mark_admits hlead (Lead.isBlank_of_mem_marks h)).1
    simp only [hlead, Lead.table, List.mem_cons, Prod.mk.injEq, reduceCtorEq, and_false,
      Lead.mark.injEq, List.not_mem_nil, or_false] at hmem
    exact exists_head_of_form hadm (by grind) (by grind)
  case arithmetic =>
    have hadm : Kind.Admits .binaryOp [c] := by
      rcases Token.arithmetic_cases hlead with ⟨rfl, -⟩ | ⟨rfl, -⟩ | ⟨rfl, -⟩ <;> simp [Kind.Admits]
    exact exists_head_of_form hadm (by simp) (by simp)
  case comparison =>
    have hadm : joined.Admits [c, '='] ∧ joined ≠ .string ∧ joined ≠ .unrecognized := by
      rcases Token.comparison_cases hlead with ⟨rfl, rfl, -⟩ | ⟨rfl, rfl, -⟩ | ⟨rfl, rfl, -⟩ |
        ⟨rfl, rfl, -⟩ <;> simp [Kind.Admits]
    exact exists_head_of_form hadm.1 hadm.2.1 hadm.2.2
  case quote =>
    rw [Lead.of_eq_quote_iff.mp hlead]
    exact ⟨Token.ofChars .string [], Token.wellFormed_ofChars.mpr (by simp [Kind.Admits]), by simp,
      by rw [Token.source_string]; rfl⟩
  case digit =>
    have := Token.digit_cases hlead
    simp [Lead.isDigit_of_mem_marks h] at this
  case letter =>
    have := Token.letter_cases hlead
    simp [Lead.isLetter_of_mem_marks h] at this

/-- The stray characters are those that no other token starts with. -/
theorem isStray_iff_isLeftOver {c : Char} : IsStray c ↔ IsLeftOver c := by
  constructor
  · intro h
    refine ⟨h.1, h.2.2.1, h.2.1, fun t ht hk hhead => ?_⟩
    obtain ⟨rest, hsource⟩ := List.head?_eq_some_iff.mp hhead
    have hend : t.EndsBefore [] := trivial
    have hfirst := (Token.first?_eq_some_iff h.1).mpr ⟨ht, hend, by rw [hsource, List.append_nil]⟩
    rw [Token.first?_stray h] at hfirst
    obtain ⟨rfl, -⟩ := Prod.mk.inj (Option.some.inj hfirst)
    exact hk rfl
  · rintro ⟨hb, hl, hd, hno⟩
    refine ⟨hb, hd, hl, fun hmem => ?_⟩
    obtain ⟨t, ht, hk, hhead⟩ := exists_head_of_mem_marks hmem
    exact hno t ht hk hhead

/-- A form is what a well-formed token of the kind occupies. -/
theorem Kind.form_iff {k : Kind} {cs : List Char} :
    k.Form cs ↔ ∃ t : Token, t.kind = k ∧ t.WellFormed ∧ t.source = cs := by
  by_cases hk : k = .string
  · subst hk
    constructor
    · rintro ⟨body, hno, rfl⟩
      exact ⟨Token.ofChars .string body, rfl, Token.wellFormed_ofChars.mpr hno,
        Token.source_string body⟩
    · rintro ⟨t, ht, hform, rfl⟩
      rw [Token.WellFormed, ht] at hform
      exact ⟨_, hform, if_pos ht⟩
  · have hform : k.Form cs ↔ k.Admits cs := by
      cases k <;> simp_all [Kind.Form, Kind.Admits, isStray_iff_isLeftOver]
    rw [hform]
    constructor
    · intro h
      exact ⟨Token.ofChars k cs, rfl, Token.wellFormed_ofChars.mpr h, Token.source_ofChars hk⟩
    · rintro ⟨t, rfl, ht, rfl⟩
      rwa [Token.source_of_ne_string hk]

theorem form_source_iff {t : Token} : t.kind.Form t.source ↔ t.WellFormed := by
  rw [Kind.form_iff]
  constructor
  · rintro ⟨u, hkind, hu, hsource⟩
    have : u.lexeme.toList = t.lexeme.toList := by
      by_cases hk : t.kind = .string
      · simpa [Token.source, hk, hkind] using hsource
      · simpa [Token.source, hk, hkind] using hsource
    rwa [Token.WellFormed, hkind, this] at hu
  · intro h
    exact ⟨t, rfl, h, rfl⟩

/-! ## Cuts by maximal munch -/

/-- `Munch cs ts`: maximal munch cuts the text `cs` into the tokens `ts`. What stands
    between the tokens, in front of the first one and behind the last one, is blank. -/
inductive Munch : List Char → List Token → Prop
  | blank {gap : List Char} (hgap : ∀ c ∈ gap, isBlank c = true) : Munch gap []
  | token {gap rest : List Char} {t : Token} {ts : List Token}
      (hgap : ∀ c ∈ gap, isBlank c = true) (hform : t.kind.Form t.source)
      (hlongest : ∀ (k : Kind) (form : List Char), k.Form form → form <+: t.source ++ rest →
        form.length ≤ t.source.length)
      (hrest : Munch rest ts) : Munch (gap ++ (t.source ++ rest)) (t :: ts)

/-- A token ends exactly where its form is the longest one. -/
theorem endsBefore_iff_form {t : Token} {after : List Char} (ht : t.WellFormed) :
    t.EndsBefore after ↔ ∀ (k : Kind) (form : List Char), k.Form form →
      form <+: t.source ++ after → form.length ≤ t.source.length := by
  rw [Token.endsBefore_iff_longest ht]
  constructor
  · intro h k form hform hprefix
    obtain ⟨u, -, hu, rfl⟩ := Kind.form_iff.mp hform
    exact h u hu hprefix
  · intro h u hu hprefix
    exact h u.kind u.source (form_source_iff.mpr hu) hprefix

theorem munch_of_apart {ps : List Piece} {gap : List Char} (h : Piece.Apart ps gap)
    (hgap : ∀ c ∈ gap, isBlank c = true) : Munch (Piece.text ps ++ gap) (ps.map Piece.token) := by
  induction ps with
  | nil => exact .blank hgap
  | cons p ps ih =>
    obtain ⟨hend, hrest⟩ := h
    have hmunch := Munch.token p.blank (form_source_iff.mpr p.wellFormed)
      ((endsBefore_iff_form p.wellFormed).mp hend) (ih hrest)
    simpa [Piece.chars] using hmunch

/-- A cut by maximal munch is a layout without an unclosed literal. -/
theorem Munch.exists_layout {cs : List Char} {ts : List Token} (h : Munch cs ts) :
    ∃ l : Layout, l.chars = cs ∧ l.literal = none ∧ l.tokens = ts := by
  induction h with
  | blank hgap =>
    exact ⟨Layout.ofGap _ hgap, by simp [Layout.ofGap, Layout.chars, Layout.rest], rfl, rfl⟩
  | @token gap rest t ts hgap hform hlongest _ ih =>
    obtain ⟨l, rfl, hnone, rfl⟩ := ih
    have ht := form_source_iff.mp hform
    have hend : t.EndsBefore l.chars := (endsBefore_iff_form ht).mpr hlongest
    have hapart : Piece.Apart [⟨gap, t, hgap, ht⟩] l.chars := ⟨hend, trivial⟩
    exact ⟨l.behind _ hapart, by simp [Piece.chars], by simp [hnone], by simp⟩

/-- A text has at most one cut by maximal munch. -/
theorem Munch.unique {cs : List Char} {ts us : List Token} (h : Munch cs ts) (h' : Munch cs us) :
    ts = us := by
  obtain ⟨l, rfl, -, rfl⟩ := h.exists_layout
  obtain ⟨m, hm, -, rfl⟩ := h'.exists_layout
  rw [l.tokens_eq_map, m.tokens_eq_map, hm]

/-- **The stream of a text is its cut by maximal munch.** There is one exactly when the text
    can be cut so, and then the text has no other cut. -/
theorem tokenize_eq_ok_iff_munch (source : String) (ts : List Token) :
    tokenize source = .ok (ts ++ [Token.endOfInput]) ↔ Munch source.toList ts := by
  constructor
  · intro h
    obtain ⟨l, hl⟩ := Layout.exists_chars_eq source.toList
    rw [Layout.tokenize_eq hl, Layout.result_eq_ok_iff] at h
    obtain ⟨hnone, hts⟩ := h
    have hmunch := munch_of_apart l.apart_rest (by simpa [Layout.rest_of_none hnone] using l.blank)
    rw [List.append_cancel_right hts, ← hl]
    exact hmunch
  · intro h
    obtain ⟨l, hl, hnone, rfl⟩ := h.exists_layout
    rw [Layout.tokenize_eq hl, Layout.result_eq_ok_iff]
    exact ⟨hnone, rfl⟩

end ScriptLexer
