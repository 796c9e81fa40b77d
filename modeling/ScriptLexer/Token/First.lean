import ScriptLexer.Token.Basic
import ScriptLexer.Token.Lead

/-!
# The first token of a text

Given the character that a token starts with and the characters behind it, this
module reads one token and says what follows it. A token takes as many
characters as it can. There is one reader for each rule of sections 4.2 to 4.5
of the specification.

Results:

* `first?_source`: the token and what follows it make up the text.
* `length_after_le`, `length_source_of_first?`: what follows is shorter than the text,
  by the length of the token.
* `first?_eq_none_iff`: only an unclosed string literal is no token.
-/

namespace ScriptLexer

open ScriptLexer.Unicode

namespace Token

/-! ## One reader for each lead -/

/-- Reads an arithmetic operator: doubled, with an equals sign, or bare (`scan_arithmetic`,
    section 4.2). -/
def arithmetic (doubled : Kind) (c : Char) : List Char → Token × List Char
  | [] => (ofChars .binaryOp [c], [])
  | d :: rest =>
    if d = c then (ofChars doubled [c, c], rest)
    else if d = '=' then (ofChars .compoundOp [c, '='], rest)
    else (ofChars .binaryOp [c], d :: rest)

/-- Reads a token that an equals sign turns into another one (`scan_with_equals`, section 4.2). -/
def comparison (joined bare : Kind) (c : Char) : List Char → Token × List Char
  | [] => (ofChars bare [c], [])
  | d :: rest =>
    if d = '=' then (ofChars joined [c, '='], rest) else (ofChars bare [c], d :: rest)

/-- Reads a string literal behind its opening quote (`scan_string`, section 4.3): all characters up
    to the next quote belong to it, whatever they are. There is none without a closing quote. -/
def literal? (rest : List Char) : Option (Token × List Char) :=
  match rest.dropWhile (· != '"') with
  | [] => none
  | _ :: after => some (ofChars .string (rest.takeWhile (· != '"')), after)

/-- Reads a number: all digits in a row (`scan_number`, section 4.4). -/
def number (c : Char) (rest : List Char) : Token × List Char :=
  (ofChars .number (c :: rest.takeWhile isDigit), rest.dropWhile isDigit)

/-- The kind of a word: reserved, or an identifier. -/
def wordKind (word : String) : Kind :=
  match Keyword.ofSpelling? word with
  | some k => .keyword k
  | none => .identifier

/-- Reads a word: all word characters in a row (`scan_identifier`, section 4.5). -/
def word (c : Char) (rest : List Char) : Token × List Char :=
  let lexeme := String.ofList (c :: rest.takeWhile isWord)
  (⟨wordKind lexeme, lexeme⟩, rest.dropWhile isWord)

/-! ## Any token -/

/-- The token that starts with `c` and goes on in `rest`, with the characters that
    follow it (`next_token`, section 4.2); `none` for a string literal that is not closed. -/
def first? (c : Char) (rest : List Char) : Option (Token × List Char) :=
  match Lead.of c with
  | .mark kind => some (ofChars kind [c], rest)
  | .arithmetic doubled => some (arithmetic doubled c rest)
  | .comparison joined bare => some (comparison joined bare c rest)
  | .quote => literal? rest
  | .digit => some (number c rest)
  | .letter => some (word c rest)

/-! ## Nothing is lost -/

theorem arithmetic_source {doubled : Kind} (h : doubled ≠ .string) (c : Char) (rest : List Char) :
    (arithmetic doubled c rest).1.source ++ (arithmetic doubled c rest).2 = c :: rest := by
  rcases rest with _ | ⟨d, rest⟩
  · rw [arithmetic, source_ofChars (by decide), List.append_nil]
  · rw [arithmetic]
    split
    · next hd => rw [source_ofChars h, hd]; rfl
    · split
      · next hd => rw [source_ofChars (by decide), hd]; rfl
      · rw [source_ofChars (by decide)]; rfl

theorem comparison_source {joined bare : Kind} (hj : joined ≠ .string) (hb : bare ≠ .string)
    (c : Char) (rest : List Char) :
    (comparison joined bare c rest).1.source ++ (comparison joined bare c rest).2 = c :: rest := by
  rcases rest with _ | ⟨d, rest⟩
  · rw [comparison, source_ofChars hb, List.append_nil]
  · rw [comparison]
    split
    · next hd => rw [source_ofChars hj, hd]; rfl
    · rw [source_ofChars hb]; rfl

/-- A literal ends at the first quote behind its opening one. -/
theorem literal?_eq_some_iff {rest after : List Char} {t : Token} :
    literal? rest = some (t, after) ↔
      ∃ body, '"' ∉ body ∧ rest = body ++ '"' :: after ∧ t = ofChars .string body := by
  have hsplit : rest.takeWhile (· != '"') ++ rest.dropWhile (· != '"') = rest :=
    List.takeWhile_append_dropWhile
  have hbody : '"' ∉ rest.takeWhile (· != '"') := by
    intro hmem
    have hall := List.all_takeWhile (l := rest) (p := (· != '"'))
    have := List.all_eq_true.mp hall _ hmem
    exact absurd this (by decide)
  rw [literal?]
  constructor
  · intro h
    split at h
    · exact absurd h (Option.some_ne_none _).symm
    · next q after' heq =>
      have hq : q = '"' := by
        have := List.head?_dropWhile_not (· != '"') rest
        rw [heq] at this
        simpa using this
      rw [heq, hq] at hsplit
      obtain ⟨rfl, rfl⟩ := Prod.mk.inj (Option.some.inj h)
      exact ⟨_, hbody, hsplit.symm, rfl⟩
  · rintro ⟨body, hno, rfl, rfl⟩
    have hp : ∀ c ∈ body, (c != '"') = true := by
      intro c hc
      rw [bne_iff_ne]
      rintro rfl
      exact hno hc
    rw [List.dropWhile_append_of_pos hp, List.takeWhile_append_of_pos hp]
    rw [List.dropWhile_cons_of_neg (by decide), List.takeWhile_cons_of_neg (by decide),
      List.append_nil]

theorem literal?_eq_none_iff {rest : List Char} : literal? rest = none ↔ '"' ∉ rest := by
  constructor
  · intro h hmem
    obtain ⟨body, after, hrest, hno⟩ := List.eq_append_cons_of_mem hmem
    rw [literal?_eq_some_iff.mpr ⟨body, hno, hrest, rfl⟩] at h
    exact Option.some_ne_none _ h
  · intro h
    rcases hl : literal? rest with _ | ⟨t, after⟩
    · rfl
    · obtain ⟨body, _, rfl, _⟩ := literal?_eq_some_iff.mp hl
      exact absurd (List.mem_append_right _ List.mem_cons_self) h

theorem number_source (c : Char) (rest : List Char) :
    (number c rest).1.source ++ (number c rest).2 = c :: rest := by
  rw [number, source_ofChars (by decide), List.cons_append, List.takeWhile_append_dropWhile]

/-- A word is an identifier or reserved, and never anything else. -/
theorem wordKind_eq (word : String) :
    wordKind word = .identifier ∨ ∃ k, wordKind word = .keyword k := by
  rw [wordKind]
  split
  · exact Or.inr ⟨_, rfl⟩
  · exact Or.inl rfl

theorem wordKind_ne_string (word : String) : wordKind word ≠ .string := by
  rcases wordKind_eq word with h | ⟨k, h⟩ <;> simp [h]

theorem word_source (c : Char) (rest : List Char) :
    (word c rest).1.source ++ (word c rest).2 = c :: rest := by
  have hne : (word c rest).1.kind ≠ .string := wordKind_ne_string _
  rw [source_of_ne_string hne, word, String.toList_ofList, List.cons_append,
    List.takeWhile_append_dropWhile]

/-- Only an unclosed string literal is no token. -/
theorem first?_eq_none_iff {c : Char} {rest : List Char} :
    first? c rest = none ↔ c = '"' ∧ '"' ∉ rest := by
  rw [← Lead.of_eq_quote_iff, ← literal?_eq_none_iff, first?]
  rcases Lead.of c with kind | doubled | ⟨joined, bare⟩ | _ | _ | _
  case quote => exact ⟨fun h => ⟨rfl, h⟩, fun h => h.2⟩
  all_goals exact ⟨fun h => absurd h (Option.some_ne_none _), fun h => Lead.noConfusion h.1⟩

/-- The token and what follows it make up the text. -/
theorem first?_source {c : Char} {rest after : List Char} {t : Token}
    (h : first? c rest = some (t, after)) : t.source ++ after = c :: rest := by
  have hno := Lead.string_not_mem_kinds c
  rw [first?] at h
  split at h
  · next kind hc =>
    rw [hc] at hno
    obtain ⟨rfl, rfl⟩ := Prod.mk.inj (Option.some.inj h)
    rw [source_ofChars fun hk => hno (hk ▸ List.mem_cons_self)]
    rfl
  · next doubled hc =>
    rw [hc] at hno
    have := arithmetic_source (fun hk => hno (hk ▸ List.mem_cons_self)) c rest
    rwa [Option.some.inj h] at this
  · next joined bare hc =>
    rw [hc] at hno
    have := comparison_source (fun hk => hno (hk ▸ List.mem_cons_self))
      (fun hk => hno (hk ▸ List.mem_cons_of_mem _ List.mem_cons_self)) c rest
    rwa [Option.some.inj h] at this
  · next hc =>
    rw [Lead.of_eq_quote_iff.mp hc]
    obtain ⟨body, _, rfl, rfl⟩ := literal?_eq_some_iff.mp h
    rw [source_string, List.cons_append, List.append_assoc]
    rfl
  · have := number_source c rest
    rwa [Option.some.inj h] at this
  · have := word_source c rest
    rwa [Option.some.inj h] at this

/-! ## Something is read -/

theorem length_arithmetic_le (doubled : Kind) (c : Char) (rest : List Char) :
    (arithmetic doubled c rest).2.length ≤ rest.length := by
  rcases rest with _ | ⟨d, rest⟩
  · exact Nat.le_refl _
  · rw [arithmetic]
    split
    · exact Nat.le_succ _
    · split
      · exact Nat.le_succ _
      · exact Nat.le_refl _

theorem length_comparison_le (joined bare : Kind) (c : Char) (rest : List Char) :
    (comparison joined bare c rest).2.length ≤ rest.length := by
  rcases rest with _ | ⟨d, rest⟩
  · exact Nat.le_refl _
  · rw [comparison]
    split
    · exact Nat.le_succ _
    · exact Nat.le_refl _

/-- What follows the token is no longer than what follows its first character. -/
theorem length_after_le {c : Char} {rest after : List Char} {t : Token}
    (h : first? c rest = some (t, after)) : after.length ≤ rest.length := by
  rw [first?] at h
  split at h
  · obtain ⟨_, rfl⟩ := Prod.mk.inj (Option.some.inj h)
    exact Nat.le_refl _
  · next doubled _ =>
    have := length_arithmetic_le doubled c rest
    rwa [Option.some.inj h] at this
  · next joined bare _ =>
    have := length_comparison_le joined bare c rest
    rwa [Option.some.inj h] at this
  · obtain ⟨body, _, rfl, _⟩ := literal?_eq_some_iff.mp h
    rw [List.length_append, List.length_cons]
    omega
  · have := (List.dropWhile_sublist (l := rest) isDigit).length_le
    rw [number] at h
    rwa [(Prod.mk.inj (Option.some.inj h)).2] at this
  · have := (List.dropWhile_sublist (l := rest) isWord).length_le
    rw [word] at h
    rwa [(Prod.mk.inj (Option.some.inj h)).2] at this

/-- The token takes its first character, and what is missing behind that one afterwards. -/
theorem length_source_of_first? {c : Char} {rest after : List Char} {t : Token}
    (h : first? c rest = some (t, after)) :
    t.source.length = rest.length - after.length + 1 := by
  have hlen := congrArg List.length (first?_source h)
  have hle := length_after_le h
  rw [List.length_append, List.length_cons] at hlen
  omega

end Token

end ScriptLexer
