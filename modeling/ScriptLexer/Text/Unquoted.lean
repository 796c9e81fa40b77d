import ScriptLexer.Text.Quoted

/-!
# Reading quoted text

Quoted text is read back one character after the other, up to the quote that
closes it. What stands behind that quote is left alone.

Results:

* `Escape.read?_chars`: the written form of a character reads back as that character.
* `body?_escaped`: so does the body of a quoted text, whatever follows it.
-/

namespace ScriptLexer.Text

open ScriptLexer.Unicode

namespace Escape

/-- The character that a letter behind a backslash stands for. -/
def ofShort? (letter : Char) : Option Char :=
  match letter with
  | '0' => some '\x00'
  | 't' => some '\t'
  | 'n' => some '\n'
  | 'r' => some '\r'
  | '"' => some '"'
  | '\\' => some '\\'
  | _ => none

/-- Reads the written form of one character, with what follows it. -/
def read? : List Char → Option (Char × List Char)
  | [] => none
  | '\\' :: 'u' :: '{' :: rest =>
    some (.ofNat (Hexadecimal.value (rest.takeWhile (· != '}'))),
      (rest.dropWhile (· != '}')).drop 1)
  | '\\' :: letter :: rest => (ofShort? letter).map fun c => (c, rest)
  | '\\' :: [] => none
  | c :: rest => some (c, rest)

theorem length_of_read? {cs rest : List Char} {c : Char} (h : read? cs = some (c, rest)) :
    rest.length < cs.length := by
  rw [read?.eq_def] at h
  split at h
  · exact absurd h (Option.some_ne_none _).symm
  · next tail =>
    have hle := (List.dropWhile_sublist (l := tail) (· != '}')).length_le
    rw [← (Prod.mk.inj (Option.some.inj h)).2, List.length_drop]
    simp only [List.length_cons]
    omega
  · obtain ⟨_, _, heq⟩ := Option.map_eq_some_iff.mp h
    rw [← (Prod.mk.inj heq).2]
    simp only [List.length_cons]
    omega
  · exact absurd h (Option.some_ne_none _).symm
  · rw [← (Prod.mk.inj (Option.some.inj h)).2]
    exact Nat.lt_succ_self _

theorem read?_plain {c : Char} (h : c ≠ '\\') (rest : List Char) :
    read? ([c] ++ rest) = some (c, rest) := by
  rw [List.cons_append, List.nil_append, read?.eq_def]
  split
  · next heq => exact absurd heq (List.cons_ne_nil _ _)
  · next heq => exact absurd (List.cons.inj heq).1 h
  · next heq => exact absurd (List.cons.inj heq).1 h
  · next heq => exact absurd (List.cons.inj heq).1 h
  · next heq =>
    obtain ⟨rfl, rfl⟩ := List.cons.inj heq
    rfl

theorem read?_codePoint (c : Char) (rest : List Char) :
    read? ((codePoint c.toNat).chars ++ rest) = some (c, rest) := by
  have hno : ∀ d ∈ Hexadecimal.digits c.toNat, (d != '}') = true := by
    have hall : Hexadecimal.alphabet.all (· != '}') = true := by decide
    exact fun d hd => List.all_eq_true.mp hall d (Hexadecimal.mem_alphabet_of_mem_digits hd)
  have hchars : (codePoint c.toNat).chars ++ rest =
      '\\' :: 'u' :: '{' :: (Hexadecimal.digits c.toNat ++ '}' :: rest) := by
    simp only [chars, List.cons_append, List.append_assoc, List.nil_append]
  rw [hchars, read?, List.takeWhile_append_of_pos hno, List.dropWhile_append_of_pos hno,
    List.takeWhile_cons_of_neg (by decide), List.dropWhile_cons_of_neg (by decide),
    List.append_nil, Hexadecimal.value_digits, Char.ofNat_toNat, List.drop_one, List.tail_cons]

/-- The written form of a character reads back as that character. -/
theorem read?_chars (c : Char) (rest : List Char) :
    read? ((of c).chars ++ rest) = some (c, rest) := by
  rw [of.eq_def]
  split
  iterate 6 rfl
  next hne =>
  split
  · exact read?_codePoint c rest
  · exact read?_plain hne rest

/-- No written form starts with the quote that closes a text. -/
theorem exists_chars_cons (c : Char) : ∃ d tail, (of c).chars = d :: tail ∧ d ≠ '"' := by
  rw [of.eq_def]
  split
  iterate 6 exact ⟨_, _, rfl, by decide⟩
  next hne _ =>
  split
  · exact ⟨_, _, rfl, by decide⟩
  · exact ⟨_, _, rfl, hne⟩

end Escape

/-- Reads the body of a quoted text and the quote that closes it, with what follows. -/
def body? (cs : List Char) : Option (List Char × List Char) :=
  match cs with
  | [] => none
  | d :: tail =>
    if d = '"' then some ([], tail)
    else
      match _h : Escape.read? (d :: tail) with
      | none => none
      | some (c, rest) => (body? rest).map fun (body, after) => (c :: body, after)
termination_by cs.length
decreasing_by exact Escape.length_of_read? _h

theorem body?_quote (after : List Char) : body? ('"' :: after) = some ([], after) := by
  rw [body?, if_pos rfl]

theorem body?_cons {c d : Char} {tail rest : List Char} (hd : d ≠ '"')
    (h : Escape.read? (d :: tail) = some (c, rest)) :
    body? (d :: tail) = (body? rest).map fun (body, after) => (c :: body, after) := by
  rw [body?, if_neg hd]
  split
  · next heq => exact absurd (heq.symm.trans h) (Option.some_ne_none _).symm
  · next heq =>
    obtain ⟨rfl, rfl⟩ := Prod.mk.inj (Option.some.inj (heq.symm.trans h))
    rfl

/-- What follows a quoted text is shorter than the text. -/
theorem length_of_body? {cs body after : List Char} (h : body? cs = some (body, after)) :
    after.length < cs.length := by
  fun_induction body? cs generalizing body with
  | case1 => exact absurd h (Option.some_ne_none _).symm
  | case2 tail =>
    rw [← (Prod.mk.inj (Option.some.inj h)).2]
    exact Nat.lt_succ_self _
  | case3 => exact absurd h (Option.some_ne_none _).symm
  | case4 d tail _ c rest hread ih =>
    obtain ⟨⟨body', after'⟩, hbody, heq⟩ := Option.map_eq_some_iff.mp h
    obtain ⟨_, rfl⟩ := Prod.mk.inj heq
    exact Nat.lt_trans (ih hbody) (Escape.length_of_read? hread)

/-- The body of a quoted text reads back as the text, whatever follows it. -/
theorem body?_escaped (cs after : List Char) :
    body? (escaped cs ++ '"' :: after) = some (cs, after) := by
  induction cs with
  | nil => exact body?_quote after
  | cons c cs ih =>
    obtain ⟨d, tail, hchars, hd⟩ := Escape.exists_chars_cons c
    have hread := Escape.read?_chars c (escaped cs ++ '"' :: after)
    rw [hchars, List.cons_append] at hread
    rw [escaped_cons, List.append_assoc, hchars, List.cons_append, body?_cons hd hread, ih]
    rfl

end ScriptLexer.Text
