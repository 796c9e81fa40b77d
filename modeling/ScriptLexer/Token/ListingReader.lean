import ScriptLexer.Text.Unquoted
import ScriptLexer.Token.Listing

/-!
# Reading listings

A listing is read back line by line: the name of the kind stands in front of
the first space, and the token's text is quoted text.

Results:

* `ofLine?_line`: the line of a token reads back as the token.
* `ofListing?_listingChars`: a listing reads back as the stream it shows.
-/

namespace ScriptLexer

namespace Token

/-- Reads the line of one token, with what follows it. -/
def ofLine? (cs : List Char) : Option (Token × List Char) :=
  match Kind.ofName? (.ofList ((cs.take nameColumn.width).takeWhile (· != ' '))),
    cs.drop nameColumn.width with
  | some kind, ' ' :: '"' :: rest =>
    match Text.body? rest with
    | some (lexeme, '\n' :: after) => some (ofChars kind lexeme, after)
    | _ => none
  | _, _ => none

theorem length_of_ofLine? {cs after : List Char} {t : Token} (h : ofLine? cs = some (t, after)) :
    after.length < cs.length := by
  rw [ofLine?] at h
  split at h
  · next rest _ hdrop =>
    split at h
    · next hbody =>
      have hlen := Text.length_of_body? hbody
      have hcs := congrArg List.length hdrop
      rw [← (Prod.mk.inj (Option.some.inj h)).2]
      simp only [List.length_drop, List.length_cons] at hcs hlen
      omega
    · exact absurd h (Option.some_ne_none _).symm
  · exact absurd h (Option.some_ne_none _).symm

/-- The names of the kinds fit into their column and hold no space. -/
theorem name_fits (k : Kind) :
    k.name.toList.length ≤ nameColumn.width ∧ ∀ c ∈ k.name.toList, (c != ' ') = true := by
  have hall : (Kind.all.all fun k => decide (k.name.toList.length ≤ nameColumn.width) &&
      k.name.toList.all (· != ' ')) = true := by
    decide +kernel
  have hk := List.all_eq_true.mp hall k (Kind.mem_all k)
  rw [Bool.and_eq_true, decide_eq_true_iff, List.all_eq_true] at hk
  exact hk

/-- The name of a kind, padded to its column. -/
def paddedName (k : Kind) : List Char :=
  k.name.toList ++ List.replicate (nameColumn.width - k.name.toList.length) ' '

theorem length_paddedName (k : Kind) : (paddedName k).length = nameColumn.width := by
  rw [paddedName, List.length_append, List.length_replicate]
  exact Nat.add_sub_cancel' (name_fits k).1

theorem takeWhile_paddedName (k : Kind) : (paddedName k).takeWhile (· != ' ') = k.name.toList := by
  rw [paddedName, List.takeWhile_append_of_pos (name_fits k).2]
  rcases nameColumn.width - k.name.toList.length with _ | count
  · exact List.append_nil _
  · rw [List.replicate_succ, List.takeWhile_cons_of_neg (by decide), List.append_nil]

/-- A line is the padded name, a space, the quoted lexeme and a line feed. -/
theorem line_eq (t : Token) :
    t.line = paddedName t.kind ++
      ' ' :: '"' :: (Text.escaped t.lexeme.toList ++ '"' :: ['\n']) := by
  have hname : (nameColumn.write t.kind.name).toList = paddedName t.kind := String.toList_ofList
  rw [line, hname, text, Text.toList_quoted, List.cons_append, List.append_assoc]
  rfl

/-- The line of a token reads back as the token, whatever follows it. -/
theorem ofLine?_line (t : Token) (after : List Char) :
    ofLine? (t.line ++ after) = some (t, after) := by
  have hcs : t.line ++ after = paddedName t.kind ++
      ' ' :: '"' :: (Text.escaped t.lexeme.toList ++ '"' :: '\n' :: after) := by
    rw [line_eq]
    simp only [List.append_assoc, List.cons_append, List.nil_append]
  have hname : Kind.ofName? (.ofList t.kind.name.toList) = some t.kind := by
    rw [String.ofList_toList]
    exact Kind.ofName?_eq_some_iff.mpr rfl
  rw [hcs, ofLine?, List.take_left' (length_paddedName _), List.drop_left' (length_paddedName _),
    takeWhile_paddedName, hname]
  simp only [Text.body?_escaped]
  rw [ofChars, String.ofList_toList]

/-- Reads all lines of a listing. -/
def ofListing? (cs : List Char) : Option (List Token) :=
  match cs with
  | [] => some []
  | c :: cs =>
    match _h : ofLine? (c :: cs) with
    | none => none
    | some (t, after) => (ofListing? after).map (t :: ·)
termination_by cs.length
decreasing_by exact length_of_ofLine? _h

theorem ofListing?_append {cs after : List Char} {t : Token} (h : ofLine? cs = some (t, after)) :
    ofListing? cs = (ofListing? after).map (t :: ·) := by
  rcases cs with _ | ⟨c, cs⟩
  · exact absurd (length_of_ofLine? h) (Nat.not_lt_zero _)
  · rw [ofListing?]
    split
    · next heq => exact absurd (heq.symm.trans h) (Option.some_ne_none _).symm
    · next heq =>
      obtain ⟨rfl, rfl⟩ := Prod.mk.inj (Option.some.inj (heq.symm.trans h))
      rfl

/-- A listing reads back as the stream it shows. -/
theorem ofListing?_listingChars (ts : List Token) : ofListing? (listingChars ts) = some ts := by
  induction ts with
  | nil => rw [listingChars_nil, ofListing?]
  | cons t ts ih => rw [listingChars_cons, ofListing?_append (ofLine?_line t _), ih, Option.map_some]

end Token

end ScriptLexer
