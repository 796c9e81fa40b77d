/-!
# Hexadecimal digits

Numbers are written in lowercase hexadecimal digits without leading zeros.

Results:

* `digits_of_lt`, `digits_append`: the digits of a small number, and of a number
  with one more digit behind it.
* `value_digits`: the digits of a number read back as the number.
-/

namespace ScriptLexer.Text.Hexadecimal

/-- The digits of a number. -/
def digits (n : Nat) : List Char := Nat.toDigits 16 n

/-- The value of a digit: ten and more for a letter. -/
def digitValue (c : Char) : Nat :=
  if c.toNat < 'a'.toNat then c.toNat - '0'.toNat else c.toNat - 'a'.toNat + 10

/-- The number that the digits write. -/
def value (cs : List Char) : Nat := cs.foldl (fun n c => 16 * n + digitValue c) 0

theorem digits_of_lt {n : Nat} (h : n < 16) : digits n = [n.digitChar] :=
  Nat.toDigits_of_lt_base h

theorem digits_append {n d : Nat} (hn : 0 < n) (hd : d < 16) :
    digits (16 * n + d) = digits n ++ [d.digitChar] := by
  rw [digits, ← Nat.toDigits_append_toDigits (by decide) hn hd, Nat.toDigits_of_lt_base hd, digits]

theorem digitValue_digitChar {d : Nat} (h : d < 16) : digitValue d.digitChar = d := by
  have hall : ∀ d : Fin 16, digitValue (Nat.digitChar d) = d := by decide
  exact hall ⟨d, h⟩

/-- Every number is small or has one digit behind those of another number. -/
theorem digits_induction {motive : Nat → Prop} (small : ∀ n, n < 16 → motive n)
    (snoc : ∀ n d, 0 < n → d < 16 → motive n → motive (16 * n + d)) (n : Nat) : motive n := by
  induction n using Nat.strongRecOn with
  | _ n ih =>
    by_cases h : n < 16
    · exact small n h
    · have hn : 16 * (n / 16) + n % 16 = n := Nat.div_add_mod n 16
      rw [← hn]
      exact snoc _ _ (by omega) (Nat.mod_lt _ (by decide)) (ih _ (by omega))

theorem value_digits (n : Nat) : value (digits n) = n := by
  induction n using digits_induction with
  | small n h =>
    rw [digits_of_lt h, value, List.foldl_cons, List.foldl_nil, digitValue_digitChar h]
    omega
  | snoc n d hn hd ih =>
    rw [value] at ih
    rw [digits_append hn hd, value, List.foldl_append, ih, List.foldl_cons, List.foldl_nil,
      digitValue_digitChar hd]

/-- The sixteen digits. -/
def alphabet : List Char :=
  ['0', '1', '2', '3', '4', '5', '6', '7', '8', '9', 'a', 'b', 'c', 'd', 'e', 'f']

theorem mem_alphabet_of_mem_digits {n : Nat} {c : Char} (h : c ∈ digits n) : c ∈ alphabet := by
  have hall : ∀ d : Fin 16, Nat.digitChar d ∈ alphabet := by decide
  induction n using digits_induction with
  | small n hn =>
    rw [digits_of_lt hn, List.mem_singleton] at h
    exact h ▸ hall ⟨n, hn⟩
  | snoc n d hn hd ih =>
    rw [digits_append hn hd, List.mem_append, List.mem_singleton] at h
    rcases h with h | rfl
    · exact ih h
    · exact hall ⟨d, hd⟩

end ScriptLexer.Text.Hexadecimal
