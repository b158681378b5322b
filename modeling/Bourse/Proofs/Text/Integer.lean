import Bourse.Text.Integer

/-!
# Integers read back

Reading digits walks them from the most significant on, so the digits of a number read after
other digits continue their value (`readDigitsIn_append`). The decimal digits a number is written
with read back as that number, as long as it stays within the reader's limit
(`readDigitsIn_toDigits`); so the decimal text of a 64-bit integer reads back as that integer
(`readInt64_toString`).
-/

namespace Bourse

/-- Reading digits after other digits goes on from the value they reached. -/
theorem readDigitsIn_append (base limit acc : Nat) (first second : List Char) :
    readDigitsIn base limit acc (first ++ second) =
      match readDigitsIn base limit acc first with
      | .value reached => readDigitsIn base limit reached second
      | stopped => stopped := by
  induction first generalizing acc with
  | nil => rfl
  | cons c rest inductionHypothesis =>
    simp only [List.cons_append, readDigitsIn]
    split
    · split
      · split
        · rfl
        · exact inductionHypothesis _
      · rfl
    · rfl

/-- A decimal digit's character is read as the digit. -/
theorem digitValue_digitChar {d : Nat} (below : d < 10) : digitValue (Nat.digitChar d) = some d := by
  match d, below with
  | 0, _ | 1, _ | 2, _ | 3, _ | 4, _ | 5, _ | 6, _ | 7, _ | 8, _ | 9, _ => decide

/-- The decimal digits of a number within the limit read back as the number. -/
theorem readDigitsIn_toDigits {limit : Nat} (n : Nat) (within : n ≤ limit) :
    readDigitsIn 10 limit 0 (Nat.toDigits 10 n) = .value n := by
  induction n using Nat.strongRecOn with
  | ind n inductionHypothesis =>
    by_cases small : n < 10
    · -- One digit.
      rw [Nat.toDigits_of_lt_base small]
      simp [readDigitsIn, digitValue_digitChar small, small, Nat.not_lt.mpr within]
    · -- The digits of `n / 10`, then the last digit.
      have shorter : n / 10 < n := Nat.div_lt_self (by omega) (by decide)
      have last : n % 10 < 10 := Nat.mod_lt n (by decide)
      rw [Nat.toDigits_of_base_le (by decide) (by omega), readDigitsIn_append,
        inductionHypothesis (n / 10) shorter (by omega)]
      have whole : 10 * (n / 10) + n % 10 = n := Nat.div_add_mod n 10
      simp [readDigitsIn, digitValue_digitChar last, last, whole, Nat.not_lt.mpr within]

/-- A digit differs from every character that is not one: a sign, a point, an exponent
mark. -/
theorem ne_of_isDigit {c other : Char} (digit : c.isDigit = true)
    (notDigit : other.isDigit = false) : c ≠ other := by
  rintro rfl
  simp [digit] at notDigit

/-- A text that starts with a digit has no sign. -/
theorem splitSign_of_digit {c : Char} (digit : c.isDigit = true) (rest : List Char) :
    splitSign (c :: rest) = (false, c :: rest) := by
  unfold splitSign
  split
  · rename_i plus
    exact absurd (List.cons.inj plus).1 (ne_of_isDigit digit (by decide))
  · rename_i minus
    exact absurd (List.cons.inj minus).1 (ne_of_isDigit digit (by decide))
  · rfl

/-- The decimal digits of a number start with a digit. -/
theorem toDigits_head (n : Nat) :
    ∃ c rest, Nat.toDigits 10 n = c :: rest ∧ c.isDigit = true := by
  match digits : Nat.toDigits 10 n with
  | [] => exact absurd digits Nat.toDigits_ne_nil
  | c :: rest =>
    exact ⟨c, rest, rfl, Nat.isDigit_of_mem_toDigits (by decide) (by decide)
      (digits ▸ List.mem_cons_self)⟩

/-- The decimal text of a 64-bit integer reads back as the integer. -/
theorem readInt64_toString (n : Int64) : readInt64 (toString n.toInt) = .ok n := by
  have below := Int64.toInt_lt n
  have above := Int64.le_toInt n
  have back : Int64.ofInt n.toInt = n := Int64.ofInt_toInt n
  unfold readInt64 readSigned
  cases sign : n.toInt with
  | ofNat m =>
    -- No sign: the digits of `m`, below half the unsigned range.
    rw [sign] at below back
    obtain ⟨c, rest, digits, digit⟩ := toDigits_head m
    have fits : m < 9223372036854775808 := by
      simp only [Int.ofNat_eq_natCast] at below
      omega
    have read : readDigitsIn 10 18446744073709551615 0 (Nat.toDigits 10 m) = .value m :=
      readDigitsIn_toDigits m (by omega)
    simp only [toString, Int.repr, Nat.repr, String.toList_ofList, digits,
      splitSign_of_digit digit, splitBase, Bool.not_false, ↓reduceIte, Nat.reduceSub,
      List.isEmpty_cons, Bool.false_eq_true] at read ⊢
    simp only [read, Nat.not_le.mpr fits, ↓reduceIte]
    simpa [Except.map] using back
  | negSucc m =>
    -- A minus sign and the digits of `m + 1`, at most half the unsigned range.
    rw [sign] at above back
    have fits : m + 1 ≤ 9223372036854775808 := by
      simp only [Int.negSucc_eq] at above
      omega
    have read : readDigitsIn 10 18446744073709551615 0 (Nat.toDigits 10 (m + 1)) = .value (m + 1) :=
      readDigitsIn_toDigits (m + 1) (by omega)
    have minus : "-".toList = ['-'] := rfl
    simp only [toString, Int.repr, Nat.repr, Nat.succ_eq_add_one, String.toList_append,
      String.toList_ofList, minus, List.cons_append, List.nil_append, splitSign, splitBase,
      Bool.not_false, ↓reduceIte, Nat.reduceSub, List.isEmpty_iff, Nat.toDigits_ne_nil, read,
      Nat.not_lt.mpr fits]
    simpa [Except.map, Int.negSucc_eq] using back

end Bourse
