import Bourse.Decimal.Text
import Bourse.Proofs.Decimal.Order
import Bourse.Proofs.Text.Integer
import Mathlib.Tactic.Ring

/-!
# Decimals read back from their text

`toText` writes a decimal positionally and `ofText?` reads the text back as a decimal of the
same value (`ofText?_toText`). The coefficient and exponent may change on the way: a
non-negative exponent is multiplied into the digits and trailing fractional zeros are dropped.

The reader folds the digits most significant first; `digitsNumber` is that fold without the
check that each character is a digit, and the facts about the written digits are facts about
it: the digits of a number spell it, zeros in front spell nothing, and a run of digits spells
its first part shifted past the rest.
-/

namespace Bourse.Decimal

/-- One more digit after the number read so far. -/
def pushDigit (n : Nat) (c : Char) : Nat := 10 * n + (c.toNat - '0'.toNat)

/-- The number a run of digits spells, most significant first. -/
def digitsNumber (digits : List Char) : Nat := digits.foldl pushDigit 0

/-- Folding digits onto a number read so far shifts that number past them. -/
theorem foldl_pushDigit (start : Nat) (digits : List Char) :
    digits.foldl pushDigit start = start * 10 ^ digits.length + digitsNumber digits := by
  induction digits generalizing start with
  | nil => simp [digitsNumber]
  | cons c rest inductionHypothesis =>
    show rest.foldl pushDigit (pushDigit start c) = _ + rest.foldl pushDigit (pushDigit 0 c)
    rw [inductionHypothesis, inductionHypothesis (pushDigit 0 c)]
    simp only [pushDigit, List.length_cons, pow_succ]
    ring

theorem digitsNumber_append (first second : List Char) :
    digitsNumber (first ++ second) =
      digitsNumber first * 10 ^ second.length + digitsNumber second := by
  rw [digitsNumber, List.foldl_append, foldl_pushDigit]
  rfl

theorem digitsNumber_replicate_zero (count : Nat) :
    digitsNumber (List.replicate count '0') = 0 := by
  induction count with
  | zero => rfl
  | succ count inductionHypothesis =>
    rw [List.replicate_succ', digitsNumber_append, inductionHypothesis]
    rfl

/-- The decimal digits of a number spell it. -/
theorem digitsNumber_natDigits (n : Nat) : digitsNumber (natDigits n) = n := by
  induction n using Nat.strongRecOn with
  | ind n inductionHypothesis =>
    by_cases small : n < 10
    · rw [natDigits, Nat.toDigits_of_lt_base small]
      simp [digitsNumber, pushDigit, Nat.toNat_digitChar_of_lt_ten small]
    · have shorter : n / 10 < n := Nat.div_lt_self (by omega) (by decide)
      have last : n % 10 < 10 := Nat.mod_lt n (by decide)
      have split : natDigits n = natDigits (n / 10) ++ [Nat.digitChar (n % 10)] :=
        Nat.toDigits_of_base_le (by decide) (by omega)
      rw [split, digitsNumber_append, inductionHypothesis (n / 10) shorter]
      simp [digitsNumber, pushDigit, Nat.toNat_digitChar_of_lt_ten last]
      omega

theorem isDigit_of_mem_natDigits {n : Nat} {c : Char} (mem : c ∈ natDigits n) :
    c.isDigit = true :=
  Nat.isDigit_of_mem_toDigits (by decide) (by decide) mem

/-- The checked fold of `digitsValue?` runs as the plain fold while every character is a
digit. -/
theorem foldl_checkedDigit (start : Nat) {digits : List Char}
    (allDigits : ∀ c ∈ digits, c.isDigit = true) :
    digits.foldl (fun acc c => acc.bind fun n =>
        if c.isDigit then some (10 * n + (c.toNat - '0'.toNat)) else none) (some start) =
      some (digits.foldl pushDigit start) := by
  induction digits generalizing start with
  | nil => rfl
  | cons c rest inductionHypothesis =>
    have digit : c.isDigit = true := allDigits c List.mem_cons_self
    simp only [List.foldl_cons, Option.bind_some, digit, ↓reduceIte]
    exact inductionHypothesis _ fun d mem => allDigits d (List.mem_cons_of_mem c mem)

/-- A non-empty run of digits reads as the number it spells. -/
theorem digitsValue?_of_digits {digits : List Char} (nonempty : digits ≠ [])
    (allDigits : ∀ c ∈ digits, c.isDigit = true) :
    digitsValue? digits = some (digitsNumber digits) := by
  have notEmpty : digits.isEmpty = false := List.isEmpty_eq_false_iff.mpr nonempty
  rw [digitsValue?, notEmpty, if_neg Bool.false_ne_true, foldl_checkedDigit 0 allDigits]
  rfl

/-- A run that starts with a digit has no sign to read. -/
theorem signedValue?_of_digit {c : Char} (digit : c.isDigit = true) (rest : List Char) :
    signedValue? (c :: rest) = (digitsValue? (c :: rest)).map fun n => (n : Int) := by
  unfold signedValue?
  split
  · rename_i minus
    exact absurd (List.cons.inj minus).1 (ne_of_isDigit digit (by decide))
  · rename_i plus
    exact absurd (List.cons.inj plus).1 (ne_of_isDigit digit (by decide))
  · rfl

/-- The integer spelled by digits behind an optional minus sign. -/
def signed (negative : Bool) (magnitude : Nat) : Int :=
  if negative then -(magnitude : Int) else magnitude

@[simp] theorem signed_natAbs (number : Int) : signed (decide (number < 0)) number.natAbs = number := by
  by_cases negative : number < 0
  · rw [signed, decide_eq_true negative, if_pos rfl, Int.ofNat_natAbs_of_nonpos (by omega),
      Int.neg_neg]
  · rw [signed, decide_eq_false negative, if_neg Bool.false_ne_true,
      Int.natAbs_of_nonneg (by omega)]

/-- An optional minus sign and a non-empty run of digits read as the signed number they
spell. -/
theorem signedValue?_sign_digits (negative : Bool) {digits : List Char} (nonempty : digits ≠ [])
    (allDigits : ∀ c ∈ digits, c.isDigit = true) :
    signedValue? ((if negative then ['-'] else []) ++ digits) =
      some (signed negative (digitsNumber digits)) := by
  cases negative with
  | true =>
    simp [signedValue?, digitsValue?_of_digits nonempty allDigits, signed]
  | false =>
    obtain ⟨c, rest, rfl⟩ := List.exists_cons_of_ne_nil nonempty
    rw [if_neg Bool.false_ne_true, List.nil_append,
      signedValue?_of_digit (allDigits c List.mem_cons_self),
      digitsValue?_of_digits nonempty allDigits]
    rfl

/-- Splitting the digits of a magnitude at a point: at least one integer digit, exactly
`places` fractional digits, and together they spell the magnitude. -/
structure PointSplit (magnitude places : Nat) (whole fraction : List Char) : Prop where
  whole_ne_nil : whole ≠ []
  fraction_length : fraction.length = places
  digits : ∀ c ∈ whole ++ fraction, c.isDigit = true
  spells : digitsNumber (whole ++ fraction) = magnitude

theorem pointSplit_splitAtPoint (magnitude places : Nat) :
    PointSplit magnitude places (splitAtPoint magnitude places).1
      (splitAtPoint magnitude places).2 := by
  have written : (natDigits magnitude).length ≠ 0 := by
    simp [natDigits]
  dsimp only [splitAtPoint]
  split
  · -- Enough digits: cut them `places` from the end.
    rename_i enough
    refine ⟨?_, ?_, ?_, ?_⟩
    · refine List.ne_nil_of_length_pos ?_
      simp only [List.length_take]
      omega
    · simp only [List.length_drop]
      omega
    · intro c mem
      rw [List.take_append_drop] at mem
      exact isDigit_of_mem_natDigits mem
    · rw [List.take_append_drop, digitsNumber_natDigits]
  · -- Too few digits: a zero integer part and zeros in front of the fraction.
    rename_i short
    refine ⟨List.cons_ne_nil _ _, ?_, ?_, ?_⟩
    · simp only [List.length_append, List.length_replicate]
      omega
    · intro c mem
      simp only [List.cons_append, List.nil_append, List.mem_cons, List.mem_append,
        List.mem_replicate] at mem
      rcases mem with zero | ⟨_, zero⟩ | digit
      · rw [zero]; decide
      · rw [zero]; decide
      · exact isDigit_of_mem_natDigits digit
    · dsimp only
      rw [List.singleton_append, ← List.cons_append, ← List.replicate_succ, digitsNumber_append,
        digitsNumber_replicate_zero, digitsNumber_natDigits]
      simp

/-- Dropping the trailing zeros of a run leaves a prefix that only zeros follow. -/
theorem eq_trimmed_append_zeros (digits : List Char) :
    ∃ zeros, digits =
      (digits.reverse.dropWhile (· == '0')).reverse ++ List.replicate zeros '0' := by
  refine ⟨(digits.reverse.takeWhile (· == '0')).length, ?_⟩
  have allZero : digits.reverse.takeWhile (· == '0') =
      List.replicate (digits.reverse.takeWhile (· == '0')).length '0' :=
    List.eq_replicate_iff.mpr ⟨rfl, fun c mem => by simpa using List.all_eq_true.mp List.all_takeWhile c mem⟩
  calc digits
      = (digits.reverse.takeWhile (· == '0') ++ digits.reverse.dropWhile (· == '0')).reverse := by
        rw [List.takeWhile_append_dropWhile, List.reverse_reverse]
    _ = _ := by
        rw [List.reverse_append]
        nth_rewrite 1 [allZero]
        rw [List.reverse_replicate]

/-- Digits hold no point. -/
theorem point_not_mem {digits : List Char} (allDigits : ∀ c ∈ digits, c.isDigit = true) :
    '.' ∉ digits :=
  fun mem => ne_of_isDigit (allDigits '.' mem) (by decide) rfl

/-- An optional minus sign and digits, with a point before the last `kept` of them when there
are any, read as the signed number all the digits spell, scaled down past the kept ones. -/
theorem readMantissa_positional {text : String} (negative : Bool) {whole kept : List Char}
    (nonempty : whole ≠ []) (allDigits : ∀ c ∈ whole ++ kept, c.isDigit = true)
    (spelled : text.toList =
      (if negative then ['-'] else []) ++ whole ++ (if kept.isEmpty then [] else '.' :: kept)) :
    readMantissa text =
      .ok ⟨signed negative (digitsNumber (whole ++ kept)), -(kept.length : Int)⟩ := by
  have unsigned : whole ++ kept ≠ [] := by simp [nonempty]
  have noPoint : '.' ∉ (if negative then ['-'] else []) ++ whole := by
    intro mem
    rcases List.mem_append.mp mem with sign | digit
    · split at sign <;> simp at sign
    · exact point_not_mem (fun c mem => allDigits c (List.mem_append_left kept mem)) digit
  unfold readMantissa
  dsimp only
  cases kept with
  | nil =>
    -- No point: one piece, the sign and the integer digits.
    simp only [List.isEmpty_nil, ↓reduceIte, List.append_nil] at spelled allDigits unsigned ⊢
    rw [spelled, List.splitOn_eq_singleton noPoint]
    simp only [signedValue?_sign_digits negative nonempty allDigits]
    rfl
  | cons first rest =>
    -- A point: two pieces, and the digits on both sides read as one run.
    have fractionDigits : ∀ c ∈ first :: rest, c.isDigit = true :=
      fun c mem => allDigits c (List.mem_append_right whole mem)
    simp only [List.isEmpty_cons, Bool.false_eq_true, ↓reduceIte] at spelled
    rw [spelled, List.splitOn_append_cons_self_of_not_mem noPoint,
      List.splitOn_eq_singleton (point_not_mem fractionDigits)]
    simp only [List.append_assoc, signedValue?_sign_digits negative unsigned allDigits]

/-- A text with no exponent mark is read as a mantissa alone. -/
theorem ofText?_of_unmarked {text : String}
    (unmarked : ∀ c ∈ text.toList, c ≠ 'e' ∧ c ≠ 'E') : ofText? text = readMantissa text := by
  have noMark : text.toList.findIdx? (fun c => c == 'e' || c == 'E') = none := by
    rw [List.findIdx?_eq_none_iff]
    intro c mem
    simp [(unmarked c mem).1, (unmarked c mem).2]
  unfold ofText?
  simp only [noMark]

/-- A sign, digits and a point hold no exponent mark, so the positional form is read as its
mantissa. -/
theorem ofText?_positional {text : String} (negative : Bool) {whole kept : List Char}
    (nonempty : whole ≠ []) (allDigits : ∀ c ∈ whole ++ kept, c.isDigit = true)
    (spelled : text.toList =
      (if negative then ['-'] else []) ++ whole ++ (if kept.isEmpty then [] else '.' :: kept)) :
    ofText? text = .ok ⟨signed negative (digitsNumber (whole ++ kept)), -(kept.length : Int)⟩ := by
  have unmarked : ∀ c ∈ text.toList, c ≠ 'e' ∧ c ≠ 'E' := by
    intro c mem
    have plain : c = '-' ∨ c = '.' ∨ c.isDigit = true := by
      rw [spelled] at mem
      simp only [List.mem_append] at mem
      rcases mem with (sign | digit) | point
      · split at sign <;> simp_all
      · exact .inr (.inr (allDigits c (List.mem_append_left kept digit)))
      · split at point
        · simp at point
        · rcases List.mem_cons.mp point with dot | digit
          · exact .inr (.inl dot)
          · exact .inr (.inr (allDigits c (List.mem_append_right whole digit)))
    rcases plain with rfl | rfl | digit
    · decide
    · decide
    · exact ⟨ne_of_isDigit digit (by decide), ne_of_isDigit digit (by decide)⟩
  rw [ofText?_of_unmarked unmarked, readMantissa_positional negative nonempty allDigits spelled]

/-- Dropping the trailing zeros of the fraction keeps the digits, which spell the magnitude
scaled down by the power of ten of the zeros dropped. -/
theorem PointSplit.trimmed {magnitude places : Nat} {whole fraction : List Char}
    (split : PointSplit magnitude places whole fraction) :
    ∃ zeros,
      (∀ c ∈ whole ++ (fraction.reverse.dropWhile (· == '0')).reverse, c.isDigit = true) ∧
      digitsNumber (whole ++ (fraction.reverse.dropWhile (· == '0')).reverse) * 10 ^ zeros =
        magnitude ∧
      (fraction.reverse.dropWhile (· == '0')).reverse.length + zeros = places := by
  obtain ⟨zeros, trimmed⟩ := eq_trimmed_append_zeros fraction
  generalize (fraction.reverse.dropWhile (· == '0')).reverse = kept at trimmed ⊢
  subst trimmed
  obtain ⟨_, length, allDigits, spells⟩ := split
  refine ⟨zeros, fun c mem => allDigits c ?_, ?_, ?_⟩
  · rw [← List.append_assoc]
    exact List.mem_append_left _ mem
  · rw [← spells, ← List.append_assoc, digitsNumber_append (whole ++ kept),
      digitsNumber_replicate_zero, List.length_replicate, Nat.add_zero]
  · simpa using length

/-- The sign written in front of a positional text, as characters. -/
theorem toList_sign (negative : Prop) [Decidable negative] :
    (if negative then "-" else "").toList = if decide negative then ['-'] else [] := by
  by_cases sign : negative <;> simp [sign]

/-- Digits scaled down past `kept` places, behind the coefficient's sign, have the value of
the decimal when the digits followed by `zeros` zeros spell its coefficient and the exponent
is `-(kept + zeros)`. -/
theorem value_signed_shifted {amount : Decimal} {spelled kept zeros : Nat}
    (scaled : spelled * 10 ^ zeros = amount.coefficient.natAbs)
    (places : (kept : Int) + zeros = -amount.exponent) :
    (⟨signed (decide (amount.coefficient < 0)) spelled, -(kept : Int)⟩ : Decimal).value =
      amount.value := by
  have coefficient :
      signed (decide (amount.coefficient < 0)) spelled * 10 ^ zeros = amount.coefficient := by
    conv_rhs => rw [← signed_natAbs amount.coefficient, ← scaled]
    unfold signed
    split <;> push_cast <;> ring
  have exponent : amount.exponent = -(kept : Int) - zeros := by omega
  have tenNonzero : (10 : ℚ) ≠ 0 := by norm_num
  calc (⟨signed (decide (amount.coefficient < 0)) spelled, -(kept : Int)⟩ : Decimal).value
      = (signed (decide (amount.coefficient < 0)) spelled : ℚ) * 10 ^ (-(kept : Int)) := rfl
    _ = (signed (decide (amount.coefficient < 0)) spelled : ℚ) * 10 ^ zeros *
          10 ^ (-(kept : Int) - zeros) := by
        rw [mul_assoc, ← zpow_natCast, ← zpow_add₀ tenNonzero]
        congr 2
        omega
    _ = amount.value := by
        have cast : ((signed (decide (amount.coefficient < 0)) spelled * 10 ^ zeros : Int) : ℚ) =
            amount.coefficient := by
          rw [coefficient]
        rw [value, ← exponent, ← cast]
        push_cast
        rfl

/-- The text of a decimal reads back as a decimal of the same value. -/
theorem ofText?_toText (amount : Decimal) :
    ∃ read, ofText? amount.toText = .ok read ∧ read.value = amount.value := by
  by_cases integral : 0 ≤ amount.exponent
  · -- No point: the coefficient multiplied out to a whole number.
    have spelled : amount.toText.toList =
        (if decide (amount.coefficient * Int.pow 10 amount.exponent.toNat < 0) then ['-'] else []) ++
          natDigits (amount.coefficient * Int.pow 10 amount.exponent.toNat).natAbs ++
          (if ([] : List Char).isEmpty then [] else ['.']) := by
      simp only [toText, positional, integral, ↓reduceIte, String.toList_append, toList_sign,
        String.toList_ofList, List.isEmpty_nil, List.append_nil]
    refine ⟨_, ofText?_positional _ (by simp [natDigits])
      (fun c mem => isDigit_of_mem_natDigits (by simpa using mem)) spelled, ?_⟩
    simp only [List.append_nil, digitsNumber_natDigits, signed_natAbs, List.length_nil,
      Nat.cast_zero, Int.neg_zero]
    rw [← coefficientAt_mul_pow amount integral, coefficientAt, Int.sub_zero]
    rfl
  · -- A point before the fractional digits left after trimming.
    have negative : amount.exponent < 0 := Int.lt_of_not_ge integral
    rcases pointAt : splitAtPoint amount.coefficient.natAbs (-amount.exponent).toNat with
      ⟨whole, fraction⟩
    have split := pointSplit_splitAtPoint amount.coefficient.natAbs (-amount.exponent).toNat
    rw [pointAt] at split
    dsimp only at split
    obtain ⟨zeros, keptDigits, scaled, places⟩ := split.trimmed
    have spelled : amount.toText.toList =
        (if decide (amount.coefficient < 0) then ['-'] else []) ++ whole ++
          (if (fraction.reverse.dropWhile (· == '0')).reverse.isEmpty then []
          else '.' :: (fraction.reverse.dropWhile (· == '0')).reverse) := by
      simp only [toText, positional, integral, ↓reduceIte, pointAt, String.toList_append,
        toList_sign, String.toList_ofList]
      rw [List.append_assoc]
      congr 2
      split <;> simp
    exact ⟨_, ofText?_positional _ split.whole_ne_nil keptDigits spelled,
      value_signed_shifted scaled (by omega)⟩

end Bourse.Decimal
