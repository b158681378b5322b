import Bourse.Proofs.Decimal.Division
import Bourse.Proofs.Book.WellFormed

/-!
# The average execution price

`Header.applyExecution` books an execution: the cumulative quantity grows by its quantity, and
the average price becomes the quantity-weighted mean of the old average and the execution price,
divided out to sixteen places (`Decimal.div`), halves away from zero. A booking that leaves the
cumulative quantity at zero or below leaves the average alone.

Over a run of executions from an unexecuted order the average stays within the traded prices
rounded to sixteen places (`average_within_rounded_prices`): every weighted mean lies between
the old average and the new price, and rounding is monotone and keeps what it has already
rounded, so the rounding error of one step never pushes the next past a bound. A price with
more than sixteen fractional digits is itself rounded on its way into the average, so the
average can leave the range of such prices (`tiny_price_averages_to_zero`); for prices with at
most sixteen digits the bounds are exact (`Decimal.roundTo_value`).
-/

namespace Bourse

open Decimal

namespace Header

/-- Executions booked one after another, each a quantity and a price. -/
def applyExecutions (header : Header) (fills : List (Int64 × Decimal)) : Header :=
  fills.foldl (fun current fill => current.applyExecution fill.1 fill.2) header

variable {header : Header} {qty : Int64} {price : Decimal}

theorem orderQty_applyExecution :
    (header.applyExecution qty price).orderQty = header.orderQty := rfl

theorem cumQty_applyExecution_eq :
    (header.applyExecution qty price).cumQty = header.cumQty + qty := rfl

theorem remainingQty_applyExecution_eq :
    (header.applyExecution qty price).remainingQty = header.orderQty - (header.cumQty + qty) := rfl

/-- A booking that leaves the cumulative quantity at zero or below keeps the average. -/
theorem avgPrice_applyExecution_of_nonpos (nonpositive : header.cumQty + qty ≤ 0) :
    (header.applyExecution qty price).avgPrice = header.avgPrice := by
  have notPositive : ¬ header.cumQty + qty > 0 := Int64.not_lt.mpr nonpositive
  simp [applyExecution, notPositive]

/-- A booking that leaves a positive cumulative quantity averages exactly and rounds the mean to
sixteen places. -/
theorem value_avgPrice_applyExecution (positive : 0 < (header.cumQty + qty).toInt) :
    (header.applyExecution qty price).avgPrice.value =
      roundTo 16 ((header.avgPrice.value * header.cumQty.toInt + price.value * qty.toInt) /
        (header.cumQty + qty).toInt) := by
  have total : header.cumQty + qty > 0 := by
    rw [gt_iff_lt, Int64.lt_iff_toInt_lt]
    simpa using positive
  simp only [applyExecution, total, if_true]
  rw [div, value_divRound _ _ _ (by simpa [ofInt64] using positive), divisionPlaces]
  simp

end Header

/-- A weighted mean lies between the two numbers it weighs. -/
theorem weighted_mean_between (old new : ℚ) {weight added : ℚ} (weightNonneg : 0 ≤ weight)
    (addedPositive : 0 < added) :
    min old new ≤ (old * weight + new * added) / (weight + added) ∧
      (old * weight + new * added) / (weight + added) ≤ max old new := by
  have total : 0 < weight + added := by linarith
  rw [le_div_iff₀ total, div_le_iff₀ total]
  constructor
  · nlinarith [min_le_left old new, min_le_right old new]
  · nlinarith [le_max_left old new, le_max_right old new]

/-- The average is within the prices `low` and `high`, both rounded to sixteen places. -/
def AverageWithin (low high : ℚ) (header : Header) : Prop :=
  roundTo 16 low ≤ header.avgPrice.value ∧ header.avgPrice.value ≤ roundTo 16 high

/-- One booking at a price between `low` and `high` puts the average within their roundings,
starting from no execution or from an average already within them. -/
theorem AverageWithin.applyExecution {low high : ℚ} {header : Header} {qty : Int64}
    {price : Decimal} (start : header.cumQty.toInt = 0 ∨
      (0 < header.cumQty.toInt ∧ AverageWithin low high header))
    (qtyPositive : 0 < qty.toInt) (fits : header.cumQty.toInt + qty.toInt < 2 ^ 63)
    (above : low ≤ price.value) (below : price.value ≤ high) :
    AverageWithin low high (header.applyExecution qty price) := by
  have cumNonneg : 0 ≤ header.cumQty.toInt := by rcases start with zero | ⟨positive, -⟩ <;> omega
  have total : (header.cumQty + qty).toInt = header.cumQty.toInt + qty.toInt :=
    Int64.toInt_add_of_bounds _ _ fits (by omega)
  have qtyQ : (0 : ℚ) < qty.toInt := by exact_mod_cast qtyPositive
  rw [AverageWithin, Header.value_avgPrice_applyExecution (by omega), total]
  push_cast
  rcases start with zero | ⟨-, within⟩
  · -- the first booking: the mean is the price itself
    have mean : (header.avgPrice.value * (header.cumQty.toInt : ℚ) + price.value * qty.toInt) /
        ((header.cumQty.toInt : ℚ) + qty.toInt) = price.value := by
      rw [zero]
      field_simp
      ring
    rw [mean]
    exact ⟨roundTo_mono 16 above, roundTo_mono 16 below⟩
  · -- later bookings: the mean lies between the old average and the price, both in range
    have weights := weighted_mean_between header.avgPrice.value price.value
      (by exact_mod_cast cumNonneg : (0 : ℚ) ≤ header.cumQty.toInt) qtyQ
    set mean := (header.avgPrice.value * (header.cumQty.toInt : ℚ) + price.value * qty.toInt) /
        ((header.cumQty.toInt : ℚ) + qty.toInt)
    have lowMean : min (roundTo 16 low) low ≤ mean := (min_le_min within.1 above).trans weights.1
    have highMean : mean ≤ max (roundTo 16 high) high := weights.2.trans (max_le_max within.2 below)
    constructor
    · calc roundTo 16 low = roundTo 16 (min (roundTo 16 low) low) := by
            rw [(roundTo_mono 16).map_min, roundTo_roundTo, min_self]
        _ ≤ roundTo 16 mean := roundTo_mono 16 lowMean
    · calc roundTo 16 mean ≤ roundTo 16 (max (roundTo 16 high) high) := roundTo_mono 16 highMean
        _ = roundTo 16 high := by rw [(roundTo_mono 16).map_max, roundTo_roundTo, max_self]

/-- A positive booking that stays within 64 bits adds its quantity to the cumulative one. -/
theorem Header.toInt_cumQty_applyExecution {header : Header} {qty : Int64} (price : Decimal)
    (cumNonneg : 0 ≤ header.cumQty.toInt) (qtyPositive : 0 < qty.toInt)
    (fits : header.cumQty.toInt + qty.toInt < 2 ^ 63) :
    (header.applyExecution qty price).cumQty.toInt = header.cumQty.toInt + qty.toInt := by
  rw [Header.cumQty_applyExecution_eq]
  exact Int64.toInt_add_of_bounds _ _ fits (by omega)

/-- The sum of the quantities of a run of positive executions is not negative. -/
theorem sum_qty_nonneg (fills : List (Int64 × Decimal))
    (positive : ∀ fill ∈ fills, 0 < fill.1.toInt) :
    0 ≤ (fills.map fun fill => fill.1.toInt).sum :=
  List.sum_nonneg fun value member => by
    obtain ⟨fill, inFills, rfl⟩ := List.mem_map.mp member
    exact (positive fill inFills).le

/-- Along a run of positive executions whose sum stays in 64 bits, the cumulative quantity grows
by the sum. -/
theorem Header.applyExecutions_cumQty (fills : List (Int64 × Decimal)) (header : Header)
    (start : 0 ≤ header.cumQty.toInt) (positive : ∀ fill ∈ fills, 0 < fill.1.toInt)
    (fits : header.cumQty.toInt + (fills.map fun fill => fill.1.toInt).sum < 2 ^ 63) :
    (header.applyExecutions fills).cumQty.toInt =
      header.cumQty.toInt + (fills.map fun fill => fill.1.toInt).sum := by
  induction fills generalizing header with
  | nil => simp [Header.applyExecutions]
  | cons fill rest ih =>
    have qtyPositive : 0 < fill.1.toInt := positive fill (by simp)
    have restNonneg := sum_qty_nonneg rest fun other member => positive other (by simp [member])
    simp only [List.map_cons, List.sum_cons] at fits ⊢
    have added := Header.toInt_cumQty_applyExecution fill.2 start qtyPositive (by omega)
    have sum := ih (header.applyExecution fill.1 fill.2) (by omega)
      (fun other member => positive other (by simp [member])) (by omega)
    simp only [Header.applyExecutions, List.foldl_cons] at sum ⊢
    rw [sum, added]
    ring

/-- Along a run of positive executions whose sum stays in 64 bits, at prices between `low` and
`high`, once something is executed the average is within their roundings. -/
theorem Header.applyExecutions_within {low high : ℚ} (fills : List (Int64 × Decimal))
    {header : Header}
    (start : header.cumQty.toInt = 0 ∨ (0 < header.cumQty.toInt ∧ AverageWithin low high header))
    (positive : ∀ fill ∈ fills, 0 < fill.1.toInt)
    (fits : header.cumQty.toInt + (fills.map fun fill => fill.1.toInt).sum < 2 ^ 63)
    (bounds : ∀ fill ∈ fills, low ≤ fill.2.value ∧ fill.2.value ≤ high) :
    (header.applyExecutions fills).cumQty.toInt = 0 ∨
      (0 < (header.applyExecutions fills).cumQty.toInt ∧
        AverageWithin low high (header.applyExecutions fills)) := by
  induction fills generalizing header with
  | nil => exact start
  | cons fill rest ih =>
    obtain ⟨qty, price⟩ := fill
    have qtyPositive : 0 < qty.toInt := positive (qty, price) (by simp)
    have restNonneg := sum_qty_nonneg rest fun other member => positive other (by simp [member])
    simp only [List.map_cons, List.sum_cons] at fits
    have cumNonneg : 0 ≤ header.cumQty.toInt := by rcases start with zero | ⟨above, -⟩ <;> omega
    have added := Header.toInt_cumQty_applyExecution price cumNonneg qtyPositive (by omega)
    have stepped := AverageWithin.applyExecution start qtyPositive (by omega)
      (bounds (qty, price) (by simp)).1 (bounds (qty, price) (by simp)).2
    exact @ih (header.applyExecution qty price) (.inr ⟨by omega, stepped⟩)
      (fun fill member => positive fill (by simp [member])) (by omega)
      (fun fill member => bounds fill (by simp [member]))

/-- Bookings keep the order quantity, and after at least one the remaining quantity is the
order quantity less the cumulative one, in 64-bit arithmetic. -/
theorem Header.applyExecutions_remaining (header : Header) {fills : List (Int64 × Decimal)}
    (nonempty : fills ≠ []) :
    (header.applyExecutions fills).remainingQty =
      header.orderQty - (header.applyExecutions fills).cumQty := by
  induction fills generalizing header with
  | nil => exact absurd rfl nonempty
  | cons fill rest ih =>
    rcases rest with _ | ⟨next, later⟩
    · rfl
    · exact ih (header.applyExecution fill.1 fill.2) (List.cons_ne_nil next later)

/-- The average execution price over a run of executions from an unexecuted order. With positive
quantities whose sum stays in 64 bits, the cumulative quantity is their sum and the remaining
quantity is the order quantity less it; the average lies between the lowest and the highest
price, each rounded to sixteen places halves away from zero, hence between them when they have
at most sixteen fractional digits; equal prices give that price so rounded; and a booking that
leaves the cumulative quantity at zero or below keeps the average. -/
theorem average_within_rounded_prices (header : Header) (fills : List (Int64 × Decimal))
    (unexecuted : header.cumQty = 0) (positive : ∀ fill ∈ fills, 0 < fill.1)
    (fits : (fills.map fun fill => fill.1.toInt).sum < 2 ^ 63) (nonempty : fills ≠ []) :
    (header.applyExecutions fills).cumQty.toInt = (fills.map fun fill => fill.1.toInt).sum ∧
    (header.applyExecutions fills).remainingQty =
      header.orderQty - (header.applyExecutions fills).cumQty ∧
    (∀ low high : ℚ, (∀ fill ∈ fills, low ≤ fill.2.value ∧ fill.2.value ≤ high) →
      roundTo 16 low ≤ (header.applyExecutions fills).avgPrice.value ∧
      (header.applyExecutions fills).avgPrice.value ≤ roundTo 16 high) ∧
    (∀ low high : Decimal, -16 ≤ low.exponent → -16 ≤ high.exponent →
      (∀ fill ∈ fills, low.value ≤ fill.2.value ∧ fill.2.value ≤ high.value) →
      low.value ≤ (header.applyExecutions fills).avgPrice.value ∧
      (header.applyExecutions fills).avgPrice.value ≤ high.value) ∧
    (∀ same : ℚ, (∀ fill ∈ fills, fill.2.value = same) →
      (header.applyExecutions fills).avgPrice.value = roundTo 16 same) ∧
    (∀ (current : Header) (qty : Int64) (price : Decimal), current.cumQty + qty ≤ 0 →
      (current.applyExecution qty price).avgPrice = current.avgPrice) := by
  have start : header.cumQty.toInt = 0 := by simp [unexecuted]
  have positiveInt : ∀ fill ∈ fills, 0 < fill.1.toInt := fun fill member => by
    simpa using Int64.lt_iff_toInt_lt.mp (positive fill member)
  -- a nonempty run leaves something executed, so the average is within the bounds
  have bounded : ∀ low high : ℚ, (∀ fill ∈ fills, low ≤ fill.2.value ∧ fill.2.value ≤ high) →
      roundTo 16 low ≤ (header.applyExecutions fills).avgPrice.value ∧
      (header.applyExecutions fills).avgPrice.value ≤ roundTo 16 high := by
    intro low high bounds
    have within := Header.applyExecutions_within fills (.inl start) positiveInt (by omega) bounds
    have sum := Header.applyExecutions_cumQty fills header (by omega) positiveInt (by omega)
    obtain ⟨first, others, rfl⟩ := List.exists_cons_of_ne_nil nonempty
    have sumPositive : 0 < ((first :: others).map fun fill => fill.1.toInt).sum := by
      have firstPositive := positiveInt first (by simp)
      have othersNonneg := sum_qty_nonneg others fun other member =>
        positiveInt other (List.mem_cons_of_mem first member)
      simp only [List.map_cons, List.sum_cons]
      omega
    rcases within with zero | ⟨-, averaged⟩
    · omega
    · exact averaged
  have sum := Header.applyExecutions_cumQty fills header (by omega) positiveInt (by omega)
  refine ⟨by omega, Header.applyExecutions_remaining header nonempty, bounded, ?_, ?_,
    fun current qty price => Header.avgPrice_applyExecution_of_nonpos⟩
  · intro low high lowFine highFine bounds
    have rounded := bounded low.value high.value bounds
    rwa [roundTo_value lowFine, roundTo_value highFine] at rounded
  · intro same equal
    have rounded := bounded same same fun fill member => by simp [equal fill member]
    exact le_antisymm rounded.2 rounded.1

/-- Four at 100, then six at 101. -/
def fourThenSix : List (Int64 × Decimal) := [(4, 100), (6, 101)]

/-- Four at 100 and six at 101 average between 100 and 101. -/
theorem four_then_six_between :
    Header.empty.cumQty = 0 ∧ (∀ fill ∈ fourThenSix, 0 < fill.1) ∧
    (fourThenSix.map fun fill => fill.1.toInt).sum < 2 ^ 63 ∧ fourThenSix ≠ [] ∧
    (100 : ℚ) ≤ (Header.empty.applyExecutions fourThenSix).avgPrice.value ∧
    (Header.empty.applyExecutions fourThenSix).avgPrice.value ≤ 101 := by
  have positive : ∀ fill ∈ fourThenSix, 0 < fill.1 := by decide
  have fits : (fourThenSix.map fun fill => fill.1.toInt).sum < 2 ^ 63 := by decide
  have nonempty : fourThenSix ≠ [] := List.cons_ne_nil _ _
  obtain ⟨-, -, -, grid, -, -⟩ :=
    average_within_rounded_prices Header.empty fourThenSix rfl positive fits nonempty
  have between := grid 100 101 (by decide) (by decide) fun fill member => by
    simp only [fourThenSix, List.mem_cons, List.not_mem_nil, or_false] at member
    rcases member with rfl | rfl <;> norm_num
  simp only [value_ofNat] at between
  exact ⟨rfl, positive, fits, nonempty, by exact_mod_cast between.1, by exact_mod_cast between.2⟩

/-- A single execution at `10⁻¹⁷`, a price with seventeen fractional digits, leaves an average
of zero, below the only price traded. -/
theorem tiny_price_averages_to_zero :
    (Header.empty.applyExecutions [(1, ⟨1, -17⟩)]).avgPrice.value < (⟨1, -17⟩ : Decimal).value := by
  have zero : (Header.empty.applyExecutions [(1, ⟨1, -17⟩)]).avgPrice.coefficient = 0 := by
    decide +kernel
  rw [value, value, zero]
  norm_num

end Bourse
