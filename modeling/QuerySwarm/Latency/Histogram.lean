import QuerySwarm.SortedMap

/-!
# Histograms of latencies

Latencies are counted in bins with three significant digits: a value below 2048 has a bin of its
own, and above it a bin keeps the eleven leading bits of a value. Only the counts, and the least and
the greatest value that was recorded, are kept.

Main statements: a value lies in its bin (`Latency.binStart_le`, `Latency.lt_binStart_add_binWidth`),
a bin is narrower than a thousandth of its values (`Latency.binWidth_mul_le`), and recording a
latency changes the count of its own bin alone (`Histogram.get?_record`,
`Histogram.get?_record_ne`).
-/

namespace QuerySwarm

namespace Latency

/-! ### Bins -/

def greatest : Nat := Nat.pow 2 64 - 1

/-- The number of low bits that the bin of a value leaves open. -/
def openBits (value : Nat) : Nat := value.log2 - 10

/-- The number of values in the bin of a value. -/
def binWidth (value : Nat) : Nat := Nat.pow 2 (openBits value)

def binStart (value : Nat) : Nat := value / binWidth value * binWidth value

/-- The greatest value in the bin of a value, as it is reported. -/
def binEnd (value : Nat) : Nat := min greatest (binStart value + binWidth value) - 1

def binMiddle (value : Nat) : Nat := binStart value + binWidth value / 2

theorem binWidth_pos (value : Nat) : 0 < binWidth value := Nat.two_pow_pos _

theorem binStart_le (value : Nat) : binStart value ≤ value := Nat.div_mul_le_self _ _

theorem lt_binStart_add_binWidth (value : Nat) : value < binStart value + binWidth value := by
  have h := Nat.div_add_mod value (binWidth value)
  have hm := Nat.mod_lt value (binWidth_pos value)
  have hc : binWidth value * (value / binWidth value) = binStart value := Nat.mul_comm _ _
  omega

/-- A small value is the only one in its bin. -/
theorem binWidth_of_lt {value : Nat} (h : value < 2048) : binWidth value = 1 := by
  have hlog : value.log2 ≤ 10 := by
    by_cases h0 : value = 0
    · subst h0; decide
    · have := (Nat.log2_lt h0).2 (show value < 2 ^ 11 by omega)
      omega
  simp [binWidth, openBits, Nat.sub_eq_zero_of_le hlog]

theorem binStart_of_lt {value : Nat} (h : value < 2048) : binStart value = value := by
  simp [binStart, binWidth_of_lt h]

/-- A bin is not wider than a thousandth of its least value, unless it holds only one. -/
theorem binWidth_mul_le {value : Nat} (h : 2048 ≤ value) : binWidth value * 1024 ≤ value := by
  have h0 : value ≠ 0 := by omega
  have hlog : 11 ≤ value.log2 := (Nat.le_log2 h0).2 (by omega)
  have hpow : binWidth value * 1024 = 2 ^ value.log2 := by
    have : 2 ^ openBits value * 2 ^ 10 = 2 ^ (openBits value + 10) := (Nat.pow_add 2 _ _).symm
    have he : openBits value + 10 = value.log2 := by simp [openBits]; omega
    rw [← he, ← this]
    rfl
  rw [hpow]
  exact Nat.log2_self_le h0

end Latency

/-! ### Counting -/

/-- How often latencies were recorded, bin by bin. -/
structure Histogram where
  bins : SortedMap Nat Nat
  total : Nat
  least : Nat
  greatest : Nat
  deriving DecidableEq

namespace Histogram

def empty : Histogram := ⟨.empty, 0, Latency.greatest, 0⟩

def recordMany (h : Histogram) (value count : Nat) : Histogram :=
  if count = 0 then h
  else
    { bins := h.bins.update (Latency.binStart value) fun n => n.getD 0 + count
      total := h.total + count
      least := min h.least value
      greatest := max h.greatest value }

def record (h : Histogram) (value : Nat) : Histogram := h.recordMany value 1

def ofList (values : List Nat) : Histogram := values.foldl record empty

theorem total_record (h : Histogram) (value : Nat) : (h.record value).total = h.total + 1 := rfl

/-- Recording a latency counts it in its bin. -/
theorem get?_record (h : Histogram) (value : Nat) :
    (h.record value).bins.get? (Latency.binStart value) =
      some ((h.bins.get? (Latency.binStart value)).getD 0 + 1) :=
  SortedMap.get?_update _ _ _

/-- Recording a latency leaves the other bins alone. -/
theorem get?_record_ne (h : Histogram) {value start : Nat} (hne : start ≠ Latency.binStart value) :
    (h.record value).bins.get? start = h.bins.get? start :=
  SortedMap.get?_update_ne _ _ hne

end Histogram

end QuerySwarm
