import QuerySwarm.Binary64.Decimal
import QuerySwarm.Latency.Histogram

/-!
# Latency statistics

What is reported of a histogram: the least and the greatest latency, three percentiles, the mean and
the count. Each is known only up to its bin. A percentile is the end of the first bin at which enough
latencies have been counted, and the mean weighs the middles of the bins, bin by bin from below.

Main statement: the statistics of no latencies are all zero (`Latency.Statistics.ofHistogram_empty`).
-/

namespace QuerySwarm

namespace Histogram

/-- The least latency, as it is reported: the start of its bin. The very greatest value stands for
itself. -/
def reportedLeast (h : Histogram) : Nat :=
  if h.total = 0 then 0
  else if h.least = Latency.greatest then h.least
  else Latency.binStart h.least

/-- The greatest latency, as it is reported: the end of its bin. -/
def reportedGreatest (h : Histogram) : Nat :=
  if h.total = 0 then 0
  else if h.greatest = Latency.greatest then h.greatest
  else Latency.binEnd h.greatest

/-- The number of latencies that a part of all of them takes, rounded up, and at least one. -/
def rank (part : Binary64) (total : Nat) : Nat :=
  max 1 (part * Binary64.ofNat total).ceil

/-- The end of the first bin at which `wanted` latencies have been counted. -/
def endOfRank (wanted : Nat) : List (Nat × Nat) → Nat
  | [] => 0
  | (start, count) :: rest =>
    if wanted ≤ count then Latency.binEnd start else endOfRank (wanted - count) rest

/-- The latency that a part of all of them does not exceed. -/
def percentile (h : Histogram) (part : Binary64) : Nat :=
  endOfRank (rank part h.total) h.bins.entries

def share (total : Nat) (bin : Nat × Nat) : Binary64 :=
  Binary64.ofNat (Latency.binMiddle bin.1) * Binary64.ofNat bin.2 / Binary64.ofNat total

def mean (h : Histogram) : Binary64 :=
  h.bins.entries.foldl (fun sum bin => sum + share h.total bin) 0

end Histogram

namespace Latency

/-- What is reported of latencies. -/
structure Statistics where
  min : Nat
  p50 : Nat
  p95 : Nat
  p99 : Nat
  max : Nat
  mean : Binary64
  count : Nat
  deriving DecidableEq

namespace Statistics

def half : Binary64 := .ofRatio false 50 100

def ninetyFive : Binary64 := .ofRatio false 95 100

def ninetyNine : Binary64 := .ofRatio false 99 100

def none : Statistics := ⟨0, 0, 0, 0, 0, 0, 0⟩

def ofHistogram (h : Histogram) : Statistics :=
  if h.total = 0 then none
  else
    { min := h.reportedLeast
      p50 := h.percentile half
      p95 := h.percentile ninetyFive
      p99 := h.percentile ninetyNine
      max := h.reportedGreatest
      mean := h.mean
      count := h.total }

theorem ofHistogram_empty : ofHistogram .empty = none := rfl

theorem count_ofHistogram (h : Histogram) : (ofHistogram h).count = h.total := by
  unfold ofHistogram
  split
  · next h0 => rw [h0]; rfl
  · rfl

end Statistics

end Latency

end QuerySwarm
