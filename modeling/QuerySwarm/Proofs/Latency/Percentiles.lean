import Mathlib.Data.List.Sort
import QuerySwarm.Proofs.Latency.Bins
import QuerySwarm.Proofs.Latency.Rank

/-!
# Percentiles and the latencies in order

The statistics of latencies are found by walking over counted bins. Here they are compared with the
latencies themselves, in order: a histogram holds the bins of all latencies that were recorded
(`Histogram.spread_eq_map`), so that a walk up to a rank ends in the bin of the latency of that rank
(`Histogram.percentile_eq`), and the ends of a bin are not far from it. In this sense the statistics
describe the latencies (`Latency.Statistics.Describes`, `Histogram.describes_ofList`).
-/

namespace QuerySwarm

namespace Latency

/-! ### What statistics say -/

/-- The latencies in order. -/
def inOrder (values : List Nat) : List Nat := values.mergeSort

/-- The `k`-th least latency, counted from one. -/
def ranked? (values : List Nat) (k : Nat) : Option Nat := (inOrder values)[k - 1]?

/-- A number stands for a latency: it is not less, and more by a thousandth at most; a small latency
stands for itself. -/
structure StandsFor (reported value : Nat) : Prop where
  le : value ≤ reported
  near : reported ≤ value + value / 1024
  exact_of_small : value < 2048 → reported = value

/-- What is reported as a percentile stands for the latency of its rank. -/
def IsPercentile (values : List Nat) (part : Binary64) (reported : Nat) : Prop :=
  ∃ value, ranked? values (Histogram.rank part values.length) = some value ∧
    StandsFor reported value

namespace Statistics

/-- Statistics say how many latencies there are, between which bounds they lie and what their
percentiles are, all but the count up to a thousandth. -/
structure Describes (s : Statistics) (values : List Nat) : Prop where
  count : s.count = values.length
  p50 : IsPercentile values half s.p50
  p95 : IsPercentile values ninetyFive s.p95
  p99 : IsPercentile values ninetyNine s.p99
  least : ∃ value, ranked? values 1 = some value ∧ s.min ≤ value ∧ value ≤ s.min + value / 1024
  greatest : ∃ value, ranked? values values.length = some value ∧ value ≤ s.max ∧
    s.max ≤ value + value / 1024
  rising : s.min ≤ s.p50 ∧ s.p50 ≤ s.p95 ∧ s.p95 ≤ s.p99 ∧ s.p99 ≤ s.max

end Statistics

variable {values : List Nat}

theorem inOrder_perm (values : List Nat) : (inOrder values).Perm values :=
  List.mergeSort_perm _ _

theorem length_inOrder (values : List Nat) : (inOrder values).length = values.length :=
  (inOrder_perm values).length_eq

theorem pairwise_inOrder (values : List Nat) : (inOrder values).Pairwise (· ≤ ·) := by
  have h : (values.mergeSort fun a b => decide (a ≤ b)).Pairwise fun a b => decide (a ≤ b) = true :=
    List.pairwise_mergeSort (by intro a b c; simpa using Nat.le_trans)
      (by intro a b; simpa using Nat.le_total a b) values
  simp only [decide_eq_true_eq] at h
  exact h

/-- There is a latency of every rank. -/
theorem exists_ranked? {k : Nat} (hpos : 1 ≤ k) (hle : k ≤ values.length) :
    ∃ value, ranked? values k = some value := by
  have hlt : k - 1 < (inOrder values).length := by
    rw [length_inOrder]
    omega
  exact ⟨_, List.getElem?_eq_getElem hlt⟩

theorem mem_of_ranked? {k value : Nat} (h : ranked? values k = some value) : value ∈ values :=
  (inOrder_perm values).mem_iff.1 (List.mem_of_getElem? h)

theorem ranked?_mono {j k a b : Nat} (hjk : j ≤ k) (ha : ranked? values j = some a)
    (hb : ranked? values k = some b) : a ≤ b := by
  obtain ⟨hj, rfl⟩ := List.getElem?_eq_some_iff.1 ha
  obtain ⟨hk, rfl⟩ := List.getElem?_eq_some_iff.1 hb
  rcases Nat.lt_or_eq_of_le (Nat.sub_le_sub_right hjk 1) with hlt | heq
  · exact List.pairwise_iff_getElem.1 (pairwise_inOrder values) _ _ hj hk hlt
  · simp [heq]

theorem ranked?_one_le {least value : Nat} (h : ranked? values 1 = some least)
    (hmem : value ∈ values) : least ≤ value := by
  obtain ⟨i, hi⟩ := List.mem_iff_getElem?.1 ((inOrder_perm values).mem_iff.2 hmem)
  exact ranked?_mono (k := i + 1) (by omega) h hi

theorem le_ranked?_length {greatest value : Nat}
    (h : ranked? values values.length = some greatest) (hmem : value ∈ values) :
    value ≤ greatest := by
  obtain ⟨i, hi⟩ := List.mem_iff_getElem?.1 ((inOrder_perm values).mem_iff.2 hmem)
  have hlt := (List.getElem?_eq_some_iff.1 hi).1
  rw [length_inOrder] at hlt
  exact ranked?_mono (j := i + 1) (by omega) hi h

end Latency

namespace Histogram

open Latency

/-! ### The bins of all latencies -/

/-- The bin of every latency that was counted. -/
def spread (bins : List (Nat × Nat)) : List Nat :=
  bins.flatMap fun bin => List.replicate bin.2 bin.1

theorem spread_cons (bin : Nat × Nat) (rest : List (Nat × Nat)) :
    spread (bin :: rest) = List.replicate bin.2 bin.1 ++ spread rest := rfl

/-- A walk over the bins ends in the bin of the latency that is wanted. -/
theorem endOfRank_eq {wanted start : Nat} {bins : List (Nat × Nat)} (hpos : 0 < wanted)
    (h : (spread bins)[wanted - 1]? = some start) : endOfRank wanted bins = binEnd start := by
  induction bins generalizing wanted with
  | nil => cases h
  | cons bin rest ih =>
    obtain ⟨first, count⟩ := bin
    rw [spread_cons] at h
    unfold endOfRank
    split
    · next hle =>
      rw [List.getElem?_append_left (by simp; omega), List.getElem?_replicate] at h
      split at h
      · cases h
        rfl
      · omega
    · next hgt =>
      rw [List.getElem?_append_right (by simp; omega), List.length_replicate] at h
      refine ih (by omega) ?_
      rw [← h]
      congr 1
      omega

/-- Recording a latency adds its bin. -/
theorem spread_updateEntries (start : Nat) (bins : List (Nat × Nat)) :
    (spread (SortedMap.updateEntries start (fun n => n.getD 0 + 1) bins)).Perm
      (start :: spread bins) := by
  induction bins with
  | nil => exact List.Perm.refl _
  | cons bin rest ih =>
    obtain ⟨first, count⟩ := bin
    unfold SortedMap.updateEntries
    split
    · exact List.Perm.refl _
    · split
      · next heq =>
        subst heq
        exact List.Perm.refl _
      · rw [spread_cons, spread_cons]
        exact (ih.append_left _).trans List.perm_middle

theorem spread_foldl_record (values : List Nat) (h : Histogram) :
    (spread (values.foldl record h).bins.entries).Perm
      (values.map binStart ++ spread h.bins.entries) := by
  induction values generalizing h with
  | nil => exact List.Perm.refl _
  | cons v rest ih =>
    have hstep : (spread (h.record v).bins.entries).Perm (binStart v :: spread h.bins.entries) :=
      spread_updateEntries (binStart v) h.bins.entries
    exact (ih (h.record v)).trans ((hstep.append_left _).trans List.perm_middle)

/-- The bins of a histogram are in order, and so is what is spread out of them. -/
theorem pairwise_spread {bins : List (Nat × Nat)} (h : (keysOf bins).Pairwise (· < ·)) :
    (spread bins).Pairwise (· ≤ ·) := by
  induction bins with
  | nil => exact List.Pairwise.nil
  | cons bin rest ih =>
    obtain ⟨first, count⟩ := bin
    have hrest := List.pairwise_cons.1 h
    rw [spread_cons, List.pairwise_append]
    refine ⟨?_, ih hrest.2, ?_⟩
    · rw [List.pairwise_replicate]
      exact .inr (Nat.le_refl _)
    · intro a ha b hb
      obtain ⟨bin, hbin, hmem⟩ := List.mem_flatMap.1 hb
      rw [(List.mem_replicate.1 ha).2, (List.mem_replicate.1 hmem).2]
      exact Nat.le_of_lt (hrest.1 bin.1 (List.mem_map_of_mem hbin))

/-- A histogram holds the bins of the latencies that were recorded, in their order. -/
theorem spread_eq_map (values : List Nat) :
    spread (ofList values).bins.entries = (inOrder values).map binStart := by
  apply List.Perm.eq_of_pairwise (fun _ _ _ _ => Nat.le_antisymm)
    (pairwise_spread (ofList values).bins.sorted)
  · exact List.Pairwise.map binStart (fun _ _ => binStart_mono) (pairwise_inOrder values)
  · have hperm := spread_foldl_record values empty
    have hnone : spread (empty : Histogram).bins.entries = [] := rfl
    rw [hnone, List.append_nil] at hperm
    exact hperm.trans ((inOrder_perm values).map binStart).symm

/-! ### What is read off -/

theorem total_foldl_record (values : List Nat) (h : Histogram) :
    (values.foldl record h).total = h.total + values.length := by
  induction values generalizing h with
  | nil => rfl
  | cons v rest ih =>
    rw [List.foldl_cons, ih, total_record, List.length_cons]
    omega

theorem total_ofList (values : List Nat) : (ofList values).total = values.length := by
  rw [ofList, total_foldl_record]
  exact Nat.zero_add _

theorem least_foldl_record (values : List Nat) (h : Histogram) :
    (values.foldl record h).least ≤ h.least ∧
      (∀ v ∈ values, (values.foldl record h).least ≤ v) ∧
      ((values.foldl record h).least = h.least ∨ (values.foldl record h).least ∈ values) := by
  induction values generalizing h with
  | nil => simp
  | cons v rest ih =>
    have hleast : (h.record v).least = min h.least v := rfl
    have ih := ih (h.record v)
    rw [List.foldl_cons]
    grind

theorem greatest_foldl_record (values : List Nat) (h : Histogram) :
    h.greatest ≤ (values.foldl record h).greatest ∧
      (∀ v ∈ values, v ≤ (values.foldl record h).greatest) ∧
      ((values.foldl record h).greatest = h.greatest ∨
        (values.foldl record h).greatest ∈ values) := by
  induction values generalizing h with
  | nil => simp
  | cons v rest ih =>
    have hgreatest : (h.record v).greatest = max h.greatest v := rfl
    have ih := ih (h.record v)
    rw [List.foldl_cons]
    grind

section Reports

variable {values : List Nat} {value : Nat}

/-- A percentile is the end of the bin of the latency of its rank. -/
theorem percentile_eq {part : Binary64}
    (h : ranked? values (rank part values.length) = some value) :
    (ofList values).percentile part = binEnd value := by
  have hplace : (spread (ofList values).bins.entries)[rank part values.length - 1]? =
      some (binStart value) := by
    rw [spread_eq_map, List.getElem?_map]
    rw [ranked?] at h
    rw [h]
    rfl
  unfold percentile
  rw [total_ofList, endOfRank_eq (one_le_rank _ _) hplace, binEnd_binStart]

/-- The least latency of a histogram is the least that was recorded, if none is out of range. -/
theorem least_ofList (hrange : ∀ v ∈ values, v ≤ Latency.greatest)
    (h : ranked? values 1 = some value) : (ofList values).least = value := by
  obtain ⟨-, hle, hfrom⟩ := least_foldl_record values empty
  have hmem := mem_of_ranked? h
  refine Nat.le_antisymm (hle value hmem) ?_
  rcases hfrom with hnone | hleast
  · show value ≤ (values.foldl record empty).least
    rw [hnone]
    exact hrange value hmem
  · exact ranked?_one_le h hleast

theorem greatest_ofList (h : ranked? values values.length = some value) :
    (ofList values).greatest = value := by
  obtain ⟨-, hle, hfrom⟩ := greatest_foldl_record values empty
  refine Nat.le_antisymm ?_ (hle value (mem_of_ranked? h))
  rcases hfrom with hnone | hgreatest
  · show (values.foldl record empty).greatest ≤ value
    rw [hnone]
    exact Nat.zero_le value
  · exact le_ranked?_length h hgreatest

theorem total_ofList_ne_zero (hne : values ≠ []) : (ofList values).total ≠ 0 := by
  rw [total_ofList]
  exact (List.length_pos_iff.2 hne).ne'

variable (hne : values ≠ []) (hrange : ∀ v ∈ values, v < Latency.greatest)
include hne hrange

theorem reportedLeast_eq (h : ranked? values 1 = some value) :
    (ofList values).reportedLeast = binStart value := by
  have hlt := hrange value (mem_of_ranked? h)
  rw [reportedLeast, if_neg (total_ofList_ne_zero hne),
    least_ofList (fun v hv => Nat.le_of_lt (hrange v hv)) h, if_neg (Nat.ne_of_lt hlt)]

theorem reportedGreatest_eq (h : ranked? values values.length = some value) :
    (ofList values).reportedGreatest = binEnd value := by
  have hlt := hrange value (mem_of_ranked? h)
  rw [reportedGreatest, if_neg (total_ofList_ne_zero hne), greatest_ofList h,
    if_neg (Nat.ne_of_lt hlt)]

end Reports

end Histogram

namespace Latency

/-- The end of a bin stands for any latency in it. -/
theorem standsFor_binEnd {value : Nat} (h : value < greatest) : StandsFor (binEnd value) value where
  le := le_binEnd h
  near := binEnd_le value
  exact_of_small := binEnd_of_lt

/-! ### The three parts -/

namespace Statistics

open Binary64

/-- A part that has a rank among any number of latencies. -/
def IsRankable (p : Nat) : Prop :=
  unitsPerOne ≤ 2 * p ∧ p * (2 ^ 52 + 1) ^ 2 ≤ unitsPerOne * 2 ^ 104

theorem percent_eq {a : Nat} (h : Representable (percentUnits a)) :
    percent a = .finite false (percentUnits a) h := by
  simp only [percent, ofRatio, Binary64.round, ofUnits]
  exact dif_pos h

theorem half_eq : ∃ h, half = .finite false (percentUnits 50) h :=
  ⟨by decide +kernel, percent_eq _⟩

theorem ninetyFive_eq : ∃ h, ninetyFive = .finite false (percentUnits 95) h :=
  ⟨by decide +kernel, percent_eq _⟩

theorem ninetyNine_eq : ∃ h, ninetyNine = .finite false (percentUnits 99) h :=
  ⟨by decide +kernel, percent_eq _⟩

theorem isRankable_percentUnits :
    IsRankable (percentUnits 50) ∧ IsRankable (percentUnits 95) ∧ IsRankable (percentUnits 99) := by
  unfold IsRankable
  decide +kernel

theorem percentUnits_le : percentUnits 50 ≤ percentUnits 95 ∧ percentUnits 95 ≤ percentUnits 99 ∧
    percentUnits 99 ≤ unitsPerOne := by
  decide +kernel

theorem isPercentile_of_isRankable {values : List Nat} (hne : values ≠ [])
    (hrange : ∀ v ∈ values, v < greatest) {p : Nat} (hp : Representable p) (h : IsRankable p) :
    ∃ value, ranked? values (Histogram.rank (.finite false p hp) values.length) = some value ∧
      (Histogram.ofList values).percentile (.finite false p hp) = binEnd value ∧
      StandsFor (binEnd value) value := by
  have hpos : 0 < values.length := List.length_pos_iff.2 hne
  obtain ⟨value, hvalue⟩ : ∃ value,
      ranked? values (Histogram.rank (.finite false p hp) values.length) = some value :=
    exists_ranked? (Histogram.one_le_rank _ _) (Histogram.rank_le h.1 h.2 hpos)
  exact ⟨value, hvalue, Histogram.percentile_eq hvalue,
    standsFor_binEnd (hrange value (mem_of_ranked? hvalue))⟩

/-- The statistics of a histogram describe the latencies that were recorded in it. -/
theorem describes_ofList {values : List Nat} (hne : values ≠ [])
    (hrange : ∀ v ∈ values, v < greatest) :
    Describes (ofHistogram (.ofList values)) values := by
  have hpos : 0 < values.length := List.length_pos_iff.2 hne
  obtain ⟨hhalf, heq50⟩ := half_eq
  obtain ⟨h95, heq95⟩ := ninetyFive_eq
  obtain ⟨h99, heq99⟩ := ninetyNine_eq
  obtain ⟨rankable50, rankable95, rankable99⟩ := isRankable_percentUnits
  obtain ⟨hle95, hle99, hlewhole⟩ := percentUnits_le
  obtain ⟨v50, hv50, hp50, stands50⟩ := isPercentile_of_isRankable hne hrange hhalf rankable50
  obtain ⟨v95, hv95, hp95, stands95⟩ := isPercentile_of_isRankable hne hrange h95 rankable95
  obtain ⟨v99, hv99, hp99, stands99⟩ := isPercentile_of_isRankable hne hrange h99 rankable99
  obtain ⟨least, hleast⟩ : ∃ least, ranked? values 1 = some least :=
    exists_ranked? (Nat.le_refl 1) hpos
  obtain ⟨last, hlast⟩ : ∃ last, ranked? values values.length = some last :=
    exists_ranked? hpos (Nat.le_refl _)
  have hlastRange := hrange last (mem_of_ranked? hlast)
  have htotal := Histogram.total_ofList_ne_zero hne
  rw [← heq50] at hv50 hp50
  rw [← heq95] at hv95 hp95
  rw [← heq99] at hv99 hp99
  have hstatistics : ofHistogram (.ofList values) =
      ⟨binStart least, binEnd v50, binEnd v95, binEnd v99, binEnd last,
        (Histogram.ofList values).mean, values.length⟩ := by
    rw [ofHistogram, if_neg htotal, Histogram.reportedLeast_eq hne hrange hleast,
      Histogram.reportedGreatest_eq hne hrange hlast, hp50, hp95, hp99, Histogram.total_ofList]
  rw [hstatistics]
  -- the latencies of greater ranks are not less
  have hfirst : least ≤ v50 := ranked?_one_le hleast (mem_of_ranked? hv50)
  have hmiddle : v50 ≤ v95 := by
    rw [heq50] at hv50
    rw [heq95] at hv95
    exact ranked?_mono (Histogram.rank_mono hle95 (Nat.le_trans hle99 hlewhole)) hv50 hv95
  have hupper : v95 ≤ v99 := by
    rw [heq95] at hv95
    rw [heq99] at hv99
    exact ranked?_mono (Histogram.rank_mono hle99 hlewhole) hv95 hv99
  have hend : v99 ≤ last := le_ranked?_length hlast (mem_of_ranked? hv99)
  constructor
  case count => rfl
  case p50 => exact ⟨v50, hv50, stands50⟩
  case p95 => exact ⟨v95, hv95, stands95⟩
  case p99 => exact ⟨v99, hv99, stands99⟩
  case least => exact ⟨least, hleast, binStart_le least, le_binStart_add least⟩
  case greatest => exact ⟨last, hlast, le_binEnd hlastRange, binEnd_le last⟩
  case rising =>
    refine ⟨?_, binEnd_mono hmiddle, binEnd_mono hupper, binEnd_mono hend⟩
    exact Nat.le_trans (Nat.le_trans (binStart_le least) hfirst) stands50.le

/-- The ranks of the three percentiles are exact as long as there are not too many latencies. -/
theorem rank_eq_exactRank {n : Nat} (hn : 0 < n) (hfew : n < 2 ^ 44) :
    Histogram.rank half n = Histogram.exactRank 50 n ∧
      Histogram.rank ninetyFive n = Histogram.exactRank 95 n ∧
      Histogram.rank ninetyNine n = Histogram.exactRank 99 n := by
  obtain ⟨hhalf, heq50⟩ := half_eq
  obtain ⟨h95, heq95⟩ := ninetyFive_eq
  obtain ⟨h99, heq99⟩ := ninetyNine_eq
  rw [heq50, heq95, heq99]
  refine ⟨?_, ?_, ?_⟩
  all_goals
    apply Histogram.rank_percent _ _ _ (by decide) (by decide) hn hfew
    all_goals decide +kernel

end Statistics

end Latency

end QuerySwarm
