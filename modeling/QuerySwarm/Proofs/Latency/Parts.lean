import Mathlib.Algebra.BigOperators.Ring.List
import Mathlib.Algebra.Order.BigOperators.Group.List
import QuerySwarm.Proofs.Latency.Percentiles

/-!
# Latencies in parts

Where latencies are divided into parts, the statistics of the parts say where those of all must lie.
The least and the greatest are those of a part. A percentile need not be one of a part, but it lies
between two of them: the latency of a rank is known by how many latencies there are up to it
(`ranked?_iff_countP`), these add up over the parts, and an average has something on each side.

* `Parts.exists_ranked?_le`, `Parts.exists_le_ranked?`: the latencies of a rank.
* `Statistics.Joins`, `Parts.joins`: what the statistics of parts say of those of all.
-/

namespace QuerySwarm

namespace Histogram

theorem exactRank_le_iff {a n c : Nat} (h : 0 < a * n) : exactRank a n ≤ c ↔ a * n ≤ 100 * c := by
  unfold exactRank
  omega

theorem exactRank_le {a n : Nat} (hpart : a ≤ 100) (hn : 0 < n) : exactRank a n ≤ n := by
  have hle : a * n ≤ 100 * n := Nat.mul_le_mul_right n hpart
  unfold exactRank
  omega

theorem one_le_exactRank (a n : Nat) : 1 ≤ exactRank a n := Nat.le_max_left _ _

end Histogram

namespace Latency

open Histogram

variable {values : List Nat} {k a value bound : Nat}

/-! ### Ranks as counts -/

/-- The latencies in order, around the one of a rank. -/
theorem inOrder_split (h : ranked? values k = some value) :
    ∃ before after, inOrder values = before ++ value :: after ∧ before.length = k - 1 := by
  obtain ⟨hlt, rfl⟩ := List.getElem?_eq_some_iff.1 h
  refine ⟨(inOrder values).take (k - 1), (inOrder values).drop (k - 1 + 1), ?_, ?_⟩
  · rw [List.getElem_cons_drop, List.take_append_drop]
  · rw [List.length_take, Nat.min_eq_left (Nat.le_of_lt hlt)]

/-- Where what is said of a latency is also true of the lesser ones, it is true of the latency of a
rank exactly if it is of as many. -/
theorem ranked?_iff_countP {p : Nat → Bool} (down : ∀ v w, v ≤ w → p w = true → p v = true)
    (hpos : 1 ≤ k) (h : ranked? values k = some value) :
    p value = true ↔ k ≤ values.countP p := by
  obtain ⟨before, after, hsplit, hlength⟩ := inOrder_split h
  have hcount : values.countP p =
      before.countP p + (after.countP p + if p value then 1 else 0) := by
    rw [← (inOrder_perm values).countP_eq, hsplit, List.countP_append, List.countP_cons]
  have hordered := pairwise_inOrder values
  rw [hsplit, List.pairwise_append, List.pairwise_cons] at hordered
  obtain ⟨-, ⟨hafter, -⟩, hbefore⟩ := hordered
  cases hp : p value with
  | true =>
    have hall : before.countP p = before.length :=
      List.countP_eq_length.2 fun v hv => down v value (hbefore v hv value List.mem_cons_self) hp
    rw [hp, if_pos rfl] at hcount
    simp only [true_iff]
    omega
  | false =>
    have hnone : after.countP p = 0 := by
      refine List.countP_eq_zero.2 fun w hw hpw => ?_
      rw [down value w (hafter w hw) hpw] at hp
      cases hp
    have hle := List.countP_le_length (p := p) (l := before)
    rw [hp, if_neg Bool.false_ne_true] at hcount
    simp only [Bool.false_eq_true, false_iff]
    omega

section Percent

variable (ha : 0 < a) (h : ranked? values (exactRank a values.length) = some value)
include ha h

theorem length_pos_of_ranked? : 0 < a * values.length :=
  Nat.mul_pos ha (List.length_pos_of_mem (mem_of_ranked? h))

/-- A percentile is not greater than a bound exactly if enough latencies are not. -/
theorem ranked?_le_iff : value ≤ bound ↔ a * values.length ≤ 100 * values.countP (· ≤ bound) := by
  rw [← exactRank_le_iff (length_pos_of_ranked? ha h), ← ranked?_iff_countP _ (one_le_exactRank _ _) h,
    decide_eq_true_iff]
  intro v w hvw hw
  exact decide_eq_true (Nat.le_trans hvw (of_decide_eq_true hw))

/-- A percentile is less than a bound exactly if enough latencies are. -/
theorem ranked?_lt_iff : value < bound ↔ a * values.length ≤ 100 * values.countP (· < bound) := by
  rw [← exactRank_le_iff (length_pos_of_ranked? ha h), ← ranked?_iff_countP _ (one_le_exactRank _ _) h,
    decide_eq_true_iff]
  intro v w hvw hw
  exact decide_eq_true (Nat.lt_of_le_of_lt hvw (of_decide_eq_true hw))

end Percent

/-! ### Parts -/

/-- Latencies that are divided into parts, none of them without latencies. -/
structure Parts (values : List Nat) (parts : List (List Nat)) : Prop where
  perm : parts.flatten.Perm values
  nonempty : ∀ part ∈ parts, part ≠ []

namespace Parts

variable {parts : List (List Nat)} (divided : Parts values parts)
include divided

theorem length_eq : values.length = (parts.map List.length).sum := by
  rw [← divided.perm.length_eq, List.length_flatten]

theorem countP_eq (p : Nat → Bool) : values.countP p = (parts.map (List.countP p)).sum := by
  rw [← divided.perm.countP_eq, List.countP_flatten]

theorem mem_of_mem {part : List Nat} (hpart : part ∈ parts) {v : Nat} (hv : v ∈ part) : v ∈ values :=
  divided.perm.mem_iff.1 (List.mem_flatten_of_mem hpart hv)

theorem ne_nil (hne : values ≠ []) : parts ≠ [] := by
  rintro rfl
  exact hne divided.perm.nil_eq.symm

/-- In a part the percentile is not greater. -/
theorem exists_ranked?_le (ha : 0 < a) (hpart : a ≤ 100)
    (h : ranked? values (exactRank a values.length) = some value) :
    ∃ part ∈ parts, ∃ w, ranked? part (exactRank a part.length) = some w ∧ w ≤ value := by
  have hsum : (parts.map fun part => a * part.length).sum ≤
      (parts.map fun part => 100 * part.countP (· ≤ value)).sum := by
    rw [List.sum_map_mul_left, List.sum_map_mul_left]
    have hall := (ranked?_le_iff ha h).1 (Nat.le_refl value)
    rwa [divided.length_eq, divided.countP_eq] at hall
  have hne := divided.ne_nil (List.ne_nil_of_mem (mem_of_ranked? h))
  obtain ⟨part, hmem, hle⟩ := List.exists_le_of_sum_le hne _ _ hsum
  have hlength := List.length_pos_iff.2 (divided.nonempty part hmem)
  obtain ⟨w, hw⟩ := exists_ranked? (one_le_exactRank a _) (exactRank_le hpart hlength)
  exact ⟨part, hmem, w, hw, (ranked?_le_iff ha hw).2 hle⟩

/-- In a part the percentile is not less. -/
theorem exists_le_ranked? (ha : 0 < a) (hpart : a ≤ 100)
    (h : ranked? values (exactRank a values.length) = some value) :
    ∃ part ∈ parts, ∃ w, ranked? part (exactRank a part.length) = some w ∧ value ≤ w := by
  have hsum : (parts.map fun part => 100 * part.countP (· < value)).sum <
      (parts.map fun part => a * part.length).sum := by
    rw [List.sum_map_mul_left, List.sum_map_mul_left]
    have hall := mt (ranked?_lt_iff ha h).2 (Nat.lt_irrefl value)
    rwa [divided.length_eq, divided.countP_eq, Nat.not_le] at hall
  obtain ⟨part, hmem, hlt⟩ := List.exists_lt_of_sum_lt _ _ hsum
  have hlength := List.length_pos_iff.2 (divided.nonempty part hmem)
  obtain ⟨w, hw⟩ := exists_ranked? (one_le_exactRank a _) (exactRank_le hpart hlength)
  refine ⟨part, hmem, w, hw, Nat.not_lt.1 fun hless => ?_⟩
  exact Nat.not_le_of_lt hlt ((ranked?_lt_iff ha hw).1 hless)

/-- The least latency is the least of a part, and no part has a lesser one. -/
theorem least (h : ranked? values 1 = some value) :
    (∃ part ∈ parts, ranked? part 1 = some value) ∧
      ∀ part ∈ parts, ∀ w, ranked? part 1 = some w → value ≤ w := by
  have hle : ∀ part ∈ parts, ∀ w, ranked? part 1 = some w → value ≤ w := fun part hpart w hw =>
    ranked?_one_le h (divided.mem_of_mem hpart (mem_of_ranked? hw))
  refine ⟨?_, hle⟩
  obtain ⟨part, hpart, hmem⟩ := List.mem_flatten.1 (divided.perm.mem_iff.2 (mem_of_ranked? h))
  obtain ⟨w, hw⟩ := exists_ranked? (Nat.le_refl 1) (List.length_pos_of_mem hmem)
  refine ⟨part, hpart, ?_⟩
  rw [hw, Nat.le_antisymm (ranked?_one_le hw hmem) (hle part hpart w hw)]

/-- The greatest latency is the greatest of a part, and no part has a greater one. -/
theorem greatest (h : ranked? values values.length = some value) :
    (∃ part ∈ parts, ranked? part part.length = some value) ∧
      ∀ part ∈ parts, ∀ w, ranked? part part.length = some w → w ≤ value := by
  have hle : ∀ part ∈ parts, ∀ w, ranked? part part.length = some w → w ≤ value :=
    fun part hpart w hw => le_ranked?_length h (divided.mem_of_mem hpart (mem_of_ranked? hw))
  refine ⟨?_, hle⟩
  obtain ⟨part, hpart, hmem⟩ := List.mem_flatten.1 (divided.perm.mem_iff.2 (mem_of_ranked? h))
  obtain ⟨w, hw⟩ := exists_ranked? (List.length_pos_of_mem hmem) (Nat.le_refl part.length)
  refine ⟨part, hpart, ?_⟩
  rw [hw, Nat.le_antisymm (hle part hpart w hw) (le_ranked?_length hw hmem)]

end Parts

/-! ### What is reported -/

/-- The start of a bin, as it is reported: the very greatest value stands for itself. -/
def reportedStart (v : Nat) : Nat := if v = Latency.greatest then v else binStart v

/-- The end of a bin, as it is reported. -/
def reportedEnd (v : Nat) : Nat := if v = Latency.greatest then v else binEnd v

theorem reportedStart_mono {v w : Nat} (h : v ≤ w) (hrange : w ≤ Latency.greatest) :
    reportedStart v ≤ reportedStart w := by
  unfold reportedStart
  split
  · next hv => rw [if_pos (Nat.le_antisymm hrange (hv ▸ h))]; exact h
  · split
    · exact Nat.le_trans (binStart_le v) h
    · exact binStart_mono h

theorem reportedEnd_mono {v w : Nat} (h : v ≤ w) (hrange : w ≤ Latency.greatest) :
    reportedEnd v ≤ reportedEnd w := by
  unfold reportedEnd
  split
  · next hv => rw [if_pos (Nat.le_antisymm hrange (hv ▸ h))]; exact h
  · split
    · next hw =>
      show min Latency.greatest _ - 1 ≤ w
      omega
    · exact binEnd_mono h

namespace Statistics

/-- The percentiles that are reported, each with its hundredths. -/
def percentiles : List (Nat × (Statistics → Nat)) := [(50, p50), (95, p95), (99, p99)]

section OfList

variable (hne : values ≠ [])
include hne

theorem min_ofList (hrange : ∀ v ∈ values, v ≤ Latency.greatest)
    (h : ranked? values 1 = some value) :
    (ofHistogram (.ofList values)).min = reportedStart value := by
  rw [ofHistogram, if_neg (total_ofList_ne_zero hne)]
  show (ofList values).reportedLeast = reportedStart value
  rw [reportedLeast, if_neg (total_ofList_ne_zero hne), least_ofList hrange h]
  rfl

theorem max_ofList (h : ranked? values values.length = some value) :
    (ofHistogram (.ofList values)).max = reportedEnd value := by
  rw [ofHistogram, if_neg (total_ofList_ne_zero hne)]
  show (ofList values).reportedGreatest = reportedEnd value
  rw [reportedGreatest, if_neg (total_ofList_ne_zero hne), greatest_ofList h]
  rfl

/-- A percentile is the end of the bin of the latency of its exact rank. -/
theorem percentile_ofList (hfew : values.length < 2 ^ 44) {q : Nat × (Statistics → Nat)}
    (hq : q ∈ percentiles) (h : ranked? values (exactRank q.1 values.length) = some value) :
    q.2 (ofHistogram (.ofList values)) = binEnd value := by
  obtain ⟨hhalf, h95, h99⟩ := rank_eq_exactRank (List.length_pos_iff.2 hne) hfew
  rw [ofHistogram, if_neg (total_ofList_ne_zero hne)]
  simp only [percentiles, List.mem_cons, List.not_mem_nil, or_false] at hq
  rcases hq with rfl | rfl | rfl
  · exact percentile_eq (hhalf ▸ h)
  · exact percentile_eq (h95 ▸ h)
  · exact percentile_eq (h99 ▸ h)

end OfList

/-- Statistics that agree with those of parts: the counts add up, the least is the least of the
parts, the greatest their greatest, and no percentile is beyond those of all the parts. -/
structure Joins (s : Statistics) (parts : List Statistics) : Prop where
  count : s.count = (parts.map Statistics.count).sum
  least : (∃ part ∈ parts, part.min = s.min) ∧ ∀ part ∈ parts, s.min ≤ part.min
  greatest : (∃ part ∈ parts, part.max = s.max) ∧ ∀ part ∈ parts, part.max ≤ s.max
  p50 : (∃ part ∈ parts, part.p50 ≤ s.p50) ∧ ∃ part ∈ parts, s.p50 ≤ part.p50
  p95 : (∃ part ∈ parts, part.p95 ≤ s.p95) ∧ ∃ part ∈ parts, s.p95 ≤ part.p95
  p99 : (∃ part ∈ parts, part.p99 ≤ s.p99) ∧ ∃ part ∈ parts, s.p99 ≤ part.p99

end Statistics

namespace Parts

open Statistics

variable {parts : List (List Nat)} (divided : Parts values parts) (hne : values ≠ [])
  (hfew : values.length < 2 ^ 44)
include divided hne hfew

/-- A percentile of all latencies lies between those of two parts. -/
theorem percentile_between {q : Nat × (Statistics → Nat)} (hq : q ∈ percentiles) :
    (∃ part ∈ parts, q.2 (ofHistogram (.ofList part)) ≤ q.2 (ofHistogram (.ofList values))) ∧
      ∃ part ∈ parts, q.2 (ofHistogram (.ofList values)) ≤ q.2 (ofHistogram (.ofList part)) := by
  have hpart : 0 < q.1 ∧ q.1 ≤ 100 := by
    simp only [percentiles, List.mem_cons, List.not_mem_nil, or_false] at hq
    rcases hq with rfl | rfl | rfl <;> decide
  have hfewer : ∀ part ∈ parts, part.length < 2 ^ 44 := by
    intro part hmem
    refine Nat.lt_of_le_of_lt ?_ hfew
    rw [divided.length_eq]
    exact List.le_sum_of_mem (List.mem_map_of_mem hmem)
  obtain ⟨value, hvalue⟩ := exists_ranked? (one_le_exactRank q.1 _)
    (exactRank_le hpart.2 (List.length_pos_iff.2 hne))
  rw [percentile_ofList hne hfew hq hvalue]
  constructor
  · obtain ⟨part, hmem, w, hw, hle⟩ := divided.exists_ranked?_le hpart.1 hpart.2 hvalue
    refine ⟨part, hmem, ?_⟩
    rw [percentile_ofList (divided.nonempty part hmem) (hfewer part hmem) hq hw]
    exact binEnd_mono hle
  · obtain ⟨part, hmem, w, hw, hle⟩ := divided.exists_le_ranked? hpart.1 hpart.2 hvalue
    refine ⟨part, hmem, ?_⟩
    rw [percentile_ofList (divided.nonempty part hmem) (hfewer part hmem) hq hw]
    exact binEnd_mono hle

/-- The statistics of all latencies agree with those of their parts. -/
theorem joins (hrange : ∀ v ∈ values, v ≤ Latency.greatest) :
    Joins (ofHistogram (.ofList values)) (parts.map fun part => ofHistogram (.ofList part)) := by
  have hpos := List.length_pos_iff.2 hne
  have hinside : ∀ part ∈ parts, ∀ v ∈ part, v ≤ Latency.greatest := fun part hpart v hv =>
    hrange v (divided.mem_of_mem hpart hv)
  obtain ⟨least, hleast⟩ := exists_ranked? (Nat.le_refl 1) hpos
  obtain ⟨last, hlast⟩ := exists_ranked? hpos (Nat.le_refl values.length)
  constructor
  case count =>
    rw [count_ofHistogram, total_ofList, divided.length_eq, List.map_map]
    congr 1
    refine List.map_congr_left fun part _ => ?_
    show part.length = (ofHistogram (.ofList part)).count
    rw [count_ofHistogram, total_ofList]
  case least =>
    obtain ⟨⟨part, hpart, hfirst⟩, hle⟩ := divided.least hleast
    rw [min_ofList hne hrange hleast, List.forall_mem_map]
    simp only [List.mem_map, exists_exists_and_eq_and]
    refine ⟨⟨part, hpart, ?_⟩, fun part hpart => ?_⟩
    · rw [min_ofList (divided.nonempty part hpart) (hinside part hpart) hfirst]
    · have hlength := List.length_pos_iff.2 (divided.nonempty part hpart)
      obtain ⟨w, hw⟩ := exists_ranked? (Nat.le_refl 1) hlength
      rw [min_ofList (divided.nonempty part hpart) (hinside part hpart) hw]
      exact reportedStart_mono (hle part hpart w hw) (hinside part hpart w (mem_of_ranked? hw))
  case greatest =>
    obtain ⟨⟨part, hpart, hfinal⟩, hle⟩ := divided.greatest hlast
    rw [max_ofList hne hlast, List.forall_mem_map]
    simp only [List.mem_map, exists_exists_and_eq_and]
    refine ⟨⟨part, hpart, ?_⟩, fun part hpart => ?_⟩
    · rw [max_ofList (divided.nonempty part hpart) hfinal]
    · have hlength := List.length_pos_iff.2 (divided.nonempty part hpart)
      obtain ⟨w, hw⟩ := exists_ranked? hlength (Nat.le_refl part.length)
      rw [max_ofList (divided.nonempty part hpart) hw]
      exact reportedEnd_mono (hle part hpart w hw) (hrange last (mem_of_ranked? hlast))
  all_goals simp only [List.mem_map, exists_exists_and_eq_and]
  case p50 => exact divided.percentile_between hne hfew (q := (50, p50)) (by simp [percentiles])
  case p95 => exact divided.percentile_between hne hfew (q := (95, p95)) (by simp [percentiles])
  case p99 => exact divided.percentile_between hne hfew (q := (99, p99)) (by simp [percentiles])

end Parts

end Latency

end QuerySwarm
