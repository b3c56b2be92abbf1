import Mathlib.Data.List.Induction
import Mathlib.Data.Set.Card
import Mathlib.Order.Interval.Finset.Nat
import QuerySwarm.Task.Catalog

/-!
# Even choices

A word of 64 bits is multiplied by the number of things to choose from; the high half of the product
is the choice, and the word is passed over if the low half is beyond a zone. The words that stand
for one choice are those whose product lies in a window, and all windows are equally wide: as wide
as the number of things is when it has been doubled until it fills 64 bits.

* `WordSource.choice?_eq_some_iff`: the window of a choice, in products.
* `WordSource.card_wordsFor`: how many words stand for a choice.
* `WordSource.exists_belowFrom`: a choice passes over the words that do not count, and takes one
  more.
* `TaskSet.evenly_chosen`: what follows for the tasks of a set.
-/

namespace QuerySwarm

namespace WordSource

/-! ### Windows -/

/-- How many of the 64 bits of a number are zeros at its head. -/
def leadingZeros (n : Nat) : Nat := (BitVec.ofNat 64 n).clz.toNat

/-- The first word whose product with `n` reaches the window of a choice. -/
def firstWord (n i : Nat) : Nat := (i * wordCount + (n - 1)) / n

/-- The words that stand for a choice. -/
def wordsFor (n i : Nat) : Finset UInt64 :=
  (Finset.Ico (firstWord n i) (firstWord n i + 2 ^ leadingZeros n)).image UInt64.ofNat

section Windows

variable {n : Nat} (hpos : 0 < n) (hlt : n < wordCount)
include hpos

theorem firstWord_le_iff {i v : Nat} : firstWord n i ≤ v ↔ i * wordCount ≤ v * n := by
  rw [firstWord, Nat.div_le_iff_le_mul_add_pred hpos, Nat.mul_comm v n]
  exact Nat.add_le_add_iff_right

/-- The last word of a window is as far from the first one as the last of its products allows. -/
theorem lt_firstWord_add_iff {i v : Nat} :
    v < firstWord n i + 2 ^ leadingZeros n ↔
      v * n < i * wordCount + n * 2 ^ leadingZeros n := by
  by_cases hv : v < 2 ^ leadingZeros n
  · have hproduct : v * n < 2 ^ leadingZeros n * n := Nat.mul_lt_mul_of_pos_right hv hpos
    rw [Nat.mul_comm n]
    exact iff_of_true (Nat.lt_add_left _ hv) (Nat.lt_add_left _ hproduct)
  · obtain ⟨u, rfl⟩ := Nat.exists_eq_add_of_le' (Nat.le_of_not_lt hv)
    have hu := firstWord_le_iff hpos (i := i) (v := u)
    rw [Nat.add_mul, Nat.mul_comm n, Nat.add_lt_add_iff_right, Nat.add_lt_add_iff_right]
    omega

include hlt

theorem leadingZeros_eq : leadingZeros n = 63 - n.log2 := by
  have htoNat : (BitVec.ofNat 64 n).toNat = n := by
    rw [BitVec.toNat_ofNat]
    exact Nat.mod_eq_of_lt hlt
  have hne : BitVec.ofNat 64 n ≠ 0#64 := by
    intro h
    rw [h] at htoNat
    exact Nat.ne_of_lt hpos htoNat
  have hlower := BitVec.two_pow_sub_clz_le_toNat_of_ne_zero (by decide) hne
  have hupper := BitVec.toNat_lt_two_pow_sub_clz (x := BitVec.ofNat 64 n)
  rw [htoNat] at hlower hupper
  have hle : leadingZeros n ≤ 63 := by
    by_contra hgt
    have hzero : 64 - (BitVec.ofNat 64 n).clz.toNat = 0 := by
      unfold leadingZeros at hgt
      omega
    rw [hzero] at hupper
    omega
  have hlog : n.log2 = 63 - leadingZeros n := by
    rw [Nat.log2_eq_iff (Nat.ne_of_gt hpos)]
    refine ⟨hlower, ?_⟩
    have hexp : 63 - leadingZeros n + 1 = 64 - leadingZeros n := by omega
    rw [hexp]
    exact hupper
  omega

/-- The zone ends where the number has been doubled until it fills 64 bits. -/
theorem zone_add_one : zone n + 1 = n * 2 ^ leadingZeros n := by
  rw [leadingZeros_eq hpos hlt]
  exact Nat.sub_add_cancel (Nat.mul_pos hpos (Nat.two_pow_pos _))

theorem doubled_le : n * 2 ^ leadingZeros n ≤ wordCount := by
  have hlog : n.log2 ≤ 63 := by
    rw [← Nat.lt_succ_iff, Nat.log2_lt (Nat.ne_of_gt hpos)]
    exact hlt
  have hn : n ≤ 2 ^ (n.log2 + 1) := Nat.le_of_lt Nat.lt_log2_self
  calc n * 2 ^ leadingZeros n
      ≤ 2 ^ (n.log2 + 1) * 2 ^ leadingZeros n := Nat.mul_le_mul_right _ hn
    _ = 2 ^ 64 := by
      rw [← Nat.pow_add, leadingZeros_eq hpos hlt]
      congr 1
      omega

/-- A word stands for a choice if its product is in a window as wide as the zone. -/
theorem choice?_eq_some_iff {i : Nat} {word : UInt64} :
    choice? n word = some i ↔
      i * wordCount ≤ word.toNat * n ∧
        word.toNat * n < i * wordCount + n * 2 ^ leadingZeros n := by
  have hzone := zone_add_one hpos hlt
  have hwidth := doubled_le hpos hlt
  have hdivision := Nat.div_add_mod (word.toNat * n) wordCount
  have hmod := Nat.mod_lt (word.toNat * n) (show 0 < wordCount by decide)
  unfold choice?
  constructor
  · intro h
    split at h
    · cases h
      rw [Nat.mul_comm _ wordCount]
      omega
    · cases h
  · rintro ⟨hfrom, hto⟩
    have hi : word.toNat * n / wordCount = i := by
      rw [Nat.div_eq_iff (by decide)]
      omega
    rw [hi, Nat.mul_comm] at hdivision
    rw [if_pos (by omega), hi]

/-! ### The words of a choice -/

variable {i : Nat} (hi : i < n)
include hi

theorem lt_wordCount_of_lt {v : Nat} (hv : v < firstWord n i + 2 ^ leadingZeros n) :
    v < wordCount := by
  rw [lt_firstWord_add_iff hpos] at hv
  have hwidth := doubled_le hpos hlt
  have hlast : (i + 1) * wordCount ≤ n * wordCount := Nat.mul_le_mul_right _ hi
  rw [Nat.add_mul, Nat.one_mul] at hlast
  have hproduct : n * v < n * wordCount := by
    rw [Nat.mul_comm n v]
    omega
  exact Nat.lt_of_mul_lt_mul_left hproduct

theorem mem_wordsFor {word : UInt64} : word ∈ wordsFor n i ↔ choice? n word = some i := by
  rw [wordsFor, Finset.mem_image, choice?_eq_some_iff hpos hlt]
  constructor
  · rintro ⟨v, hv, rfl⟩
    obtain ⟨hfrom, hto⟩ := Finset.mem_Ico.1 hv
    rw [UInt64.toNat_ofNat_of_lt' (lt_wordCount_of_lt hpos hlt hi hto)]
    exact ⟨(firstWord_le_iff hpos).1 hfrom, (lt_firstWord_add_iff hpos).1 hto⟩
  · rintro ⟨hfrom, hto⟩
    refine ⟨word.toNat, Finset.mem_Ico.2 ⟨?_, ?_⟩, UInt64.ofNat_toNat⟩
    · exact (firstWord_le_iff hpos).2 hfrom
    · exact (lt_firstWord_add_iff hpos).2 hto

theorem card_wordsFor : (wordsFor n i).card = 2 ^ leadingZeros n := by
  have hinjective : Set.InjOn UInt64.ofNat
      (Finset.Ico (firstWord n i) (firstWord n i + 2 ^ leadingZeros n)) := by
    intro v hv w hw heq
    have hv := lt_wordCount_of_lt hpos hlt hi (Finset.mem_Ico.1 hv).2
    have hw := lt_wordCount_of_lt hpos hlt hi (Finset.mem_Ico.1 hw).2
    have htoNat := congrArg UInt64.toNat heq
    rwa [UInt64.toNat_ofNat_of_lt' hv, UInt64.toNat_ofNat_of_lt' hw] at htoNat
  rw [wordsFor, Finset.card_image_of_injOn hinjective, Nat.card_Ico, Nat.add_sub_cancel_left]

theorem ncard_choice? : {word | choice? n word = some i}.ncard = 2 ^ leadingZeros n := by
  rw [← card_wordsFor hpos hlt hi, ← Set.ncard_coe_finset]
  congr 1
  ext word
  exact (mem_wordsFor hpos hlt hi).symm

end Windows

/-! ### Words in a row -/

/-- The words that a source gives, one after the other. -/
def word (s : WordSource) (k : Nat) : UInt64 := s.words.getD k 0

/-- Words that are zero in the end are those of a source. -/
theorem exists_word_eq {words : Nat → UInt64} {last : Nat} (h : ∀ k, last ≤ k → words k = 0) :
    ∃ s : WordSource, ∀ k, s.word k = words k := by
  refine ⟨ofWords ((List.range last).map words), fun k => ?_⟩
  by_cases hk : k < last
  · simp [word, ofWords, hk]
  · rw [h k (Nat.le_of_not_lt hk)]
    simp [word, ofWords, hk]

theorem choice?_zero (n : Nat) : choice? n 0 = some 0 := by
  simp [choice?]

/-- A choice passes over the words that do not count, and takes the first one that does. -/
theorem exists_belowFrom (n used : Nat) (words : List UInt64) :
    ∃ k, (∀ j < k, choice? n (words.getD j 0) = none) ∧
      choice? n (words.getD k 0) = some (belowFrom n used words).1 ∧
      (belowFrom n used words).2 = ⟨words.drop (k + 1), used + (k + 1)⟩ := by
  induction words generalizing used with
  | nil => exact ⟨0, fun _ hj => absurd hj (Nat.not_lt_zero _), choice?_zero n, rfl⟩
  | cons first rest ih =>
    unfold belowFrom
    split
    · next i hi => exact ⟨0, fun _ hj => absurd hj (Nat.not_lt_zero _), hi, rfl⟩
    · next hnone =>
      obtain ⟨k, hbefore, hchoice, hrest⟩ := ih (used + 1)
      refine ⟨k + 1, fun j hj => ?_, hchoice, ?_⟩
      · cases j with
        | zero => exact hnone
        | succ j => exact hbefore j (Nat.lt_of_succ_lt_succ hj)
      · rw [hrest, Nat.add_assoc used 1, Nat.add_comm 1]
        rfl

end WordSource

namespace TaskSet

open WordSource

/-- The task that a word stands for, if the word counts. -/
def pick? (set : TaskSet) (word : UInt64) : Option Task :=
  (choice? set.size word).bind fun i => set.tasks[i]?

/-- The places in a list where something is that a predicate holds of. -/
def places {α : Type} (p : α → Bool) (xs : List α) : Finset Nat :=
  {i ∈ Finset.range xs.length | (xs[i]?).any p = true}

theorem card_places {α : Type} (p : α → Bool) (xs : List α) : (places p xs).card = xs.countP p := by
  induction xs using List.reverseRecOn with
  | nil => rfl
  | append_singleton xs x ih =>
    have hinit : {i ∈ Finset.range xs.length | ((xs ++ [x])[i]?).any p = true} = places p xs := by
      refine Finset.filter_congr fun i hi => ?_
      rw [List.getElem?_append_left (Finset.mem_range.1 hi)]
    have hlast : (xs ++ [x])[xs.length]? = some x := by simp
    rw [places, List.length_append, List.length_singleton, Finset.range_add_one,
      Finset.filter_insert, hinit, hlast, List.countP_append, List.countP_singleton, ← ih]
    cases hx : p x with
    | false => simp [hx]
    | true =>
      have hnew : xs.length ∉ places p xs := by simp [places]
      simp [hx, hnew]

/-- The words that a task is picked by are those of its places. -/
theorem ncard_pick? {set : TaskSet} (hne : set.tasks ≠ []) (hlt : set.size < wordCount)
    (p : Task → Bool) :
    {word | ∃ task, set.pick? word = some task ∧ p task = true}.ncard =
      set.tasks.countP p * 2 ^ leadingZeros set.size := by
  have hpos : 0 < set.size := List.length_pos_iff.2 hne
  have heq : {word | ∃ task, set.pick? word = some task ∧ p task = true} =
      ((places p set.tasks).biUnion (wordsFor set.size) : Set UInt64) := by
    ext word
    simp only [Set.mem_ofPred_eq, Finset.mem_coe, Finset.mem_biUnion, places, Finset.mem_filter,
      Finset.mem_range, pick?, Option.bind_eq_some_iff, Option.any_eq_true]
    constructor
    · rintro ⟨task, ⟨i, hchoice, htask⟩, hp⟩
      have hi := choice?_lt hchoice hpos
      exact ⟨i, ⟨hi, task, htask, hp⟩, (mem_wordsFor hpos hlt hi).2 hchoice⟩
    · rintro ⟨i, ⟨hi, task, htask, hp⟩, hword⟩
      exact ⟨task, ⟨i, (mem_wordsFor hpos hlt hi).1 hword, htask⟩, hp⟩
  have hcard : ∀ i ∈ places p set.tasks,
      (wordsFor set.size i).card = 2 ^ leadingZeros set.size := by
    intro i hi
    exact card_wordsFor hpos hlt (Finset.mem_range.1 (Finset.mem_filter.1 hi).1)
  -- a word stands for one choice at most
  have hdisjoint : (places p set.tasks : Set Nat).PairwiseDisjoint (wordsFor set.size) := by
    intro i hi j hj hij
    rw [Function.onFun, Finset.disjoint_left]
    intro word hwi hwj
    have hi := Finset.mem_range.1 (Finset.mem_filter.1 (Finset.mem_coe.1 hi)).1
    have hj := Finset.mem_range.1 (Finset.mem_filter.1 (Finset.mem_coe.1 hj)).1
    rw [mem_wordsFor hpos hlt hi] at hwi
    rw [mem_wordsFor hpos hlt hj, hwi] at hwj
    exact hij (Option.some.inj hwj)
  rw [heq, Set.ncard_coe_finset, Finset.card_biUnion hdisjoint, Finset.sum_const_nat hcard,
    card_places]

/-- A task is chosen with the first word that counts; the words up to it are used up. -/
theorem exists_choose {set : TaskSet} (hne : set.tasks ≠ []) (source : WordSource) :
    ∃ k task, (∀ j < k, choice? set.size (source.word j) = none) ∧
      set.pick? (source.word k) = some task ∧ (set.choose source).1 = some task ∧
      (set.choose source).2.used = source.used + (k + 1) ∧
      ∀ j, (set.choose source).2.word j = source.word (k + 1 + j) := by
  obtain ⟨k, hbefore, hchoice, hrest⟩ := exists_belowFrom set.size source.used source.words
  have hlt := choice?_lt hchoice (List.length_pos_iff.2 hne)
  have hchoose : set.choose source = (some set.tasks[(source.below set.size).1],
      ⟨source.words.drop (k + 1), source.used + (k + 1)⟩) := by
    have htasks : set.tasks.isEmpty = false := by simpa using hne
    have hplace := List.getElem?_eq_getElem (l := set.tasks) hlt
    unfold choose WordSource.below
    rw [htasks, if_neg Bool.false_ne_true, hrest, hplace]
  refine ⟨k, _, hbefore, ?_, congrArg Prod.fst hchoose, ?_, fun j => ?_⟩
  · show (choice? set.size (source.words.getD k 0)).bind _ = _
    rw [hchoice]
    exact List.getElem?_eq_getElem hlt
  · rw [hchoose]
  · rw [hchoose]
    simp [word]

/-- Tasks are chosen evenly. Of the `2 ^ 64` words, each place of the set is chosen by as many as
every other one, and no word chooses a place that is not there; so a task that is there several
times is chosen by as many times the words. Where the words are zero in the end a choice comes to an
end: it takes the words that do not count, and one more. -/
theorem evenly_chosen {set : TaskSet} (hne : set.tasks ≠ []) (hlt : set.size < 2 ^ 64) :
    (∀ i < set.size,
      {word | choice? set.size word = some i}.ncard = 2 ^ leadingZeros set.size) ∧
    (∀ word i, choice? set.size word = some i → i < set.size ∧ set.pick? word = set.tasks[i]?) ∧
    (∀ p : Task → Bool, {word | ∃ task, set.pick? word = some task ∧ p task = true}.ncard =
      set.tasks.countP p * 2 ^ leadingZeros set.size) ∧
    (∀ words : Nat → UInt64, (∃ last, ∀ k, last ≤ k → words k = 0) →
      (∃ source : WordSource, ∀ k, source.word k = words k) ∧
      ∀ source : WordSource, (∀ k, source.word k = words k) →
        ∃ k task, (∀ j < k, choice? set.size (words j) = none) ∧
          set.pick? (words k) = some task ∧ (set.choose source).1 = some task ∧
          (set.choose source).2.used = source.used + (k + 1) ∧
          ∀ j, (set.choose source).2.word j = words (k + 1 + j)) := by
  have hpos : 0 < set.size := List.length_pos_iff.2 hne
  refine ⟨fun i hi => ncard_choice? hpos hlt hi, fun word i hchoice => ?_, ncard_pick? hne hlt,
    fun words ⟨last, hzero⟩ => ⟨exists_word_eq hzero, fun source hwords => ?_⟩⟩
  · refine ⟨choice?_lt hchoice hpos, ?_⟩
    rw [pick?, hchoice]
    rfl
  · obtain rfl : source.word = words := funext hwords
    exact exists_choose hne source

/-- Three places, of which two hold the same task. -/
def schemaTwice : TaskSet := ⟨[.schema, .count, .schema]⟩

/-- The task that is there twice is chosen by twice as many words as the other one; the first of two
words is passed over, and the second one is taken. -/
theorem evenly_chosen_of_schemaTwice :
    schemaTwice.tasks ≠ [] ∧ schemaTwice.size < 2 ^ 64 ∧
    {word | choice? 3 word = some 1}.ncard = 2 ^ 62 ∧
    {word | ∃ task, schemaTwice.pick? word = some task ∧
      (task.name == "searchSchema") = true}.ncard = 2 * 2 ^ 62 ∧
    (schemaTwice.choose (.ofWords [0x4000000000000000, 5])).2.used = 2 := by
  have hne : schemaTwice.tasks ≠ [] := List.cons_ne_nil _ _
  have hlt : schemaTwice.size < 2 ^ 64 := by decide
  have hzeros : leadingZeros schemaTwice.size = 62 := by decide
  obtain ⟨hplace, -, hpick, hends⟩ := evenly_chosen hne hlt
  have hone := hplace 1 (by decide)
  have htwo := hpick fun task => task.name == "searchSchema"
  rw [hzeros] at hone htwo
  refine ⟨hne, hlt, hone, htwo, ?_⟩
  have hwords : ∀ k, 2 ≤ k → (WordSource.ofWords [0x4000000000000000, 5]).word k = 0 := by
    intro k hk
    rw [word, List.getD_eq_getElem?_getD, List.getElem?_eq_none hk]
    rfl
  obtain ⟨k, task, hbefore, hpicked, -, hused, -⟩ := (hends _ ⟨2, hwords⟩).2 _ fun _ => rfl
  have hk : k = 1 := by
    rcases Nat.lt_trichotomy k 1 with hk | hk | hk
    · -- the first word does not count
      obtain rfl : k = 0 := Nat.lt_one_iff.1 hk
      cases hpicked
    · exact hk
    · -- and the second one does
      cases hbefore 1 hk
  rw [hused, hk]
  rfl

end TaskSet

end QuerySwarm
