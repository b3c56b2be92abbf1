import QuerySwarm.Proofs.Tally.Writes

/-!
# Writes that trade places

Most of what a tally holds only grows: it counts up, and it records latencies. There two writes can
trade places, also where they change the same entry (`Histogram.record_comm`,
`SortedMap.update_comm`). So it is the writes that matter, and not their order, nor the figures of the
machine that are written in between (`Tally.part_eq_of_perm`).

Only the users that are active and the requests in flight are counted down, and never below zero; they
are left out here.
-/

namespace QuerySwarm

/-! ### Changes that trade places -/

/-- Changes under two keys trade places, if they do where the keys are the same. -/
theorem SortedMap.update_comm {κ α : Type} [LT κ] [LE κ] [Std.LawfulOrderLT κ]
    [Std.IsLinearOrder κ] [DecidableEq κ] [DecidableLT κ] (m : SortedMap κ α) (key other : κ)
    (f g : Option α → α) (h : key = other → ∀ v, g (some (f v)) = f (some (g v))) :
    (m.update key f).update other g = (m.update other g).update key f := by
  apply SortedMap.ext_get?
  intro k
  by_cases hsame : key = other
  · subst hsame
    by_cases hk : k = key
    · subst hk
      simp only [get?_update, h rfl]
    · simp only [get?_update_ne _ _ hk]
  · by_cases hk : k = key
    · subst hk
      rw [get?_update_ne _ _ hsame, get?_update, get?_update, get?_update_ne _ _ hsame]
    · by_cases hk' : k = other
      · subst hk'
        rw [get?_update, get?_update_ne _ _ hk, get?_update_ne _ _ hk, get?_update]
      · simp only [get?_update_ne _ _ hk, get?_update_ne _ _ hk']

theorem Histogram.record_comm (h : Histogram) (a b : Nat) :
    (h.record a).record b = (h.record b).record a := by
  have hbins := SortedMap.update_comm h.bins (Latency.binStart a) (Latency.binStart b)
    (fun n => n.getD 0 + 1) (fun n => n.getD 0 + 1) fun _ _ => rfl
  simp only [record, recordMany, if_neg Nat.one_ne_zero, hbins, Nat.min_right_comm,
    Nat.max_right_comm]

namespace Tally

/-! ### What only grows -/

/-- Whether a write is about users and their requests, and not about the machine. -/
def Write.isCounted : Write → Bool
  | .system _ => false
  | _ => true

section Parts

variable {β : Type} (part : Tally → β) (act : β → Write → β) {first second : List Write}

theorem part_writeAll (hwrite : ∀ t w, part (t.write w) = act (part t) w) (writes : List Write)
    (t : Tally) : part (t.writeAll writes) = writes.foldl act (part t) := by
  induction writes generalizing t with
  | nil => rfl
  | cons w rest ih =>
    show part ((t.write w).writeAll rest) = _
    rw [ih, hwrite]
    rfl

/-- A part of a tally that users' writes change one by one, and in which these trade places, depends
on which writes there are. -/
theorem part_eq_of_perm (hwrite : ∀ t w, part (t.write w) = act (part t) w)
    (hmachine : ∀ b figures, act b (.system figures) = b)
    (hcomm : ∀ b v w, act (act b v) w = act (act b w) v)
    (perm : (first.filter Write.isCounted).Perm (second.filter Write.isCounted)) (t : Tally) :
    part (t.writeAll first) = part (t.writeAll second) := by
  have hcounted : ∀ (writes : List Write) (b : β),
      writes.foldl act b = (writes.filter Write.isCounted).foldl act b := by
    intro writes b
    rw [List.foldl_filter]
    congr 1
    funext b w
    cases w with
    | system figures => exact hmachine b figures
    | _ => rfl
  rw [part_writeAll part act hwrite, part_writeAll part act hwrite, hcounted first, hcounted second]
  exact perm.foldl_eq' (fun v _ w _ b => hcomm b v w) _

end Parts

/-! ### The parts -/

def countIn (operations : SortedMap String OperationCounts) :
    Write → SortedMap String OperationCounts
  | .requestStarted operation => operations.update operation countRequest
  | .requestFailed operation => operations.update operation countFailure
  | _ => operations

theorem operations_write (t : Tally) (w : Write) :
    (t.write w).counters.operations = countIn t.counters.operations w := by
  cases w <;> rfl

theorem countIn_comm (operations : SortedMap String OperationCounts) (v w : Write) :
    countIn (countIn operations v) w = countIn (countIn operations w) v := by
  cases v with
  | requestStarted a =>
    cases w with
    | requestStarted b => exact SortedMap.update_comm _ a b _ _ fun _ _ => rfl
    | requestFailed b => exact SortedMap.update_comm _ a b _ _ fun _ _ => rfl
    | _ => rfl
  | requestFailed a =>
    cases w with
    | requestStarted b => exact SortedMap.update_comm _ a b _ _ fun _ _ => rfl
    | requestFailed b => exact SortedMap.update_comm _ a b _ _ fun _ _ => rfl
    | _ => rfl
  | _ => rfl

def recordIn (latencies : Histogram) : Write → Histogram
  | .latency milliseconds => latencies.record milliseconds
  | _ => latencies

theorem latency_write (t : Tally) (w : Write) : (t.write w).latency = recordIn t.latency w := by
  cases w <;> rfl

theorem recordIn_comm (latencies : Histogram) (v w : Write) :
    recordIn (recordIn latencies v) w = recordIn (recordIn latencies w) v := by
  cases v with
  | latency a =>
    cases w with
    | latency b => exact latencies.record_comm a b
    | _ => rfl
  | _ => rfl

def fileIn (latencies : SortedMap String Histogram) : Write → SortedMap String Histogram
  | .operationLatency operation milliseconds =>
    latencies.update operation fun h => (h.getD .empty).record milliseconds
  | _ => latencies

theorem operationLatency_write (t : Tally) (w : Write) :
    (t.write w).operationLatency = fileIn t.operationLatency w := by
  cases w <;> rfl

theorem fileIn_comm (latencies : SortedMap String Histogram) (v w : Write) :
    fileIn (fileIn latencies v) w = fileIn (fileIn latencies w) v := by
  cases v with
  | operationLatency a x =>
    cases w with
    | operationLatency b y =>
      exact SortedMap.update_comm _ a b _ _ fun _ h => (h.getD .empty).record_comm x y
    | _ => rfl
  | _ => rfl

/-- The latencies that were recorded under a name. -/
def latencyOf (t : Tally) (operation : String) : Histogram :=
  (t.operationLatency.get? operation).getD .empty

def fileUnder (operation : String) (latencies : Histogram) : Write → Histogram
  | .operationLatency name milliseconds =>
    if name = operation then latencies.record milliseconds else latencies
  | _ => latencies

theorem latencyOf_write (operation : String) (t : Tally) (w : Write) :
    (t.write w).latencyOf operation = fileUnder operation (t.latencyOf operation) w := by
  cases w with
  | operationLatency name milliseconds =>
    by_cases hname : name = operation
    · subst hname
      simp only [latencyOf, write, fileUnder, SortedMap.get?_update, Option.getD_some, if_true]
    · simp only [latencyOf, write, fileUnder, SortedMap.get?_update_ne _ _ (Ne.symm hname),
        if_neg hname]
  | _ => rfl

theorem fileUnder_comm (operation : String) (latencies : Histogram) (v w : Write) :
    fileUnder operation (fileUnder operation latencies v) w =
      fileUnder operation (fileUnder operation latencies w) v := by
  cases v with
  | operationLatency a x =>
    cases w with
    | operationLatency b y =>
      simp only [fileUnder]
      split <;> split <;> first | exact latencies.record_comm x y | rfl
    | _ => rfl
  | _ => rfl

end Tally

end QuerySwarm
