import Mathlib.Algebra.Order.BigOperators.Group.List
import Mathlib.Algebra.Order.Group.Nat
import QuerySwarm.Proofs.Tally.Orders
import QuerySwarm.Report.Summary

/-!
# Users that share a tally

Users that share a tally write to it in turn, and what is read of it and the figures of the machine
come in between. When all of them are through, the tally does not say in which order it was: it counts
the same, it holds the same latencies, and it is summed up in the same way.

* What only grows depends on the writes alone, and these are the same in every order
  (`Interleaves.perm`).
* What is counted down, and never below zero, depends on the order in general. But nobody stops before
  being started, and no request ends before it was started (`Covers`), so nothing is lost at zero
  (`Interleaves.level_eq_zero`).
* Either way the tally holds what there was to do, and no more (`Tally.Holds`,
  `Tally.holds_of_interleaves`).
* `Tally.figures_of_interleaves` puts these together.
-/

namespace QuerySwarm

open Tally (Write)

/-! ### Users that share a tally -/

/-- A request of a user: under which name it is counted, how long it takes and whether it goes well. -/
structure Job where
  operation : String
  milliseconds : Nat
  succeeds : Bool
  deriving DecidableEq, Repr

def Job.writes (j : Job) : List Write :=
  .requestStarted j.operation ::
    if j.succeeds then Tally.successWrites j.operation j.milliseconds
    else Tally.failureWrites j.operation j.milliseconds

theorem Job.countP_writes (kind : Write → Bool) (j : Job) : j.writes.countP kind =
    (kind (.requestStarted j.operation)).toNat +
      (kind (if j.succeeds then .requestSucceeded else .requestFailed j.operation)).toNat +
      (kind (.latency j.milliseconds)).toNat +
      (kind (.operationLatency j.operation j.milliseconds)).toNat := by
  have hcons : ∀ (w : Write) (rest : List Write),
      (w :: rest).countP kind = (kind w).toNat + rest.countP kind := by
    intro w rest
    rw [List.countP_cons, Nat.add_comm]
    cases kind w <;> rfl
  unfold Job.writes
  cases j.succeeds <;>
    simp only [Tally.successWrites, Tally.failureWrites, hcons, List.countP_nil, if_true,
      Bool.false_eq_true, if_false] <;> omega

/-- What a user writes from its start to its stop. -/
def shiftWrites (jobs : List Job) : List Write :=
  .userSpawned :: (jobs.flatMap Job.writes ++ [.userStopped])

/-- What is done at once to a tally that is shared: somebody writes to it, or reads what it says. -/
inductive Access where
  | write (w : Write)
  | read
  deriving DecidableEq

def Access.apply (t : Tally) : Access → Tally
  | .write w => t.write w
  | .read => t

/-- A tally after everything that was done to it. -/
def Tally.after (accesses : List Access) (t : Tally) : Tally := accesses.foldl Access.apply t

/-- Each script is gone through in its order, and what the scripts say comes in any order. In between
the figures of the machine are written, and the tally is read. -/
inductive Interleaves : List (List Write) → List Access → Prop
  | done {scripts : List (List Write)} (through : ∀ script ∈ scripts, script = []) :
      Interleaves scripts []
  | turn {scripts : List (List Write)} {k : Nat} {w : Write} {rest : List Write}
      {accesses : List Access} (place : scripts[k]? = some (w :: rest))
      (others : Interleaves (scripts.set k rest) accesses) :
      Interleaves scripts (.write w :: accesses)
  | machine {scripts : List (List Write)} {accesses : List Access} (figures : SystemFigures)
      (others : Interleaves scripts accesses) :
      Interleaves scripts (.write (.system figures) :: accesses)
  | read {scripts : List (List Write)} {accesses : List Access}
      (others : Interleaves scripts accesses) : Interleaves scripts (.read :: accesses)

/-- A script may be gone through for several writes in a row. -/
theorem Interleaves.turns {scripts : List (List Write)} {k : Nat} {rest : List Write}
    {accesses : List Access} (now : List Write) (place : scripts[k]? = some (now ++ rest))
    (others : Interleaves (scripts.set k rest) accesses) :
    Interleaves scripts (now.map Access.write ++ accesses) := by
  induction now generalizing scripts with
  | nil =>
    have hsame : scripts.set k rest = scripts := by
      obtain ⟨hk, hget⟩ := List.getElem?_eq_some_iff.1 place
      rw [← List.nil_append rest, ← hget, List.set_getElem_self]
    rw [hsame] at others
    exact others
  | cons w now ih =>
    have hk : k < scripts.length := (List.getElem?_eq_some_iff.1 place).1
    refine .turn place (ih (List.getElem?_set_self hk) ?_)
    rw [List.set_set]
    exact others

def writesOf (accesses : List Access) : List Write :=
  accesses.filterMap fun access =>
    match access with
    | .write w => some w
    | .read => none

/-- Reading changes nothing. -/
theorem Tally.after_eq (accesses : List Access) (t : Tally) :
    t.after accesses = t.writeAll (writesOf accesses) := by
  induction accesses generalizing t with
  | nil => rfl
  | cons access rest ih =>
    cases access with
    | write w => exact ih (t.write w)
    | read => exact ih t

/-! ### What is written in every order -/

theorem flatten_perm_of_getElem? {α : Type} {lists : List (List α)} {k : Nat} {x : α}
    {rest : List α} (h : lists[k]? = some (x :: rest)) :
    lists.flatten.Perm (x :: (lists.set k rest).flatten) := by
  induction lists generalizing k with
  | nil => cases h
  | cons first others ih =>
    cases k with
    | zero =>
      cases h
      exact List.Perm.refl _
    | succ k =>
      have hothers : others.flatten.Perm (x :: (others.set k rest).flatten) := ih h
      exact (hothers.append_left first).trans List.perm_middle

/-- The scripts are written in some order, besides the figures of the machine. -/
theorem Interleaves.perm {scripts : List (List Write)} {accesses : List Access}
    (h : Interleaves scripts accesses) : ((writesOf accesses).filter Write.isCounted).Perm
      (scripts.flatten.filter Write.isCounted) := by
  induction h with
  | done through =>
    rw [List.flatten_eq_nil_iff.2 through]
    exact List.Perm.refl _
  | @turn scripts k w rest accesses place others ih =>
    refine List.Perm.trans ?_ ((flatten_perm_of_getElem? place).filter _).symm
    show ((w :: writesOf accesses).filter Write.isCounted).Perm _
    rw [List.filter_cons, List.filter_cons]
    split
    · exact ih.cons w
    · exact ih
  | machine figures others ih => exact ih
  | read others ih => exact ih

/-! ### What is counted down -/

/-- Whatever is opened in a script is closed later in it. -/
def Covers (opens closes : Write → Bool) : List Write → Prop
  | [] => True
  | w :: rest => (w :: rest).countP opens ≤ (w :: rest).countP closes ∧ Covers opens closes rest

theorem Covers.countP_le {opens closes : Write → Bool} {script : List Write}
    (h : Covers opens closes script) : script.countP opens ≤ script.countP closes := by
  cases script with
  | nil => exact Nat.le_refl _
  | cons w rest => exact h.1

section Level

variable {opens closes : Write → Bool} {level : Tally → Nat}

/-- A figure that is counted up when something is opened, and down when it is closed, is zero when
everything is closed. -/
theorem Interleaves.level_eq_zero
    (hwrite : ∀ t w, level (t.write w) = level t + (opens w).toNat - (closes w).toNat)
    (hmachine : ∀ figures, opens (.system figures) = false ∧ closes (.system figures) = false)
    {scripts : List (List Write)} {accesses : List Access} (h : Interleaves scripts accesses)
    (covers : ∀ script ∈ scripts, Covers opens closes script) {t : Tally}
    (ht : level t + (scripts.map (List.countP opens)).sum = (scripts.map (List.countP closes)).sum) :
    level (t.after accesses) = 0 := by
  induction h generalizing t with
  | @done scripts through =>
    have hcloses : (scripts.map (List.countP closes)).sum = 0 := by
      rw [List.sum_eq_zero_iff]
      intro n hn
      obtain ⟨script, hscript, rfl⟩ := List.mem_map.1 hn
      rw [through script hscript]
      rfl
    show level t = 0
    omega
  | @turn scripts k w rest accesses place others ih =>
    have hopens := sum_map_set_add (List.countP opens) place rest
    have hcloses := sum_map_set_add (List.countP closes) place rest
    rw [List.countP_cons] at hopens hcloses
    have hcovers : ∀ script ∈ scripts.set k rest, Covers opens closes script := by
      intro script hscript
      rcases List.mem_or_eq_of_mem_set hscript with hold | rfl
      · exact covers script hold
      · exact (covers _ (List.mem_of_getElem? place)).2
    -- what is closed now was opened before, so it is not counted down from zero
    have hle : ((scripts.set k rest).map (List.countP opens)).sum ≤
        ((scripts.set k rest).map (List.countP closes)).sum :=
      List.sum_le_sum fun script hscript => (hcovers script hscript).countP_le
    refine ih hcovers ?_
    show level (t.write w) + _ = _
    rw [hwrite]
    cases hopen : opens w <;> cases hclose : closes w <;>
      simp only [hopen, hclose, if_true, Bool.false_eq_true, if_false, Bool.toNat_true,
        Bool.toNat_false] at hopens hcloses ⊢ <;> omega
  | @machine scripts accesses figures others ih =>
    obtain ⟨hopen, hclose⟩ := hmachine figures
    refine ih covers ?_
    show level (t.write (.system figures)) + _ = _
    rw [hwrite, hopen, hclose]
    exact ht
  | read others ih => exact ih covers ht

end Level

/-! ### Shifts -/

section Shifts

variable {opens closes : Write → Bool}

theorem Covers.append {first second : List Write} (hfirst : Covers opens closes first)
    (hsecond : Covers opens closes second) : Covers opens closes (first ++ second) := by
  induction first with
  | nil => exact hsecond
  | cons w rest ih =>
    refine ⟨?_, ih hfirst.2⟩
    show ((w :: rest) ++ second).countP opens ≤ ((w :: rest) ++ second).countP closes
    rw [List.countP_append, List.countP_append]
    exact Nat.add_le_add hfirst.1 hsecond.countP_le

theorem countP_shiftWrites (kind : Write → Bool) (jobs : List Job) :
    (shiftWrites jobs).countP kind = (kind .userSpawned).toNat +
      (jobs.map fun j => j.writes.countP kind).sum + (kind .userStopped).toNat := by
  have hone : ∀ w, [w].countP kind = (kind w).toNat := by
    intro w
    rw [List.countP_singleton]
    cases kind w <;> rfl
  rw [shiftWrites, ← List.singleton_append, List.countP_append, List.countP_append,
    List.countP_flatMap, hone, hone, Nat.add_assoc]
  rfl

/-- What every request closes, a shift closes, if its start and its stop do so together. -/
theorem covers_shiftWrites
    (hjob : ∀ j : Job, Covers opens closes j.writes ∧
      j.writes.countP opens = j.writes.countP closes)
    (hstop : opens .userStopped = false)
    (hshift : (opens .userSpawned).toNat = (closes .userSpawned).toNat + (closes .userStopped).toNat)
    (jobs : List Job) : Covers opens closes (shiftWrites jobs) ∧
      (shiftWrites jobs).countP opens = (shiftWrites jobs).countP closes := by
  have hcount : (shiftWrites jobs).countP opens = (shiftWrites jobs).countP closes := by
    have hsame : (fun j : Job => j.writes.countP opens) = fun j => j.writes.countP closes :=
      funext fun j => (hjob j).2
    rw [countP_shiftWrites, countP_shiftWrites, hsame, hstop, hshift, Bool.toNat_false]
    omega
  have hjobs : ∀ jobs : List Job, Covers opens closes (jobs.flatMap Job.writes) := by
    intro jobs
    induction jobs with
    | nil => trivial
    | cons j rest ih =>
      rw [List.flatMap_cons]
      exact (hjob j).1.append ih
  refine ⟨⟨Nat.le_of_eq hcount, (hjobs jobs).append ⟨?_, trivial⟩⟩, hcount⟩
  rw [List.countP_cons, hstop]
  exact Nat.zero_le _

end Shifts

/-- A request ends after it was started. -/
theorem covers_starts_ends (jobs : List Job) :
    Covers Write.starts Write.ends (shiftWrites jobs) ∧
      (shiftWrites jobs).countP Write.starts = (shiftWrites jobs).countP Write.ends := by
  refine covers_shiftWrites (fun j => ?_) rfl rfl jobs
  cases hj : j.succeeds <;>
    simp [Job.writes, hj, Tally.successWrites, Tally.failureWrites, Covers, List.countP_cons,
      Write.starts, Write.ends]

/-- A user stops after it was started. -/
theorem covers_spawns_stops (jobs : List Job) :
    Covers Write.spawns Write.stops (shiftWrites jobs) ∧
      (shiftWrites jobs).countP Write.spawns = (shiftWrites jobs).countP Write.stops := by
  refine covers_shiftWrites (fun j => ?_) rfl rfl jobs
  cases hj : j.succeeds <;>
    simp [Job.writes, hj, Tally.successWrites, Tally.failureWrites, Covers, Write.spawns,
      Write.stops]

/-! ### When everybody is through -/

/-- When every shift is over, nothing that was opened is left. -/
theorem Interleaves.level_eq_zero_of_shifts {opens closes : Write → Bool} (level : Tally → Nat)
    (hwrite : ∀ t w, level (t.write w) = level t + (opens w).toNat - (closes w).toNat)
    (hmachine : ∀ figures, opens (.system figures) = false ∧ closes (.system figures) = false)
    (hshift : ∀ jobs, Covers opens closes (shiftWrites jobs) ∧
      (shiftWrites jobs).countP opens = (shiftWrites jobs).countP closes)
    (hempty : level .empty = 0) {shifts : List (List Job)} {accesses : List Access}
    (h : Interleaves (shifts.map shiftWrites) accesses) :
    level (Tally.empty.after accesses) = 0 := by
  have hcovers : ∀ script ∈ shifts.map shiftWrites, Covers opens closes script := by
    intro script hscript
    obtain ⟨jobs, -, rfl⟩ := List.mem_map.1 hscript
    exact (hshift jobs).1
  refine h.level_eq_zero hwrite hmachine hcovers ?_
  rw [hempty, Nat.zero_add]
  congr 1
  refine List.map_congr_left fun script hscript => ?_
  obtain ⟨jobs, -, rfl⟩ := List.mem_map.1 hscript
  exact (hshift jobs).2

namespace Tally

section Shares

variable {shifts : List (List Job)} {accesses : List Access}

theorem active_of_interleaves (h : Interleaves (shifts.map shiftWrites) accesses) :
    (empty.after accesses).counters.users.active = 0 :=
  h.level_eq_zero_of_shifts (fun t => t.counters.users.active) active_write
    (fun _ => ⟨rfl, rfl⟩) covers_spawns_stops rfl

theorem inFlight_of_interleaves (h : Interleaves (shifts.map shiftWrites) accesses) :
    (empty.after accesses).counters.requests.inFlight = 0 :=
  h.level_eq_zero_of_shifts (fun t => t.counters.requests.inFlight) inFlight_write
    (fun _ => ⟨rfl, rfl⟩) covers_starts_ends rfl

theorem foldl_shiftWrites {β : Type} {act : β → Write → β} {step : β → Job → β}
    (hspawn : ∀ b, act b .userSpawned = b) (hstop : ∀ b, act b .userStopped = b)
    (hjob : ∀ b j, j.writes.foldl act b = step b j) (shifts : List (List Job)) (b : β) :
    (shifts.map shiftWrites).flatten.foldl act b = shifts.flatten.foldl step b := by
  have hstep : (fun b (j : Job) => j.writes.foldl act b) = step := by
    funext b j
    exact hjob b j
  induction shifts generalizing b with
  | nil => rfl
  | cons jobs rest ih =>
    rw [List.map_cons, List.flatten_cons, List.flatten_cons, List.foldl_append, List.foldl_append,
      ih, shiftWrites, List.foldl_cons, hspawn, List.foldl_append, List.foldl_flatMap, hstep,
      List.foldl_cons, hstop, List.foldl_nil]

/-- A part of a tally that only grows comes of the jobs, one by one, whoever does them and when. -/
theorem part_of_interleaves {β : Type} (part : Tally → β) (act : β → Write → β)
    (step : β → Job → β) (hwrite : ∀ t w, part (t.write w) = act (part t) w)
    (hmachine : ∀ b figures, act b (.system figures) = b)
    (hcomm : ∀ b v w, act (act b v) w = act (act b w) v)
    (hspawn : ∀ b, act b .userSpawned = b) (hstop : ∀ b, act b .userStopped = b)
    (hjob : ∀ b j, j.writes.foldl act b = step b j)
    (h : Interleaves (shifts.map shiftWrites) accesses) :
    part (empty.after accesses) = shifts.flatten.foldl step (part empty) := by
  rw [after_eq, part_eq_of_perm part act hwrite hmachine hcomm h.perm,
    part_writeAll part act hwrite, foldl_shiftWrites hspawn hstop hjob]

/-- A figure that jobs add to counts some of them. -/
theorem figure_of_interleaves (figure : Tally → Nat) (kind : Write → Bool) (q : Job → Bool)
    (hwrite : ∀ t w, figure (t.write w) = figure t + (kind w).toNat)
    (hmachine : ∀ figures, kind (.system figures) = false)
    (hspawn : kind .userSpawned = false) (hstop : kind .userStopped = false)
    (hjob : ∀ j : Job, j.writes.countP kind = (q j).toNat) (hempty : figure empty = 0)
    (h : Interleaves (shifts.map shiftWrites) accesses) :
    figure (empty.after accesses) = shifts.flatten.countP q := by
  rw [part_of_interleaves figure (fun n w => n + (kind w).toNat) (fun n j => n + (q j).toNat)
    hwrite ?_ (fun n v w => Nat.add_right_comm n _ _) ?_ ?_ ?_ h, foldl_add_toNat, hempty,
    Nat.zero_add]
  · exact fun n figures => by rw [hmachine]; rfl
  · exact fun n => by rw [hspawn]; rfl
  · exact fun n => by rw [hstop]; rfl
  · exact fun n j => by rw [foldl_add_toNat, hjob]

theorem spawned_of_interleaves (h : Interleaves (shifts.map shiftWrites) accesses) :
    (empty.after accesses).counters.users.spawned = shifts.length := by
  have hzero : ∀ j : Job, j.writes.countP Write.spawns = 0 := by
    intro j
    rw [Job.countP_writes]
    cases j.succeeds <;> rfl
  have hone : (List.countP Write.spawns ∘ shiftWrites) = fun _ => 1 := by
    funext jobs
    simp [Function.comp, countP_shiftWrites, hzero, Write.spawns]
  rw [after_eq, part_eq_of_perm (fun t => t.counters.users.spawned)
    (fun n w => n + w.spawns.toNat) spawned_write (fun _ _ => rfl)
    (fun n v w => Nat.add_right_comm n _ _) h.perm,
    figure_writeAll (fun t => t.counters.users.spawned) Write.spawns spawned_write,
    List.countP_flatten, List.map_map, hone, List.map_const', List.sum_replicate_nat, Nat.mul_one]
  exact Nat.zero_add _

end Shares

/-! ### What the jobs come to -/

/-- Everybody is through: what is counted and recorded is what there was to do. -/
structure Holds (t : Tally) (shifts : List (List Job)) : Prop where
  requests : t.counters.requests = ⟨shifts.flatten.length, shifts.flatten.countP Job.succeeds,
    shifts.flatten.countP (fun j => !j.succeeds), 0⟩
  users : t.counters.users = ⟨shifts.length, 0⟩
  requestsOf : ∀ operation,
    t.requestsOf operation = shifts.flatten.countP fun j => j.operation = operation
  failuresOf : ∀ operation,
    t.failuresOf operation = shifts.flatten.countP fun j => j.operation = operation && !j.succeeds
  latency : t.latency = .ofList (shifts.flatten.map Job.milliseconds)
  latencyOf : ∀ operation, t.latencyOf operation =
    .ofList ((shifts.flatten.filter fun j => j.operation = operation).map Job.milliseconds)

section Orders

variable {shifts : List (List Job)} {accesses first second : List Access}

theorem requests_of_interleaves (h : Interleaves (shifts.map shiftWrites) accesses) :
    (empty.after accesses).counters.requests =
      ⟨shifts.flatten.length, shifts.flatten.countP Job.succeeds,
        shifts.flatten.countP (fun j => !j.succeeds), 0⟩ := by
  have hstarted := figure_of_interleaves (fun t => t.counters.requests.started) Write.starts
    (fun _ => true) started_write (fun _ => rfl) rfl rfl (fun j => by
      rw [Job.countP_writes]
      cases j.succeeds <;> rfl) rfl h
  have hsucceeded := figure_of_interleaves (fun t => t.counters.requests.succeeded) Write.succeeds
    Job.succeeds succeeded_write (fun _ => rfl) rfl rfl (fun j => by
      rw [Job.countP_writes]
      cases j.succeeds <;> rfl) rfl h
  have hfailed := figure_of_interleaves (fun t => t.counters.requests.failed) Write.fails
    (fun j => !j.succeeds) failed_write (fun _ => rfl) rfl rfl (fun j => by
      rw [Job.countP_writes]
      cases j.succeeds <;> rfl) rfl h
  rw [List.countP_true] at hstarted
  rw [← hstarted, ← hsucceeded, ← hfailed, ← inFlight_of_interleaves h]

theorem users_of_interleaves (h : Interleaves (shifts.map shiftWrites) accesses) :
    (empty.after accesses).counters.users = ⟨shifts.length, 0⟩ := by
  rw [← spawned_of_interleaves h, ← active_of_interleaves h]

theorem holds_of_interleaves (h : Interleaves (shifts.map shiftWrites) accesses) :
    (empty.after accesses).Holds shifts where
  requests := requests_of_interleaves h
  users := users_of_interleaves h
  requestsOf operation :=
    figure_of_interleaves (fun t => t.requestsOf operation) (Write.startsIn operation)
      (fun j => j.operation = operation) (fun t w => requestsOf_write t w operation)
      (fun _ => rfl) rfl rfl (fun j => by
        rw [Job.countP_writes]
        cases j.succeeds <;> simp [Write.startsIn]) rfl h
  failuresOf operation :=
    figure_of_interleaves (fun t => t.failuresOf operation) (Write.failsIn operation)
      (fun j => j.operation = operation && !j.succeeds) (fun t w => failuresOf_write t w operation)
      (fun _ => rfl) rfl rfl (fun j => by
        rw [Job.countP_writes]
        cases j.succeeds <;> simp [Write.failsIn]) rfl h
  latency := by
    rw [part_of_interleaves latency recordIn (fun latencies j => latencies.record j.milliseconds)
      latency_write (fun _ _ => rfl) recordIn_comm (fun _ => rfl) (fun _ => rfl) ?_ h,
      Histogram.ofList, List.foldl_map]
    · rfl
    · intro latencies j
      cases hj : j.succeeds <;>
        simp [Job.writes, hj, successWrites, failureWrites, recordIn]
  latencyOf operation := by
    rw [part_of_interleaves (fun t => t.latencyOf operation) (fileUnder operation)
      (fun latencies j =>
        if j.operation = operation then latencies.record j.milliseconds else latencies)
      (latencyOf_write operation) (fun _ _ => rfl) (fileUnder_comm operation) (fun _ => rfl)
      (fun _ => rfl) ?_ h, Histogram.ofList, List.foldl_map, List.foldl_filter]
    · simp only [decide_eq_true_eq]
      rfl
    · intro latencies j
      cases hj : j.succeeds <;>
        simp [Job.writes, hj, successWrites, failureWrites, fileUnder]

/-- What is listed by names is the same in two orders, and so are the latencies. -/
theorem entries_of_interleaves (hfirst : Interleaves (shifts.map shiftWrites) first)
    (hsecond : Interleaves (shifts.map shiftWrites) second) :
    (empty.after first).counters.operations = (empty.after second).counters.operations ∧
      (empty.after first).latency = (empty.after second).latency ∧
      (empty.after first).operationLatency = (empty.after second).operationLatency := by
  have perm := hfirst.perm.trans hsecond.perm.symm
  rw [after_eq, after_eq]
  refine ⟨?_, ?_, ?_⟩
  · exact part_eq_of_perm (fun t => t.counters.operations) countIn operations_write
      (fun _ _ => rfl) countIn_comm perm empty
  · exact part_eq_of_perm latency recordIn latency_write (fun _ _ => rfl) recordIn_comm perm empty
  · exact part_eq_of_perm operationLatency fileIn operationLatency_write (fun _ _ => rfl)
      fileIn_comm perm empty

/-- What a tally says of users that are through, in its parts and summed up, is the same for every
order in which they wrote, and whatever came in between; and it is what there was to do. -/
theorem figures_of_interleaves (hfirst : Interleaves (shifts.map shiftWrites) first)
    (hsecond : Interleaves (shifts.map shiftWrites) second) :
    ((empty.after first).counters.requests = (empty.after second).counters.requests ∧
      (empty.after first).counters.users = (empty.after second).counters.users ∧
      (empty.after first).counters.operations = (empty.after second).counters.operations ∧
      (empty.after first).statistics = (empty.after second).statistics ∧
      (empty.after first).operationStatistics = (empty.after second).operationStatistics ∧
      ∀ settings timestamp elapsed timestamp' elapsed',
        Summary.ofTally (empty.after first) settings timestamp elapsed =
          { Summary.ofTally (empty.after second) settings timestamp' elapsed' with
            timestamp := timestamp
            elapsed := elapsed }) ∧
    (empty.after first).Holds shifts := by
  have hholds := holds_of_interleaves hfirst
  have hrequests := hholds.requests.trans (holds_of_interleaves hsecond).requests.symm
  have husers := hholds.users.trans (holds_of_interleaves hsecond).users.symm
  obtain ⟨hoperations, hlatency, hfiled⟩ := entries_of_interleaves hfirst hsecond
  have hstatistics : (empty.after first).statistics = (empty.after second).statistics := by
    rw [statistics, hlatency, statistics]
  have hfiledStatistics : (empty.after first).operationStatistics =
      (empty.after second).operationStatistics := by
    rw [operationStatistics, hfiled, operationStatistics]
  refine ⟨⟨hrequests, husers, hoperations, hstatistics, hfiledStatistics, ?_⟩, hholds⟩
  intro settings timestamp elapsed timestamp' elapsed'
  simp only [Summary.ofTally, hrequests, husers, hoperations, hstatistics, hfiledStatistics]

end Orders

/-- Two users, of which the second fails, in turn or one inside the other while somebody looks at the
machine and at the tally: their figures are the same. -/
theorem figures_of_two_users :
    ∃ first second : List Access,
      Interleaves ([[⟨"a", 5, true⟩], [⟨"b", 3000, false⟩]].map shiftWrites) first ∧
      Interleaves ([[⟨"a", 5, true⟩], [⟨"b", 3000, false⟩]].map shiftWrites) second ∧
      (empty.after first).counters.requests = ⟨2, 1, 1, 0⟩ ∧
      (empty.after second).counters.requests = ⟨2, 1, 1, 0⟩ ∧
      (empty.after first).operationStatistics = (empty.after second).operationStatistics := by
  have through : ∀ scripts : List (List Write), scripts = [[], []] → Interleaves scripts [] := by
    rintro scripts rfl
    exact .done (by simp)
  have inTurn : Interleaves ([[⟨"a", 5, true⟩], [⟨"b", 3000, false⟩]].map shiftWrites) _ :=
    .turns (k := 0) (shiftWrites [⟨"a", 5, true⟩]) rfl
      (.turns (k := 1) (shiftWrites [⟨"b", 3000, false⟩]) rfl (through _ rfl))
  have inside : Interleaves ([[⟨"a", 5, true⟩], [⟨"b", 3000, false⟩]].map shiftWrites) _ :=
    .turns (k := 0) [.userSpawned, .requestStarted "a", .requestSucceeded] rfl
      (.machine ⟨1, 2, 3⟩ (.turns (k := 1) (shiftWrites [⟨"b", 3000, false⟩]) rfl
        (.read (.turns (k := 0) [.latency 5, .operationLatency "a" 5, .userStopped] rfl
          (through _ rfl)))))
  obtain ⟨⟨hrequests, -, -, -, hstatistics, -⟩, -⟩ := figures_of_interleaves inTurn inside
  exact ⟨_, _, inTurn, inside, rfl, hrequests.symm, hstatistics⟩

end Tally

end QuerySwarm
