import QuerySwarm.Proofs.Tally.Orders
import QuerySwarm.Sample

/-!
# The load in a tally

What a tally tells of the load: how many users and requests were started, how many of them for each
task, and how long they took. Whether requests went well leaves no trace in it, and the order of the
writes leaves none either (`Tally.Load.foldl_add_perm`).
-/

namespace QuerySwarm

namespace Tally

/-- The part of a tally in which a success and a failure are the same. -/
structure Load where
  spawned : Nat
  started : Nat
  requests : String → Nat
  latency : Histogram
  operationLatency : SortedMap String Histogram

def load (t : Tally) : Load :=
  ⟨t.counters.users.spawned, t.counters.requests.started, t.requestsOf, t.latency,
    t.operationLatency⟩

namespace Load

def none : Load := ⟨0, 0, fun _ => 0, .empty, .empty⟩

def add (l : Load) (w : Write) : Load where
  spawned := l.spawned + w.spawns.toNat
  started := l.started + w.starts.toNat
  requests operation := l.requests operation + (w.startsIn operation).toNat
  latency := recordIn l.latency w
  operationLatency := fileIn l.operationLatency w

theorem add_comm (l : Load) (v w : Write) : (l.add v).add w = (l.add w).add v := by
  simp only [add, recordIn_comm l.latency v w, fileIn_comm l.operationLatency v w,
    Nat.add_right_comm _ v.spawns.toNat, Nat.add_right_comm _ v.starts.toNat,
    Nat.add_right_comm _ (v.startsIn _).toNat]

/-- Writes in another order come to the same load. -/
theorem foldl_add_perm {first second : List Write} (perm : first.Perm second) (l : Load) :
    first.foldl add l = second.foldl add l :=
  perm.foldl_eq' (fun v _ w _ l => add_comm l v w) l

theorem started_foldl_add (writes : List Write) (l : Load) :
    (writes.foldl add l).started = l.started + writes.countP Write.starts := by
  induction writes generalizing l with
  | nil => rfl
  | cons w rest ih =>
    rw [List.foldl_cons, ih, List.countP_cons]
    show l.started + w.starts.toNat + _ = _
    cases w.starts
    · simp
    · simp [Nat.add_assoc, Nat.add_comm 1]

end Load

theorem load_write (t : Tally) (w : Write) : (t.write w).load = t.load.add w := by
  simp only [load, Load.add, spawned_write, started_write, latency_write, operationLatency_write]
  congr 1
  funext operation
  exact requestsOf_write t w operation

theorem load_writeAll (t : Tally) (writes : List Write) :
    (t.writeAll writes).load = writes.foldl Load.add t.load :=
  part_writeAll load Load.add load_write writes t

end Tally

/-- A sample is recorded in the same way whatever came of it. -/
theorem Outcome.load_record (o : Outcome) (operation : String) (milliseconds : Nat) (t : Tally) :
    (o.record operation milliseconds t).load =
      (t.load.add (.latency milliseconds)).add (.operationLatency operation milliseconds) := by
  unfold Outcome.record
  split
  · exact Tally.load_writeAll t (Tally.successWrites operation milliseconds)
  · exact Tally.load_writeAll t (Tally.failureWrites operation milliseconds)

end QuerySwarm
