import Agentme.Plugin.Error

/-! Actions and the statistics wrapper under concurrent calls. Each counter sits
behind its own lock: the counters always count the calls exactly, but `stats`
reads them one at a time and can see more errors than executions. -/

namespace Agentme

variable {J : Type}

structure ActionResult (J : Type) where
  success : Bool
  output : J
  durationMs : Nat
  error : Option String
  metadata : AList (fun _ : String => J)

def ActionResult.withDuration (r : ActionResult J) (durationMs : Nat) : ActionResult J :=
  { r with durationMs := durationMs }

/-- `ActionStats`; the `f64` success rate is kept as an exact rational. -/
structure ActionStats where
  executionCount : Nat
  averageDurationMs : Nat
  errorCount : Nat
  successRate : ℚ
  deriving DecidableEq

/-- The counters of a `TrackedAction`, each a `u64` behind its own `RwLock`. -/
structure TrackedAction where
  executionCount : Nat
  totalDurationMs : Nat
  errorCount : Nat
  deriving DecidableEq

namespace TrackedAction

def new : TrackedAction := ⟨0, 0, 0⟩

/-- The body of `stats` on the values its three reads returned; `none` where the
`u64` subtraction `execution_count - error_count` underflows. -/
def stats (executionCount totalDurationMs errorCount : Nat) : Option ActionStats :=
  if executionCount > 0 then
    if errorCount ≤ executionCount then
      some ⟨executionCount, totalDurationMs / executionCount, errorCount,
        ((executionCount - errorCount : Nat) : ℚ) / executionCount * 100⟩
    else none
  else some ⟨executionCount, 0, errorCount, 100⟩

theorem stats_isSome_iff (executionCount totalDurationMs errorCount : Nat) :
    (stats executionCount totalDurationMs errorCount).isSome ↔
      executionCount = 0 ∨ errorCount ≤ executionCount := by
  unfold stats
  split_ifs <;> simp <;> omega

end TrackedAction

/-- A call on one `TrackedAction`: `execute_tracked`, given what its inner `execute`
returns and the milliseconds that takes, or `stats`. -/
inductive ActionCall (J : Type) where
  | executeTracked (result : Except PluginError (ActionResult J)) (duration : Nat)
  | stats

/-- A call in progress. `execute_tracked` is at lock step `pc`: 0 before
`execution_count`, 1 before `total_duration_ms`, 2 before `error_count`, 3 returned.
`stats` holds the values its reads returned so far. -/
inductive Task (J : Type) where
  | executeTracked (result : Except PluginError (ActionResult J)) (duration pc : Nat)
  | stats (reads : List Nat)

def ActionCall.start : ActionCall J → Task J
  | .executeTracked result duration => .executeTracked result duration 0
  | .stats => .stats []

namespace Task

def step : Task J → TrackedAction → Task J × TrackedAction
  | .executeTracked r d 0, a => (.executeTracked r d 1, { a with executionCount := a.executionCount + 1 })
  | .executeTracked r d 1, a => (.executeTracked r d 2, { a with totalDurationMs := a.totalDurationMs + d })
  | .executeTracked r d 2, a =>
    (.executeTracked r d 3, if r.isOk then a else { a with errorCount := a.errorCount + 1 })
  | .executeTracked r d (n + 3), a => (.executeTracked r d (n + 3), a)
  | .stats [], a => (.stats [a.executionCount], a)
  | .stats [e], a => (.stats [e, a.totalDurationMs], a)
  | .stats [e, t], a => (.stats [e, t, a.errorCount], a)
  | .stats reads, a => (.stats reads, a)

inductive Reply (J : Type) where
  | executed (r : Except PluginError (ActionResult J))
  | stats (s : Option ActionStats)

def reply : Task J → Option (Reply J)
  | .executeTracked r d (_ + 3) => some (.executed (r.map (·.withDuration d)))
  | .stats [e, t, er] => some (.stats (TrackedAction.stats e t er))
  | _ => none

/-- The calls this task has added to `execution_count`. -/
def executions : Task J → Nat
  | .executeTracked _ _ pc => if 0 < pc then 1 else 0
  | .stats _ => 0

/-- The milliseconds this task has added to `total_duration_ms`. -/
def durationAdded : Task J → Nat
  | .executeTracked _ d pc => if 1 < pc then d else 0
  | .stats _ => 0

/-- The failures this task has added to `error_count`. -/
def errors : Task J → Nat
  | .executeTracked r _ pc => if 2 < pc ∧ r.isOk = false then 1 else 0
  | .stats _ => 0

/-- What one step adds to each counter is what the task has then added more. -/
theorem step_counters (t : Task J) (a : TrackedAction) :
    (t.step a).2.executionCount + t.executions = a.executionCount + (t.step a).1.executions ∧
    (t.step a).2.totalDurationMs + t.durationAdded = a.totalDurationMs + (t.step a).1.durationAdded ∧
    (t.step a).2.errorCount + t.errors = a.errorCount + (t.step a).1.errors := by
  match t with
  | .executeTracked r d 0 | .executeTracked r d 1 => simp [step, executions, durationAdded, errors]
  | .executeTracked r d 2 => cases r <;> simp [step, executions, durationAdded, errors, Except.isOk,
      Except.toBool]
  | .executeTracked r d (n + 3) => simp [step, executions, durationAdded, errors]
  | .stats [] | .stats [_] | .stats [_, _] | .stats (_ :: _ :: _ :: _) =>
    simp [step, executions, durationAdded, errors]

theorem errors_le_executions (t : Task J) : t.errors ≤ t.executions := by
  cases t with
  | executeTracked r d pc => simp only [errors, executions]; split_ifs <;> omega
  | stats => exact le_rfl

end Task

structure TrackedState (J : Type) where
  action : TrackedAction
  tasks : List (Task J)

namespace TrackedState

def start (calls : List (ActionCall J)) : TrackedState J := ⟨.new, calls.map ActionCall.start⟩

/-- Task `i` takes its next lock step; an index past the tasks changes nothing. -/
def step (s : TrackedState J) (i : Nat) : TrackedState J :=
  match s.tasks[i]? with
  | some t => ⟨(t.step s.action).2, s.tasks.set i (t.step s.action).1⟩
  | none => s

def run (s : TrackedState J) (schedule : List Nat) : TrackedState J := schedule.foldl step s

end TrackedState

theorem sum_map_set_add {α : Type} (f : α → Nat) (l : List α) (i : Nat) (x : α) (h : i < l.length) :
    ((l.set i x).map f).sum + f l[i] = (l.map f).sum + f x := by
  induction l generalizing i with
  | nil => exact absurd h (Nat.not_lt_zero _)
  | cons y l ih =>
    cases i with
    | zero => simp; omega
    | succ i =>
      have := ih i (Nat.lt_of_succ_lt_succ h)
      simp only [List.set_cons_succ, List.map_cons, List.sum_cons, List.getElem_cons_succ]
      omega

namespace TrackedState

/-- Each counter is the total of what the calls have added to it. -/
structure Counted (s : TrackedState J) : Prop where
  executionCount_eq : s.action.executionCount = (s.tasks.map Task.executions).sum
  totalDurationMs_eq : s.action.totalDurationMs = (s.tasks.map Task.durationAdded).sum
  errorCount_eq : s.action.errorCount = (s.tasks.map Task.errors).sum

theorem sum_map_start {f : Task J → Nat} (hf : ∀ c : ActionCall J, f c.start = 0)
    (calls : List (ActionCall J)) : ((calls.map ActionCall.start).map f).sum = 0 := by
  simp [Function.comp_def, hf]

theorem counted_start (calls : List (ActionCall J)) : Counted (start calls) :=
  have hf : ∀ f : Task J → Nat, (∀ c : ActionCall J, f c.start = 0) →
      ((start calls).tasks.map f).sum = 0 := fun _ hf => sum_map_start hf calls
  ⟨(hf _ fun c => by cases c <;> rfl).symm, (hf _ fun c => by cases c <;> rfl).symm,
    (hf _ fun c => by cases c <;> rfl).symm⟩

theorem Counted.step {s : TrackedState J} (h : Counted s) (i : Nat) : Counted (s.step i) := by
  unfold TrackedState.step
  split
  · rename_i t ht
    obtain ⟨hi, rfl⟩ := List.getElem?_eq_some_iff.mp ht
    obtain ⟨he, hd, hr⟩ := Task.step_counters s.tasks[i] s.action
    have hs := fun f => sum_map_set_add f s.tasks i (s.tasks[i].step s.action).1 hi
    refine ⟨?_, ?_, ?_⟩
    · have := hs Task.executions; have := h.executionCount_eq; dsimp only; omega
    · have := hs Task.durationAdded; have := h.totalDurationMs_eq; dsimp only; omega
    · have := hs Task.errors; have := h.errorCount_eq; dsimp only; omega
  · exact h

theorem Counted.run {s : TrackedState J} (h : Counted s) (schedule : List Nat) :
    Counted (s.run schedule) := by
  induction schedule generalizing s with
  | nil => exact h
  | cons i is ih => exact ih (h.step i)

theorem Counted.errorCount_le {s : TrackedState J} (h : Counted s) :
    s.action.errorCount ≤ s.action.executionCount := by
  rw [h.errorCount_eq, h.executionCount_eq]
  exact List.sum_le_sum fun t _ => Task.errors_le_executions t

end TrackedState

open TrackedState in
/-- Under every interleaving of the lock steps, each counter is the total of what
the calls have added to it, so the counters themselves never show more errors than
executions and a `stats` whose three reads are not interleaved never underflows. -/
theorem tracked_counters_count_calls (calls : List (ActionCall J)) (schedule : List Nat) :
    let s := (start calls).run schedule
    s.action.executionCount = (s.tasks.map Task.executions).sum ∧
      s.action.totalDurationMs = (s.tasks.map Task.durationAdded).sum ∧
      s.action.errorCount = (s.tasks.map Task.errors).sum ∧
      s.action.errorCount ≤ s.action.executionCount ∧
      (TrackedAction.stats s.action.executionCount s.action.totalDurationMs s.action.errorCount).isSome := by
  have h := (counted_start calls).run schedule
  exact ⟨h.executionCount_eq, h.totalDurationMs_eq, h.errorCount_eq, h.errorCount_le,
    (TrackedAction.stats_isSome_iff _ _ _).mpr (.inr h.errorCount_le)⟩

open TrackedState in
/-- `stats` reads `execution_count` after one failing `execute_tracked` and
`error_count` after a second: it reads 1 execution and 2 errors, and the
subtraction underflows, though the counters then hold 2 and 2. -/
theorem stats_reads_more_errors_than_executions :
    let boom : ActionCall Unit := .executeTracked (.error (.actionFailed "boom" "failed")) 0
    let s := (start [.stats, boom, boom]).run [1, 1, 1, 0, 2, 2, 2, 0, 0]
    s.tasks[0]? = some (.stats [1, 0, 2]) ∧ TrackedAction.stats 1 0 2 = none ∧ s.action = ⟨2, 0, 2⟩ :=
  ⟨rfl, rfl, rfl⟩

end Agentme
