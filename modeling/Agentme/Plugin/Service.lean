import Agentme.Net.Addr

/-! The shutdown signal of a service context, and the lifecycle bookkeeping of
`ManagedService`. The signal is a `tokio` watch channel of `bool`, modelled after
that channel's semantics: `borrow` reads the current value; `changed` returns at
once when a newer version is unseen, fails at once when the sender is gone, and
otherwise waits for a send. A task in `wait_for_shutdown` returns within two of
its steps once shutdown is requested; once the sender is gone while the channel
holds `false`, it never returns and never waits. -/

namespace Agentme

/-- A watch channel of `bool`: the current value, its version (one per send), and
whether the sender has been dropped. -/
structure WatchChannel where
  value : Bool
  version : Nat
  closed : Bool
  deriving DecidableEq, Repr

namespace WatchChannel

def new (init : Bool) : WatchChannel := ⟨init, 0, false⟩

/-- `Sender::send` while a receiver is alive: the value is stored as a new version. -/
def send (ch : WatchChannel) (value : Bool) : WatchChannel :=
  { ch with value := value, version := ch.version + 1 }

def dropSender (ch : WatchChannel) : WatchChannel := { ch with closed := true }

/-- One poll of `Receiver::changed` by a receiver that has seen version `seen`: `Ok`
with the newest version now seen, `Err` once the sender is gone, or `none` to wait. -/
def maybeChanged (ch : WatchChannel) (seen : Nat) : Option (Except Unit Unit × Nat) :=
  if seen ≠ ch.version then some (.ok (), ch.version)
  else if ch.closed then some (.error (), seen)
  else none

end WatchChannel

/-- The shutdown receiver of a `ServiceContext`, when it has one: the version of the
channel it has seen. `agent_did` and `config` are read by no function modelled here. -/
structure ServiceContext where
  shutdownRx : Option Nat
  deriving DecidableEq, Repr

namespace ServiceContext

def new : ServiceContext := ⟨none⟩

def withShutdownSignal (ctx : ServiceContext) (rx : Nat) : ServiceContext :=
  { ctx with shutdownRx := some rx }

/-- `is_shutdown_requested`: the channel's current value, `false` without a receiver. -/
def isShutdownRequested (ctx : ServiceContext) (ch : WatchChannel) : Bool :=
  (ctx.shutdownRx.map fun _ => ch.value).getD false

end ServiceContext

inductive WaitPc
  | test
  | changed
  | returned
  deriving DecidableEq, Repr

structure Waiter where
  pc : WaitPc
  seen : Nat
  deriving DecidableEq, Repr

/-- `wait_for_shutdown` called; without a receiver it returns at once. -/
def ServiceContext.waitForShutdown (ctx : ServiceContext) : Waiter :=
  match ctx.shutdownRx with
  | some seen => ⟨.test, seen⟩
  | none => ⟨.returned, 0⟩

namespace Waiter

/-- One step of `while !*rx.borrow() { let _ = rx.changed().await; }`; `none` where
the task cannot go on: it waits inside `changed`, or it has returned. The result of
`changed` is dropped. -/
def step (ch : WatchChannel) (w : Waiter) : Option Waiter :=
  match w.pc with
  | .test => some { w with pc := if ch.value then .returned else .changed }
  | .changed =>
    match ch.maybeChanged w.seen with
    | some (_, seen) => some ⟨.test, seen⟩
    | none => none
  | .returned => none

end Waiter

structure ShutdownSignal where
  channel : WatchChannel
  waiter : Waiter
  deriving DecidableEq, Repr

inductive SignalEvent
  | send (value : Bool)
  | dropSender
  | wait

namespace ShutdownSignal

/-- A dropped sender sends nothing more; a task that cannot go on stays where it is. -/
def step (s : ShutdownSignal) : SignalEvent → ShutdownSignal
  | .send value => if s.channel.closed then s else { s with channel := s.channel.send value }
  | .dropSender => { s with channel := s.channel.dropSender }
  | .wait =>
    match s.waiter.step s.channel with
    | some w => { s with waiter := w }
    | none => s

def run (s : ShutdownSignal) (events : List SignalEvent) : ShutdownSignal := events.foldl step s

@[simp] theorem run_nil (s : ShutdownSignal) : s.run [] = s := rfl

@[simp] theorem run_cons (s : ShutdownSignal) (e : SignalEvent) (events : List SignalEvent) :
    s.run (e :: events) = (s.step e).run events := rfl

/-- The receiver has seen no version the channel lacks, and a task inside `changed`
that has seen the newest version read `false` at its last test. -/
structure Consistent (s : ShutdownSignal) : Prop where
  seen_le : s.waiter.seen ≤ s.channel.version
  waiting_false : s.waiter.pc = .changed → s.waiter.seen = s.channel.version →
    s.channel.value = false

theorem Consistent.step {s : ShutdownSignal} (h : Consistent s) (e : SignalEvent) :
    Consistent (s.step e) := by
  obtain ⟨⟨value, version, closed⟩, ⟨pc, seen⟩⟩ := s
  obtain ⟨hle, hwait⟩ := h
  dsimp only at hle hwait
  cases e with
  | send v =>
    cases closed
    · exact ⟨by simp [ShutdownSignal.step, WatchChannel.send]; omega,
        fun _ he => by simp [ShutdownSignal.step, WatchChannel.send] at he; omega⟩
    · exact ⟨hle, hwait⟩
  | dropSender => exact ⟨hle, hwait⟩
  | wait =>
    cases pc with
    | test => cases value <;> exact ⟨hle, by simp [ShutdownSignal.step, Waiter.step]⟩
    | changed =>
      by_cases hs : seen = version
      · subst hs
        cases closed <;> constructor <;>
          simp_all [ShutdownSignal.step, Waiter.step, WatchChannel.maybeChanged]
      · constructor <;> simp [ShutdownSignal.step, Waiter.step, WatchChannel.maybeChanged, hs]
    | returned => exact ⟨hle, hwait⟩

theorem Consistent.run {s : ShutdownSignal} (h : Consistent s) (events : List SignalEvent) :
    Consistent (s.run events) := by
  induction events generalizing s with
  | nil => exact h
  | cons e events ih => exact ih (h.step e)

theorem consistent_waitForShutdown (ch : WatchChannel) {ctx : ServiceContext}
    (hrx : ∀ seen ∈ ctx.shutdownRx, seen ≤ ch.version) :
    Consistent ⟨ch, ctx.waitForShutdown⟩ := by
  unfold ServiceContext.waitForShutdown
  split
  · rename_i seen hs
    exact ⟨hrx seen hs, fun h => nomatch h⟩
  · exact ⟨Nat.zero_le _, fun h => nomatch h⟩

/-- A task that has not returned goes on while the channel holds `true`: from the test
it returns, and inside `changed` a version it has not seen is waiting for it. -/
theorem Consistent.returns_of_true {s : ShutdownSignal} (h : Consistent s)
    (hv : s.channel.value = true) : ((s.step .wait).step .wait).waiter.pc = .returned := by
  obtain ⟨⟨value, version, closed⟩, ⟨pc, seen⟩⟩ := s
  obtain ⟨-, hwait⟩ := h
  dsimp only at hv hwait
  subst hv
  cases pc with
  | test | returned => simp [ShutdownSignal.step, Waiter.step]
  | changed =>
    have hs : seen ≠ version := fun he => by simpa using hwait rfl he
    simp [ShutdownSignal.step, Waiter.step, WatchChannel.maybeChanged, hs]

/-- The sender is gone, the channel holds `false`, and the task has not returned. -/
def Stuck (s : ShutdownSignal) : Prop :=
  s.channel.closed = true ∧ s.channel.value = false ∧ s.waiter.pc ≠ .returned

theorem Stuck.step {s : ShutdownSignal} (h : Stuck s) (e : SignalEvent) : Stuck (s.step e) := by
  obtain ⟨⟨value, version, closed⟩, ⟨pc, seen⟩⟩ := s
  obtain ⟨hc, hv, hpc⟩ := h
  dsimp only at hc hv hpc
  subst hc hv
  cases e with
  | send v | dropSender => exact ⟨rfl, rfl, hpc⟩
  | wait =>
    cases pc with
    | test => exact ⟨rfl, rfl, by simp [ShutdownSignal.step, Waiter.step]⟩
    | changed =>
      by_cases hs : seen = version <;>
        simp [Stuck, ShutdownSignal.step, Waiter.step, WatchChannel.maybeChanged, hs]
    | returned => exact absurd rfl hpc

theorem Stuck.run {s : ShutdownSignal} (h : Stuck s) (events : List SignalEvent) :
    Stuck (s.run events) := by
  induction events generalizing s with
  | nil => exact h
  | cons e events ih => exact ih (h.step e)

theorem Stuck.step_isSome {s : ShutdownSignal} (h : Stuck s) : (s.waiter.step s.channel).isSome := by
  obtain ⟨⟨value, version, closed⟩, ⟨pc, seen⟩⟩ := s
  obtain ⟨hc, -, hpc⟩ := h
  dsimp only at hc hpc
  cases pc with
  | test => rfl
  | changed =>
    by_cases hs : seen = version <;> simp [Waiter.step, WatchChannel.maybeChanged, hs, hc]
  | returned => exact absurd rfl hpc

end ShutdownSignal

open ShutdownSignal in
/-- Under every interleaving of sends, a dropped sender and steps of the task, once
`is_shutdown_requested` would return `true` on a context, a task in
`wait_for_shutdown` on that context returns within two of its own steps. -/
theorem wait_for_shutdown_returns_when_requested (ch : WatchChannel) (ctx : ServiceContext)
    (hrx : ∀ seen ∈ ctx.shutdownRx, seen ≤ ch.version) (events : List SignalEvent) :
    let s : ShutdownSignal := (ShutdownSignal.mk ch ctx.waitForShutdown).run events
    ctx.isShutdownRequested s.channel = true →
      ((s.step .wait).step .wait).waiter.pc = .returned := by
  intro s hreq
  have hv : s.channel.value = true := by
    unfold ServiceContext.isShutdownRequested at hreq
    cases h : ctx.shutdownRx <;> simp_all
  exact ((consistent_waitForShutdown ch hrx).run events).returns_of_true hv

theorem wait_for_shutdown_returns_after_send :
    let s : ShutdownSignal := (ShutdownSignal.mk (WatchChannel.new false)
      (ServiceContext.new.withShutdownSignal 0).waitForShutdown).run [.wait, .send true]
    ((s.step .wait).step .wait).waiter.pc = .returned :=
  wait_for_shutdown_returns_when_requested (WatchChannel.new false)
    (ServiceContext.new.withShutdownSignal 0)
    (by simp [ServiceContext.withShutdownSignal, WatchChannel.new]) [.wait, .send true] (by decide)

open ShutdownSignal in
/-- Once the sender is gone while the channel holds `false`, a task in
`wait_for_shutdown` that has not returned never returns, whatever happens later, and
can always take another step: each `changed` it awaits is ready at once, so the loop
spins instead of waiting. -/
theorem wait_for_shutdown_spins_after_sender_dropped (s : ShutdownSignal)
    (hclosed : s.channel.closed = true) (hfalse : s.channel.value = false)
    (hpc : s.waiter.pc ≠ .returned) (events : List SignalEvent) :
    (s.run events).waiter.pc ≠ .returned ∧
      ((s.run events).waiter.step (s.run events).channel).isSome := by
  have h := Stuck.run ⟨hclosed, hfalse, hpc⟩ events
  exact ⟨h.2.2, h.step_isSome⟩

theorem wait_for_shutdown_spins_without_sender :
    let s : ShutdownSignal := ⟨(WatchChannel.new false).dropSender,
      (ServiceContext.new.withShutdownSignal 0).waitForShutdown⟩
    (s.run [.wait, .wait, .wait]).waiter.pc ≠ .returned ∧
      ((s.run [.wait, .wait, .wait]).waiter.step (s.run [.wait, .wait, .wait]).channel).isSome :=
  wait_for_shutdown_spins_after_sender_dropped _ rfl rfl (by decide) _

/-! ### `ManagedService` -/

/-- The lifecycle fields of `ManagedService`: `started_at`, and the channel of its
shutdown sender, whose receiver it keeps so that every send succeeds. -/
structure ManagedService where
  startedAt : Option Nat
  shutdown : WatchChannel
  deriving DecidableEq, Repr

/-- A call on a `ManagedService`, at the instant `Instant::now()` reads. -/
inductive ManagedCall
  | start (now : Nat)
  | stop
  | uptimeSeconds (now : Nat)
  deriving DecidableEq, Repr

namespace ManagedService

def new : ManagedService := ⟨none, WatchChannel.new false⟩

/-- `start`: marks the service started; the context is not used, and `Ok` is returned. -/
def start (s : ManagedService) (now : Nat) : ManagedService := { s with startedAt := some now }

/-- `stop`: sends `true` on the shutdown channel, then clears `started_at`; returns `Ok`. -/
def stop (s : ManagedService) : ManagedService := ⟨none, s.shutdown.send true⟩

def uptimeSeconds (s : ManagedService) (now : Nat) : Option Nat :=
  s.startedAt.map fun t => (now - t) / nanosPerSec

def step (s : ManagedService) : ManagedCall → ManagedService
  | .start now => s.start now
  | .stop => s.stop
  | .uptimeSeconds _ => s

def run (s : ManagedService) (calls : List ManagedCall) : ManagedService := calls.foldl step s

theorem run_append (s : ManagedService) (calls : List ManagedCall) (c : ManagedCall) :
    s.run (calls ++ [c]) = (s.run calls).step c := by
  simp [run]

end ManagedService

def ManagedCall.isLifecycle : ManagedCall → Bool
  | .uptimeSeconds _ => false
  | _ => true

/-- The instant of the last `start` among the `start` and `stop` calls, when the last
of them is a `start`. -/
def lastStart (calls : List ManagedCall) : Option Nat :=
  match (calls.filter ManagedCall.isLifecycle).getLast? with
  | some (.start t) => some t
  | _ => none

theorem startedAt_run (calls : List ManagedCall) :
    (ManagedService.new.run calls).startedAt = lastStart calls := by
  induction calls using List.reverseRecOn with
  | nil => rfl
  | append_singleton calls c ih =>
    rw [ManagedService.run_append]
    cases c <;> simp [ManagedService.step, ManagedService.start, ManagedService.stop, lastStart,
      ManagedCall.isLifecycle, List.filter_append, ih]

theorem shutdown_run (s : ManagedService) (calls : List ManagedCall) :
    (s.run calls).shutdown.value = (s.shutdown.value || calls.contains .stop) ∧
      (s.run calls).shutdown.version = s.shutdown.version + calls.count .stop := by
  induction calls generalizing s with
  | nil => simp [ManagedService.run]
  | cons c calls ih =>
    obtain ⟨hv, hn⟩ := ih (s.step c)
    simp only [ManagedService.run, List.foldl_cons] at hv hn ⊢
    rw [hv, hn]
    cases c <;> simp [ManagedService.step, ManagedService.start, ManagedService.stop,
      WatchChannel.send, List.count_cons]
    omega

/-- Along every run of calls from `ManagedService::new`, `uptime_seconds` counts from
the last `start` unless a `stop` came after it; and the shutdown channel holds `true`
from the first `stop` on, with one version per `stop`. `start` never clears it, so
after a `stop` and a later `start` the service reports an uptime while its shutdown
signal is set. -/
theorem managed_service_lifecycle (calls : List ManagedCall) (now : Nat) :
    let s : ManagedService := ManagedService.new.run calls
    s.uptimeSeconds now = (lastStart calls).map (fun t => (now - t) / nanosPerSec) ∧
      (s.shutdown.value = true ↔ ManagedCall.stop ∈ calls) ∧
      s.shutdown.version = calls.count .stop := by
  obtain ⟨hv, hn⟩ := shutdown_run ManagedService.new calls
  refine ⟨by rw [ManagedService.uptimeSeconds, startedAt_run], ?_, ?_⟩
  · rw [hv]
    simp [ManagedService.new, WatchChannel.new]
  · simpa [ManagedService.new, WatchChannel.new] using hn

end Agentme
