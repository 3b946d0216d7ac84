import Agentme.Net.Addr

/-! The total connection tracker: the set of connected addresses under a hard
limit. Adding an address that is already tracked succeeds and changes nothing. -/

namespace Agentme

structure ConnectionTracker where
  connections : Finset IpAddr
  maxConnections : Nat

namespace ConnectionTracker

def new (maxConnections : Nat) : ConnectionTracker := ⟨∅, maxConnections⟩

def canAcceptConnection (t : ConnectionTracker) : Bool :=
  t.connections.card < t.maxConnections

def limitError (maxConnections : Nat) : Error :=
  .network ("Connection limit exceeded: maximum " ++ toString maxConnections ++
    " connections allowed")

def addConnection (t : ConnectionTracker) (ip : IpAddr) : Except Error Unit × ConnectionTracker :=
  if ip ∈ t.connections then (.ok (), t)
  else if t.connections.card ≥ t.maxConnections then (.error (limitError t.maxConnections), t)
  else (.ok (), { t with connections := insert ip t.connections })

def removeConnection (t : ConnectionTracker) (ip : IpAddr) : ConnectionTracker :=
  { t with connections := t.connections.erase ip }

def hasConnection (t : ConnectionTracker) (ip : IpAddr) : Bool := ip ∈ t.connections

def currentCount (t : ConnectionTracker) : Nat := t.connections.card

def remainingCapacity (t : ConnectionTracker) : Nat := t.maxConnections - t.connections.card

def step (t : ConnectionTracker) : TrackerCall → ConnectionTracker
  | .add ip => (t.addConnection ip).2
  | .remove ip => t.removeConnection ip

def run (t : ConnectionTracker) (calls : List TrackerCall) : ConnectionTracker :=
  calls.foldl step t

variable {t : ConnectionTracker} {ip : IpAddr}

theorem addConnection_of_mem (h : ip ∈ t.connections) : t.addConnection ip = (.ok (), t) :=
  if_pos h

theorem addConnection_of_lt (h : ip ∉ t.connections) (hc : t.connections.card < t.maxConnections) :
    t.addConnection ip = (.ok (), { t with connections := insert ip t.connections }) := by
  simp [addConnection, h, Nat.not_le.mpr hc]

/-- The three outcomes of `add_connection`, with their guards. -/
theorem addConnection_cases (t : ConnectionTracker) (ip : IpAddr) :
    (ip ∈ t.connections ∧ t.addConnection ip = (.ok (), t)) ∨
    (ip ∉ t.connections ∧ t.maxConnections ≤ t.connections.card ∧
      t.addConnection ip = (.error (limitError t.maxConnections), t)) ∨
    (ip ∉ t.connections ∧ t.connections.card < t.maxConnections ∧
      t.addConnection ip = (.ok (), { t with connections := insert ip t.connections })) := by
  by_cases hm : ip ∈ t.connections
  · exact .inl ⟨hm, addConnection_of_mem hm⟩
  · rcases Nat.lt_or_ge t.connections.card t.maxConnections with hc | hc
    · exact .inr (.inr ⟨hm, hc, addConnection_of_lt hm hc⟩)
    · exact .inr (.inl ⟨hm, hc, by simp [addConnection, hm, hc]⟩)

@[simp] theorem maxConnections_step (c : TrackerCall) :
    (t.step c).maxConnections = t.maxConnections := by
  cases c with
  | add ip => simp only [step, addConnection]; split_ifs <;> rfl
  | remove ip => rfl

/-- The tracked set never exceeds the limit. -/
theorem card_le_step (h : t.connections.card ≤ t.maxConnections) (c : TrackerCall) :
    (t.step c).connections.card ≤ (t.step c).maxConnections := by
  rw [maxConnections_step]
  cases c with
  | add ip =>
    rcases addConnection_cases t ip with ⟨-, h'⟩ | ⟨-, -, h'⟩ | ⟨hm, hc, h'⟩
    · simpa [step, h'] using h
    · simpa [step, h'] using h
    · simpa [step, h', Finset.card_insert_of_not_mem hm] using hc
  | remove ip => exact (Finset.card_erase_le).trans h

theorem card_le_run (h : t.connections.card ≤ t.maxConnections) (calls : List TrackerCall) :
    (t.run calls).connections.card ≤ (t.run calls).maxConnections := by
  induction calls generalizing t with
  | nil => exact h
  | cons c cs ih => exact ih (card_le_step h c)

theorem maxConnections_run (calls : List TrackerCall) :
    (t.run calls).maxConnections = t.maxConnections := by
  induction calls generalizing t with
  | nil => rfl
  | cons c cs ih => exact ih.trans (maxConnections_step c)

end ConnectionTracker

open ConnectionTracker in
/-- In every state reachable from `ConnectionTracker::new(m)` the tracked set has
at most `m` addresses; `add_connection` is idempotent on a tracked address, fails
and changes nothing exactly when the address is new and the set is full, and
otherwise inserts it; removing an untracked address changes nothing; and the
count and the remaining capacity add up to `m`. -/
theorem connection_tracker_contract (m : Nat) (calls : List TrackerCall) :
    let t := (ConnectionTracker.new m).run calls
    t.currentCount ≤ m ∧
    (∀ ip, ip ∈ t.connections → t.addConnection ip = (.ok (), t)) ∧
    (∀ ip, (t.addConnection ip).1 ≠ .ok () ↔ ip ∉ t.connections ∧ t.currentCount = m) ∧
    (∀ ip, (t.addConnection ip).1 ≠ .ok () → (t.addConnection ip).2 = t) ∧
    (∀ ip, ip ∉ t.connections → t.currentCount < m →
      t.addConnection ip = (.ok (), { t with connections := insert ip t.connections })) ∧
    (∀ ip, ip ∉ t.connections → t.removeConnection ip = t) ∧
    t.currentCount + t.remainingCapacity = m := by
  intro t
  have hmax : t.maxConnections = m := maxConnections_run calls
  have hle : t.connections.card ≤ m := hmax ▸ card_le_run (Nat.zero_le _) calls
  refine ⟨hle, fun ip h => addConnection_of_mem h, fun ip => ?_, fun ip => ?_,
    fun ip h hc => addConnection_of_lt h (hmax ▸ hc), fun ip h => ?_, ?_⟩
  · rcases addConnection_cases t ip with ⟨hm, h⟩ | ⟨hm, hc, h⟩ | ⟨hm, hc, h⟩
    · simp [h, hm]
    · simp [h, hm, currentCount]; omega
    · simp [h, hm, currentCount]; omega
  · rcases addConnection_cases t ip with ⟨-, h⟩ | ⟨-, -, h⟩ | ⟨-, -, h⟩ <;> simp [h]
  · simp [removeConnection, Finset.erase_eq_of_not_mem h]
  · simp only [remainingCapacity, currentCount]; omega

end Agentme
