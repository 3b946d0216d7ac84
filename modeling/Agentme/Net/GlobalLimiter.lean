import Agentme.Net.Addr

/-! The global sliding-window limiter on new connections. Along calls at
non-decreasing instants it answers as the window law over the admissions granted
so far, though it prunes its timestamps only when it records. -/

namespace Agentme

/-- `DEFAULT_MAX_CONNECTIONS_PER_MINUTE`. -/
def defaultMaxConnectionsPerMinute : Nat := 10

/-- `now.duration_since(t) < window_duration`: the admission at `t` still counts at `now`. -/
def inWindow (windowDuration now t : Nat) : Bool := decide (now - t < windowDuration)

structure GlobalConnectionRateLimiter where
  connectionTimes : List Nat
  maxPerWindow : Nat
  windowDuration : Nat

namespace GlobalConnectionRateLimiter

def new (maxPerMinute : Nat) : GlobalConnectionRateLimiter := ⟨[], maxPerMinute, durationFromSecs 60⟩

def withWindow (maxPerWindow windowDuration : Nat) : GlobalConnectionRateLimiter :=
  ⟨[], maxPerWindow, windowDuration⟩

def cleanupExpired (l : GlobalConnectionRateLimiter) (now : Nat) : GlobalConnectionRateLimiter :=
  { l with connectionTimes := l.connectionTimes.filter (inWindow l.windowDuration now) }

def canAcceptNewConnection (l : GlobalConnectionRateLimiter) (now : Nat) : Bool :=
  l.connectionTimes.countP (inWindow l.windowDuration now) < l.maxPerWindow

/-- Prunes the expired timestamps, then admits if fewer than the maximum remain. -/
def recordNewConnection (l : GlobalConnectionRateLimiter) (now : Nat) :
    Bool × GlobalConnectionRateLimiter :=
  let l := l.cleanupExpired now
  if l.connectionTimes.length ≥ l.maxPerWindow then (false, l)
  else (true, { l with connectionTimes := l.connectionTimes ++ [now] })

def currentCount (l : GlobalConnectionRateLimiter) (now : Nat) : Nat :=
  l.connectionTimes.countP (inWindow l.windowDuration now)

def remainingCapacity (l : GlobalConnectionRateLimiter) (now : Nat) : Nat :=
  l.maxPerWindow - l.currentCount now

end GlobalConnectionRateLimiter

/-- A call on the global limiter; it happens at the instant paired with it. -/
inductive WindowCall where
  | recordNewConnection
  | canAcceptNewConnection
  | currentCount
  | remainingCapacity
  deriving DecidableEq

inductive WindowReply where
  | admitted (b : Bool)
  | count (n : Nat)
  deriving DecidableEq

namespace GlobalConnectionRateLimiter

def step (l : GlobalConnectionRateLimiter) (now : Nat) :
    WindowCall → WindowReply × GlobalConnectionRateLimiter
  | .recordNewConnection =>
    let r := l.recordNewConnection now
    (.admitted r.1, r.2)
  | .canAcceptNewConnection => (.admitted (l.canAcceptNewConnection now), l)
  | .currentCount => (.count (l.currentCount now), l)
  | .remainingCapacity => (.count (l.remainingCapacity now), l)

def run (l : GlobalConnectionRateLimiter) (calls : List (Nat × WindowCall)) :
    GlobalConnectionRateLimiter :=
  calls.foldl (fun l c => (l.step c.1 c.2).2) l

/-- The instants at which `record_new_connection` returned `true` along `calls`. -/
def admissions (l : GlobalConnectionRateLimiter) : List (Nat × WindowCall) → List Nat
  | [] => []
  | (now, c) :: cs =>
    (if (l.step now c).1 = .admitted true ∧ c = .recordNewConnection then [now] else []) ++
      admissions (l.step now c).2 cs

end GlobalConnectionRateLimiter

/-- The window law: what a call at `now` answers when `admitted` are the instants
of the admissions granted so far, counting those `a` with `now - a < windowDuration`. -/
def windowLaw (maxPerWindow windowDuration : Nat) (admitted : List Nat) (now : Nat) :
    WindowCall → WindowReply
  | .recordNewConnection | .canAcceptNewConnection =>
    .admitted (decide (admitted.countP (fun a => decide (now - a < windowDuration)) < maxPerWindow))
  | .currentCount => .count (admitted.countP fun a => decide (now - a < windowDuration))
  | .remainingCapacity =>
    .count (maxPerWindow - admitted.countP fun a => decide (now - a < windowDuration))

/-- The limiter's `inWindow` is the law's window test. -/
theorem countP_inWindow (w now : Nat) (l : List Nat) :
    l.countP (inWindow w now) = l.countP fun a => decide (now - a < w) := rfl

theorem inWindow_of_le {w t t' a : Nat} (hle : t ≤ t') (h : inWindow w t' a) : inWindow w t a := by
  simp only [inWindow, decide_eq_true_eq] at h ⊢
  omega

theorem countP_filter_inWindow {w t t' : Nat} (hle : t ≤ t') (l : List Nat) :
    (l.filter (inWindow w t)).countP (inWindow w t') = l.countP (inWindow w t') := by
  rw [List.countP_filter]
  refine List.countP_congr fun a _ => ?_
  cases h : inWindow w t' a
  · simp [h]
  · simp [h, inWindow_of_le hle h]

namespace GlobalConnectionRateLimiter

variable {l : GlobalConnectionRateLimiter} {admitted : List Nat} {last now : Nat}

@[simp] theorem maxPerWindow_step (c : WindowCall) :
    (l.step now c).2.maxPerWindow = l.maxPerWindow := by
  cases c <;> simp only [step, recordNewConnection, cleanupExpired]
  split <;> rfl

@[simp] theorem windowDuration_step (c : WindowCall) :
    (l.step now c).2.windowDuration = l.windowDuration := by
  cases c <;> simp only [step, recordNewConnection, cleanupExpired]
  split <;> rfl

theorem recordNewConnection_of_lt (l : GlobalConnectionRateLimiter) (now : Nat)
    (h : (l.cleanupExpired now).connectionTimes.length < l.maxPerWindow) :
    l.recordNewConnection now = (true, { l.cleanupExpired now with
      connectionTimes := (l.cleanupExpired now).connectionTimes ++ [now] }) := by
  simp only [recordNewConnection, ge_iff_le]
  exact if_neg (Nat.not_le.mpr h)

theorem recordNewConnection_of_le (l : GlobalConnectionRateLimiter) (now : Nat)
    (h : l.maxPerWindow ≤ (l.cleanupExpired now).connectionTimes.length) :
    l.recordNewConnection now = (false, l.cleanupExpired now) := by
  simp only [recordNewConnection, ge_iff_le]
  exact if_pos h

@[simp] theorem maxPerWindow_run (calls : List (Nat × WindowCall)) :
    (l.run calls).maxPerWindow = l.maxPerWindow := by
  induction calls generalizing l with
  | nil => rfl
  | cons c cs ih => exact ih.trans (maxPerWindow_step c.2)

@[simp] theorem windowDuration_run (calls : List (Nat × WindowCall)) :
    (l.run calls).windowDuration = l.windowDuration := by
  induction calls generalizing l with
  | nil => rfl
  | cons c cs ih => exact ih.trans (windowDuration_step c.2)

/-- The stored timestamps agree with the admissions `admitted` on every window
ending at `last` or later, and no window holds more admissions than the maximum. -/
structure Agrees (l : GlobalConnectionRateLimiter) (admitted : List Nat) (last : Nat) : Prop where
  window_eq : ∀ t, last ≤ t → l.connectionTimes.countP (inWindow l.windowDuration t) =
    admitted.countP (inWindow l.windowDuration t)
  length_le : l.connectionTimes.length ≤ l.maxPerWindow
  admitted_le : ∀ a ∈ admitted, a ≤ last
  bounded : ∀ t, admitted.countP (fun a => decide (a ≤ t ∧ t - a < l.windowDuration)) ≤
    l.maxPerWindow

theorem agrees_withWindow (maxPerWindow windowDuration : Nat) :
    Agrees (withWindow maxPerWindow windowDuration) [] 0 :=
  ⟨fun _ _ => rfl, Nat.zero_le _, fun _ h => absurd h (List.not_mem_nil _), fun _ => Nat.zero_le _⟩

theorem Agrees.mono (h : Agrees l admitted last) (hle : last ≤ now) : Agrees l admitted now :=
  ⟨fun t ht => h.window_eq t (hle.trans ht), h.length_le,
    fun a ha => (h.admitted_le a ha).trans hle, h.bounded⟩

theorem Agrees.cleanupExpired (h : Agrees l admitted last) (hle : last ≤ now) :
    Agrees (l.cleanupExpired now) admitted now :=
  ⟨fun t ht => (countP_filter_inWindow ht _).trans (h.window_eq t (hle.trans ht)),
    (List.length_filter_le _ _).trans h.length_le,
    fun a ha => (h.admitted_le a ha).trans hle, h.bounded⟩

theorem Agrees.length_eq (h : Agrees l admitted now) :
    (l.cleanupExpired now).connectionTimes.length = admitted.countP (inWindow l.windowDuration now) :=
  (List.countP_eq_length_filter _ _).symm.trans (h.window_eq now le_rfl)

/-- An admission at `now`, granted while the window holds fewer than the maximum. -/
theorem Agrees.push (h : Agrees l admitted now)
    (hlt : admitted.countP (inWindow l.windowDuration now) < l.maxPerWindow)
    (hlen : l.connectionTimes.length < l.maxPerWindow) :
    Agrees { l with connectionTimes := l.connectionTimes ++ [now] } (admitted ++ [now]) now := by
  refine ⟨fun t ht => ?_, by simpa using hlen, fun a ha => ?_, fun t => ?_⟩
  · simp [List.countP_append, h.window_eq t ht]
  · rcases List.mem_append.mp ha with ha | ha
    · exact h.admitted_le a ha
    · simp at ha; omega
  · have hsub : admitted.countP (fun a => decide (a ≤ t ∧ t - a < l.windowDuration)) ≤
        admitted.countP (inWindow l.windowDuration now) ∨ ¬ (now ≤ t ∧ t - now < l.windowDuration) := by
      by_cases hn : now ≤ t ∧ t - now < l.windowDuration
      · refine .inl (List.countP_mono_left fun a ha hp => ?_)
        have := h.admitted_le a ha
        simp only [decide_eq_true_eq, inWindow] at hp ⊢
        omega
      · exact .inr hn
    have hb := h.bounded t
    simp only [List.countP_append, List.countP_singleton]
    rcases hsub with hsub | hn
    · split_ifs <;> omega
    · simp only [decide_eq_true_eq, hn, ite_false]; omega

/-- One call answers as the window law, and the limiter keeps agreeing with the
admissions, extended by this call's own. -/
theorem Agrees.step (h : Agrees l admitted last) (hle : last ≤ now) (c : WindowCall) :
    (l.step now c).1 = windowLaw l.maxPerWindow l.windowDuration admitted now c ∧
      Agrees (l.step now c).2 (admitted ++
        if (l.step now c).1 = .admitted true ∧ c = .recordNewConnection then [now] else []) now := by
  have hn := h.mono hle
  have hw := hn.window_eq now le_rfl
  cases c with
  | recordNewConnection =>
    have hc := h.cleanupExpired hle
    have hlen := hn.length_eq
    by_cases hlt : admitted.countP (inWindow l.windowDuration now) < l.maxPerWindow
    · have hr := recordNewConnection_of_lt l now (hlen ▸ hlt)
      simp only [GlobalConnectionRateLimiter.step, hr, windowLaw, ← countP_inWindow, hlt, decide_True,
        and_self, ite_true, true_and]
      exact hc.push hlt (hlen ▸ hlt)
    · have hr := recordNewConnection_of_le l now (hlen ▸ Nat.le_of_not_lt hlt)
      simpa [GlobalConnectionRateLimiter.step, hr, windowLaw, ← countP_inWindow, hlt] using hc
  | canAcceptNewConnection | currentCount | remainingCapacity =>
    exact ⟨by simp [GlobalConnectionRateLimiter.step, windowLaw, ← countP_inWindow, canAcceptNewConnection,
      currentCount, remainingCapacity, hw], by simpa [GlobalConnectionRateLimiter.step] using hn⟩

theorem Agrees.run (h : Agrees l admitted last) (calls : List (Nat × WindowCall))
    (hc : List.Chain (· ≤ ·) last (calls.map Prod.fst)) :
    ∃ t, Agrees (l.run calls) (admitted ++ l.admissions calls) t := by
  induction calls generalizing l admitted last with
  | nil => exact ⟨last, by simpa [run, admissions] using h⟩
  | cons c cs ih =>
    obtain ⟨now, c⟩ := c
    obtain ⟨hle, hc⟩ := List.chain_cons.mp hc
    obtain ⟨t, ht⟩ := ih (h.step hle c).2 hc
    exact ⟨t, by simpa [run, admissions, List.append_assoc] using ht⟩

theorem Agrees.reply (h : Agrees l admitted last) (pre : List (Nat × WindowCall)) (now : Nat)
    (c : WindowCall) (post : List (Nat × WindowCall))
    (hc : List.Chain (· ≤ ·) last ((pre ++ (now, c) :: post).map Prod.fst)) :
    ((l.run pre).step now c).1 =
      windowLaw l.maxPerWindow l.windowDuration (admitted ++ l.admissions pre) now c := by
  induction pre generalizing l admitted last with
  | nil => simpa [run, admissions] using (h.step (List.chain_cons.mp hc).1 c).1
  | cons p pre ih =>
    obtain ⟨t1, c1⟩ := p
    obtain ⟨hle, hc⟩ := List.chain_cons.mp hc
    have hi := ih (h.step hle c1).2 hc
    simpa [run, admissions, List.append_assoc] using hi

end GlobalConnectionRateLimiter

open GlobalConnectionRateLimiter in
/-- Along calls at non-decreasing instants every reply is the window law over the
admissions granted before it; hence no window holds more than the maximum of
admissions, nor the stored vector more timestamps. -/
theorem record_new_connection_sliding_window (maxPerWindow windowDuration : Nat)
    (calls : List (Nat × WindowCall)) (hsorted : (calls.map Prod.fst).Sorted (· ≤ ·)) :
    let l := withWindow maxPerWindow windowDuration
    (∀ pre now c post, calls = pre ++ (now, c) :: post →
      ((l.run pre).step now c).1 = windowLaw maxPerWindow windowDuration (l.admissions pre) now c ∧
      (c ≠ .recordNewConnection → ((l.run pre).step now c).2 = l.run pre)) ∧
    (∀ t, (l.admissions calls).countP (fun a => decide (a ≤ t ∧ t - a < windowDuration)) ≤
      maxPerWindow) ∧
    (l.run calls).connectionTimes.length ≤ maxPerWindow := by
  intro l
  have hc : List.Chain (· ≤ ·) 0 (calls.map Prod.fst) :=
    List.chain_iff_pairwise.mpr (List.Pairwise.cons (fun y _ => Nat.zero_le y) hsorted)
  have h0 := agrees_withWindow maxPerWindow windowDuration
  obtain ⟨t, ht⟩ := h0.run calls hc
  refine ⟨fun pre now c post heq => ⟨?_, fun hne => ?_⟩, fun t' => ?_, ?_⟩
  · subst heq
    simpa using h0.reply pre now c post hc
  · cases c <;> first | exact absurd rfl hne | rfl
  · simpa [l, withWindow] using ht.bounded t'
  · simpa [l, withWindow] using ht.length_le

/-- The script of the sliding-window test: cap 3, window 100 ms. -/
theorem record_new_connection_sliding_window_script :
    let calls : List (Nat × WindowCall) :=
      [(0, .recordNewConnection), (0, .recordNewConnection),
        (durationFromMillis 60, .recordNewConnection), (durationFromMillis 60, .recordNewConnection),
        (durationFromMillis 120, .recordNewConnection), (durationFromMillis 120, .recordNewConnection),
        (durationFromMillis 120, .recordNewConnection)]
    (calls.map Prod.fst).Sorted (· ≤ ·) ∧
      ((GlobalConnectionRateLimiter.withWindow 3 (durationFromMillis 100)).run calls).connectionTimes.length ≤ 3 :=
  ⟨by decide, (record_new_connection_sliding_window 3 _ _ (by decide)).2.2⟩

end Agentme
