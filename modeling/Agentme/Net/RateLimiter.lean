import Agentme.Net.Addr

/-! The per-address connection rate limiter: an exponential backoff after each
failure, and a block once the failures reach the maximum. -/

namespace Agentme

/-- `HashMap::retain`, keeping the entries on which `p` holds. -/
def retain {K V : Type} (m : AList (fun _ : K => V)) (p : K → V → Bool) :
    AList (fun _ : K => V) :=
  ⟨m.entries.filter (fun e => p e.1 e.2), m.nodupKeys.sublist (List.filter_sublist _)⟩

theorem dlookup_filter {K V : Type} [DecidableEq K] (p : K → V → Bool) (k : K) :
    ∀ l : List (Σ _ : K, V), l.NodupKeys →
      (l.filter (fun e => p e.1 e.2)).dlookup k = (l.dlookup k).filter (p k)
  | [], _ => rfl
  | ⟨a, v⟩ :: l, hnd => by
    have ih := dlookup_filter p k l (List.nodupKeys_of_nodupKeys_cons hnd)
    by_cases hk : k = a
    · subst hk
      have hnone : l.dlookup k = none := List.dlookup_eq_none.mpr (List.nodupKeys_cons.mp hnd).1
      rw [hnone] at ih
      by_cases hp : p k v <;> simp [List.filter_cons, hp, ih, List.dlookup_cons_eq, Option.filter]
    · have hne : k ≠ (⟨a, v⟩ : Σ _ : K, V).1 := hk
      by_cases hp : p a v <;> simp [List.filter_cons, hp, List.dlookup_cons_ne _ _ hne, ih]

theorem lookup_retain {K V : Type} [DecidableEq K] (m : AList (fun _ : K => V))
    (p : K → V → Bool) (k : K) : (retain m p).lookup k = (m.lookup k).filter (p k) :=
  dlookup_filter p k m.entries m.nodupKeys

/-- `ConnectionRateLimiter`. The record of an address holds the instant of its
last attempt and its count of failures. -/
structure ConnectionRateLimiter where
  attempts : AList (fun _ : IpAddr => Nat × Nat)
  baseDelay : Nat
  maxDelay : Nat
  maxFailures : Nat

namespace ConnectionRateLimiter

def new : ConnectionRateLimiter := ⟨∅, durationFromSecs 1, durationFromSecs 300, 10⟩

def withConfig (baseDelay maxDelay maxFailures : Nat) : ConnectionRateLimiter :=
  ⟨∅, baseDelay, maxDelay, maxFailures⟩

/-- The multiplier `2u64.saturating_pow(failures - 1)` is passed on `as u32`,
which keeps its low 32 bits. -/
def calculateDelay (l : ConnectionRateLimiter) (failures : Nat) : Nat :=
  if failures = 0 then 0
  else
    let multiplier := u64SaturatingPow 2 (failures - 1)
    let delay := durationSaturatingMul l.baseDelay (multiplier % 2 ^ 32)
    min delay l.maxDelay

def canAttempt (l : ConnectionRateLimiter) (ip : IpAddr) (now : Nat) : Bool :=
  match l.attempts.lookup ip with
  | some (lastAttempt, failures) =>
    if failures ≥ l.maxFailures then false
    else decide (now - lastAttempt ≥ l.calculateDelay failures)
  | none => true

def timeUntilAllowed (l : ConnectionRateLimiter) (ip : IpAddr) (now : Nat) : Nat :=
  match l.attempts.lookup ip with
  | some (lastAttempt, failures) =>
    if failures ≥ l.maxFailures then durationMax
    else
      let requiredDelay := l.calculateDelay failures
      let elapsed := now - lastAttempt
      if elapsed ≥ requiredDelay then 0 else requiredDelay - elapsed
  | none => 0

def failureCount (l : ConnectionRateLimiter) (ip : IpAddr) : Nat :=
  ((l.attempts.lookup ip).map Prod.snd).getD 0

/-- `entry(ip).or_insert((now, 0))`, then the instant is set to `now`. -/
def recordAttempt (l : ConnectionRateLimiter) (ip : IpAddr) (now : Nat) : ConnectionRateLimiter :=
  { l with attempts := l.attempts.insert ip (now, l.failureCount ip) }

def recordFailure (l : ConnectionRateLimiter) (ip : IpAddr) (now : Nat) : ConnectionRateLimiter :=
  { l with attempts := l.attempts.insert ip (now, u32SaturatingAdd (l.failureCount ip) 1) }

def recordSuccess (l : ConnectionRateLimiter) (ip : IpAddr) : ConnectionRateLimiter :=
  { l with attempts := l.attempts.erase ip }

/-- Keeps the records whose last attempt is younger than `maxAge`. -/
def cleanup (l : ConnectionRateLimiter) (maxAge now : Nat) : ConnectionRateLimiter :=
  { l with attempts := retain l.attempts (fun _ r => decide (now - r.1 < maxAge)) }

/-! ### One call -/

variable {l : ConnectionRateLimiter} {ip ip' : IpAddr} {now : Nat}

theorem lookup_recordAttempt (l : ConnectionRateLimiter) (ip ip' : IpAddr) (now : Nat) :
    (l.recordAttempt ip now).attempts.lookup ip' =
      if ip' = ip then some (now, l.failureCount ip) else l.attempts.lookup ip' := by
  split_ifs with h
  · subst h; exact AList.lookup_insert _
  · exact AList.lookup_insert_ne h

theorem lookup_recordFailure (l : ConnectionRateLimiter) (ip ip' : IpAddr) (now : Nat) :
    (l.recordFailure ip now).attempts.lookup ip' =
      if ip' = ip then some (now, u32SaturatingAdd (l.failureCount ip) 1)
      else l.attempts.lookup ip' := by
  split_ifs with h
  · subst h; exact AList.lookup_insert _
  · exact AList.lookup_insert_ne h

theorem lookup_recordSuccess (l : ConnectionRateLimiter) (ip ip' : IpAddr) :
    (l.recordSuccess ip).attempts.lookup ip' = if ip' = ip then none else l.attempts.lookup ip' := by
  split_ifs with h
  · subst h; exact AList.lookup_erase _ _
  · exact AList.lookup_erase_ne h

theorem lookup_cleanup (l : ConnectionRateLimiter) (maxAge now : Nat) (ip : IpAddr) :
    (l.cleanup maxAge now).attempts.lookup ip =
      (l.attempts.lookup ip).filter (fun r => decide (now - r.1 < maxAge)) :=
  lookup_retain _ _ ip

@[simp] theorem maxFailures_recordAttempt : (l.recordAttempt ip now).maxFailures = l.maxFailures := rfl
@[simp] theorem maxFailures_recordFailure : (l.recordFailure ip now).maxFailures = l.maxFailures := rfl
@[simp] theorem maxFailures_recordSuccess : (l.recordSuccess ip).maxFailures = l.maxFailures := rfl
@[simp] theorem maxFailures_cleanup (maxAge : Nat) : (l.cleanup maxAge now).maxFailures = l.maxFailures := rfl

/-- A record whose failures reach the maximum blocks at every instant. -/
theorem blocked_of_lookup {r : Nat × Nat} (h : l.attempts.lookup ip = some r)
    (hr : l.maxFailures ≤ r.2) (t : Nat) :
    l.canAttempt ip t = false ∧ l.timeUntilAllowed ip t = durationMax := by
  obtain ⟨t0, f⟩ := r
  simp only at hr
  simp [canAttempt, timeUntilAllowed, h, hr]

/-- Below the maximum, an attempt is allowed once the backoff has elapsed. -/
theorem canAttempt_of_lookup {t0 n : Nat} (h : l.attempts.lookup ip = some (t0, n))
    (hn : n < l.maxFailures) (t : Nat) :
    (l.canAttempt ip t = true ↔ l.calculateDelay n ≤ t - t0) ∧
      l.timeUntilAllowed ip t = l.calculateDelay n - (t - t0) := by
  simp only [canAttempt, timeUntilAllowed, h, ge_iff_le, if_neg (Nat.not_le.mpr hn)]
  constructor
  · simp
  · split_ifs <;> omega

/-! ### The backoff delay -/

theorem calculateDelay_of_le_32 (l : ConnectionRateLimiter) {n : Nat} (h1 : 1 ≤ n) (h32 : n ≤ 32) :
    l.calculateDelay n = min (min (l.baseDelay * 2 ^ (n - 1)) durationMax) l.maxDelay := by
  have hp : 2 ^ (n - 1) < 2 ^ 32 := Nat.pow_lt_pow_right (by decide) (by omega)
  have hq : 2 ^ (n - 1) ≤ u64Max := by
    have : 2 ^ 32 ≤ 2 ^ 64 := Nat.pow_le_pow_right (by decide) (by decide)
    unfold u64Max; omega
  dsimp only [calculateDelay, u64SaturatingPow, durationSaturatingMul]
  rw [if_neg (by omega), Nat.min_eq_left hq, Nat.mod_eq_of_lt hp]

/-- From 33 failures on, `2^(n-1)` has no bits below the 32nd, so the cast to `u32`
leaves a multiplier of `0` and the delay collapses to zero. -/
theorem calculateDelay_of_wrap (l : ConnectionRateLimiter) {n : Nat} (h33 : 33 ≤ n) (h64 : n ≤ 64) :
    l.calculateDelay n = 0 := by
  have hq : 2 ^ (n - 1) ≤ u64Max := by
    have : 2 ^ (n - 1) < 2 ^ 64 := Nat.pow_lt_pow_right (by decide) (by omega)
    unfold u64Max; omega
  have hm : 2 ^ (n - 1) % 2 ^ 32 = 0 :=
    Nat.mod_eq_zero_of_dvd (Nat.pow_dvd_pow 2 (by omega))
  dsimp only [calculateDelay, u64SaturatingPow, durationSaturatingMul]
  rw [if_neg (by omega), Nat.min_eq_left hq, hm, Nat.mul_zero, Nat.zero_min, Nat.zero_min]

/-! ### Runs -/

/-- A call on the rate limiter; it happens at the instant paired with it. -/
inductive LimiterCall where
  | recordAttempt (ip : IpAddr)
  | recordFailure (ip : IpAddr)
  | recordSuccess (ip : IpAddr)
  | cleanup (maxAge : Nat)
  deriving DecidableEq

def step (l : ConnectionRateLimiter) (now : Nat) : LimiterCall → ConnectionRateLimiter
  | .recordAttempt ip => l.recordAttempt ip now
  | .recordFailure ip => l.recordFailure ip now
  | .recordSuccess ip => l.recordSuccess ip
  | .cleanup maxAge => l.cleanup maxAge now

def run (l : ConnectionRateLimiter) (calls : List (Nat × LimiterCall)) : ConnectionRateLimiter :=
  calls.foldl (fun l c => l.step c.1 c.2) l

@[simp] theorem maxFailures_step (c : LimiterCall) : (l.step now c).maxFailures = l.maxFailures := by
  cases c <;> rfl

/-- Whether the call at `now` ends the record of `ip`: its success, or a sweep
that finds the record at least `maxAge` old. -/
def releases (l : ConnectionRateLimiter) (ip : IpAddr) (now : Nat) : LimiterCall → Bool
  | .recordSuccess ip' => ip' == ip
  | .cleanup maxAge =>
    match l.attempts.lookup ip with
    | some r => decide (maxAge ≤ now - r.1)
    | none => false
  | _ => false

/-- How one call changes the failure count of `ip`. -/
theorem failureCount_step (l : ConnectionRateLimiter) (ip : IpAddr) (now : Nat) (c : LimiterCall) :
    (l.step now c).failureCount ip =
      if l.releases ip now c then 0
      else if c = .recordFailure ip then u32SaturatingAdd (l.failureCount ip) 1
      else l.failureCount ip := by
  cases c with
  | recordAttempt ip' =>
    rcases eq_or_ne ip ip' with rfl | h <;>
      simp [step, releases, failureCount, lookup_recordAttempt, *]
  | recordFailure ip' =>
    rcases eq_or_ne ip ip' with rfl | h <;>
      simp [step, releases, failureCount, lookup_recordFailure, *, Ne.symm]
  | recordSuccess ip' =>
    rcases eq_or_ne ip ip' with rfl | h <;>
      simp [step, releases, failureCount, lookup_recordSuccess, *, Ne.symm]
  | cleanup maxAge =>
    simp only [step, releases, failureCount, lookup_cleanup, reduceCtorEq, if_false]
    cases l.attempts.lookup ip with
    | none => rfl
    | some r =>
      by_cases hr : maxAge ≤ now - r.1 <;> simp [Option.filter, hr, Nat.not_lt.mpr, Nat.not_le.mp]

/-- Every stored failure count fits in a `u32`. -/
def CountsBounded (l : ConnectionRateLimiter) : Prop :=
  ∀ ip r, l.attempts.lookup ip = some r → r.2 ≤ u32Max

theorem CountsBounded.failureCount_le (h : CountsBounded l) (ip : IpAddr) :
    l.failureCount ip ≤ u32Max := by
  unfold failureCount
  cases hl : l.attempts.lookup ip with
  | none => exact Nat.zero_le _
  | some r => exact h ip r hl

theorem CountsBounded.step (h : CountsBounded l) (c : LimiterCall) :
    CountsBounded (l.step now c) := by
  intro ip' r hr
  cases c with
  | recordAttempt ip =>
    simp only [ConnectionRateLimiter.step, lookup_recordAttempt] at hr
    split_ifs at hr
    · cases hr; exact h.failureCount_le ip
    · exact h ip' r hr
  | recordFailure ip =>
    simp only [ConnectionRateLimiter.step, lookup_recordFailure] at hr
    split_ifs at hr
    · cases hr; exact Nat.min_le_right _ _
    · exact h ip' r hr
  | recordSuccess ip =>
    simp only [ConnectionRateLimiter.step, lookup_recordSuccess] at hr
    split_ifs at hr
    exact h ip' r hr
  | cleanup maxAge =>
    simp only [ConnectionRateLimiter.step, lookup_cleanup] at hr
    exact h ip' r (Option.filter_eq_some.mp hr).1

theorem CountsBounded.run (h : CountsBounded l) (calls : List (Nat × LimiterCall)) :
    CountsBounded (l.run calls) := by
  induction calls generalizing l with
  | nil => exact h
  | cons c cs ih => exact ih (h.step c.2)

theorem countsBounded_withConfig (baseDelay maxDelay maxFailures : Nat) :
    CountsBounded (withConfig baseDelay maxDelay maxFailures) := by
  intro ip r hr
  simp [withConfig, AList.lookup_empty] at hr

/-- The later calls `calls`, run from `l`, never release `ip`. -/
def Spares (ip : IpAddr) : ConnectionRateLimiter → List (Nat × LimiterCall) → Prop
  | _, [] => True
  | l, (now, c) :: cs => l.releases ip now c = false ∧ Spares ip (l.step now c) cs

@[simp] theorem maxFailures_run (l : ConnectionRateLimiter) (calls : List (Nat × LimiterCall)) :
    (l.run calls).maxFailures = l.maxFailures := by
  induction calls generalizing l with
  | nil => rfl
  | cons c cs ih => exact (ih _).trans (maxFailures_step c.2)

theorem lookup_of_failureCount_pos (h : 0 < l.failureCount ip) :
    ∃ r, l.attempts.lookup ip = some r ∧ r.2 = l.failureCount ip := by
  unfold failureCount at h ⊢
  cases hl : l.attempts.lookup ip with
  | none => simp [hl] at h
  | some r => exact ⟨r, rfl, rfl⟩

/-- `ip` has a record whose failures reach the maximum. -/
def Blocked (l : ConnectionRateLimiter) (ip : IpAddr) : Prop :=
  ∃ r, l.attempts.lookup ip = some r ∧ l.maxFailures ≤ r.2

theorem Blocked.step (hb : CountsBounded l) (h : Blocked l ip) {c : LimiterCall}
    (hc : l.releases ip now c = false) : Blocked (l.step now c) ip := by
  obtain ⟨⟨t0, f⟩, hl, hf⟩ := h
  have hfc : l.failureCount ip = f := by simp [failureCount, hl]
  have hle := hb.failureCount_le ip
  cases c with
  | recordAttempt ip' =>
    rcases eq_or_ne ip ip' with rfl | hne
    · exact ⟨_, lookup_recordAttempt l ip ip now ▸ if_pos rfl, by simp [hfc, hf]⟩
    · exact ⟨_, (lookup_recordAttempt l ip' ip now).trans (if_neg hne) |>.trans hl, hf⟩
  | recordFailure ip' =>
    rcases eq_or_ne ip ip' with rfl | hne
    · refine ⟨_, lookup_recordFailure l ip ip now ▸ if_pos rfl, ?_⟩
      simp only [maxFailures_step, u32SaturatingAdd]
      omega
    · exact ⟨_, (lookup_recordFailure l ip' ip now).trans (if_neg hne) |>.trans hl, hf⟩
  | recordSuccess ip' =>
    have hne : ip ≠ ip' := fun he => by simp [releases, he] at hc
    exact ⟨_, (lookup_recordSuccess l ip' ip).trans (if_neg hne) |>.trans hl, hf⟩
  | cleanup maxAge =>
    have hy : now - t0 < maxAge := by simpa [releases, hl] using hc
    exact ⟨_, by simp [ConnectionRateLimiter.step, lookup_cleanup, hl, Option.filter, hy], hf⟩

theorem Blocked.run (hb : CountsBounded l) (h : Blocked l ip) (calls : List (Nat × LimiterCall))
    (hs : Spares ip l calls) : Blocked (l.run calls) ip := by
  induction calls generalizing l with
  | nil => exact h
  | cons c cs ih => exact ih (hb.step c.2) (h.step hb hs.1) hs.2

theorem Blocked.blocks (h : Blocked l ip) (t : Nat) :
    l.canAttempt ip t = false ∧ l.timeUntilAllowed ip t = durationMax :=
  let ⟨_, hl, hf⟩ := h
  blocked_of_lookup hl hf t

end ConnectionRateLimiter

end Agentme

namespace Agentme

open ConnectionRateLimiter

/-- Failures change the count of an address one at a time, and only its success or
an age sweep resets it; a count at the maximum therefore blocks the address at
every later instant until one of those two. -/
theorem failure_count_blocks_until_release (baseDelay maxDelay maxFailures : Nat)
    (before after : List (Nat × LimiterCall)) (ip : IpAddr) :
    let l := (withConfig baseDelay maxDelay maxFailures).run before
    (∀ now c, (l.step now c).failureCount ip =
      if l.releases ip now c then 0
      else if c = .recordFailure ip then u32SaturatingAdd (l.failureCount ip) 1
      else l.failureCount ip) ∧
    (∀ now c, l.releases ip now c = false →
      l.failureCount ip ≤ (l.step now c).failureCount ip) ∧
    (maxFailures ≤ l.failureCount ip → 0 < l.failureCount ip → Spares ip l after →
      ∀ t, (l.run after).canAttempt ip t = false ∧
        (l.run after).timeUntilAllowed ip t = durationMax) := by
  intro l
  have hb : CountsBounded l := (countsBounded_withConfig _ _ _).run before
  have hmax : l.maxFailures = maxFailures := maxFailures_run _ _
  refine ⟨fun now c => failureCount_step l ip now c, fun now c hc => ?_, fun hm hpos hs t => ?_⟩
  · have hle := hb.failureCount_le ip
    rw [failureCount_step, hc]
    simp only [Bool.false_eq_true, if_false]
    split_ifs
    · simp only [u32SaturatingAdd]; omega
    · exact le_rfl
  · obtain ⟨r, hr, hrf⟩ := lookup_of_failureCount_pos hpos
    exact (Blocked.run hb ⟨r, hr, by omega⟩ after hs).blocks t

theorem failure_count_blocks_until_release_at_three :
    let l := (withConfig (durationFromMillis 1) (durationFromMillis 10) 3).run
      [(0, .recordFailure (.v4 192 168 1 1)), (0, .recordFailure (.v4 192 168 1 1)),
        (0, .recordFailure (.v4 192 168 1 1))]
    let after : List (Nat × LimiterCall) :=
      [(durationFromMillis 50, .recordAttempt (.v4 192 168 1 1)),
        (durationFromSecs 1, .cleanup (durationFromSecs 10))]
    3 ≤ l.failureCount (.v4 192 168 1 1) ∧ 0 < l.failureCount (.v4 192 168 1 1) ∧
      Spares (.v4 192 168 1 1) l after ∧
      (l.run after).canAttempt (.v4 192 168 1 1) (durationFromSecs 3600) = false ∧
      (l.run after).timeUntilAllowed (.v4 192 168 1 1) (durationFromSecs 3600) = durationMax := by
  have h3 : 3 ≤ ((withConfig (durationFromMillis 1) (durationFromMillis 10) 3).run
      [(0, .recordFailure (.v4 192 168 1 1)), (0, .recordFailure (.v4 192 168 1 1)),
        (0, .recordFailure (.v4 192 168 1 1))]).failureCount (.v4 192 168 1 1) := by decide
  have hs : Spares (.v4 192 168 1 1) ((withConfig (durationFromMillis 1) (durationFromMillis 10) 3).run
      [(0, .recordFailure (.v4 192 168 1 1)), (0, .recordFailure (.v4 192 168 1 1)),
        (0, .recordFailure (.v4 192 168 1 1))])
      [(durationFromMillis 50, .recordAttempt (.v4 192 168 1 1)),
        (durationFromSecs 1, .cleanup (durationFromSecs 10))] := by
    simp only [Spares]; decide
  exact ⟨h3, by omega, hs, (failure_count_blocks_until_release _ _ _ _ _ _).2.2 h3 (by omega) hs _⟩

/-- A sweep with `maxAge` of one second forgets an address blocked one second
earlier: its failure count drops to `0` without a success, and it may connect,
although `max_failures` is documented as the count before a permanent block for
the session. -/
theorem cleanup_unblocks_failed_address :
    let l : ConnectionRateLimiter := (withConfig (durationFromMillis 1) (durationFromMillis 10) 3).run
      [(0, .recordFailure (.v4 192 168 1 1)), (0, .recordFailure (.v4 192 168 1 1)),
        (0, .recordFailure (.v4 192 168 1 1))]
    let l' : ConnectionRateLimiter := l.cleanup (durationFromSecs 1) (durationFromSecs 1)
    l.failureCount (.v4 192 168 1 1) = 3 ∧
      l.canAttempt (.v4 192 168 1 1) (durationFromSecs 1) = false ∧
      l'.failureCount (.v4 192 168 1 1) = 0 ∧
      l'.canAttempt (.v4 192 168 1 1) (durationFromSecs 1) = true := by
  decide

/-- With `max_failures = 0` an address never recorded has a failure count at the
maximum, yet it may connect. -/
theorem zero_max_failures_admits_unrecorded_address :
    let l : ConnectionRateLimiter := withConfig (durationFromSecs 1) (durationFromSecs 300) 0
    l.maxFailures ≤ l.failureCount (.v4 10 0 0 1) ∧ l.canAttempt (.v4 10 0 0 1) 0 = true := by
  decide

set_option maxRecDepth 4000 in
/-- `with_config(1 s, 300 s, 34)` after 33 failures of one address at instant `0`:
the backoff that should be `min(2^32 s, 300 s)` is zero. -/
theorem backoff_vanishes_after_33_failures :
    ((withConfig (durationFromSecs 1) (durationFromSecs 300) 34).run
        (List.replicate 33 (0, .recordFailure (.v4 192 168 1 1)))).failureCount
        (.v4 192 168 1 1) = 33 ∧
      ((withConfig (durationFromSecs 1) (durationFromSecs 300) 34).run
        (List.replicate 33 (0, .recordFailure (.v4 192 168 1 1)))).canAttempt
        (.v4 192 168 1 1) 0 = true ∧
      ((withConfig (durationFromSecs 1) (durationFromSecs 300) 34).run
        (List.replicate 33 (0, .recordFailure (.v4 192 168 1 1)))).timeUntilAllowed
        (.v4 192 168 1 1) 0 = 0 := by
  decide

/-- For failure counts up to 32 the backoff is exact:
`min(base_delay * 2^(n-1), max_delay)`, the product saturating at `Duration::MAX`. -/
theorem backoff_exact_through_32 (l : ConnectionRateLimiter) (ip : IpAddr) {t0 n : Nat}
    (h : l.attempts.lookup ip = some (t0, n)) (h1 : 1 ≤ n) (h32 : n ≤ 32)
    (hn : n < l.maxFailures) (t : Nat) :
    (l.canAttempt ip t = true ↔
      min (min (l.baseDelay * 2 ^ (n - 1)) durationMax) l.maxDelay ≤ t - t0) ∧
      l.timeUntilAllowed ip t = min (min (l.baseDelay * 2 ^ (n - 1)) durationMax) l.maxDelay - (t - t0) := by
  rw [← calculateDelay_of_le_32 l h1 h32]
  exact canAttempt_of_lookup h hn t

theorem backoff_exact_through_32_at_two :
    ((withConfig (durationFromMillis 100) (durationFromSecs 10) 10).run
        [(0, .recordFailure (.v4 192 168 1 1)), (0, .recordFailure (.v4 192 168 1 1))]).attempts.lookup
        (.v4 192 168 1 1) = some (0, 2) ∧
      ((((withConfig (durationFromMillis 100) (durationFromSecs 10) 10).run
        [(0, .recordFailure (.v4 192 168 1 1)), (0, .recordFailure (.v4 192 168 1 1))]).canAttempt
          (.v4 192 168 1 1) (durationFromMillis 150) = true ↔
        min (min (durationFromMillis 100 * 2 ^ (2 - 1)) durationMax) (durationFromSecs 10) ≤
          durationFromMillis 150 - 0)) := by
  have hl : ((withConfig (durationFromMillis 100) (durationFromSecs 10) 10).run
        [(0, .recordFailure (.v4 192 168 1 1)), (0, .recordFailure (.v4 192 168 1 1))]).attempts.lookup
        (.v4 192 168 1 1) = some (0, 2) := by decide
  exact ⟨hl, (backoff_exact_through_32 _ _ hl (by decide) (by decide) (by decide) _).1⟩

/-- From 33 to 64 failures, below the maximum, the address may connect at once. -/
theorem backoff_vanishes_from_33_to_64 (l : ConnectionRateLimiter) (ip : IpAddr) {t0 n : Nat}
    (h : l.attempts.lookup ip = some (t0, n)) (h33 : 33 ≤ n) (h64 : n ≤ 64)
    (hn : n < l.maxFailures) (t : Nat) :
    l.canAttempt ip t = true ∧ l.timeUntilAllowed ip t = 0 := by
  have hc := canAttempt_of_lookup h hn t
  rw [calculateDelay_of_wrap l h33 h64] at hc
  exact ⟨hc.1.mpr (Nat.zero_le _), by simpa using hc.2⟩

set_option maxRecDepth 4000 in
theorem backoff_vanishes_from_33_to_64_at_33 :
    let l := (withConfig (durationFromSecs 1) (durationFromSecs 300) 34).run
      (List.replicate 33 (0, .recordFailure (.v4 192 168 1 1)))
    l.attempts.lookup (.v4 192 168 1 1) = some (0, 33) ∧ 33 < l.maxFailures ∧
      l.canAttempt (.v4 192 168 1 1) 0 = true ∧ l.timeUntilAllowed (.v4 192 168 1 1) 0 = 0 := by
  intro l
  have hl : l.attempts.lookup (.v4 192 168 1 1) = some (0, 33) := by decide
  have hm : 33 < l.maxFailures := by decide
  exact ⟨hl, hm, backoff_vanishes_from_33_to_64 l _ hl (by decide) (by decide) hm 0⟩

/-- In every state `can_attempt` and `time_until_allowed` agree: an attempt is
allowed exactly when no wait is left. -/
theorem can_attempt_iff_no_wait (l : ConnectionRateLimiter) (ip : IpAddr) (now : Nat) :
    l.canAttempt ip now = true ↔ l.timeUntilAllowed ip now = 0 := by
  unfold canAttempt timeUntilAllowed
  cases l.attempts.lookup ip with
  | none => simp
  | some r =>
    dsimp only
    split_ifs <;> simp [durationMax, u64Max, nanosPerSec] <;> omega

end Agentme
