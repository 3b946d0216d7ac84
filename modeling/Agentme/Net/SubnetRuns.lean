import Agentme.Net.Subnet

/-! Runs of a subnet tracker. Every stored count stays within the limit, and
along runs whose removals close open connections the tracker counts exactly the
open IPv4 connections of each prefix. -/

namespace Agentme

theorem countP_eraseP_self {α : Type} (p : α → Bool) (l : List α) :
    (l.eraseP p).countP p = l.countP p - 1 := by
  induction l with
  | nil => rfl
  | cons a l ih => by_cases h : p a <;> simp [List.eraseP_cons, h, ih]

theorem countP_eraseP_of_disjoint {α : Type} {p q : α → Bool} (hpq : ∀ x, q x → ¬ p x)
    (l : List α) : (l.eraseP p).countP q = l.countP q := by
  induction l with
  | nil => rfl
  | cons a l ih =>
    by_cases h : p a
    · have hq : ¬ q a := fun hq => hpq a hq h
      simp [List.eraseP_cons, h, List.countP_cons, hq]
    · simp [List.eraseP_cons, h, List.countP_cons, ih]

namespace PrefixTracker

variable {K : Type} [DecidableEq K] (extract : IpAddr → Option K)
variable (limitError : Nat → K → Error)

def step (t : PrefixTracker K) : TrackerCall → PrefixTracker K
  | .add ip => (addConnection extract limitError t ip).2
  | .remove ip => removeConnection extract t ip

def run (t : PrefixTracker K) (calls : List TrackerCall) : PrefixTracker K :=
  calls.foldl (step extract limitError) t

@[simp] theorem run_nil (t : PrefixTracker K) : run extract limitError t [] = t := rfl

@[simp] theorem run_cons (t : PrefixTracker K) (c : TrackerCall) (cs : List TrackerCall) :
    run extract limitError t (c :: cs) = run extract limitError (step extract limitError t c) cs :=
  rfl

@[simp] theorem maxPerSubnet_step (t : PrefixTracker K) (c : TrackerCall) :
    (step extract limitError t c).maxPerSubnet = t.maxPerSubnet := by
  cases c <;> simp [step]

@[simp] theorem maxPerSubnet_run (t : PrefixTracker K) (calls : List TrackerCall) :
    (run extract limitError t calls).maxPerSubnet = t.maxPerSubnet := by
  induction calls generalizing t <;> simp [*]

theorem countOf_step (t : PrefixTracker K) (c : TrackerCall) (k : K) :
    (step extract limitError t c).countOf k =
      match c with
      | .add ip => if extract ip = some k ∧ t.countOf k < t.maxPerSubnet then t.countOf k + 1
          else t.countOf k
      | .remove ip => if extract ip = some k then t.countOf k - 1 else t.countOf k := by
  cases c <;> simp [step, countOf_addConnection, countOf_removeConnection]

/-- A call changes the count of its own prefix only. -/
theorem connectionCount_step_of_ne (t : PrefixTracker K) (c : TrackerCall) {ip : IpAddr}
    (h : extract c.ip ≠ extract ip) :
    connectionCount extract (step extract limitError t c) ip = connectionCount extract t ip := by
  unfold connectionCount
  split
  next k hk =>
    rw [hk] at h
    cases c <;> simp_all [countOf_step, TrackerCall.ip]
  next => rfl

/-! ### The limit -/

/-- Every stored count is within the limit. -/
def WithinLimit (t : PrefixTracker K) : Prop :=
  ∀ k c, t.connections.lookup k = some c → c ≤ t.maxPerSubnet

theorem WithinLimit.countOf_le {t : PrefixTracker K} (h : WithinLimit t) (k : K) :
    t.countOf k ≤ t.maxPerSubnet := by
  unfold countOf
  cases hk : t.connections.lookup k with
  | none => exact Nat.zero_le _
  | some c => exact h k c hk

theorem withinLimit_withLimit (m : Nat) : WithinLimit (withLimit m : PrefixTracker K) := by
  intro k c h
  simp [withLimit, AList.lookup_empty] at h

theorem WithinLimit.step {t : PrefixTracker K} (h : WithinLimit t) (c : TrackerCall) :
    WithinLimit (step extract limitError t c) := by
  have hle := h.countOf_le
  intro k v hv
  rw [maxPerSubnet_step]
  cases c with
  | add ip =>
    cases he : extract ip with
    | none =>
      simp only [PrefixTracker.step, addConnection_of_none extract limitError he] at hv
      exact h k v hv
    | some k' =>
      simp only [PrefixTracker.step, lookup_addConnection extract limitError he] at hv
      split_ifs at hv with hk hc <;> first | exact h k v hv | (cases hv; have := hle k'; omega)
  | remove ip =>
    cases he : extract ip with
    | none =>
      simp only [PrefixTracker.step, removeConnection_of_none extract he] at hv
      exact h k v hv
    | some k' =>
      simp only [PrefixTracker.step, lookup_removeConnection extract he] at hv
      split_ifs at hv with hk hc <;> first | exact h k v hv | (cases hv; have := hle k'; omega)

theorem WithinLimit.run {t : PrefixTracker K} (h : WithinLimit t) (calls : List TrackerCall) :
    WithinLimit (run extract limitError t calls) := by
  induction calls generalizing t with
  | nil => exact h
  | cons c cs ih => exact ih (h.step extract limitError c)

/-! ### Open connections -/

/-- The number of connections in `o` whose prefix is `k`. -/
def outstanding (o : List IpAddr) (k : K) : Nat := o.countP (fun ip => extract ip = some k)

/-- The open connections after `calls`, from the tracker `t` with open connections
`o`: a successful `add_connection` of an IPv4 address opens one, a removal closes
one of its prefix. `none` when an IPv4 removal finds no open connection of its
prefix; an IPv6 removal closes nothing. -/
def openAfter (t : PrefixTracker K) (o : List IpAddr) : List TrackerCall → Option (List IpAddr)
  | [] => some o
  | .add ip :: cs =>
    let r := addConnection extract limitError t ip
    openAfter r.2 (if r.1.isOk && (extract ip).isSome then ip :: o else o) cs
  | .remove ip :: cs =>
    match extract ip with
    | some k =>
      if 0 < outstanding extract o k then
        openAfter (removeConnection extract t ip) (o.eraseP (fun x => extract x = some k)) cs
      else none
    | none => openAfter (removeConnection extract t ip) o cs

/-- The tracker counts the open connections of every prefix, and their total. -/
structure Tracks (t : PrefixTracker K) (o : List IpAddr) : Prop where
  countOf_eq : ∀ k, t.countOf k = outstanding extract o k
  total_eq : t.totalConnections = o.length

theorem tracks_withLimit (m : Nat) : Tracks extract (withLimit m : PrefixTracker K) [] :=
  ⟨fun _ => rfl, rfl⟩

theorem outstanding_cons (ip : IpAddr) (o : List IpAddr) (k : K) :
    outstanding extract (ip :: o) k =
      outstanding extract o k + if extract ip = some k then 1 else 0 := by
  simp [outstanding, List.countP_cons]

theorem outstanding_eraseP (o : List IpAddr) (k k' : K) :
    outstanding extract (o.eraseP (fun x => extract x = some k)) k' =
      if k' = k then outstanding extract o k' - 1 else outstanding extract o k' := by
  unfold outstanding
  split_ifs with hk
  · subst hk; exact countP_eraseP_self _ o
  · refine countP_eraseP_of_disjoint (fun x hq hp => hk ?_) o
    simp only [decide_eq_true_eq] at hp hq
    exact Option.some.inj (hq.symm.trans hp)

theorem Tracks.add {t : PrefixTracker K} {o : List IpAddr} (h : Tracks extract t o) (ip : IpAddr) :
    Tracks extract (addConnection extract limitError t ip).2
      (if (addConnection extract limitError t ip).1.isOk && (extract ip).isSome then ip :: o
        else o) := by
  rw [isOk_addConnection]
  cases he : extract ip with
  | none => simpa [addConnection_of_none extract limitError he] using h
  | some k =>
    by_cases hc : t.countOf k < t.maxPerSubnet
    · have hacc : canAcceptConnection extract t ip = true := by simp [canAcceptConnection, he, hc]
      simp only [hacc, Option.isSome_some, Bool.and_self, ite_true]
      refine ⟨fun k' => ?_, ?_⟩
      · rw [countOf_addConnection, outstanding_cons, ← h.countOf_eq, he]
        by_cases hk : k = k'
        · subst hk; simp [hc]
        · simp [hk]
      · rw [totalConnections_addConnection_of_lt extract limitError he hc, h.total_eq]; rfl
    · have hacc : canAcceptConnection extract t ip = false := by simp [canAcceptConnection, he, hc]
      simp only [hacc, Bool.false_and, Bool.false_eq_true, ite_false]
      refine ⟨fun k' => ?_, ?_⟩
      · rw [countOf_addConnection, ← h.countOf_eq, he]
        by_cases hk : k = k'
        · subst hk; simp [hc]
        · simp [hk]
      · rw [totalConnections_addConnection_of_le extract limitError he (Nat.le_of_not_lt hc),
          h.total_eq]

theorem Tracks.remove {t : PrefixTracker K} {o : List IpAddr} (h : Tracks extract t o)
    {ip : IpAddr} {k : K} (he : extract ip = some k) (hpos : 0 < outstanding extract o k) :
    Tracks extract (removeConnection extract t ip) (o.eraseP (fun x => extract x = some k)) := by
  have hk : t.countOf k = outstanding extract o k := h.countOf_eq k
  refine ⟨fun k' => ?_, ?_⟩
  · rw [countOf_removeConnection, outstanding_eraseP, he, ← h.countOf_eq]
    by_cases hkk : k' = k
    · subst hkk; simp
    · simp [hkk, Ne.symm hkk]
  · have ht := totalConnections_removeConnection extract t he
    obtain ⟨x, hx, hp⟩ := List.countP_pos_iff.mp hpos
    rw [List.length_eraseP_of_mem hx hp, ← h.total_eq]
    have : min (t.countOf k) 1 = 1 := by omega
    omega

theorem Tracks.run {t : PrefixTracker K} {o o' : List IpAddr} {calls : List TrackerCall}
    (h : Tracks extract t o) (ho : openAfter extract limitError t o calls = some o') :
    Tracks extract (run extract limitError t calls) o' := by
  induction calls generalizing t o with
  | nil => cases ho; exact h
  | cons c cs ih =>
    cases c with
    | add ip => exact ih (h.add extract limitError ip) ho
    | remove ip =>
      simp only [openAfter] at ho
      split at ho
      next k he =>
        split_ifs at ho with hpos
        exact ih (h.remove extract he hpos) ho
      next he =>
        have h' : Tracks extract (removeConnection extract t ip) o := by
          rwa [removeConnection_of_none extract he]
        exact ih h' ho

/-! ### The contract -/

/-- What a tracker created with limit `m` guarantees in the state `t` that it
reaches through `calls`. -/
structure Contract (m : Nat) (calls : List TrackerCall) (t : PrefixTracker K) : Prop where
  stored_le : ∀ k c, t.connections.lookup k = some c → c ≤ m
  connectionCount_le : ∀ ip, connectionCount extract t ip ≤ m
  counts_open : ∀ o, openAfter extract limitError (withLimit m) [] calls = some o →
    (∀ ip k, extract ip = some k → connectionCount extract t ip = outstanding extract o k) ∧
    t.totalConnections = o.length ∧
    ∀ ip, (addConnection extract limitError t ip).1 ≠ .ok () ↔
      ∃ k, extract ip = some k ∧ outstanding extract o k = m
  add_ipv6 : ∀ ip, extract ip = none → addConnection extract limitError t ip = (.ok (), t)
  frame : ∀ c ip, extract c.ip ≠ extract ip →
    connectionCount extract (step extract limitError t c) ip = connectionCount extract t ip
  canAccept_iff : ∀ ip,
    canAcceptConnection extract t ip = true ↔ (addConnection extract limitError t ip).1 = .ok ()
  canAccept_iff_count : ∀ ip,
    canAcceptConnection extract t ip = true ↔ extract ip = none ∨ connectionCount extract t ip < m

theorem contract_run (m : Nat) (calls : List TrackerCall) :
    Contract extract limitError m calls (run extract limitError (withLimit m) calls) := by
  have hw := (withinLimit_withLimit m).run extract limitError calls
  have hmax : (run extract limitError (withLimit m : PrefixTracker K) calls).maxPerSubnet = m := by
    simp [withLimit]
  have hacc : ∀ ip, canAcceptConnection extract (run extract limitError (withLimit m) calls) ip =
      true ↔ extract ip = none ∨ connectionCount extract (run extract limitError (withLimit m) calls) ip < m := by
    intro ip
    cases he : extract ip <;> simp [canAcceptConnection, connectionCount, he, withLimit]
  refine ⟨fun k c hc => hmax ▸ hw k c hc, fun ip => ?_, fun o ho => ?_,
    fun ip he => addConnection_of_none extract limitError he,
    fun c ip h => connectionCount_step_of_ne extract limitError _ c h,
    fun ip => (addConnection_eq_ok_iff extract limitError _ ip).symm, hacc⟩
  · unfold connectionCount
    split
    · exact (hw.countOf_le _).trans_eq hmax
    · exact Nat.zero_le _
  · have ht := (tracks_withLimit extract m).run extract limitError ho
    refine ⟨fun ip k he => by simp [connectionCount, he, ht.countOf_eq], ht.total_eq, fun ip => ?_⟩
    rw [Ne, addConnection_eq_ok_iff, hacc]
    cases he : extract ip with
    | none => simp
    | some k =>
      have := hw.countOf_le k
      simp only [connectionCount, he, ht.countOf_eq, hmax] at this ⊢
      simp only [reduceCtorEq, false_or, Option.some.injEq, exists_eq_left']
      omega

/-! ### Rejected additions -/

/-- No prefix is stored with the count `0`. -/
def NoZeroEntries (t : PrefixTracker K) : Prop := ∀ k, t.connections.lookup k ≠ some 0

theorem NoZeroEntries.step {t : PrefixTracker K} (hm : 0 < t.maxPerSubnet) (h : NoZeroEntries t)
    (c : TrackerCall) : NoZeroEntries (step extract limitError t c) := by
  intro k hk
  cases c with
  | add ip =>
    cases he : extract ip with
    | none => exact h k (by simpa [PrefixTracker.step, addConnection_of_none extract limitError he] using hk)
    | some k' =>
      simp only [PrefixTracker.step, lookup_addConnection extract limitError he] at hk
      split_ifs at hk with hkk hc
      · simp at hk
      · simp only [Option.some.injEq] at hk; omega
      · exact h k hk
  | remove ip =>
    cases he : extract ip with
    | none => exact h k (by simpa [PrefixTracker.step, removeConnection_of_none extract he] using hk)
    | some k' =>
      simp only [PrefixTracker.step, lookup_removeConnection extract he] at hk
      split_ifs at hk with hkk hc
      · simp only [Option.some.injEq] at hk; omega
      · exact h k hk

theorem NoZeroEntries.run {t : PrefixTracker K} (hm : 0 < t.maxPerSubnet) (h : NoZeroEntries t)
    (calls : List TrackerCall) : NoZeroEntries (run extract limitError t calls) := by
  induction calls generalizing t with
  | nil => exact h
  | cons c cs ih => exact ih (by simpa using hm) (h.step extract limitError hm c)

/-- With a positive limit a rejected address leaves the tracker as it was: its
prefix is at the limit, so it already has an entry. -/
theorem addConnection_snd_of_ne_ok {t : PrefixTracker K} {ip : IpAddr}
    (hm : 0 < t.maxPerSubnet) (h : (addConnection extract limitError t ip).1 ≠ .ok ()) :
    (addConnection extract limitError t ip).2 = t := by
  cases he : extract ip with
  | none => simp [addConnection_of_none extract limitError he] at h
  | some k =>
    rw [addConnection_of_some extract limitError he] at h ⊢
    split_ifs at h ⊢ with hc
    · exact absurd rfl h
    · have hmem : k ∈ t.connections := by
        rw [← AList.lookup_isSome]
        cases hl : t.connections.lookup k
        · simp [countOf, hl] at hc; omega
        · rfl
      simp [orInsert, hmem]

end PrefixTracker

end Agentme

namespace Agentme

open PrefixTracker

/-- The two trackers key an IPv4 address by its first three and first two octets and
exempt IPv6, and each keeps the contract along any calls. -/
theorem subnet_trackers_contract (m : Nat) (calls : List TrackerCall) :
    (∀ a b c d, SubnetTracker.extractSubnet24 (.v4 a b c d) = some (a, b, c) ∧
      SubnetTracker.extractSubnet16 (.v4 a b c d) = some (a, b)) ∧
    (∀ bits, SubnetTracker.extractSubnet24 (.v6 bits) = none ∧
      SubnetTracker.extractSubnet16 (.v6 bits) = none) ∧
    Contract SubnetTracker.extractSubnet24 SubnetTracker.limitError m calls
        (run SubnetTracker.extractSubnet24 SubnetTracker.limitError
          (SubnetTracker.withLimit m) calls) ∧
      Contract SubnetTracker.extractSubnet16 Subnet16Tracker.limitError m calls
        (run SubnetTracker.extractSubnet16 Subnet16Tracker.limitError
          (Subnet16Tracker.withLimit m) calls) :=
  ⟨fun _ _ _ _ => ⟨rfl, rfl⟩, fun _ => ⟨rfl, rfl⟩, contract_run _ _ m calls, contract_run _ _ m calls⟩

/-- Under limit 2, two addresses of `10.0.0.0/24` and one of `10.0.1.0/24` are added and
`10.0.0.1` is removed: one connection stays open in the first prefix, two in all, and
the first prefix accepts again. -/
theorem subnet_trackers_contract_after_removal :
    let calls : List TrackerCall :=
      [.add (.v4 10 0 0 1), .add (.v4 10 0 0 2), .add (.v4 10 0 1 1), .remove (.v4 10 0 0 1)]
    let t : SubnetTracker :=
      run SubnetTracker.extractSubnet24 SubnetTracker.limitError (SubnetTracker.withLimit 2) calls
    openAfter SubnetTracker.extractSubnet24 SubnetTracker.limitError (withLimit 2) [] calls =
        some [.v4 10 0 1 1, .v4 10 0 0 1] ∧
      t.connectionCount (.v4 10 0 0 9) = 1 ∧ t.totalConnections = 2 ∧
      (t.addConnection (.v4 10 0 0 9)).1 = .ok () := by
  intro calls t
  have ho : openAfter SubnetTracker.extractSubnet24 SubnetTracker.limitError (withLimit 2) [] calls =
      some [.v4 10 0 1 1, .v4 10 0 0 1] := by decide
  have h := (subnet_trackers_contract 2 calls).2.2.1.counts_open _ ho
  refine ⟨ho, (h.1 (.v4 10 0 0 9) (10, 0, 0) rfl).trans (by decide), h.2.1, ?_⟩
  by_contra hne
  obtain ⟨k, hk, hout⟩ := (h.2.2 _).mp hne
  cases hk
  exact absurd hout (by decide)

end Agentme

namespace Agentme

open PrefixTracker

/-- With the limit `0`, a rejected address of a new prefix leaves an entry holding
`0` in either tracker. -/
theorem subnet_trackers_reject_inserts_zero :
    ((SubnetTracker.withLimit 0).addConnection (.v4 10 0 0 1)).1.isOk = false ∧
      ((SubnetTracker.withLimit 0).addConnection (.v4 10 0 0 1)).2.connections.lookup
        (10, 0, 0) = some 0 ∧
      ((Subnet16Tracker.withLimit 0).addConnection (.v4 10 0 0 1)).1.isOk = false ∧
      ((Subnet16Tracker.withLimit 0).addConnection (.v4 10 0 0 1)).2.connections.lookup
        (10, 0) = some 0 := by
  decide

theorem noZeroEntries_withLimit {K : Type} [DecidableEq K] (m : Nat) :
    NoZeroEntries (withLimit m : PrefixTracker K) := by
  intro k h
  simp [withLimit, AList.lookup_empty] at h

/-- With a positive limit `m + 1` both trackers keep their maps free of zero
counts, and a rejected address returns the tracker unchanged, in every reachable
state. -/
theorem subnet_trackers_reject_keeps_state (m : Nat) (calls : List TrackerCall) (ip : IpAddr) :
    let t := run SubnetTracker.extractSubnet24 SubnetTracker.limitError
      (SubnetTracker.withLimit (m + 1)) calls
    let u := run SubnetTracker.extractSubnet16 Subnet16Tracker.limitError
      (Subnet16Tracker.withLimit (m + 1)) calls
    (NoZeroEntries t ∧
      ((SubnetTracker.addConnection t ip).1 ≠ .ok () → (SubnetTracker.addConnection t ip).2 = t)) ∧
    (NoZeroEntries u ∧
      ((Subnet16Tracker.addConnection u ip).1 ≠ .ok () → (Subnet16Tracker.addConnection u ip).2 = u)) :=
  ⟨⟨(noZeroEntries_withLimit _).run _ _ (Nat.succ_pos m) calls,
      addConnection_snd_of_ne_ok _ _ (by simp [SubnetTracker.withLimit, withLimit])⟩,
    ⟨(noZeroEntries_withLimit _).run _ _ (Nat.succ_pos m) calls,
      addConnection_snd_of_ne_ok _ _ (by simp [Subnet16Tracker.withLimit, withLimit])⟩⟩

end Agentme
