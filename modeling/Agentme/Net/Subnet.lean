import Agentme.Net.Addr

/-! The `/24` and `/16` subnet trackers. Both count connections per address
prefix in a map and differ only in the prefix they take and the text of their
error, so they are one tracker over the prefix function. -/

namespace Agentme

/-- `MAX_PEERS_PER_SUBNET_24`. -/
def maxPeersPerSubnet24 : Nat := 5

/-- `MAX_PEERS_PER_SUBNET_16`. -/
def maxPeersPerSubnet16 : Nat := 3

/-- The state shared by `SubnetTracker` and `Subnet16Tracker`: the map from a
prefix to its connection count, and the limit per prefix. -/
structure PrefixTracker (K : Type) where
  connections : AList (fun _ : K => Nat)
  maxPerSubnet : Nat

/-- `HashMap::entry(k).or_insert(v)`, as its effect on the map. -/
def orInsert {K : Type} [DecidableEq K] (m : AList (fun _ : K => Nat)) (k : K) (v : Nat) :
    AList (fun _ : K => Nat) :=
  if k ∈ m then m else m.insert k v

/-- `values().sum()` of a count map. -/
def sumValues {K : Type} (m : AList (fun _ : K => Nat)) : Nat :=
  (m.entries.map Sigma.snd).sum

section CountMap

variable {K : Type} [DecidableEq K]

theorem sum_kerase_add_dlookup (k : K) (l : List (Σ _ : K, Nat)) :
    ((l.kerase k).map Sigma.snd).sum + (l.dlookup k).getD 0 = (l.map Sigma.snd).sum := by
  induction l with
  | nil => simp
  | cons s l ih =>
    obtain ⟨a, b⟩ := s
    by_cases h : k = a
    · subst h
      simp [List.kerase_cons_eq, List.dlookup_cons_eq, Nat.add_comm]
    · have hne : k ≠ (⟨a, b⟩ : Σ _ : K, Nat).1 := h
      simp only [List.kerase_cons_ne hne, List.dlookup_cons_ne _ _ hne, List.map_cons,
        List.sum_cons]
      omega

theorem sumValues_insert (m : AList (fun _ : K => Nat)) (k : K) (v : Nat) :
    sumValues (m.insert k v) + (m.lookup k).getD 0 = sumValues m + v := by
  have h := sum_kerase_add_dlookup k m.entries
  simp only [sumValues, AList.insert_entries, List.map_cons, List.sum_cons, AList.lookup] at h ⊢
  omega

theorem sumValues_erase (m : AList (fun _ : K => Nat)) (k : K) :
    sumValues (m.erase k) + (m.lookup k).getD 0 = sumValues m :=
  sum_kerase_add_dlookup k m.entries

theorem lookup_orInsert (m : AList (fun _ : K => Nat)) (k k' : K) (v : Nat) :
    (orInsert m k v).lookup k' = if k' = k then some ((m.lookup k).getD v) else m.lookup k' := by
  unfold orInsert
  split_ifs with hm hk hk
  · subst hk
    obtain ⟨c, hc⟩ := Option.isSome_iff_exists.mp (AList.lookup_isSome.mpr hm)
    simp [hc]
  · rfl
  · subst hk
    simp [AList.lookup_insert, AList.lookup_eq_none.mpr hm]
  · exact AList.lookup_insert_ne hk

theorem sumValues_orInsert_zero (m : AList (fun _ : K => Nat)) (k : K) :
    sumValues (orInsert m k 0) = sumValues m := by
  unfold orInsert
  split_ifs with hm
  · rfl
  · simpa [AList.lookup_eq_none.mpr hm] using sumValues_insert m k 0

theorem erase_of_lookup_eq_none {m : AList (fun _ : K => Nat)} {k : K} (h : m.lookup k = none) :
    m.erase k = m :=
  AList.ext (List.kerase_of_not_mem_keys (AList.lookup_eq_none.mp h))

end CountMap

namespace PrefixTracker

variable {K : Type} [DecidableEq K]

def withLimit (maxPerSubnet : Nat) : PrefixTracker K := ⟨∅, maxPerSubnet⟩

/-- `connections.get(&subnet).copied().unwrap_or(0)`. -/
def countOf (t : PrefixTracker K) (subnet : K) : Nat := (t.connections.lookup subnet).getD 0

section Operations

variable (extract : IpAddr → Option K)

def canAcceptConnection (t : PrefixTracker K) (ip : IpAddr) : Bool :=
  match extract ip with
  | some subnet => t.countOf subnet < t.maxPerSubnet
  | none => true

/-- The entry is created with `0` before the limit is checked, so a rejected
address whose prefix had no entry leaves one behind. -/
def addConnection (limitError : Nat → K → Error) (t : PrefixTracker K) (ip : IpAddr) :
    Except Error Unit × PrefixTracker K :=
  match extract ip with
  | some subnet =>
    let connections := orInsert t.connections subnet 0
    let current := (connections.lookup subnet).getD 0
    if current ≥ t.maxPerSubnet then
      (.error (limitError t.maxPerSubnet subnet), { t with connections })
    else (.ok (), { t with connections := connections.insert subnet (current + 1) })
  | none => (.ok (), t)

def removeConnection (t : PrefixTracker K) (ip : IpAddr) : PrefixTracker K :=
  match extract ip with
  | some subnet =>
    match t.connections.lookup subnet with
    | some count =>
      if count - 1 = 0 then { t with connections := t.connections.erase subnet }
      else { t with connections := t.connections.insert subnet (count - 1) }
    | none => t
  | none => t

def connectionCount (t : PrefixTracker K) (ip : IpAddr) : Nat :=
  match extract ip with
  | some subnet => t.countOf subnet
  | none => 0

end Operations

def totalConnections (t : PrefixTracker K) : Nat := sumValues t.connections

section Spec

variable (extract : IpAddr → Option K) (limitError : Nat → K → Error)
variable {t : PrefixTracker K} {ip : IpAddr} {k : K}

@[simp] theorem countOf_withLimit (m : Nat) (k : K) :
    (withLimit m : PrefixTracker K).countOf k = 0 := rfl

theorem addConnection_of_none (h : extract ip = none) :
    addConnection extract limitError t ip = (.ok (), t) := by
  simp [addConnection, h]

theorem countOf_orInsert_zero (t : PrefixTracker K) (k : K) :
    ((orInsert t.connections k 0).lookup k).getD 0 = t.countOf k := by
  simp [lookup_orInsert, countOf]

theorem lookup_getD (t : PrefixTracker K) (k : K) :
    (t.connections.lookup k).getD 0 = t.countOf k := rfl

theorem addConnection_of_some (h : extract ip = some k) :
    addConnection extract limitError t ip =
      if t.countOf k < t.maxPerSubnet then
        (.ok (), { t with connections := (orInsert t.connections k 0).insert k (t.countOf k + 1) })
      else (.error (limitError t.maxPerSubnet k), { t with connections := orInsert t.connections k 0 }) := by
  simp only [addConnection, h, countOf_orInsert_zero, ge_iff_le]
  split_ifs <;> first | omega | rfl

theorem removeConnection_of_none (h : extract ip = none) : removeConnection extract t ip = t := by
  simp [removeConnection, h]

theorem removeConnection_of_some (h : extract ip = some k) :
    removeConnection extract t ip =
      if t.countOf k ≤ 1 then { t with connections := t.connections.erase k }
      else { t with connections := t.connections.insert k (t.countOf k - 1) } := by
  simp only [removeConnection, h, countOf]
  split
  next c hl =>
    simp only [hl, Option.getD_some]
    split_ifs <;> first | omega | rfl
  next hl => simp [hl, erase_of_lookup_eq_none hl]

@[simp] theorem maxPerSubnet_addConnection (t : PrefixTracker K) (ip : IpAddr) :
    (addConnection extract limitError t ip).2.maxPerSubnet = t.maxPerSubnet := by
  cases h : extract ip with
  | none => rw [addConnection_of_none extract limitError h]
  | some k => rw [addConnection_of_some extract limitError h]; split <;> rfl

@[simp] theorem maxPerSubnet_removeConnection (t : PrefixTracker K) (ip : IpAddr) :
    (removeConnection extract t ip).maxPerSubnet = t.maxPerSubnet := by
  cases h : extract ip with
  | none => rw [removeConnection_of_none extract h]
  | some k => rw [removeConnection_of_some extract h]; split <;> rfl

theorem lookup_addConnection (h : extract ip = some k) (k' : K) :
    (addConnection extract limitError t ip).2.connections.lookup k' =
      if k' = k then some (if t.countOf k < t.maxPerSubnet then t.countOf k + 1 else t.countOf k)
      else t.connections.lookup k' := by
  rw [addConnection_of_some extract limitError h]
  by_cases hk : k' = k
  · subst hk
    by_cases hc : t.countOf k' < t.maxPerSubnet <;>
      simp [hc, AList.lookup_insert, lookup_orInsert, lookup_getD]
  · split_ifs <;> simp [hk, AList.lookup_insert_ne, lookup_orInsert]

theorem lookup_removeConnection (h : extract ip = some k) (k' : K) :
    (removeConnection extract t ip).connections.lookup k' =
      if k' = k then (if t.countOf k ≤ 1 then none else some (t.countOf k - 1))
      else t.connections.lookup k' := by
  rw [removeConnection_of_some extract h]
  by_cases hk : k' = k
  · subst hk
    by_cases hc : t.countOf k' ≤ 1 <;> simp [hc, AList.lookup_erase, AList.lookup_insert]
  · split_ifs <;> simp [hk, AList.lookup_erase_ne, AList.lookup_insert_ne]

theorem countOf_addConnection (t : PrefixTracker K) (ip : IpAddr) (k' : K) :
    (addConnection extract limitError t ip).2.countOf k' =
      if extract ip = some k' ∧ t.countOf k' < t.maxPerSubnet then t.countOf k' + 1
      else t.countOf k' := by
  cases h : extract ip with
  | none => simp [addConnection_of_none extract limitError h]
  | some k =>
    simp only [countOf, lookup_addConnection extract limitError h]
    by_cases hk : k' = k
    · subst hk; split_ifs <;> simp_all [countOf]
    · simp [hk, Ne.symm hk]

theorem countOf_removeConnection (t : PrefixTracker K) (ip : IpAddr) (k' : K) :
    (removeConnection extract t ip).countOf k' =
      if extract ip = some k' then t.countOf k' - 1 else t.countOf k' := by
  cases h : extract ip with
  | none => simp [removeConnection_of_none extract h]
  | some k =>
    simp only [countOf, lookup_removeConnection extract h]
    by_cases hk : k' = k
    · subst hk; split_ifs <;> simp_all [countOf]
    · simp [hk, Ne.symm hk]

theorem totalConnections_addConnection_of_lt (h : extract ip = some k)
    (hc : t.countOf k < t.maxPerSubnet) :
    (addConnection extract limitError t ip).2.totalConnections = t.totalConnections + 1 := by
  have hi := sumValues_insert (orInsert t.connections k 0) k (t.countOf k + 1)
  rw [countOf_orInsert_zero, sumValues_orInsert_zero] at hi
  rw [addConnection_of_some extract limitError h, if_pos hc]
  dsimp only [totalConnections]
  omega

theorem totalConnections_addConnection_of_le (h : extract ip = some k)
    (hc : t.maxPerSubnet ≤ t.countOf k) :
    (addConnection extract limitError t ip).2.totalConnections = t.totalConnections := by
  rw [addConnection_of_some extract limitError h, if_neg (Nat.not_lt.mpr hc)]
  exact sumValues_orInsert_zero t.connections k

theorem totalConnections_removeConnection (t : PrefixTracker K) (h : extract ip = some k) :
    (removeConnection extract t ip).totalConnections + min (t.countOf k) 1 =
      t.totalConnections := by
  have he := sumValues_erase t.connections k
  have hi := sumValues_insert t.connections k (t.countOf k - 1)
  rw [lookup_getD] at he hi
  rw [removeConnection_of_some extract h]
  split_ifs <;> dsimp only [totalConnections] <;> omega

theorem isOk_addConnection (t : PrefixTracker K) (ip : IpAddr) :
    (addConnection extract limitError t ip).1.isOk = canAcceptConnection extract t ip := by
  cases h : extract ip with
  | none => simp [addConnection_of_none extract limitError h, canAcceptConnection, h, Except.isOk,
      Except.toBool]
  | some k =>
    rw [addConnection_of_some extract limitError h]
    split_ifs with hc <;> simp [canAcceptConnection, h, hc, Except.isOk, Except.toBool]

/-- The pre-flight check agrees with the outcome of `add_connection` in every state. -/
theorem addConnection_eq_ok_iff (t : PrefixTracker K) (ip : IpAddr) :
    (addConnection extract limitError t ip).1 = .ok () ↔ canAcceptConnection extract t ip = true := by
  cases h : extract ip with
  | none => simp [addConnection_of_none extract limitError h, canAcceptConnection, h]
  | some k =>
    rw [addConnection_of_some extract limitError h]
    split_ifs with hc <;> simp [canAcceptConnection, h, hc]

end Spec

end PrefixTracker

/-- `SubnetTracker`: prefixes are the first three octets. -/
abbrev SubnetTracker := PrefixTracker (UInt8 × UInt8 × UInt8)

/-- `Subnet16Tracker`: prefixes are the first two octets. -/
abbrev Subnet16Tracker := PrefixTracker (UInt8 × UInt8)

namespace SubnetTracker

def extractSubnet24 : IpAddr → Option (UInt8 × UInt8 × UInt8)
  | .v4 a b c _ => some (a, b, c)
  | .v6 _ => none

def extractSubnet16 : IpAddr → Option (UInt8 × UInt8)
  | .v4 a b _ _ => some (a, b)
  | .v6 _ => none

/-- The `{:?}` rendering of the `[u8; 3]` prefix in the error. -/
def limitError (maxPerSubnet : Nat) : UInt8 × UInt8 × UInt8 → Error
  | (a, b, c) => .network ("Subnet limit exceeded: max " ++ toString maxPerSubnet ++
      " connections from /24 subnet [" ++ toString a ++ ", " ++ toString b ++ ", " ++
      toString c ++ "]")

def new : SubnetTracker := PrefixTracker.withLimit maxPeersPerSubnet24

def withLimit (maxPerSubnet : Nat) : SubnetTracker := PrefixTracker.withLimit maxPerSubnet

/-- `#[derive(Default)]`: the limit is `usize::default()`, that is `0`. -/
def default : SubnetTracker := PrefixTracker.withLimit 0

def canAcceptConnection (t : SubnetTracker) (ip : IpAddr) : Bool :=
  PrefixTracker.canAcceptConnection extractSubnet24 t ip

def addConnection (t : SubnetTracker) (ip : IpAddr) : Except Error Unit × SubnetTracker :=
  PrefixTracker.addConnection extractSubnet24 limitError t ip

def removeConnection (t : SubnetTracker) (ip : IpAddr) : SubnetTracker :=
  PrefixTracker.removeConnection extractSubnet24 t ip

def connectionCount (t : SubnetTracker) (ip : IpAddr) : Nat :=
  PrefixTracker.connectionCount extractSubnet24 t ip

def totalConnections (t : SubnetTracker) : Nat := PrefixTracker.totalConnections t

end SubnetTracker

namespace Subnet16Tracker

def limitError (maxPerSubnet : Nat) : UInt8 × UInt8 → Error
  | (a, b) => .network ("/16 subnet limit exceeded: max " ++ toString maxPerSubnet ++
      " connections from subnet " ++ toString a ++ "." ++ toString b ++ ".*.*")

def new : Subnet16Tracker := PrefixTracker.withLimit maxPeersPerSubnet16

def withLimit (maxPerSubnet : Nat) : Subnet16Tracker := PrefixTracker.withLimit maxPerSubnet

/-- `#[derive(Default)]`: the limit is `0`. -/
def default : Subnet16Tracker := PrefixTracker.withLimit 0

def canAcceptConnection (t : Subnet16Tracker) (ip : IpAddr) : Bool :=
  PrefixTracker.canAcceptConnection SubnetTracker.extractSubnet16 t ip

def addConnection (t : Subnet16Tracker) (ip : IpAddr) : Except Error Unit × Subnet16Tracker :=
  PrefixTracker.addConnection SubnetTracker.extractSubnet16 limitError t ip

def removeConnection (t : Subnet16Tracker) (ip : IpAddr) : Subnet16Tracker :=
  PrefixTracker.removeConnection SubnetTracker.extractSubnet16 t ip

def connectionCount (t : Subnet16Tracker) (ip : IpAddr) : Nat :=
  PrefixTracker.connectionCount SubnetTracker.extractSubnet16 t ip

def totalConnections (t : Subnet16Tracker) : Nat := PrefixTracker.totalConnections t

end Subnet16Tracker

end Agentme
