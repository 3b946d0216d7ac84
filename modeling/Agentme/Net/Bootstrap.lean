import Agentme.Net.Multiaddr
import Agentme.Net.Subnet

/-! Bootstrap diversity and the start-up check of the network configuration. A
peer list passes when its IPv4 literals span at least three `/16` prefixes. -/

namespace Agentme

/-- `MIN_BOOTSTRAP_PEERS`. -/
def minBootstrapPeers : Nat := 3

/-- Modelled from the spec: `crate::config::NetworkConfig` is outside the source;
its fields are those the source and its tests build, `max_connections` a `u32`. -/
structure NetworkConfig where
  listenAddresses : List String
  bootstrapPeers : List String
  maxConnections : Nat

/-- The `/16` prefix of the IP literal of `peer`, when that literal is IPv4. -/
def peerSubnet16 (peer : String) : Option (UInt8 × UInt8) :=
  (extractIpFromMultiaddr peer).bind SubnetTracker.extractSubnet16

/-- The loop that collects the distinct `/16` prefixes of the peers. -/
def collectSubnets16 (subnets16 : Finset (UInt8 × UInt8)) (peer : String) :
    Finset (UInt8 × UInt8) :=
  match extractIpFromMultiaddr peer with
  | some ip =>
    match SubnetTracker.extractSubnet16 ip with
    | some subnet => insert subnet subnets16
    | none => subnets16
  | none => subnets16

def validateBootstrapPeers (peers : List String) : Except Error Unit :=
  if peers.length < minBootstrapPeers then
    .error (.config ("Minimum " ++ toString minBootstrapPeers ++
      " bootstrap peers required for eclipse attack protection, got " ++ toString peers.length))
  else
    let subnets16 := peers.foldl collectSubnets16 ∅
    if subnets16.card < minBootstrapPeers then
      .error (.config ("Bootstrap peers must be from at least " ++ toString minBootstrapPeers ++
        " different /16 subnets for eclipse attack protection, got " ++ toString subnets16.card))
    else .ok ()

def validateNetworkConfig (config : NetworkConfig) : Except Error Unit := do
  if !config.bootstrapPeers.isEmpty then
    validateBootstrapPeers config.bootstrapPeers
  if config.maxConnections = 0 then
    throw (.config "max_connections must be greater than 0")
  pure ()

theorem foldl_collectSubnets16 (peers : List String) (acc : Finset (UInt8 × UInt8)) :
    peers.foldl collectSubnets16 acc = acc ∪ (peers.filterMap peerSubnet16).toFinset := by
  induction peers generalizing acc with
  | nil => simp
  | cons p ps ih =>
    rw [List.foldl_cons, ih, List.filterMap_cons]
    unfold collectSubnets16 peerSubnet16
    cases extractIpFromMultiaddr p with
    | none => simp
    | some ip =>
      cases h : SubnetTracker.extractSubnet16 ip with
      | none => simp [h]
      | some s => ext; simp [h, or_left_comm, or_assoc]

/-- Acceptance depends only on the set of `/16` prefixes of the IPv4 literals. -/
theorem validateBootstrapPeers_eq_ok_iff (peers : List String) :
    validateBootstrapPeers peers = .ok () ↔
      minBootstrapPeers ≤ (peers.filterMap peerSubnet16).toFinset.card := by
  have hlen : (peers.filterMap peerSubnet16).toFinset.card ≤ peers.length :=
    (List.toFinset_card_le _).trans (List.length_filterMap_le _ _)
  unfold validateBootstrapPeers
  rw [foldl_collectSubnets16, Finset.empty_union]
  split_ifs with hshort
  · -- fewer peers than the minimum leave fewer prefixes still
    simp only [false_iff, not_le]
    omega
  · dsimp only
    split_ifs with hfew
    · simpa only [reduceCtorEq, false_iff, not_le] using hfew
    · simpa only [true_iff, not_lt] using hfew

theorem validateNetworkConfig_eq_ok_iff (config : NetworkConfig) :
    validateNetworkConfig config = .ok () ↔ 0 < config.maxConnections ∧
      (config.bootstrapPeers = [] ∨ validateBootstrapPeers config.bootstrapPeers = .ok ()) := by
  unfold validateNetworkConfig
  rcases config with ⟨_, _ | ⟨p, ps⟩, _ | m⟩ <;> try cases validateBootstrapPeers (p :: ps)
  all_goals simp [bind, Except.bind, pure, Except.pure, throw, throwThe, MonadExceptOf.throw]

theorem mem_filterMap_toFinset_iff {peers : List String} {p : UInt8 × UInt8} :
    p ∈ (peers.filterMap peerSubnet16).toFinset ↔
      ∃ i : Fin peers.length, peerSubnet16 peers[i] = some p := by
  simp only [List.mem_toFinset, List.mem_filterMap]
  constructor
  · rintro ⟨a, ha, hp⟩
    obtain ⟨i, rfl⟩ := List.get_of_mem ha
    exact ⟨i, hp⟩
  · rintro ⟨i, hp⟩
    exact ⟨_, List.getElem_mem _, hp⟩

/-- Three distinct `/16` prefixes are three entries, at distinct positions, with
pairwise distinct prefixes. -/
theorem three_le_card_iff (peers : List String) :
    minBootstrapPeers ≤ (peers.filterMap peerSubnet16).toFinset.card ↔
      ∃ i j k : Fin peers.length, i ≠ j ∧ i ≠ k ∧ j ≠ k ∧
        ∃ p q r, peerSubnet16 peers[i] = some p ∧ peerSubnet16 peers[j] = some q ∧
          peerSubnet16 peers[k] = some r ∧ p ≠ q ∧ p ≠ r ∧ q ≠ r := by
  rw [minBootstrapPeers, Nat.succ_le_iff, Finset.two_lt_card_iff]
  constructor
  · rintro ⟨p, q, r, hp, hq, hr, hpq, hpr, hqr⟩
    obtain ⟨i, hi⟩ := mem_filterMap_toFinset_iff.mp hp
    obtain ⟨j, hj⟩ := mem_filterMap_toFinset_iff.mp hq
    obtain ⟨k, hk⟩ := mem_filterMap_toFinset_iff.mp hr
    refine ⟨i, j, k, ?_, ?_, ?_, p, q, r, hi, hj, hk, hpq, hpr, hqr⟩
    · rintro rfl; exact hpq (Option.some.inj (hi.symm.trans hj))
    · rintro rfl; exact hpr (Option.some.inj (hi.symm.trans hk))
    · rintro rfl; exact hqr (Option.some.inj (hj.symm.trans hk))
  · rintro ⟨i, j, k, -, -, -, p, q, r, hi, hj, hk, hpq, hpr, hqr⟩
    exact ⟨p, q, r, mem_filterMap_toFinset_iff.mpr ⟨i, hi⟩,
      mem_filterMap_toFinset_iff.mpr ⟨j, hj⟩, mem_filterMap_toFinset_iff.mpr ⟨k, hk⟩,
      hpq, hpr, hqr⟩

theorem peerSubnet16_eq_some_iff (peer : String) (a b : UInt8) :
    peerSubnet16 peer = some (a, b) ↔ ∃ c d, extractIpFromMultiaddr peer = some (.v4 a b c d) := by
  unfold peerSubnet16
  cases extractIpFromMultiaddr peer with
  | none => simp
  | some ip => cases ip <;> simp [SubnetTracker.extractSubnet16]

/-- `validate_bootstrap_peers` accepts exactly the lists with three entries whose
IPv4 literals lie in three distinct `/16` prefixes, and `validate_network_config`
accepts exactly a positive `max_connections` with an empty or accepted peer list;
so acceptance ignores the order of the peers and survives appending peers. -/
theorem bootstrap_validation_iff (peers : List String) (config : NetworkConfig) :
    (validateBootstrapPeers peers = .ok () ↔
      ∃ i j k : Fin peers.length, i ≠ j ∧ i ≠ k ∧ j ≠ k ∧
        ∃ p q r, peerSubnet16 peers[i] = some p ∧ peerSubnet16 peers[j] = some q ∧
          peerSubnet16 peers[k] = some r ∧ p ≠ q ∧ p ≠ r ∧ q ≠ r) ∧
    (∀ peer a b, peerSubnet16 peer = some (a, b) ↔
      ∃ c d, extractIpFromMultiaddr peer = some (.v4 a b c d)) ∧
    (validateNetworkConfig config = .ok () ↔ 0 < config.maxConnections ∧
      (config.bootstrapPeers = [] ∨ validateBootstrapPeers config.bootstrapPeers = .ok ())) ∧
    (∀ peers', peers'.Perm peers →
      (validateBootstrapPeers peers' = .ok () ↔ validateBootstrapPeers peers = .ok ())) ∧
    (∀ more, validateBootstrapPeers peers = .ok () →
      validateBootstrapPeers (peers ++ more) = .ok ()) := by
  refine ⟨(validateBootstrapPeers_eq_ok_iff peers).trans (three_le_card_iff peers),
    peerSubnet16_eq_some_iff, validateNetworkConfig_eq_ok_iff config, fun peers' hp => ?_, fun more h => ?_⟩
  · rw [validateBootstrapPeers_eq_ok_iff, validateBootstrapPeers_eq_ok_iff,
      List.toFinset_eq_of_perm _ _ (hp.filterMap _)]
  · rw [validateBootstrapPeers_eq_ok_iff, List.filterMap_append, List.toFinset_append] at *
    exact h.trans (Finset.card_le_card Finset.subset_union_left)

end Agentme
