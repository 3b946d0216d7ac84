import Agentme.Plugin.Error

/-! Providers and the caching wrapper. The cache is a single slot: whatever the
parameters of a request, a fresh entry answers it, so within one TTL a request
may be served the data fetched for another's parameters. -/

namespace Agentme

variable {J : Type}

/-- `ProviderMetadata`; the wrapper reads only `cache_ttl_seconds`. -/
structure ProviderMetadata where
  cacheTtlSeconds : Nat

/-- `ProviderContext`; `params` is the `HashMap` of query parameters. -/
structure ProviderContext (J : Type) where
  agentDid : String
  requestId : String
  params : AList (fun _ : String => J)
  forceRefresh : Bool

/-- `ProviderContext::new`; `request_id` is the fresh UUID that `Default` draws. -/
def ProviderContext.new (agentDid requestId : String) : ProviderContext J :=
  ⟨agentDid, requestId, ∅, false⟩

def ProviderContext.withParam (ctx : ProviderContext J) (key : String) (value : J) :
    ProviderContext J :=
  { ctx with params := ctx.params.insert key value }

def ProviderContext.withForceRefresh (ctx : ProviderContext J) (force : Bool) :
    ProviderContext J :=
  { ctx with forceRefresh := force }

structure ProviderData (J : Type) where
  data : J
  timestamp : Nat
  fromCache : Bool
  ageSeconds : Nat
  metadata : AList (fun _ : String => J)

/-- `ProviderData::new`, at wall-clock second `timestamp`. -/
def ProviderData.new (data : J) (timestamp : Nat) : ProviderData J := ⟨data, timestamp, false, 0, ∅⟩

def ProviderData.cached (d : ProviderData J) (ageSeconds : Nat) : ProviderData J :=
  { d with fromCache := true, ageSeconds := ageSeconds }

/-- A `Provider`: its metadata and the answer of `get` at each instant. -/
structure Provider (J : Type) where
  metadata : ProviderMetadata
  get : Nat → ProviderContext J → Except PluginError (ProviderData J)

structure CacheEntry (J : Type) where
  data : ProviderData J
  expiresAt : Nat

structure CachedProvider (J : Type) where
  inner : Provider J
  cache : Option (CacheEntry J)

namespace CachedProvider

def new (provider : Provider J) : CachedProvider J := ⟨provider, none⟩

/-- `get_cached` at instant `now`: an unexpired entry answers unless `force_refresh`
is set; otherwise the inner provider is asked, and its data stored when the TTL is
positive, to expire at `now + ttl`. The code computes that expiry as
`Instant::now() + Duration::from_secs(ttl)`, which panics unless `ExpiryFits now ttl`;
the sum here is unbounded, so a reply is the code's only where the expiry fits. -/
def getCached (c : CachedProvider J) (now : Nat) (ctx : ProviderContext J) :
    Except PluginError (ProviderData J) × CachedProvider J :=
  match (if ctx.forceRefresh then none else c.cache.filter fun e => decide (now < e.expiresAt)) with
  | some entry =>
    let age := (now - (entry.expiresAt - durationFromSecs c.inner.metadata.cacheTtlSeconds)) /
      nanosPerSec
    (.ok (entry.data.cached age), c)
  | none =>
    match c.inner.get now ctx with
    | .error e => (.error e, c)
    | .ok data =>
      let ttl := c.inner.metadata.cacheTtlSeconds
      (.ok data, if ttl > 0 then { c with cache := some ⟨data, now + durationFromSecs ttl⟩ } else c)

def invalidate (c : CachedProvider J) : CachedProvider J := { c with cache := none }

end CachedProvider

/-- The expiry `now + ttl` of an entry stored at `now` is an `Instant`: its seconds
fit in an `i64`. -/
def ExpiryFits (now ttl : Nat) : Prop := now / nanosPerSec + ttl ≤ i64Max

instance (now ttl : Nat) : Decidable (ExpiryFits now ttl) := Nat.decLe _ _

/-- A call on the caching wrapper; it happens at the instant paired with it. -/
inductive ProviderCall (J : Type) where
  | getCached (ctx : ProviderContext J)
  | invalidate

namespace CachedProvider

def step (c : CachedProvider J) (now : Nat) :
    ProviderCall J → Option (Except PluginError (ProviderData J)) × CachedProvider J
  | .getCached ctx => let r := c.getCached now ctx; (some r.1, r.2)
  | .invalidate => (none, c.invalidate)

def run (c : CachedProvider J) (calls : List (Nat × ProviderCall J)) : CachedProvider J :=
  calls.foldl (fun c call => (c.step call.1 call.2).2) c

@[simp] theorem run_nil (c : CachedProvider J) : c.run [] = c := rfl

@[simp] theorem run_append (c : CachedProvider J) (pre post : List (Nat × ProviderCall J)) :
    c.run (pre ++ post) = (c.run pre).run post := List.foldl_append _ _ _ _

@[simp] theorem run_singleton (c : CachedProvider J) (now : Nat) (call : ProviderCall J) :
    c.run [(now, call)] = (c.step now call).2 := rfl

variable {c : CachedProvider J} {now : Nat} {ctx : ProviderContext J}

/-- A fresh entry answers, with the wrapper unchanged. -/
theorem getCached_of_fresh {e : CacheEntry J} (hforce : ctx.forceRefresh = false)
    (he : c.cache = some e) (hfresh : now < e.expiresAt) :
    c.getCached now ctx = (.ok (e.data.cached
      ((now - (e.expiresAt - durationFromSecs c.inner.metadata.cacheTtlSeconds)) / nanosPerSec)), c) := by
  simp [getCached, hforce, he, hfresh, Option.filter]

/-- Without a fresh entry, or on a forced refresh, the inner provider answers. -/
theorem getCached_of_fetch
    (h : ctx.forceRefresh = true ∨ ∀ e, c.cache = some e → e.expiresAt ≤ now) :
    c.getCached now ctx = (c.inner.get now ctx,
      match c.inner.get now ctx with
      | .ok data => if c.inner.metadata.cacheTtlSeconds > 0 then
          { c with cache := some ⟨data, now + durationFromSecs c.inner.metadata.cacheTtlSeconds⟩ }
        else c
      | .error _ => c) := by
  have hnone : (if ctx.forceRefresh then none else c.cache.filter fun e => decide (now < e.expiresAt)) =
      none := by
    rcases h with h | h
    · simp [h]
    · cases hc : c.cache with
      | none => simp
      | some e => simp [Option.filter, Nat.not_lt.mpr (h e hc)]
  unfold getCached
  rw [hnone]
  cases c.inner.get now ctx <;> rfl

@[simp] theorem inner_step (call : ProviderCall J) : (c.step now call).2.inner = c.inner := by
  cases call with
  | getCached ctx =>
    simp only [step, getCached]
    split
    · rfl
    · split <;> (try split) <;> rfl
  | invalidate => rfl

@[simp] theorem inner_run (calls : List (Nat × ProviderCall J)) : (c.run calls).inner = c.inner := by
  induction calls generalizing c with
  | nil => rfl
  | cons call calls ih => exact ih.trans (inner_step call.2)

end CachedProvider

section Cache

variable (p : Provider J)

/-- The stored entry holds the data `p.get` returned at an earlier call of `seen`,
with its expiry one TTL later. -/
def CacheFrom (seen : List (Nat × ProviderCall J)) (c : CachedProvider J) : Prop :=
  c.inner = p ∧ ∀ e, c.cache = some e → ∃ t0 ctx0, (t0, .getCached ctx0) ∈ seen ∧
    p.get t0 ctx0 = .ok e.data ∧ e.expiresAt = t0 + durationFromSecs p.metadata.cacheTtlSeconds

/-- A reply of `get_cached` is the inner provider's own answer to this call, or the
data it returned at an earlier call less than one TTL before, marked as cached with
its age in whole seconds. -/
def ServedFrom (seen : List (Nat × ProviderCall J)) (now : Nat) (ctx : ProviderContext J)
    (r : Except PluginError (ProviderData J)) : Prop :=
  r = p.get now ctx ∨
    ctx.forceRefresh = false ∧ ∃ t0 ctx0 d, (t0, .getCached ctx0) ∈ seen ∧ p.get t0 ctx0 = .ok d ∧
      now < t0 + durationFromSecs p.metadata.cacheTtlSeconds ∧ r = .ok (d.cached ((now - t0) / nanosPerSec))

variable {p}

theorem cacheFrom_new : CacheFrom p [] (CachedProvider.new p) :=
  ⟨rfl, fun _ h => nomatch h⟩

theorem CacheFrom.mono {seen seen' : List (Nat × ProviderCall J)} {c : CachedProvider J}
    (h : CacheFrom p seen c) (hsub : seen ⊆ seen') : CacheFrom p seen' c :=
  ⟨h.1, fun e he => let ⟨t0, ctx0, hm, hg, hx⟩ := h.2 e he; ⟨t0, ctx0, hsub hm, hg, hx⟩⟩

theorem CacheFrom.getCached {seen : List (Nat × ProviderCall J)} {c : CachedProvider J}
    (h : CacheFrom p seen c) (now : Nat) (ctx : ProviderContext J) :
    ServedFrom p seen now ctx (c.getCached now ctx).1 ∧
      CacheFrom p (seen ++ [(now, .getCached ctx)]) (c.getCached now ctx).2 := by
  have hsub : seen ⊆ seen ++ [(now, .getCached ctx)] := List.subset_append_left _ _
  obtain ⟨hp, hc⟩ := h
  by_cases hfetch : ctx.forceRefresh = true ∨ ∀ e, c.cache = some e → e.expiresAt ≤ now
  · rw [CachedProvider.getCached_of_fetch hfetch, hp]
    refine ⟨.inl rfl, ?_⟩
    cases hg : p.get now ctx with
    | error _ => exact CacheFrom.mono ⟨hp, hc⟩ hsub
    | ok data =>
      dsimp only
      split_ifs
      · exact ⟨rfl, fun e he => ⟨now, ctx, by simp, by cases he; exact hg, by cases he; rfl⟩⟩
      · exact CacheFrom.mono ⟨hp, hc⟩ hsub
  · simp only [not_or, Bool.not_eq_true, not_forall, not_le] at hfetch
    obtain ⟨hforce, e, he, hfresh⟩ := hfetch
    obtain ⟨t0, ctx0, hm, hg, hx⟩ := hc e he
    rw [CachedProvider.getCached_of_fresh hforce he hfresh, hp, hx, Nat.add_sub_cancel]
    exact ⟨.inr ⟨hforce, t0, ctx0, e.data, hm, hg, hx ▸ hfresh, rfl⟩,
      CacheFrom.mono ⟨hp, hc⟩ hsub⟩

theorem CacheFrom.step {seen : List (Nat × ProviderCall J)} {c : CachedProvider J}
    (h : CacheFrom p seen c) (now : Nat) (call : ProviderCall J) :
    CacheFrom p (seen ++ [(now, call)]) (c.step now call).2 := by
  cases call with
  | getCached ctx => exact (h.getCached now ctx).2
  | invalidate => exact ⟨h.1, fun _ he => nomatch he⟩

theorem CacheFrom.run {seen : List (Nat × ProviderCall J)} {c : CachedProvider J}
    (h : CacheFrom p seen c) (calls : List (Nat × ProviderCall J)) :
    CacheFrom p (seen ++ calls) (c.run calls) := by
  induction calls generalizing seen c with
  | nil => simpa using h
  | cons call calls ih => simpa [CachedProvider.run] using ih (h.step call.1 call.2)

theorem cacheFrom_run (calls : List (Nat × ProviderCall J)) :
    CacheFrom p calls ((CachedProvider.new p).run calls) := by
  simpa using cacheFrom_new.run calls

/-- An entry stored at a call whose expiry fits is an `Instant`. -/
theorem CacheFrom.expiresAt_le {seen : List (Nat × ProviderCall J)} {c : CachedProvider J}
    (h : CacheFrom p seen c)
    (hfits : ∀ t ctx, (t, .getCached ctx) ∈ seen → ExpiryFits t p.metadata.cacheTtlSeconds)
    {e : CacheEntry J} (he : c.cache = some e) : e.expiresAt / nanosPerSec ≤ i64Max := by
  obtain ⟨t0, ctx0, hm, -, hx⟩ := h.2 e he
  have hf : t0 / nanosPerSec + p.metadata.cacheTtlSeconds ≤ i64Max := hfits t0 ctx0 hm
  rwa [hx, durationFromSecs, Nat.add_mul_div_right _ _ (by decide)]

end Cache

open CachedProvider in
/-- Along calls at non-decreasing instants whose expiries fit, every stored expiry is
an `Instant`, and every reply of `get_cached` is the inner provider's answer to that
very call, or (unless `force_refresh`) the data it gave an earlier call fetched at
`t0 ≤ now` less than one TTL before, with its true age; so the wrapper agrees with the
inner provider, for a provider whose data depends on the parameters alone, whenever
no two calls within one TTL carry different parameters. -/
theorem get_cached_serves_recent_fetch (p : Provider J) (calls : List (Nat × ProviderCall J))
    (hsorted : (calls.map Prod.fst).Sorted (· ≤ ·))
    (hfits : ∀ t ctx, (t, .getCached ctx) ∈ calls → ExpiryFits t p.metadata.cacheTtlSeconds) :
    (∀ pre post, calls = pre ++ post → ∀ e, ((new p).run pre).cache = some e →
      e.expiresAt / nanosPerSec ≤ i64Max) ∧
    (∀ pre now ctx post, calls = pre ++ (now, .getCached ctx) :: post →
      (((new p).run pre).getCached now ctx).1 = p.get now ctx ∨
        ctx.forceRefresh = false ∧ ∃ t0 ctx0 d, (t0, .getCached ctx0) ∈ pre ∧ p.get t0 ctx0 = .ok d ∧
          t0 ≤ now ∧ now < t0 + durationFromSecs p.metadata.cacheTtlSeconds ∧
          (((new p).run pre).getCached now ctx).1 = .ok (d.cached ((now - t0) / nanosPerSec))) ∧
    (∀ f : (String → Option J) → J, (∀ t ctx d, p.get t ctx = .ok d → d.data = f ctx.params.lookup) →
      (∀ pre t ctx mid t' ctx' post,
        calls = pre ++ (t, .getCached ctx) :: (mid ++ (t', .getCached ctx') :: post) →
        t' < t + durationFromSecs p.metadata.cacheTtlSeconds → ctx.params.lookup = ctx'.params.lookup) →
      ∀ pre now ctx post d, calls = pre ++ (now, .getCached ctx) :: post →
        (((new p).run pre).getCached now ctx).1 = .ok d → d.data = f ctx.params.lookup) := by
  have hserved : ∀ pre now ctx post, calls = pre ++ (now, .getCached ctx) :: post →
      ServedFrom p pre now ctx (((new p).run pre).getCached now ctx).1 := fun pre now ctx _ _ =>
    ((cacheFrom_run pre).getCached now ctx).1
  have hle : ∀ pre now ctx post, calls = pre ++ (now, .getCached ctx) :: post →
      ∀ t0 call, (t0, call) ∈ pre → t0 ≤ now := by
    rintro pre now ctx post rfl t0 call hm
    rw [List.Sorted, List.map_append, List.pairwise_append] at hsorted
    exact hsorted.2.2 t0 (List.mem_map_of_mem _ hm) now (List.mem_cons_self _ _)
  refine ⟨fun pre post heq e he => (cacheFrom_run pre).expiresAt_le
      (fun t ctx hm => hfits t ctx (heq ▸ List.mem_append_left post hm)) he,
    fun pre now ctx post heq => ?_, fun f hf hsame pre now ctx post d heq hr => ?_⟩
  · rcases hserved pre now ctx post heq with h | ⟨hforce, t0, ctx0, d, hm, hg, hlt, hr⟩
    · exact .inl h
    · exact .inr ⟨hforce, t0, ctx0, d, hm, hg, hle pre now ctx post heq t0 _ hm, hlt, hr⟩
  · rcases hserved pre now ctx post heq with h | ⟨-, t0, ctx0, d0, hm, hg, hlt, hr0⟩
    · exact hf now ctx d (h ▸ hr)
    · obtain ⟨pre1, pre2, rfl⟩ := List.append_of_mem hm
      have hd : d = d0.cached ((now - t0) / nanosPerSec) := by
        rw [hr0] at hr
        exact (Except.ok.inj hr).symm
      rw [hd, ← hsame pre1 t0 ctx0 pre2 now ctx post (by simp [heq]) hlt]
      exact hf t0 ctx0 d0 hg

/-- The provider of the trait's documentation, its JSON object cut down to the
location it reports: the `location` parameter, `"London"` by default; TTL 300 s. -/
def weatherProvider : Provider String :=
  ⟨⟨300⟩, fun now ctx =>
    .ok (ProviderData.new ((ctx.params.lookup "location").getD "London") (now / nanosPerSec))⟩

/-- Two requests of one agent, one second apart, for London and for Paris. -/
theorem get_cached_serves_recent_fetch_weather :
    let london : ProviderContext String :=
      (ProviderContext.new "did:agentme:a" "r1").withParam "location" "London"
    let paris : ProviderContext String :=
      (ProviderContext.new "did:agentme:a" "r2").withParam "location" "Paris"
    let pre : List (Nat × ProviderCall String) := [(0, .getCached london)]
    let r := (((CachedProvider.new weatherProvider).run pre).getCached (durationFromSecs 1) paris).1
    ((pre ++ [(durationFromSecs 1, ProviderCall.getCached paris)]).map Prod.fst).Sorted (· ≤ ·) ∧
      (∀ t ctx, (t, ProviderCall.getCached ctx) ∈ pre ++ [(durationFromSecs 1, .getCached paris)] →
        ExpiryFits t weatherProvider.metadata.cacheTtlSeconds) ∧
      (r = weatherProvider.get (durationFromSecs 1) paris ∨
        paris.forceRefresh = false ∧ ∃ t0 ctx0 d, (t0, .getCached ctx0) ∈ pre ∧
          weatherProvider.get t0 ctx0 = .ok d ∧ t0 ≤ durationFromSecs 1 ∧
          durationFromSecs 1 < t0 + durationFromSecs weatherProvider.metadata.cacheTtlSeconds ∧
          r = .ok (d.cached ((durationFromSecs 1 - t0) / nanosPerSec))) := by
  intro london paris pre r
  have hfits : ∀ t ctx, (t, ProviderCall.getCached ctx) ∈ pre ++ [(durationFromSecs 1, .getCached paris)] →
      ExpiryFits t weatherProvider.metadata.cacheTtlSeconds := by
    intro t ctx h
    simp only [pre, List.singleton_append, List.mem_cons, Prod.mk.injEq, ProviderCall.getCached.injEq,
      List.mem_singleton, List.not_mem_nil, or_false] at h
    rcases h with ⟨rfl, -⟩ | ⟨rfl, -⟩ <;> decide
  exact ⟨by decide, hfits, (get_cached_serves_recent_fetch weatherProvider _ (by decide) hfits).2.1 _ _ _ [] rfl⟩

/-- The weather provider's data depends on the parameters alone, yet a request for
Paris one second after one for London is served London's data; the entry's expiry
fits an `Instant`, so the code does the same. -/
theorem get_cached_serves_other_location :
    let london : ProviderContext String :=
      (ProviderContext.new "did:agentme:a" "r1").withParam "location" "London"
    let paris : ProviderContext String :=
      (ProviderContext.new "did:agentme:a" "r2").withParam "location" "Paris"
    let c := (CachedProvider.new weatherProvider).run [(0, .getCached london)]
    (∀ t ctx d, weatherProvider.get t ctx = .ok d → d.data = (ctx.params.lookup "location").getD "London") ∧
      ExpiryFits 0 weatherProvider.metadata.cacheTtlSeconds ∧
      ((c.getCached (durationFromSecs 1) paris).1.map ProviderData.data) = .ok "London" ∧
      ((weatherProvider.get (durationFromSecs 1) paris).map ProviderData.data) = .ok "Paris" :=
  ⟨fun _ _ _ h => by cases h; rfl, by decide, rfl, rfl⟩

/-- With `cache_ttl_seconds = 0` ("no caching") the wrapper stores nothing, and every
`get_cached` returns what the inner provider returns for that call. -/
theorem get_cached_without_ttl_is_transparent
    (get : Nat → ProviderContext J → Except PluginError (ProviderData J))
    (calls : List (Nat × ProviderCall J)) :
    let p : Provider J := ⟨⟨0⟩, get⟩
    ((CachedProvider.new p).run calls).cache = none ∧
      ∀ now ctx, (((CachedProvider.new p).run calls).getCached now ctx).1 = get now ctx := by
  intro p
  have hstep : ∀ (c : CachedProvider J) now call, c.inner = p → c.cache = none →
      (c.step now call).2.cache = none := by
    intro c now call hp hc
    cases call with
    | getCached ctx =>
      rw [CachedProvider.step, CachedProvider.getCached_of_fetch (.inr fun e he => nomatch hc.symm.trans he)]
      cases c.inner.get now ctx <;> simp [hp, p, hc]
    | invalidate => rfl
  have hrun : ∀ (c : CachedProvider J), c.inner = p → c.cache = none → (c.run calls).cache = none := by
    induction calls with
    | nil => exact fun _ _ hc => hc
    | cons call calls ih =>
      exact fun c hp hc => ih _ (by rw [CachedProvider.inner_step, hp]) (hstep c call.1 call.2 hp hc)
  have hc := hrun (CachedProvider.new p) rfl rfl
  refine ⟨hc, fun now ctx => ?_⟩
  rw [CachedProvider.getCached_of_fetch (.inr fun e he => nomatch hc.symm.trans he),
    CachedProvider.inner_run]
  rfl

end Agentme
