import Iicp.Concurrent.EventMachine
import Iicp.Directory.LocalDiscovery

/-!
# Invalidating the cache of resolutions

`resolve` takes the lock of the cache to look for an entry, and again to store the candidate that its
search has accepted. In between, other calls and `invalidate_cache` take the lock. A run is the
sequence of these accesses; a call that nothing interrupts does what `resolve` does
(`resolve_eq_accesses`).

A search that is under way at an invalidation stores its candidate nevertheless. So what is found was
verified after the last invalidation exactly in the runs in which no search stores an entry after an
invalidation that its verification began before (`invalidation_respected_iff`).
-/

namespace Iicp.Directory

open Rust Concurrent List

/-- A call that asks the cache, for its DID. -/
structure Lookup where
  call : Call
  did : String
  searched : call.searchedDid = some did

def Lookup.key (lookup : Lookup) : CacheKey :=
  ⟨modeCacheKey lookup.call.request.mode, lookup.did⟩

/-- The accesses to the cache, and the moment at which a search begins to verify candidates. -/
inductive Access where
  | invalidateCache
  | look (lookup : Lookup)
  | verify (number : ℕ)
  | store (number : ℕ) (accepted : DirectoryResolution)

/-- The cache and the searches under way, each with the number of invalidations before it verifies,
which is also recorded for the search behind the entry of a key. -/
structure CacheRun where
  cache : ResolutionCache
  searches : List (Option ℕ × Lookup)
  invalidations : ℕ
  origin : CacheKey → Option (ℕ × Lookup)

namespace CacheRun

def found (run : CacheRun) (lookup : Lookup) : Option CachedResolution :=
  (run.cache.retain lookup.call.now).lookup lookup.key

/-- The search that stores a candidate, and the entry; a candidate that has expired is not stored. -/
def stored (run : CacheRun) (number : ℕ) (accepted : DirectoryResolution) :
    Option (ℕ × Lookup × CachedResolution) := do
  let (begun, lookup) ← run.searches[number]?
  let before ← begun
  let expiry ← accepted.expiresAt.filter fun expiry ↦ lookup.call.now < expiry
  some (before, lookup, ⟨accepted, expiry⟩)

def step (run : CacheRun) : Access → CacheRun
  | .invalidateCache => { run with cache := [], invalidations := run.invalidations + 1 }
  | .look lookup =>
    { run with
      cache := run.cache.retain lookup.call.now
      searches := if (run.found lookup).isSome then run.searches
        else (none, lookup) :: run.searches }
  | .verify number =>
    { run with searches := run.searches.modify number fun (begun, lookup) ↦
        (begun.or (some run.invalidations), lookup) }
  | .store number accepted =>
    let ended := { run with searches := run.searches.eraseIdx number }
    match run.stored number accepted with
    | none => ended
    | some (before, lookup, entry) =>
      { ended with
        cache := run.cache.insert lookup.key entry
        origin := Function.update run.origin lookup.key (some (before, lookup)) }

/-- The entry has not expired, and a search for the same mode and DID has stored it whose verification
began after the last invalidation. -/
def Fresh (run : CacheRun) (lookup : Lookup) (entry : CachedResolution) : Prop :=
  lookup.call.now < entry.expiresAt ∧
    ∃ other, run.origin lookup.key = some (run.invalidations, other) ∧
      other.call.request.mode = lookup.call.request.mode ∧ other.did = lookup.did

/-- A search whose verification began before the last invalidation stores an entry. -/
def Late (run : CacheRun) (access : Access) : Prop :=
  ∃ number accepted before result, access = .store number accepted ∧
    run.stored number accepted = some (before, result) ∧ before ≠ run.invalidations

/-- A search that verified after the last invalidation has stored the entry of each key. -/
def Kept (run : CacheRun) : Prop :=
  ∀ key entry, (key, entry) ∈ run.cache →
    ∃ other : Lookup, run.origin key = some (run.invalidations, other) ∧ other.key = key

variable {run : CacheRun} {access : Access}

/-- A call that is not interrupted leaves the cache as `resolve` does. -/
theorem resolve_eq_accesses (crates : DiscoveryCrates) (lookup : Lookup)
    (documents : Announced → Fetched Json) :
    let result := resolve crates lookup.call documents run.cache
    result.2 = (run.step (.look lookup)).cache ∨ ∃ accepted, result.1 = .ok (some accepted) ∧
      result.2 = (((run.step (.look lookup)).step (.verify 0)).step (.store 0 accepted)).cache := by
  dsimp only
  rw [resolve_of_searching lookup.searched]
  cases hfound : (run.cache.retain lookup.call.now).lookup
    ⟨modeCacheKey lookup.call.request.mode, lookup.did⟩ with
  | some => exact .inl rfl
  | none =>
    have hnone : run.found lookup = none := hfound
    obtain ⟨_, _, accepted, -, -, -, hsearch⟩ | ⟨-, hsame, -⟩ := @search_cases crates lookup.call
      documents lookup.did (run.cache.retain lookup.call.now)
    · refine .inr ⟨accepted, congrArg Prod.fst hsearch, ?_⟩
      rw [hsearch]
      cases hexpiry : accepted.expiresAt.filter fun expiry ↦ lookup.call.now < expiry <;>
        simp [step, stored, remember, hnone, hexpiry, Lookup.key]
    · exact .inl hsame

lemma modeCacheKey_injective : Function.Injective modeCacheKey := by
  intro first second h
  cases first <;> cases second <;> first | rfl | cases h

lemma fresh_of_kept (hkept : run.Kept) {lookup : Lookup} {entry : CachedResolution}
    (hfound : run.found lookup = some entry) : run.Fresh lookup entry := by
  obtain ⟨hcached, hnow⟩ := mem_filter.mp (mem_of_lookup hfound)
  obtain ⟨other, horigin, hkey⟩ := hkept _ _ hcached
  obtain ⟨hmode, hdid⟩ := CacheKey.mk.inj hkey
  exact ⟨of_decide_eq_true hnow, other, horigin, modeCacheKey_injective hmode, hdid⟩

lemma kept_step (hkept : run.Kept) (htimely : ¬ run.Late access) : (run.step access).Kept := by
  intro key entry hmem
  cases access with
  | invalidateCache => cases hmem
  | look => exact hkept key entry (mem_filter.mp hmem).1
  | verify => exact hkept key entry hmem
  | store number accepted =>
    unfold step at hmem ⊢
    cases hstored : run.stored number accepted with
    | none =>
      simp only [hstored] at hmem ⊢
      exact hkept key entry hmem
    | some result =>
      obtain ⟨before, lookup, _⟩ := result
      simp only [hstored] at hmem ⊢
      obtain hnew | hold := mem_cons.mp hmem
      · obtain ⟨rfl, rfl⟩ := Prod.mk.inj hnew
        have htime : before = run.invalidations := by
          by_contra hlate
          exact htimely ⟨number, accepted, before, _, rfl, hstored, hlate⟩
        rw [htime, Function.update_self]
        exact ⟨lookup, rfl, rfl⟩
      · obtain ⟨hold, hother⟩ := mem_filter.mp hold
        rw [Function.update_of_ne (bne_iff_ne.mp hother)]
        exact hkept key entry hold

/-- An entry that is stored late is found by the same call again, and is not fresh. -/
lemma found_of_late (hlate : run.Late access) :
    ∃ lookup entry, (run.step access).found lookup = some entry ∧
      ¬ (run.step access).Fresh lookup entry := by
  obtain ⟨_, _, _, ⟨lookup, entry⟩, rfl, hstored, hbefore⟩ := hlate
  have hnow : lookup.call.now < entry.expiresAt := by
    simp only [stored, Option.bind_eq_bind, Option.bind_eq_some_iff, Option.filter_eq_some_iff,
      Option.some.injEq] at hstored
    obtain ⟨_, -, _, -, _, ⟨-, hnow⟩, rfl, rfl⟩ := hstored
    exact of_decide_eq_true hnow
  refine ⟨lookup, entry, ?_, ?_⟩
  · simp [step, hstored, found, ResolutionCache.insert, ResolutionCache.retain, hnow]
  · rintro ⟨-, _, horigin, -⟩
    simp only [step, hstored, Function.update_self] at horigin
    exact hbefore (Prod.mk.inj (Option.some.inj horigin)).1

end CacheRun

def cacheAt (accesses : List Access) (position : ℕ) : CacheRun :=
  stateAt CacheRun.step ⟨[], [], 0, fun _ ↦ none⟩ accesses position

/-- In a run, whatever a call may find at any moment is fresh, exactly when no search stores an entry
after an invalidation that its verification began before. -/
theorem invalidation_respected_iff (accesses : List Access) :
    (∀ position lookup entry, (cacheAt accesses position).found lookup = some entry →
        (cacheAt accesses position).Fresh lookup entry) ↔
      ∀ position access, accesses[position]? = some access →
        ¬ (cacheAt accesses position).Late access := by
  refine @always_iff _ _ CacheRun.step _ accesses CacheRun.Kept
    (fun run ↦ ∀ lookup entry, run.found lookup = some entry → run.Fresh lookup entry)
    CacheRun.Late (fun key entry hmem ↦ by cases hmem) ?_ ?_ ?_
  · exact fun run hkept lookup entry hfound ↦ CacheRun.fresh_of_kept hkept hfound
  · exact fun position access _ hkept htimely ↦ CacheRun.kept_step hkept htimely
  · intro position access _ _ hlate hall
    obtain ⟨lookup, entry, hfound, hstale⟩ := CacheRun.found_of_late hlate
    exact hstale (hall lookup entry hfound)

def sampleLookup : Lookup := ⟨sampleCall, sampleDid, by decide +kernel⟩

def malloryResolution : DirectoryResolution :=
  resolutionOf sampleCrates malloryExamined 1100 malloryEndpoint

/-- The search of a call verifies a candidate, the cache is invalidated, and the search stores the
candidate, which the next call finds. -/
theorem verified_before_invalidation_found :
    let run := cacheAt [.look sampleLookup, .verify 0, .invalidateCache, .store 0 malloryResolution] 4
    run.found sampleLookup = some ⟨malloryResolution, 1200⟩ ∧
      ¬ run.Fresh sampleLookup ⟨malloryResolution, 1200⟩ := by
  refine ⟨by decide +kernel, ?_⟩
  rintro ⟨-, _, horigin, -⟩
  exact absurd (Prod.mk.inj (Option.some.inj horigin)).1 (by decide)

end Iicp.Directory
