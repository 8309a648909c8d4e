import DeepOrc.Lib.Cache
import DeepOrc.Metrics.Egress

/-!
# Countries of addresses

The country of an egress address is asked of two services, one after the other, and kept for a day. An address that
neither knows is asked again.
-/

namespace DeepOrc.Metrics

open Lib.Cache (Call Store after afterAll asks reply)

/-- In microseconds, as the other times. -/
def geoCacheTtl : Nat := 86400 * 1000000

/-- What ip-api.com answers, by the fields that are there. -/
structure IpApi where
  status : Option String
  query : Option String
  countryCode : Option String

structure IpInfo where
  country : Option String
  bogon : Bool
  ip : Option String

/-- What the services answer now; `none` where the request fails. -/
structure GeoServices where
  ipApi : Option IpApi
  ipInfo : Option IpInfo

/-- An empty country is none. -/
def locate (ip country : Option String) : Option GeoResult :=
  match ip, country with
  | some ip, some code => if located : code ≠ "" then some ⟨ip, code, located⟩ else none
  | _, _ => none

/-- An answer without the address raises, and the other service is asked. -/
def fromIpApi (data : IpApi) : Option GeoResult :=
  if data.status = some "success" then locate data.query data.countryCode else none

def fromIpInfo (ip : String) (data : IpInfo) : Option GeoResult :=
  if data.bogon then none else locate (some (data.ip.getD ip)) data.country

/-- `_lookup_geo_uncached` -/
def lookupGeoUncached (ip : String) (services : GeoServices) : Option GeoResult :=
  (services.ipApi.bind fromIpApi).or (services.ipInfo.bind (fromIpInfo ip))

structure GeoLookup where
  ip : String
  now : Nat
  services : GeoServices

abbrev GeoCache := Store String GeoResult

/-- `asked` tells whether a service was asked. -/
structure Looked where
  cache : GeoCache
  result : Option GeoResult
  asked : Bool

def GeoLookup.key (lookup : GeoLookup) : String := String.ofList (Naming.strip lookup.ip.toList)

def GeoLookup.found (lookup : GeoLookup) : Option GeoResult := lookupGeoUncached lookup.key lookup.services

/-- A failure is not kept. -/
def lookupAnew (cache : GeoCache) (lookup : GeoLookup) : Looked :=
  match lookup.found with
  | some geo => ⟨Function.update cache lookup.key (some (geo, lookup.now)), some geo, true⟩
  | none => ⟨cache, none, true⟩

/-- `lookup_geo` -/
def lookupGeo (cache : GeoCache) (lookup : GeoLookup) : Looked :=
  if lookup.key = "" then ⟨cache, none, false⟩
  else
    match cache lookup.key with
    | some (geo, time) =>
        if lookup.now - time < geoCacheTtl then ⟨cache, some geo, false⟩ else lookupAnew cache lookup
    | none => lookupAnew cache lookup

def noCountries : GeoCache := fun _ => none

def cacheAfter (lookups : List GeoLookup) : GeoCache :=
  lookups.foldl (fun cache lookup => (lookupGeo cache lookup).cache) noCountries

/-- The lookups of a run that ask a service. -/
def askedBy (cache : GeoCache) : List GeoLookup → List GeoLookup
  | [] => []
  | lookup :: rest =>
      (if (lookupGeo cache lookup).asked then [lookup] else []) ++ askedBy (lookupGeo cache lookup).cache rest

/-! ### The cache is one with expiry -/

def GeoLookup.call (lookup : GeoLookup) : Call String GeoResult := ⟨lookup.key, lookup.now, lookup.found⟩

def geoCalls (lookups : List GeoLookup) : List (Call String GeoResult) :=
  (lookups.filter fun lookup => lookup.key ≠ "").map GeoLookup.call

theorem lookupGeo_blank {lookup : GeoLookup} (blank : lookup.key = "") (cache : GeoCache) :
    lookupGeo cache lookup = ⟨cache, none, false⟩ := if_pos blank

theorem lookupAnew_eq {cache : GeoCache} {lookup : GeoLookup}
    (held : Lib.Cache.kept geoCacheTtl cache lookup.call = none) :
    lookupAnew cache lookup = ⟨after geoCacheTtl cache lookup.call, reply geoCacheTtl cache lookup.call,
      asks geoCacheTtl cache lookup.call⟩ := by
  have asking : asks geoCacheTtl cache lookup.call = true := by rw [asks, held, Option.isNone_none]
  rw [lookupAnew, after, reply, asking, held, Option.none_or, if_pos rfl]
  cases found : lookup.found with
  | none => simp only [GeoLookup.call, found]
  | some geo => simp only [GeoLookup.call, found]

theorem lookupGeo_eq {lookup : GeoLookup} (named : lookup.key ≠ "") (cache : GeoCache) :
    lookupGeo cache lookup = ⟨after geoCacheTtl cache lookup.call, reply geoCacheTtl cache lookup.call,
      asks geoCacheTtl cache lookup.call⟩ := by
  rw [lookupGeo, if_neg named]
  cases stored : cache lookup.key with
  | none =>
      apply lookupAnew_eq
      have absent : cache lookup.call.key = none := stored
      rw [Lib.Cache.kept, absent, Option.filter_none, Option.map_none]
  | some entry =>
      obtain ⟨geo, time⟩ := entry
      have present : cache lookup.call.key = some (geo, time) := stored
      dsimp only
      by_cases recent : lookup.now - time < geoCacheTtl
      · have held : Lib.Cache.kept geoCacheTtl cache lookup.call = some geo :=
          Lib.Cache.kept_eq_some_iff.mpr ⟨time, present, recent⟩
        rw [if_pos recent, after, reply, asks, held, Option.isNone_some, if_neg Bool.false_ne_true, Option.some_or]
      · rw [if_neg recent]
        refine lookupAnew_eq (Option.eq_none_iff_forall_ne_some.mpr fun value held => ?_)
        obtain ⟨since, same, young⟩ := Lib.Cache.kept_eq_some_iff.mp held
        rw [present, Option.some.injEq, Prod.mk.injEq] at same
        obtain ⟨-, rfl⟩ := same
        exact recent young

theorem geoCalls_blank {lookup : GeoLookup} (blank : lookup.key = "") (rest : List GeoLookup) :
    geoCalls (lookup :: rest) = geoCalls rest := by
  rw [geoCalls, List.filter_cons_of_neg (by simpa using blank)]
  rfl

theorem geoCalls_named {lookup : GeoLookup} (named : lookup.key ≠ "") (rest : List GeoLookup) :
    geoCalls (lookup :: rest) = lookup.call :: geoCalls rest := by
  rw [geoCalls, List.filter_cons_of_pos (by simpa using named)]
  rfl

theorem foldl_lookupGeo (cache : GeoCache) (lookups : List GeoLookup) :
    lookups.foldl (fun cache lookup => (lookupGeo cache lookup).cache) cache =
      afterAll geoCacheTtl cache (geoCalls lookups) := by
  induction lookups generalizing cache with
  | nil => rfl
  | cons lookup rest ih =>
      rw [List.foldl_cons, ih]
      by_cases blank : lookup.key = ""
      · rw [lookupGeo_blank blank, geoCalls_blank blank]
      · rw [lookupGeo_eq blank, geoCalls_named blank]
        rfl

theorem askedBy_calls (cache : GeoCache) (lookups : List GeoLookup) :
    (askedBy cache lookups).map GeoLookup.call = Lib.Cache.asked geoCacheTtl cache (geoCalls lookups) := by
  induction lookups generalizing cache with
  | nil => rfl
  | cons lookup rest ih =>
      rw [askedBy, List.map_append, ih]
      by_cases blank : lookup.key = ""
      · rw [lookupGeo_blank blank, geoCalls_blank blank]
        rfl
      · rw [lookupGeo_eq blank, geoCalls_named blank, Lib.Cache.asked]
        cases asks geoCacheTtl cache lookup.call <;> rfl

theorem geoCacheTtl_pos : 0 < geoCacheTtl := by decide

theorem holds_cacheAfter (lookups : List GeoLookup) :
    Lib.Cache.Holds (cacheAfter lookups) ((askedBy noCountries lookups).map GeoLookup.call) := by
  have holds := Lib.Cache.holds_empty.afterAll geoCacheTtl_pos (geoCalls lookups)
  rw [List.nil_append] at holds
  rw [cacheAfter, foldl_lookupGeo, askedBy_calls]
  exact holds

theorem askedBy_append (cache : GeoCache) (lookups : List GeoLookup) (lookup : GeoLookup) :
    askedBy cache (lookups ++ [lookup]) = askedBy cache lookups ++
      if (lookupGeo (lookups.foldl (fun cache lookup => (lookupGeo cache lookup).cache) cache) lookup).asked then
        [lookup]
      else [] := by
  induction lookups generalizing cache with
  | nil =>
      rw [List.nil_append, askedBy, askedBy, askedBy, List.append_nil, List.nil_append]
      rfl
  | cons first rest ih =>
      rw [List.cons_append, askedBy, askedBy, ih, List.append_assoc]
      rfl

theorem askedBy_concat (lookups : List GeoLookup) (lookup : GeoLookup) :
    askedBy noCountries (lookups ++ [lookup]) = askedBy noCountries lookups ++
      if (lookupGeo (cacheAfter lookups) lookup).asked then [lookup] else [] :=
  askedBy_append noCountries lookups lookup

/-- The calls that have asked once this lookup is done, as the cache has them. -/
theorem askedBy_concat_calls (lookups : List GeoLookup) {lookup : GeoLookup} (named : lookup.key ≠ "") :
    (askedBy noCountries (lookups ++ [lookup])).map GeoLookup.call =
      (askedBy noCountries lookups).map GeoLookup.call ++
        if asks geoCacheTtl (cacheAfter lookups) lookup.call then [lookup.call] else [] := by
  rw [askedBy_concat, List.map_append, lookupGeo_eq named]
  cases asks geoCacheTtl (cacheAfter lookups) lookup.call with
  | false => rfl
  | true => rfl

/-- In any run no country is asked for again within a day of its answer. A lookup asks exactly where no answer to an
earlier one of the address is that recent, and what it returns is such an answer or the services' own now. -/
theorem geo_lookups_spaced_and_recent (lookups : List GeoLookup) (lookup : GeoLookup) :
    ((askedBy noCountries lookups).Pairwise fun earlier later =>
        earlier.key = later.key → earlier.found.isSome = true → geoCacheTtl ≤ later.now - earlier.now) ∧
      ((lookupGeo (cacheAfter lookups) lookup).asked = true ↔
        lookup.key ≠ "" ∧ ∀ earlier ∈ askedBy noCountries lookups, earlier.key = lookup.key →
          earlier.found.isSome = true → geoCacheTtl ≤ lookup.now - earlier.now) ∧
      ∀ geo, (lookupGeo (cacheAfter lookups) lookup).result = some geo →
        ∃ source ∈ askedBy noCountries (lookups ++ [lookup]),
          source.key = lookup.key ∧ source.found = some geo ∧ lookup.now - source.now < geoCacheTtl := by
  have holds := holds_cacheAfter lookups
  refine ⟨?_, ?_, fun geo returned => ?_⟩
  · have spaced := Lib.Cache.asked_spaced geoCacheTtl_pos (geoCalls lookups)
    rw [← askedBy_calls (fun _ => none), List.pairwise_map] at spaced
    exact spaced
  · by_cases blank : lookup.key = ""
    · rw [lookupGeo_blank blank]
      exact iff_of_false Bool.false_ne_true fun both => both.1 blank
    · rw [lookupGeo_eq blank, holds.asks_iff, List.forall_mem_map]
      exact (and_iff_right blank).symm
  · by_cases blank : lookup.key = ""
    · rw [lookupGeo_blank blank] at returned
      cases returned
    · rw [lookupGeo_eq blank] at returned
      obtain ⟨source, listed, same, answered, recent⟩ := holds.reply_source geoCacheTtl_pos returned
      rw [← askedBy_concat_calls lookups blank] at listed
      obtain ⟨made, among, rfl⟩ := List.mem_map.mp listed
      exact ⟨made, among, same, answered, recent⟩

end DeepOrc.Metrics
