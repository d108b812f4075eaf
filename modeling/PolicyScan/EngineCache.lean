import PolicyScan.Artifacts

/-!
# Engines built once

An engine is built when its domain is first asked for and kept from then on.  A
load that fails is reported to whoever asked and leaves nothing behind, so that
the next request loads again.  How often each domain was loaded is counted.
-/

namespace PolicyScan

/-- The engines built so far. -/
structure EngineCache where
  /-- The engine of a domain, once it is built. -/
  engine? : Domain → Option Engine
  /-- The number of loads of a domain, failed ones included. -/
  loads : Domain → Nat

namespace EngineCache

/-- Where engines come from. -/
abbrev Source := Domain → Except Artifacts.BuildError Engine

/-- A cache without engines. -/
def empty : EngineCache := ⟨fun _ => none, fun _ => 0⟩

/-- Whether the engine of a domain is built. -/
def isBuilt (cache : EngineCache) (domain : Domain) : Bool := (cache.engine? domain).isSome

/-- The cache after one more load of a domain, with the engine if the load gave
one. -/
def record (cache : EngineCache) (domain : Domain) (built? : Option Engine) : EngineCache where
  engine? := fun d => if d = domain then built? else cache.engine? d
  loads := fun d => if d = domain then cache.loads d + 1 else cache.loads d

/-- The engine of a domain, loaded if it is not there yet, and the cache
afterwards. -/
def get (source : Source) (domain : Domain) (cache : EngineCache) :
    Except Artifacts.BuildError Engine × EngineCache :=
  match cache.engine? domain with
  | some engine => (.ok engine, cache)
  | none =>
    match source domain with
    | .ok engine => (.ok engine, cache.record domain (some engine))
    | .error error => (.error error, cache.record domain none)

/-- The answers to requests one after the other. -/
def getAll (source : Source) : List Domain → EngineCache →
    List (Except Artifacts.BuildError Engine) × EngineCache
  | [], cache => ([], cache)
  | domain :: rest, cache =>
    let (answer, cache) := cache.get source domain
    let (answers, cache) := getAll source rest cache
    (answer :: answers, cache)

/-- Build the engines of domains in turn, up to the first that fails. -/
def warmAll (source : Source) : List Domain → EngineCache →
    Except Artifacts.BuildError Unit × EngineCache
  | [], cache => (.ok (), cache)
  | domain :: rest, cache =>
    match cache.get source domain with
    | (.ok _, cache) => warmAll source rest cache
    | (.error error, cache) => (.error error, cache)

/-- Build the engines of all domains. -/
def warm (source : Source) (cache : EngineCache) :
    Except Artifacts.BuildError Unit × EngineCache :=
  cache.warmAll source Domain.all

/-! ## Small laws -/

@[simp]
theorem record_engine?_self (cache : EngineCache) (domain : Domain) (built? : Option Engine) :
    (cache.record domain built?).engine? domain = built? := by
  simp [record]

theorem record_engine?_of_ne (cache : EngineCache) {domain other : Domain} (ne : other ≠ domain)
    (built? : Option Engine) :
    (cache.record domain built?).engine? other = cache.engine? other := by
  simp [record, ne]

@[simp]
theorem record_loads_self (cache : EngineCache) (domain : Domain) (built? : Option Engine) :
    (cache.record domain built?).loads domain = cache.loads domain + 1 := by
  simp [record]

theorem record_loads_of_ne (cache : EngineCache) {domain other : Domain} (ne : other ≠ domain)
    (built? : Option Engine) :
    (cache.record domain built?).loads other = cache.loads other := by
  simp [record, ne]

/-- A built engine answers without a load. -/
theorem get_of_engine? {source : Source} {domain : Domain} {cache : EngineCache}
    {engine : Engine} (built : cache.engine? domain = some engine) :
    cache.get source domain = (.ok engine, cache) := by
  simp [get, built]

end EngineCache
end PolicyScan
