import Mathlib.Data.List.Nodup
import PolicyScan.EngineCache

/-!
# The loads behind requests

Requests for engines come one after the other, and each makes at most one load.
`loadsOf` lists the loads of a row of requests in order, with what came of them.
The cache after the requests is the cache before with these loads recorded
(`getAll_snd`), so the list says all that a request can change.

Warming asks for engines in turn up to the first that fails.  Its loads are
those of the domains not yet built, up to the first failure
(`loadsOf_warmGets`).
-/

namespace PolicyScan.EngineCache

open Artifacts (BuildError)

/-- A load of a domain and what came of it. -/
structure Load where
  domain : Domain
  outcome : Except BuildError Engine

namespace Load

/-- Whether the load gave an engine of the domain. -/
def succeeds (domain : Domain) (load : Load) : Bool :=
  load.domain = domain && load.outcome.isOk

/-- The loads up to and with the first failure. -/
def upToFailure : List Load → List Load
  | [] => []
  | load :: rest =>
    load :: match load.outcome with
      | .ok _ => upToFailure rest
      | .error _ => []

theorem upToFailure_sublist (loads : List Load) : (upToFailure loads).Sublist loads := by
  induction loads with
  | nil => exact List.Sublist.slnil
  | cons load rest ih =>
      rw [upToFailure]
      split
      · exact ih.cons_cons load
      · exact (List.nil_sublist rest).cons_cons load

/-- Only the last of the loads up to a failure can have failed. -/
theorem upToFailure_cases (loads : List Load) :
    (∀ load ∈ upToFailure loads, ∃ engine, load.outcome = .ok engine) ∨
      ∃ earlier domain error, upToFailure loads = earlier ++ [⟨domain, .error error⟩] ∧
        ∀ load ∈ earlier, ∃ engine, load.outcome = .ok engine := by
  induction loads with
  | nil => exact .inl (by simp [upToFailure])
  | cons load rest ih =>
      rcases load with ⟨domain, outcome⟩
      cases outcome with
      | error error => exact .inr ⟨[], domain, error, rfl, by simp⟩
      | ok engine =>
          rcases ih with allBuilt | ⟨earlier, failing, error, split, built⟩
          · exact .inl (by simpa [upToFailure] using allBuilt)
          · refine .inr ⟨⟨domain, .ok engine⟩ :: earlier, failing, error, ?_, ?_⟩
            · simp [upToFailure, split]
            · simpa using built

end Load

/-- Of loads of different domains at most one gives an engine of a domain. -/
theorem Load.length_succeeds_le_one {loads : List Load}
    (distinct : (loads.map Load.domain).Nodup) (domain : Domain) :
    (loads.filter (Load.succeeds domain)).length ≤ 1 := by
  have fewer : loads.countP (Load.succeeds domain) ≤ loads.countP (·.domain == domain) := by
    apply List.countP_mono_left
    intro load _ succeeded
    simp only [Load.succeeds, Bool.and_eq_true, decide_eq_true_eq] at succeeded
    exact beq_iff_eq.mpr succeeded.1
  have once : (loads.map Load.domain).count domain ≤ 1 :=
    List.nodup_iff_count_le_one.mp distinct domain
  rw [List.count_eq_countP, List.countP_map] at once
  rw [← List.countP_eq_length_filter]
  exact Nat.le_trans fewer once

/-- The engine that a load leaves in the cache. -/
def built? : Except BuildError Engine → Option Engine
  | .ok engine => some engine
  | .error _ => none

/-- The cache after loads. -/
def replay (cache : EngineCache) : List Load → EngineCache
  | [] => cache
  | load :: rest => (cache.record load.domain (built? load.outcome)).replay rest

/-- The loads that requests for engines make. -/
def loadsOf (source : Source) : List Domain → EngineCache → List Load
  | [], _ => []
  | domain :: rest, cache =>
    match cache.engine? domain with
    | some _ => loadsOf source rest cache
    | none => ⟨domain, source domain⟩ :: loadsOf source rest (cache.get source domain).2

/-- The requests that warming makes. -/
def warmGets (source : Source) : List Domain → EngineCache → List Domain
  | [], _ => []
  | domain :: rest, cache =>
    domain :: match cache.get source domain with
      | (.ok _, cache) => warmGets source rest cache
      | (.error _, _) => []

/-- Every engine in the cache is the one that the source gives. -/
def BuiltFrom (source : Source) (cache : EngineCache) : Prop :=
  ∀ domain engine, cache.engine? domain = some engine → source domain = .ok engine

/-- The error of a domain whose engine cannot be built. -/
def unbuilt? (source : Source) (domain : Domain) : Option BuildError :=
  match source domain with
  | .ok _ => none
  | .error error => some error

/-- How many loads a row of requests for one domain makes. -/
def loadCount (outcome : Except BuildError Engine) (requests : Nat) : Nat :=
  match outcome with
  | .ok _ => min 1 requests
  | .error _ => requests

section

variable {source : Source} {domain : Domain} {cache : EngineCache}

/-! ## One request -/

/-- A request for an engine that is not there is a load. -/
theorem get_of_engine?_eq_none (missing : cache.engine? domain = none) :
    cache.get source domain =
      (source domain, cache.record domain (built? (source domain))) := by
  rw [get, missing]
  cases source domain <;> rfl

/-! ## Rows of requests -/

theorem replay_append (cache : EngineCache) (earlier later : List Load) :
    cache.replay (earlier ++ later) = (cache.replay earlier).replay later := by
  induction earlier generalizing cache with
  | nil => rfl
  | cons load rest ih => exact ih _

/-- Loads of other domains leave a domain's engine alone. -/
theorem replay_engine?_of_forall_ne {loads : List Load}
    (others : ∀ load ∈ loads, load.domain ≠ domain) :
    (cache.replay loads).engine? domain = cache.engine? domain := by
  induction loads generalizing cache with
  | nil => rfl
  | cons load rest ih =>
      rw [List.forall_mem_cons] at others
      rw [replay, ih others.2, record_engine?_of_ne _ (Ne.symm others.1)]

/-- Of loads of different domains each leaves what it gave. -/
theorem replay_engine?_of_mem {loads : List Load} {load : Load}
    (distinct : (loads.map Load.domain).Nodup) (member : load ∈ loads) :
    (cache.replay loads).engine? load.domain = built? load.outcome := by
  induction loads generalizing cache with
  | nil => contradiction
  | cons first rest ih =>
      rw [List.map_cons, List.nodup_cons] at distinct
      rcases List.mem_cons.mp member with rfl | later
      · have others : ∀ other ∈ rest, other.domain ≠ load.domain := by
          intro other otherMem equal
          exact distinct.1 (equal ▸ List.mem_map_of_mem otherMem)
        rw [replay, replay_engine?_of_forall_ne others, record_engine?_self]
      · exact ih distinct.2 later

/-- A domain is counted up by each of its loads. -/
theorem replay_loads (cache : EngineCache) (loads : List Load) (domain : Domain) :
    (cache.replay loads).loads domain =
      cache.loads domain + loads.countP (·.domain = domain) := by
  induction loads generalizing cache with
  | nil => rfl
  | cons load rest ih =>
      rw [replay, ih, List.countP_cons]
      by_cases same : load.domain = domain
      · subst same
        simp only [record_loads_self, decide_true, if_true]
        omega
      · rw [record_loads_of_ne _ (Ne.symm same)]
        simp [same]

/-- Loads of other domains leave a domain's count alone. -/
theorem replay_loads_of_forall_ne {loads : List Load}
    (others : ∀ load ∈ loads, load.domain ≠ domain) :
    (cache.replay loads).loads domain = cache.loads domain := by
  have none : loads.countP (·.domain = domain) = 0 := by
    rw [List.countP_eq_zero]
    exact fun load member same => others load member (of_decide_eq_true same)
  rw [replay_loads, none, Nat.add_zero]

/-- What a row of requests leaves behind is what its loads leave behind. -/
theorem getAll_snd (source : Source) (domains : List Domain) (cache : EngineCache) :
    (cache.getAll source domains).2 = cache.replay (loadsOf source domains cache) := by
  induction domains generalizing cache with
  | nil => rfl
  | cons domain rest ih =>
      simp only [getAll, loadsOf]
      cases present : cache.engine? domain with
      | some engine =>
          rw [get_of_engine? present]
          exact ih cache
      | none =>
          rw [get_of_engine?_eq_none present]
          exact ih _

theorem loadsOf_append (source : Source) (earlier later : List Domain) (cache : EngineCache) :
    loadsOf source (earlier ++ later) cache =
      loadsOf source earlier cache ++ loadsOf source later (cache.getAll source earlier).2 := by
  induction earlier generalizing cache with
  | nil => rfl
  | cons domain rest ih =>
      simp only [List.cons_append, loadsOf, getAll]
      cases present : cache.engine? domain with
      | some engine =>
          rw [get_of_engine? present]
          exact ih cache
      | none => simp only [ih, List.cons_append]

/-- Built engines are asked for without a load. -/
theorem loadsOf_of_forall_built {domains : List Domain}
    (built : ∀ domain ∈ domains, (cache.engine? domain).isSome) :
    loadsOf source domains cache = [] := by
  induction domains with
  | nil => rfl
  | cons domain rest ih =>
      rw [List.forall_mem_cons] at built
      obtain ⟨engine, present⟩ := Option.isSome_iff_exists.mp built.1
      rw [loadsOf, present]
      exact ih built.2

/-! ## Rows of requests to one source -/

theorem BuiltFrom.empty (source : Source) : BuiltFrom source .empty := by
  intro domain engine impossible
  cases impossible

theorem get_engine?_of_ne (source : Source) (cache : EngineCache) {domain other : Domain}
    (ne : other ≠ domain) : (cache.get source domain).2.engine? other = cache.engine? other := by
  cases present : cache.engine? domain with
  | some engine => rw [get_of_engine? present]
  | none => rw [get_of_engine?_eq_none present, record_engine?_of_ne cache ne]

/-- A request is answered as the source would answer it, and leaves the engine
that it is answered with. -/
theorem BuiltFrom.get (builtFrom : BuiltFrom source cache) (domain : Domain) :
    (cache.get source domain).1 = source domain ∧
      (cache.get source domain).2.engine? domain = built? (source domain) ∧
      BuiltFrom source (cache.get source domain).2 := by
  have self : (cache.get source domain).1 = source domain ∧
      (cache.get source domain).2.engine? domain = built? (source domain) := by
    cases present : cache.engine? domain with
    | some engine =>
        rw [get_of_engine? present, builtFrom domain engine present]
        exact ⟨rfl, present⟩
    | none =>
        rw [get_of_engine?_eq_none present]
        exact ⟨rfl, record_engine?_self cache domain _⟩
  refine ⟨self.1, self.2, ?_⟩
  intro other engine given
  by_cases same : other = domain
  · subst same
    rw [self.2] at given
    cases outcome : source other with
    | error error => simp [outcome, built?] at given
    | ok loaded => simpa [outcome, built?] using given
  · rw [get_engine?_of_ne source cache same] at given
    exact builtFrom other engine given

/-- Requests one after the other are answered as the source would answer them. -/
theorem BuiltFrom.getAll_fst (builtFrom : BuiltFrom source cache) (domains : List Domain) :
    (cache.getAll source domains).1 = domains.map source := by
  induction domains generalizing cache with
  | nil => rfl
  | cons domain rest ih =>
      obtain ⟨answerEq, -, afterwards⟩ := builtFrom.get domain
      simp only [EngineCache.getAll, List.map_cons, answerEq, ih afterwards]

/-- A domain that is asked for has its engine afterwards if the source gives one. -/
theorem BuiltFrom.getAll_engine? (builtFrom : BuiltFrom source cache) (domains : List Domain)
    (domain : Domain) :
    (cache.getAll source domains).2.engine? domain =
      if domain ∈ domains then built? (source domain) else cache.engine? domain := by
  induction domains generalizing cache with
  | nil => rfl
  | cons first rest ih =>
      obtain ⟨-, given, afterwards⟩ := builtFrom.get first
      simp only [EngineCache.getAll, ih afterwards]
      by_cases same : domain = first
      · subst same
        simp [given]
      · simp [same, get_engine?_of_ne source cache same]

/-- A domain that is asked for is loaded until a load gives its engine. -/
theorem BuiltFrom.getAll_loads (builtFrom : BuiltFrom source cache) (domains : List Domain)
    (domain : Domain) :
    (cache.getAll source domains).2.loads domain =
      cache.loads domain +
        if cache.isBuilt domain then 0 else loadCount (source domain) (domains.count domain) := by
  induction domains generalizing cache with
  | nil => cases outcome : source domain <;> simp [EngineCache.getAll, loadCount]
  | cons first rest ih =>
      obtain ⟨-, given, afterwards⟩ := builtFrom.get first
      simp only [EngineCache.getAll, ih afterwards]
      by_cases same : first = domain
      · subst same
        rw [isBuilt, given, List.count_cons_self]
        cases present : cache.engine? first with
        | some engine =>
            rw [get_of_engine? present, builtFrom first engine present]
            simp [isBuilt, built?, present]
        | none =>
            rw [get_of_engine?_eq_none present, record_loads_self]
            cases source first with
            | ok engine => simp [isBuilt, built?, present, loadCount]
            | error error =>
                simp [isBuilt, built?, present, loadCount]
                omega
      · have kept : (cache.get source first).2.loads domain = cache.loads domain := by
          cases present : cache.engine? first with
          | some engine => rw [get_of_engine? present]
          | none =>
              rw [get_of_engine?_eq_none present, record_loads_of_ne cache (Ne.symm same)]
        rw [kept, isBuilt, get_engine?_of_ne source cache (Ne.symm same), ← isBuilt,
          List.count_cons_of_ne same]

/-! ## Warming -/

/-- Warming ends with the error of the first domain whose engine cannot be built. -/
theorem BuiltFrom.warmAll (builtFrom : BuiltFrom source cache) (domains : List Domain) :
    (cache.warmAll source domains).1 =
        (match domains.findSome? (unbuilt? source) with
          | some error => .error error
          | none => .ok ()) ∧
      BuiltFrom source (cache.warmAll source domains).2 := by
  induction domains generalizing cache with
  | nil => exact ⟨rfl, builtFrom⟩
  | cons domain rest ih =>
      obtain ⟨answerEq, -, afterwards⟩ := builtFrom.get domain
      rw [EngineCache.warmAll, List.findSome?_cons]
      rcases asked : cache.get source domain with ⟨error | engine, after⟩ <;>
        rw [asked] at answerEq afterwards
      · rw [unbuilt?, ← answerEq]
        exact ⟨rfl, afterwards⟩
      · rw [unbuilt?, ← answerEq]
        exact ih afterwards

theorem warmAll_snd (source : Source) (domains : List Domain) (cache : EngineCache) :
    (cache.warmAll source domains).2 =
      (cache.getAll source (warmGets source domains cache)).2 := by
  induction domains generalizing cache with
  | nil => rfl
  | cons domain rest ih =>
      simp only [warmAll, warmGets, getAll]
      rcases cache.get source domain with ⟨_ | engine, after⟩
      · rfl
      · exact ih after

/-- Warming loads the domains that are not built, in their order, up to the
first failure. -/
theorem loadsOf_warmGets (source : Source) (cache : EngineCache) {domains : List Domain}
    (distinct : domains.Nodup) :
    loadsOf source (warmGets source domains cache) cache =
      Load.upToFailure
        ((domains.filter fun domain => !cache.isBuilt domain).map fun domain =>
          ⟨domain, source domain⟩) := by
  induction domains generalizing cache with
  | nil => rfl
  | cons domain rest ih =>
      rw [List.nodup_cons] at distinct
      simp only [warmGets, loadsOf]
      cases present : cache.engine? domain with
      | some engine =>
          have isBuilt : cache.isBuilt domain = true := by simp [EngineCache.isBuilt, present]
          rw [get_of_engine? present, List.filter_cons_of_neg (by simp [isBuilt])]
          exact ih cache distinct.2
      | none =>
          have unbuilt : cache.isBuilt domain = false := by simp [EngineCache.isBuilt, present]
          rw [get_of_engine?_eq_none present, List.filter_cons_of_pos (by simp [unbuilt])]
          simp only [List.map_cons, Load.upToFailure]
          cases source domain with
          | error error => rfl
          | ok engine =>
              -- the load of `domain` builds none of the domains that follow
              have sameRest : (rest.filter fun other =>
                    !(cache.record domain (built? (.ok engine))).isBuilt other) =
                  rest.filter fun other => !cache.isBuilt other := by
                apply List.filter_congr
                intro other member
                have ne : other ≠ domain := fun equal => distinct.1 (equal ▸ member)
                rw [EngineCache.isBuilt, record_engine?_of_ne _ ne, EngineCache.isBuilt]
              rw [← sameRest]
              exact congrArg _ (ih _ distinct.2)

end

end PolicyScan.EngineCache
