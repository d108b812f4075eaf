import PolicyScan.Proofs.EngineCache.Request

/-!
# Sessions

A session is a row of requests to one engine cache, with any changes to the
files in between.  Its trace has an entry for each request, with the state that
the request met.

An engine is loaded once and for all (`trace_lawful`): until a load of its
domain succeeds every request that needs it loads it again, from the files as
they are then, and afterwards no request does.
-/

namespace PolicyScan.EngineCache

open Artifacts (BuildError)

/-- A step of a session. -/
inductive Step where
  | request (request : Request)
  /-- The files are changed and are now these. -/
  | files (store : FileStore)

/-- What a request meets. -/
structure State where
  cache : EngineCache
  store : FileStore

/-- A request in the state that it met. -/
structure Entry where
  before : State
  request : Request

section

variable (artifacts : Artifacts) (entrypoint : String)

namespace Entry

/-- Where the engines come from when the request is made. -/
def source (entry : Entry) : Source := artifacts.load entry.before.store entrypoint

/-- The answer to the request. -/
def answer (entry : Entry) : Answer :=
  (entry.request.perform (entry.source artifacts entrypoint) entry.before.cache).1

/-- The cache after the request. -/
def after (entry : Entry) : EngineCache :=
  (entry.request.perform (entry.source artifacts entrypoint) entry.before.cache).2

/-- The loads that the request makes. -/
def loads (entry : Entry) : List Load :=
  entry.request.loads (entry.source artifacts entrypoint) entry.before.cache

end Entry

/-- The requests of a session, each in the state that it meets. -/
def trace : List Step → State → List Entry
  | [], _ => []
  | .files store :: rest, state => trace rest { state with store }
  | .request request :: rest, state =>
    let entry : Entry := ⟨state, request⟩
    entry :: trace rest { state with cache := entry.after artifacts entrypoint }

/-- The loads of a row of requests. -/
def loadsOfAll (entries : List Entry) : List Load :=
  entries.flatMap (Entry.loads artifacts entrypoint)

/-- What holds of a domain throughout a session. -/
structure Lawful (entries : List Entry) (domain : Domain) : Prop where
  /-- At most one load of the domain succeeds. -/
  one_success :
    ((loadsOfAll artifacts entrypoint entries).filter (Load.succeeds domain)).length ≤ 1
  /-- The engine is there before a request if a load succeeded before, and there
  after it if one succeeded up to and with the request. -/
  built_iff : ∀ earlier entry later, entries = earlier ++ entry :: later →
    (entry.before.cache.isBuilt domain ↔
      ∃ load ∈ loadsOfAll artifacts entrypoint earlier, load.succeeds domain) ∧
    ((entry.after artifacts entrypoint).isBuilt domain ↔
      ∃ load ∈ loadsOfAll artifacts entrypoint (earlier ++ [entry]), load.succeeds domain)
  /-- A load that succeeds leaves its engine. -/
  given : ∀ entry ∈ entries, ∀ engine,
    ⟨domain, .ok engine⟩ ∈ entry.loads artifacts entrypoint →
    (entry.after artifacts entrypoint).engine? domain = some engine
  /-- After a load has succeeded, no request loads the domain again.  Every
  request is answered by engines of which the domain's is the loaded one, unless
  a load of another domain fails. -/
  kept : ∀ earlier entry later engine, entries = earlier ++ entry :: later →
    ⟨domain, .ok engine⟩ ∈ loadsOfAll artifacts entrypoint earlier →
    (∀ load ∈ entry.loads artifacts entrypoint, load.domain ≠ domain) ∧
    (entry.after artifacts entrypoint).loads domain = entry.before.cache.loads domain ∧
    (entry.after artifacts entrypoint).engine? domain = some engine ∧
    ((∃ engines : Domain → Engine, engines domain = engine ∧
        (∀ needed ∈ entry.request.domains,
          (entry.after artifacts entrypoint).engine? needed = some (engines needed)) ∧
        entry.answer artifacts entrypoint = entry.request.answerWith engines) ∨
      ∃ other error, other ≠ domain ∧
        ⟨other, .error error⟩ ∈ entry.loads artifacts entrypoint ∧
        entry.answer artifacts entrypoint = entry.request.failed error)
  /-- The error of a failed load is the answer to the request that made it, and
  leaves the domain unbuilt. -/
  failure : ∀ entry ∈ entries, ∀ error,
    ⟨domain, .error error⟩ ∈ entry.loads artifacts entrypoint →
    entry.answer artifacts entrypoint = entry.request.failed error ∧
    (entry.after artifacts entrypoint).isBuilt domain = false
  /-- A request loads the unbuilt domains that it needs in their order, from the
  files as they are then and up to the first failure. -/
  loads_eq : ∀ entry ∈ entries,
    entry.loads artifacts entrypoint =
      Load.upToFailure
        ((entry.request.domains.filter fun needed => !entry.before.cache.isBuilt needed).map
          fun needed => ⟨needed, artifacts.load entry.before.store entrypoint needed⟩)
  /-- The count of a domain goes up by the loads of the domain. -/
  counted : ∀ entry ∈ entries,
    (entry.after artifacts entrypoint).loads domain =
      entry.before.cache.loads domain +
        (entry.loads artifacts entrypoint).countP (·.domain = domain)
  /-- A request that does not need the domain changes nothing about it. -/
  separate : ∀ entry ∈ entries, domain ∉ entry.request.domains →
    (entry.after artifacts entrypoint).engine? domain = entry.before.cache.engine? domain ∧
    (entry.after artifacts entrypoint).loads domain = entry.before.cache.loads domain
  /-- Warming loads Kubernetes before Terraform, and Terraform only if there is
  an engine for Kubernetes. -/
  warming : ∀ entry ∈ entries, entry.request = .warm →
    ((entry.loads artifacts entrypoint).map Load.domain).Sublist [.kubernetes, .terraform] ∧
    ∀ error, ⟨.kubernetes, .error error⟩ ∈ entry.loads artifacts entrypoint →
      entry.loads artifacts entrypoint = [⟨.kubernetes, .error error⟩] ∧
      (entry.after artifacts entrypoint).loads .terraform = entry.before.cache.loads .terraform

end

section

variable {artifacts : Artifacts} {entrypoint : String} {entry : Entry} {domain : Domain}

/-! ## Entries -/

theorem Entry.after_isBuilt_iff (artifacts : Artifacts) (entrypoint : String) (entry : Entry)
    (domain : Domain) :
    (entry.after artifacts entrypoint).isBuilt domain ↔
      entry.before.cache.isBuilt domain ∨
        ∃ load ∈ entry.loads artifacts entrypoint, load.succeeds domain :=
  entry.request.perform_isBuilt_iff _ _ domain

/-- A request builds the engine of a domain by one load that succeeds. -/
theorem Entry.length_succeeds (artifacts : Artifacts) (entrypoint : String) (entry : Entry)
    (domain : Domain) :
    ((entry.loads artifacts entrypoint).filter (Load.succeeds domain)).length +
        (entry.before.cache.isBuilt domain).toNat =
      ((entry.after artifacts entrypoint).isBuilt domain).toNat := by
  have afterwards := entry.after_isBuilt_iff artifacts entrypoint domain
  by_cases before : entry.before.cache.isBuilt domain
  · obtain ⟨engine, present⟩ := Option.isSome_iff_exists.mp before
    have none : (entry.loads artifacts entrypoint).filter (Load.succeeds domain) = [] := by
      rw [List.filter_eq_nil_iff]
      intro load member
      simp [Load.succeeds, Request.ne_of_mem_loads present load member]
    rw [none, before, afterwards.mpr (.inl before)]
    rfl
  · by_cases loaded : ∃ load ∈ entry.loads artifacts entrypoint, load.succeeds domain
    · obtain ⟨load, member, succeeded⟩ := loaded
      have some : 0 < ((entry.loads artifacts entrypoint).filter
          (Load.succeeds domain)).length :=
        List.length_pos_of_mem (List.mem_filter.mpr ⟨member, succeeded⟩)
      have once := Load.length_succeeds_le_one (entry.request.loads_domains_nodup
        (entry.source artifacts entrypoint) entry.before.cache) domain
      rw [afterwards.mpr (.inr ⟨load, member, succeeded⟩), eq_false_of_ne_true before]
      exact Nat.le_antisymm once some
    · have none : (entry.loads artifacts entrypoint).filter (Load.succeeds domain) = [] := by
        rw [List.filter_eq_nil_iff]
        exact fun load member succeeded => loaded ⟨load, member, succeeded⟩
      have missing : ¬(entry.after artifacts entrypoint).isBuilt domain :=
        fun built => (afterwards.mp built).elim before loaded
      rw [none, eq_false_of_ne_true before, eq_false_of_ne_true missing]
      rfl

/-- The error of a failed load is the answer. -/
theorem Entry.answer_of_failure {error : BuildError}
    (failing : ⟨domain, .error error⟩ ∈ entry.loads artifacts entrypoint) :
    entry.answer artifacts entrypoint = entry.request.failed error := by
  rcases entry.request.perform_cases (entry.source artifacts entrypoint)
    entry.before.cache with ⟨succeeded, -, -⟩ | ⟨earlier, last, lastError, split, answerEq⟩
  · obtain ⟨engine, impossible⟩ := succeeded _ failing
    contradiction
  · -- only the last load can have failed, so the failing load is that one
    have listed := entry.request.loads_eq (entry.source artifacts entrypoint)
      entry.before.cache
    rcases Load.upToFailure_cases
      ((entry.request.domains.filter fun needed => !entry.before.cache.isBuilt needed).map
        fun needed => ⟨needed, entry.source artifacts entrypoint needed⟩) with
      succeeded | ⟨others, _, _, split', succeeded⟩
    · rw [← listed] at succeeded
      obtain ⟨engine, impossible⟩ := succeeded _ failing
      contradiction
    · rw [← listed, split] at split'
      obtain ⟨rfl, -⟩ := List.append_inj' split' rfl
      rw [Entry.loads, split, List.mem_append, List.mem_singleton] at failing
      rcases failing with inEarlier | isLast
      · obtain ⟨engine, impossible⟩ := succeeded _ inEarlier
        contradiction
      · cases isLast
        exact answerEq

/-- Once the engine of a domain is there, it is the one that answers, unless a
load of another domain fails. -/
theorem Entry.answer_of_present {engine : Engine}
    (present : entry.before.cache.engine? domain = some engine) :
    (∃ engines : Domain → Engine, engines domain = engine ∧
        (∀ needed ∈ entry.request.domains,
          (entry.after artifacts entrypoint).engine? needed = some (engines needed)) ∧
        entry.answer artifacts entrypoint = entry.request.answerWith engines) ∨
      ∃ other error, other ≠ domain ∧
        ⟨other, .error error⟩ ∈ entry.loads artifacts entrypoint ∧
        entry.answer artifacts entrypoint = entry.request.failed error := by
  have kept : (entry.after artifacts entrypoint).engine? domain = some engine :=
    Request.perform_engine?_of_isSome present
  rcases entry.request.perform_cases (entry.source artifacts entrypoint)
    entry.before.cache with ⟨-, built, answerEq⟩ | ⟨earlier, other, error, split, answerEq⟩
  · let engines (needed : Domain) : Engine :=
      ((entry.after artifacts entrypoint).engine? needed).getD engine
    have needs : ∀ needed ∈ entry.request.domains,
        (entry.after artifacts entrypoint).engine? needed = some (engines needed) := by
      intro needed member
      obtain ⟨found, foundEq⟩ := Option.isSome_iff_exists.mp (built needed member)
      change (entry.after artifacts entrypoint).engine? needed = some found at foundEq
      simp only [engines, foundEq, Option.getD_some]
    exact .inl ⟨engines, by simp only [engines, kept, Option.getD_some], needs,
      answerEq engines needs⟩
  · have member : ⟨other, .error error⟩ ∈ entry.loads artifacts entrypoint := by
      rw [Entry.loads, split]
      exact List.mem_append_right _ (List.mem_singleton_self _)
    exact .inr ⟨other, error, Request.ne_of_mem_loads present _ member, member, answerEq⟩

/-! ## Traces -/

/-- What holds of the cache at the start, and of the cache that a request leaves if it
did of the one that the request met, holds at each request. -/
theorem trace_invariant {motive : List Entry → EngineCache → Prop} {steps : List Step}
    {state : State} {earlier later : List Entry}
    (split : trace artifacts entrypoint steps state = earlier ++ entry :: later)
    (start : motive [] state.cache)
    (step : ∀ (earlier : List Entry) (entry : Entry), motive earlier entry.before.cache →
      motive (earlier ++ [entry]) (entry.after artifacts entrypoint)) :
    motive earlier entry.before.cache := by
  induction steps generalizing state earlier motive with
  | nil => simp [trace] at split
  | cons first rest ih =>
      cases first with
      | files store =>
          rw [trace] at split
          exact ih split start step
      | request request =>
          cases earlier with
          | nil =>
              simp only [trace, List.nil_append, List.cons.injEq] at split
              rw [← split.1]
              exact start
          | cons met others =>
              simp only [trace, List.cons_append, List.cons.injEq] at split
              obtain ⟨rfl, split⟩ := split
              exact ih (motive := fun earlier => motive (⟨state, request⟩ :: earlier)) split
                (step [] ⟨state, request⟩ start) fun earlier => step (⟨state, request⟩ :: earlier)

theorem mem_loadsOfAll_concat {load : Load} {earlier : List Entry} :
    load ∈ loadsOfAll artifacts entrypoint (earlier ++ [entry]) ↔
      load ∈ loadsOfAll artifacts entrypoint earlier ∨ load ∈ entry.loads artifacts entrypoint := by
  rw [loadsOfAll, List.flatMap_append, List.flatMap_singleton, List.mem_append]
  rfl

/-- At each request the engine of a domain is there if it was there at the start
or a load gave it since. -/
theorem trace_isBuilt_iff {steps : List Step} {state : State} {earlier later : List Entry}
    (split : trace artifacts entrypoint steps state = earlier ++ entry :: later) :
    entry.before.cache.isBuilt domain ↔
      state.cache.isBuilt domain ∨
        ∃ load ∈ loadsOfAll artifacts entrypoint earlier, load.succeeds domain := by
  refine trace_invariant (motive := fun earlier cache => cache.isBuilt domain ↔
    state.cache.isBuilt domain ∨
      ∃ load ∈ loadsOfAll artifacts entrypoint earlier, load.succeeds domain) split ?_ ?_
  · simp [loadsOfAll]
  · intro earlier entry before
    rw [Entry.after_isBuilt_iff, before]
    simp only [mem_loadsOfAll_concat, or_assoc, or_and_right, exists_or]

/-- The engine that a domain has at the start, or that a load gave it, is there
at each later request. -/
theorem trace_engine? {steps : List Step} {state : State} {earlier later : List Entry}
    {engine : Engine}
    (split : trace artifacts entrypoint steps state = earlier ++ entry :: later)
    (given : state.cache.engine? domain = some engine ∨
      ⟨domain, .ok engine⟩ ∈ loadsOfAll artifacts entrypoint earlier) :
    entry.before.cache.engine? domain = some engine := by
  refine trace_invariant (motive := fun earlier cache => state.cache.engine? domain = some engine ∨
    ⟨domain, .ok engine⟩ ∈ loadsOfAll artifacts entrypoint earlier →
      cache.engine? domain = some engine) split ?_ ?_ given
  · simp [loadsOfAll]
  · intro earlier entry before given
    rw [mem_loadsOfAll_concat, ← or_assoc] at given
    rcases given with given | loaded
    · exact Request.perform_engine?_of_isSome (before given)
    · exact Request.perform_engine?_of_mem_loads loaded

/-- A domain is loaded with success at most once, and not at all if its engine
is there from the start. -/
theorem trace_successes (artifacts : Artifacts) (entrypoint : String) (steps : List Step)
    (state : State) (domain : Domain) :
    ((loadsOfAll artifacts entrypoint (trace artifacts entrypoint steps state)).filter
        (Load.succeeds domain)).length + (state.cache.isBuilt domain).toNat ≤ 1 := by
  induction steps generalizing state with
  | nil => simpa [trace, loadsOfAll] using Bool.toNat_le _
  | cons step rest ih =>
      cases step with
      | files store => exact ih { state with store }
      | request request =>
          have now := Entry.length_succeeds artifacts entrypoint ⟨state, request⟩ domain
          have later := ih
            { state with cache := (Entry.mk state request).after artifacts entrypoint }
          simp only [trace, loadsOfAll, List.flatMap_cons, List.filter_append,
            List.length_append] at later ⊢
          simp only at now
          omega

/-- An engine is loaded once and for all: throughout a session every request
loads the unbuilt domains that it needs, and once a load of a domain succeeds
its engine answers for good. -/
theorem trace_lawful (artifacts : Artifacts) (entrypoint : String) (store : FileStore)
    (steps : List Step) (domain : Domain) :
    Lawful artifacts entrypoint
      (trace artifacts entrypoint steps ⟨EngineCache.empty, store⟩) domain where
  one_success := by
    have total := trace_successes artifacts entrypoint steps ⟨EngineCache.empty, store⟩ domain
    exact Nat.le_of_add_right_le total
  built_iff := by
    intro earlier entry later split
    have missing : ¬EngineCache.empty.isBuilt domain := by simp [isBuilt, EngineCache.empty]
    have start : entry.before.cache.isBuilt domain ↔
        ∃ load ∈ loadsOfAll artifacts entrypoint earlier, load.succeeds domain :=
      (trace_isBuilt_iff split).trans (or_iff_right missing)
    refine ⟨start, ?_⟩
    rw [Entry.after_isBuilt_iff, start]
    simp only [loadsOfAll, List.flatMap_append, List.flatMap_singleton, List.mem_append,
      or_and_right, exists_or]
  given := fun _ _ _ loaded => Request.perform_engine?_of_mem_loads loaded
  kept := by
    intro earlier entry later engine split loaded
    have present := trace_engine? split (.inr loaded)
    have others : ∀ load ∈ entry.loads artifacts entrypoint, load.domain ≠ domain :=
      Request.ne_of_mem_loads present
    refine ⟨others, ?_, Request.perform_engine?_of_isSome present,
      Entry.answer_of_present present⟩
    rw [Entry.after, Request.perform_snd]
    exact replay_loads_of_forall_ne others
  failure := by
    intro entry _ error failing
    refine ⟨Entry.answer_of_failure failing, ?_⟩
    have left : (entry.after artifacts entrypoint).engine? domain = none :=
      Request.perform_engine?_of_mem_loads failing
    rw [isBuilt, left]
    rfl
  loads_eq := fun entry _ => entry.request.loads_eq _ _
  counted := by
    intro entry _
    rw [Entry.after, Request.perform_snd, replay_loads]
    rfl
  separate := by
    intro entry _ notNeeded
    have others : ∀ load ∈ entry.loads artifacts entrypoint, load.domain ≠ domain :=
      fun load member equal => notNeeded (equal ▸ (Request.mem_loads member).1)
    rw [Entry.after, Request.perform_snd]
    exact ⟨replay_engine?_of_forall_ne others, replay_loads_of_forall_ne others⟩
  warming := by
    intro entry _ warmed
    have order := entry.request.loads_domains_sublist
      (entry.source artifacts entrypoint) entry.before.cache
    rw [warmed] at order
    refine ⟨by rw [Entry.loads, warmed]; exact order, ?_⟩
    intro error failing
    have first : entry.loads artifacts entrypoint = [⟨.kubernetes, .error error⟩] := by
      obtain ⟨-, unbuilt, outcome⟩ := Request.mem_loads failing
      simp only at unbuilt outcome
      rw [Entry.loads, Request.loads_eq, warmed]
      simp [Request.domains, Domain.all, unbuilt, ← outcome, Load.upToFailure]
    refine ⟨first, ?_⟩
    rw [Entry.after, Request.perform_snd]
    exact replay_loads_of_forall_ne (by rw [← Entry.loads, first]; simp)

end

end PolicyScan.EngineCache
