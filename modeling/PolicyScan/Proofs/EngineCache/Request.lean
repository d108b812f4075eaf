import PolicyScan.Proofs.EngineCache.Loads
import PolicyScan.Scan

/-!
# Requests to an engine cache

A request asks for one engine, for all, for the evaluation of a document, or for
a scan of a batch.  Whatever is asked, only the domains that are not built are
loaded, in their order and up to the first failure (`loads_eq`), and only these
loads change the cache (`perform_snd`).  The answer is that of fixed engines,
unless a load failed: then it is the error of that load (`perform_cases`).
-/

namespace PolicyScan.EngineCache

open Artifacts (BuildError)

/-! ## Requests -/

/-- What can be asked of the engines. -/
inductive Request where
  | get (domain : Domain)
  | warm
  | evaluate (domain : Domain) (input : Json)
  | fatal (documents : List Document)
  | isolated (documents : List Document)

/-- What comes back from a request. -/
inductive Answer where
  | engine (result : Except BuildError Engine)
  | warmed (result : Except BuildError Unit)
  | evaluated (result : Except BuildError (Except Engine.Failure (List Violation)))
  | fatal (result : Except ScanError (List Scanned))
  | isolated (result : Except ScanError (List Scanned × List Unscanned))

namespace Request

/-- The domains whose engines a request needs, in the order of loading. -/
def domains : Request → List Domain
  | get domain => [domain]
  | warm => Domain.all
  | evaluate domain _ => [domain]
  | fatal _ => Domain.all
  | isolated _ => Domain.all

/-- Serve a request. -/
def perform (source : Source) (cache : EngineCache) : Request → Answer × EngineCache
  | get domain =>
    let (result, cache) := cache.get source domain
    (.engine result, cache)
  | warm =>
    let (result, cache) := EngineCache.warm source cache
    (.warmed result, cache)
  | evaluate domain input =>
    let (result, cache) := cache.get source domain
    (.evaluated (result.map fun engine => engine.evaluate input), cache)
  | fatal documents =>
    let (result, cache) := Scan.fatal source documents cache
    (.fatal result, cache)
  | isolated documents =>
    let (result, cache) := Scan.isolated source documents cache
    (.isolated result, cache)

/-- The single requests for engines that a scan makes once all is warm. -/
def documentGets (source : Source) (cache : EngineCache) (documents : List Document) :
    List Domain :=
  match EngineCache.warm source cache with
  | (.ok (), _) => documents.map Document.domain
  | (.error _, _) => []

/-- The single requests for engines that a request makes, in order. -/
def gets (source : Source) (cache : EngineCache) : Request → List Domain
  | get domain => [domain]
  | warm => warmGets source Domain.all cache
  | evaluate domain _ => [domain]
  | fatal documents =>
    warmGets source Domain.all cache ++ documentGets source cache documents
  | isolated documents =>
    warmGets source Domain.all cache ++ documentGets source cache documents

/-- The loads that a request makes. -/
def loads (source : Source) (cache : EngineCache) (request : Request) : List Load :=
  loadsOf source (request.gets source cache) cache

/-- The outcome of a document under fixed engines. -/
def outcomeWith (engines : Domain → Engine) (d : Document) :
    Except ScanError (List Violation) :=
  ((engines d.domain).evaluate d.value).mapError (ScanError.evaluation d.file.path)

/-- The answer to a request under fixed engines. -/
def answerWith (engines : Domain → Engine) : Request → Answer
  | get domain => .engine (.ok (engines domain))
  | warm => .warmed (.ok ())
  | evaluate domain input => .evaluated (.ok ((engines domain).evaluate input))
  | fatal documents =>
    .fatal (Scan.collect 0 (documents.zip (documents.map (outcomeWith engines))))
  | isolated documents =>
    .isolated (Scan.partition 0 (documents.zip (documents.map (outcomeWith engines))))

/-- The answer to a request that passes on the error of a load. -/
def failed (error : BuildError) : Request → Answer
  | get _ => .engine (.error error)
  | warm => .warmed (.error error)
  | evaluate _ _ => .evaluated (.error error)
  | fatal _ => .fatal (.error (.build error))
  | isolated _ => .isolated (.error (.build error))

theorem domains_nodup (request : Request) : request.domains.Nodup := by
  cases request <;> simp [domains, Domain.all]

end Request

/-! ## What a request changes -/

section

variable {source : Source} {cache : EngineCache}

/-- An engine that is there stays there. -/
theorem get_engine?_of_isSome (source : Source) (domain : Domain) {other : Domain}
    {engine : Engine} (present : cache.engine? other = some engine) :
    (cache.get source domain).2.engine? other = some engine := by
  cases asked : cache.engine? domain with
  | some _ =>
      rw [get_of_engine? asked]
      exact present
  | none =>
      have ne : other ≠ domain := by
        rintro rfl
        rw [present] at asked
        contradiction
      rw [get_of_engine?_eq_none asked, record_engine?_of_ne _ ne]
      exact present

theorem warmAll_engine?_of_isSome (source : Source) (domains : List Domain) {other : Domain}
    {engine : Engine} (present : cache.engine? other = some engine) :
    (cache.warmAll source domains).2.engine? other = some engine := by
  induction domains generalizing cache with
  | nil => exact present
  | cons domain rest ih =>
      have kept := get_engine?_of_isSome source domain present
      simp only [warmAll]
      rcases result : cache.get source domain with ⟨_ | _, after⟩ <;> rw [result] at kept
      · exact kept
      · exact ih kept

/-- A request for one engine leaves in the cache the engine that it returns;
otherwise its load failed with the error that it returns. -/
theorem get_cases (source : Source) (domain : Domain) (cache : EngineCache) :
    (∃ engine after, cache.get source domain = (.ok engine, after) ∧
        after.engine? domain = some engine ∧
        ∀ load ∈ loadsOf source [domain] cache, ∃ engine, load.outcome = .ok engine) ∨
      ∃ error after, cache.get source domain = (.error error, after) ∧
        loadsOf source [domain] cache = [⟨domain, .error error⟩] := by
  cases present : cache.engine? domain with
  | some engine =>
      exact .inl ⟨engine, cache, get_of_engine? present, present, by simp [loadsOf, present]⟩
  | none =>
      rw [get_of_engine?_eq_none present]
      simp only [loadsOf, present]
      cases source domain with
      | error error => exact .inr ⟨error, _, rfl, rfl⟩
      | ok engine =>
          exact .inl ⟨engine, _, rfl, record_engine?_self cache domain _, by simp⟩

/-- When warming ends well, all engines are there; otherwise its last load
failed with the error that it returns. -/
theorem warmAll_cases (source : Source) (domains : List Domain) (cache : EngineCache) :
    (∃ after, cache.warmAll source domains = (.ok (), after) ∧
        (∀ load ∈ loadsOf source (warmGets source domains cache) cache,
          ∃ engine, load.outcome = .ok engine) ∧
        ∀ domain ∈ domains, (after.engine? domain).isSome) ∨
      ∃ earlier domain error after, cache.warmAll source domains = (.error error, after) ∧
        loadsOf source (warmGets source domains cache) cache =
          earlier ++ [⟨domain, .error error⟩] := by
  induction domains generalizing cache with
  | nil => exact .inl ⟨cache, rfl, by simp [warmGets, loadsOf], by simp⟩
  | cons domain rest ih =>
      simp only [warmAll, warmGets, loadsOf]
      cases present : cache.engine? domain with
      | some engine =>
          rw [get_of_engine? present]
          rcases ih cache with ⟨after, ended, succeeded, built⟩ | failing
          · have kept := warmAll_engine?_of_isSome source rest present
            rw [ended] at kept
            exact .inl ⟨after, ended, succeeded,
              List.forall_mem_cons.mpr ⟨Option.isSome_of_eq_some kept, built⟩⟩
          · exact .inr failing
      | none =>
          rw [get_of_engine?_eq_none present]
          cases outcome : source domain with
          | error error => exact .inr ⟨[], domain, error, _, rfl, rfl⟩
          | ok engine =>
              rcases ih (cache.record domain (built? (.ok engine))) with
                ⟨after, ended, succeeded, built⟩ |
                  ⟨earlier, failing, error, after, ended, split⟩
              · have kept := warmAll_engine?_of_isSome source rest
                  (record_engine?_self cache domain (built? (.ok engine)))
                rw [ended] at kept
                exact .inl ⟨after, ended, by simpa using succeeded,
                  List.forall_mem_cons.mpr ⟨Option.isSome_of_eq_some kept, built⟩⟩
              · exact .inr ⟨⟨domain, .ok engine⟩ :: earlier, failing, error, after, ended, by
                  simp only [split, List.cons_append]⟩

theorem outcomes_snd (source : Source) (documents : List Document) (cache : EngineCache) :
    (Scan.outcomes source documents cache).2 =
      (cache.getAll source (documents.map Document.domain)).2 := by
  induction documents generalizing cache with
  | nil => rfl
  | cons d rest ih =>
      simp only [Scan.outcomes, Scan.document, List.map_cons, getAll]
      rcases cache.get source d.domain with ⟨_ | _, after⟩ <;> exact ih after

/-- With all engines there, every document is evaluated by the engine of its
domain. -/
theorem outcomes_of_built {engines : Domain → Engine} (documents : List Document)
    (built : ∀ domain, cache.engine? domain = some (engines domain)) :
    Scan.outcomes source documents cache =
      (documents.map (Request.outcomeWith engines), cache) := by
  induction documents with
  | nil => rfl
  | cons d rest ih =>
      simp only [Scan.outcomes, Scan.document, get_of_engine? (built d.domain), ih]
      rfl

/-- Once all is warm, every document is evaluated by the engine that is there
for its domain. -/
theorem exists_outcomes_eq (source : Source) (documents : List Document)
    (built : ∀ domain ∈ Domain.all, (cache.engine? domain).isSome) :
    ∃ engines : Domain → Engine, (∀ domain, cache.engine? domain = some (engines domain)) ∧
      Scan.outcomes source documents cache =
        (documents.map (Request.outcomeWith engines), cache) := by
  have present (domain : Domain) : (cache.engine? domain).isSome :=
    built domain domain.mem_all
  have engineOf (domain : Domain) :
      cache.engine? domain = some ((cache.engine? domain).get (present domain)) :=
    (Option.some_get (present domain)).symm
  exact ⟨_, engineOf, outcomes_of_built documents engineOf⟩

namespace Request

open Load (upToFailure)

/-- What the single requests of a scan leave behind. -/
theorem getAll_scan_snd (source : Source) (cache : EngineCache) (documents : List Document) :
    (cache.getAll source
        (warmGets source Domain.all cache ++ documentGets source cache documents)).2 =
      match EngineCache.warm source cache with
      | (.ok (), after) => (Scan.outcomes source documents after).2
      | (.error _, after) => after := by
  have warmed := warmAll_snd source Domain.all cache
  rw [getAll_snd, loadsOf_append, replay_append, ← getAll_snd, ← getAll_snd, ← warmed]
  simp only [documentGets, EngineCache.warm]
  rcases cache.warmAll source Domain.all with ⟨_ | _, after⟩
  · rfl
  · exact (outcomes_snd source documents after).symm

/-- The cache after a request is the cache before with the loads recorded. -/
theorem perform_snd (request : Request) (source : Source) (cache : EngineCache) :
    (request.perform source cache).2 = cache.replay (request.loads source cache) := by
  rw [loads, ← getAll_snd]
  cases request with
  | get domain => rfl
  | evaluate domain input => rfl
  | warm => exact warmAll_snd source Domain.all cache
  | fatal documents =>
      rw [gets, getAll_scan_snd]
      simp only [perform, Scan.fatal]
      rcases EngineCache.warm source cache with ⟨_ | _, after⟩ <;> rfl
  | isolated documents =>
      rw [gets, getAll_scan_snd]
      simp only [perform, Scan.isolated]
      rcases EngineCache.warm source cache with ⟨_ | _, after⟩ <;> rfl

/-- Once all is warm, the documents of a scan make no loads. -/
theorem loads_scan (source : Source) (cache : EngineCache) (documents : List Document) :
    loadsOf source
        (warmGets source Domain.all cache ++ documentGets source cache documents) cache =
      loadsOf source (warmGets source Domain.all cache) cache := by
  rw [loadsOf_append, ← warmAll_snd, documentGets, EngineCache.warm]
  rcases warmAll_cases source Domain.all cache with
    ⟨after, ended, -, built⟩ | ⟨_, _, _, _, ended, -⟩
  · rw [ended]
    have noLoads : loadsOf source (documents.map Document.domain) after = [] := by
      apply loadsOf_of_forall_built
      intro domain _
      exact built domain domain.mem_all
    simpa using noLoads
  · rw [ended]
    simp [loadsOf]

/-- A request loads the domains it needs that are not built, in their order, up
to the first failure. -/
theorem loads_eq (request : Request) (source : Source) (cache : EngineCache) :
    request.loads source cache =
      upToFailure
        ((request.domains.filter fun domain => !cache.isBuilt domain).map fun domain =>
          ⟨domain, source domain⟩) := by
  have warming := loadsOf_warmGets source cache (domains_nodup .warm)
  have single (domain : Domain) : loadsOf source [domain] cache =
      upToFailure (([domain].filter fun d => !cache.isBuilt d).map fun d =>
        ⟨d, source d⟩) := by
    cases present : cache.engine? domain <;>
      cases outcome : source domain <;>
      simp [loadsOf, isBuilt, present, upToFailure, outcome]
  cases request with
  | get domain => exact single domain
  | evaluate domain input => exact single domain
  | warm => exact warming
  | fatal documents => exact (loads_scan source cache documents).trans warming
  | isolated documents => exact (loads_scan source cache documents).trans warming

/-- A load of a request is of a domain that it needs and that is not built. -/
theorem mem_loads {request : Request} {load : Load}
    (member : load ∈ request.loads source cache) :
    load.domain ∈ request.domains ∧ cache.isBuilt load.domain = false ∧
      load.outcome = source load.domain := by
  rw [loads_eq] at member
  obtain ⟨domain, kept, rfl⟩ :=
    List.mem_map.mp ((Load.upToFailure_sublist _).subset member)
  rw [List.mem_filter] at kept
  exact ⟨kept.1, by simpa using kept.2, rfl⟩

/-- The domains that a request loads, in their order. -/
theorem loads_domains_sublist (request : Request) (source : Source) (cache : EngineCache) :
    ((request.loads source cache).map Load.domain).Sublist request.domains := by
  rw [loads_eq]
  have part := (Load.upToFailure_sublist
    ((request.domains.filter fun domain => !cache.isBuilt domain).map fun domain =>
      ⟨domain, source domain⟩)).map Load.domain
  rw [List.map_map, Function.comp_def, List.map_id'] at part
  exact part.trans List.filter_sublist

theorem loads_domains_nodup (request : Request) (source : Source) (cache : EngineCache) :
    ((request.loads source cache).map Load.domain).Nodup :=
  (request.loads_domains_sublist source cache).nodup request.domains_nodup

/-- An engine that is there is not loaded. -/
theorem ne_of_mem_loads {request : Request} {domain : Domain} {engine : Engine}
    (present : cache.engine? domain = some engine) :
    ∀ load ∈ request.loads source cache, load.domain ≠ domain := by
  rintro load member rfl
  have unbuilt := (mem_loads member).2.1
  simp [isBuilt, present] at unbuilt

theorem perform_engine?_of_isSome {request : Request} {domain : Domain} {engine : Engine}
    (present : cache.engine? domain = some engine) :
    (request.perform source cache).2.engine? domain = some engine := by
  rw [perform_snd, replay_engine?_of_forall_ne (ne_of_mem_loads present)]
  exact present

/-- A load leaves the engine that it gave, or none. -/
theorem perform_engine?_of_mem_loads {request : Request} {load : Load}
    (member : load ∈ request.loads source cache) :
    (request.perform source cache).2.engine? load.domain = built? load.outcome := by
  rw [perform_snd]
  exact replay_engine?_of_mem (request.loads_domains_nodup source cache) member

/-- An engine is there after a request if it was there before or a load gave
it. -/
theorem perform_isBuilt_iff (request : Request) (source : Source) (cache : EngineCache)
    (domain : Domain) :
    (request.perform source cache).2.isBuilt domain ↔
      cache.isBuilt domain ∨
        ∃ load ∈ request.loads source cache, load.succeeds domain := by
  constructor
  · intro built
    by_cases before : cache.isBuilt domain
    · exact .inl before
    · -- without a load of the domain the engine would still be missing
      by_cases loaded : ∃ load ∈ request.loads source cache, load.domain = domain
      · rcases loaded with ⟨load, member, rfl⟩
        rw [isBuilt, perform_engine?_of_mem_loads member] at built
        refine .inr ⟨load, member, ?_⟩
        rcases load with ⟨domain, _ | engine⟩
        · simp [built?] at built
        · simp [Load.succeeds, Except.isOk, Except.toBool]
      · have others : ∀ load ∈ request.loads source cache, load.domain ≠ domain :=
          fun load member equal => loaded ⟨load, member, equal⟩
        rw [isBuilt, perform_snd, replay_engine?_of_forall_ne others] at built
        exact .inl built
  · rintro (before | ⟨load, member, succeeded⟩)
    · obtain ⟨engine, present⟩ := Option.isSome_iff_exists.mp before
      exact Option.isSome_of_eq_some (perform_engine?_of_isSome present)
    · rcases load with ⟨loaded, _ | engine⟩
      · simp [Load.succeeds, Except.isOk, Except.toBool] at succeeded
      · have equal : loaded = domain := by
          simpa [Load.succeeds, Except.isOk, Except.toBool] using succeeded
        subst equal
        exact Option.isSome_of_eq_some (perform_engine?_of_mem_loads member)

theorem engines_unique {engines others : Domain → Engine}
    (present : ∀ domain, cache.engine? domain = some (engines domain))
    (same : ∀ domain ∈ Domain.all, cache.engine? domain = some (others domain)) :
    others = engines := by
  funext domain
  exact Option.some.inj ((same domain domain.mem_all).symm.trans (present domain))

/-- A request is answered by the engines that it leaves in the cache, unless
its last load failed: then the error of that load is the answer. -/
theorem perform_cases (request : Request) (source : Source) (cache : EngineCache) :
    (∀ load ∈ request.loads source cache, ∃ engine, load.outcome = .ok engine) ∧
        (∀ domain ∈ request.domains,
          ((request.perform source cache).2.engine? domain).isSome) ∧
        (∀ engines : Domain → Engine,
          (∀ domain ∈ request.domains,
            (request.perform source cache).2.engine? domain = some (engines domain)) →
          (request.perform source cache).1 = request.answerWith engines) ∨
      ∃ earlier domain error,
        request.loads source cache = earlier ++ [⟨domain, .error error⟩] ∧
          (request.perform source cache).1 = request.failed error := by
  cases request with
  | get domain | evaluate domain input =>
      rcases get_cases source domain cache with
        ⟨engine, after, result, present, succeeded⟩ | ⟨error, after, result, failing⟩
      · refine .inl ⟨succeeded, ?_, ?_⟩
        · simp [domains, perform, result, present]
        · intro engines built
          have same : engine = engines domain := by
            simpa [domains, perform, result, present] using built
          simp [perform, answerWith, result, same, Except.map]
      · exact .inr ⟨[], domain, error, failing, by rw [perform, result]; rfl⟩
  | warm =>
      simp only [loads, gets, perform, EngineCache.warm, domains]
      rcases warmAll_cases source Domain.all cache with
        ⟨after, ended, succeeded, built⟩ | ⟨earlier, domain, error, after, ended, failing⟩
      · rw [ended]
        exact .inl ⟨succeeded, built, fun _ _ => rfl⟩
      · rw [ended]
        exact .inr ⟨earlier, domain, error, failing, rfl⟩
  | fatal documents | isolated documents =>
      simp only [loads, gets, loads_scan, perform, Scan.fatal, Scan.isolated, EngineCache.warm,
        domains]
      rcases warmAll_cases source Domain.all cache with
        ⟨after, ended, succeeded, built⟩ | ⟨earlier, domain, error, after, ended, failing⟩
      · obtain ⟨engines, present, outcomesEq⟩ := exists_outcomes_eq source documents built
        simp only [ended, outcomesEq]
        refine .inl ⟨succeeded, built, ?_⟩
        intro others same
        rw [engines_unique present same]
        rfl
      · rw [ended]
        exact .inr ⟨earlier, domain, error, failing, rfl⟩

end Request

end

end PolicyScan.EngineCache
