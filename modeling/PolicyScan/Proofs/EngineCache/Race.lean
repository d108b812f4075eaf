import Mathlib.Data.List.FinRange
import Mathlib.Logic.Function.Basic
import PolicyScan.Proofs.EngineCache.Loads

/-!
# Calls that race for engines

Any number of calls ask one engine cache for engines at the same time.  A domain
has one permit to load its engine.  A call that finds no engine takes the permit
and loads, or waits while another call has it; the permit is given back when the
load ends, and whoever waits then looks again.  What a call does between two
suspensions is one turn, and the turns of the calls are interleaved in any order.

However the turns fall and whichever loads fail, an engine is loaded by one call
at a time and with success only once (`Run.orderly`).  A call alone is a request
(`exists_run_get`), and when any number of calls have returned, their answers and
the cache are those of the same requests made one after the other
(`Run.eq_getAll`).
-/

namespace PolicyScan.EngineCache

open Artifacts (BuildError)

/-- How far a call has come. -/
inductive Race.Phase where
  /-- It has had no turn. -/
  | fresh
  /-- It waits for the permit. -/
  | waiting
  /-- It has the permit, and its load is under way. -/
  | loading
  | returned (answer : Except BuildError Engine)

namespace Race.Phase

/-- A call that has neither the permit nor an answer. -/
def IsIdle (phase : Phase) : Prop := phase = fresh ∨ phase = waiting

/-- A call that is suspended. -/
def IsSuspended (phase : Phase) : Prop := phase = waiting ∨ phase = loading

theorem IsIdle.ne_loading {phase : Phase} (idle : phase.IsIdle) : phase ≠ loading := by
  rcases idle with rfl | rfl <;> simp

theorem not_isIdle_returned {answer : Except BuildError Engine} :
    ¬(returned answer).IsIdle := by
  rintro (impossible | impossible) <;> contradiction

end Race.Phase

/-- The cache when a load of a domain has begun. -/
def begin (cache : EngineCache) (domain : Domain) : EngineCache :=
  { cache with loads := Function.update cache.loads domain (cache.loads domain + 1) }

/-- The cache when a load of a domain has ended. -/
def settle (cache : EngineCache) (domain : Domain) (outcome : Except BuildError Engine) :
    EngineCache :=
  { cache with engine? := Function.update cache.engine? domain (built? outcome) }

@[simp]
theorem begin_engine? (cache : EngineCache) (domain : Domain) :
    (cache.begin domain).engine? = cache.engine? := rfl

@[simp]
theorem begin_loads (cache : EngineCache) (domain : Domain) :
    (cache.begin domain).loads =
      Function.update cache.loads domain (cache.loads domain + 1) := rfl

@[simp]
theorem settle_engine? (cache : EngineCache) (domain : Domain)
    (outcome : Except BuildError Engine) :
    (cache.settle domain outcome).engine? =
      Function.update cache.engine? domain (built? outcome) := rfl

/-- A load that ends as soon as it has begun is a recorded one. -/
theorem settle_begin (cache : EngineCache) (domain : Domain)
    (outcome : Except BuildError Engine) :
    (cache.begin domain).settle domain outcome = cache.record domain (built? outcome) := by
  rw [begin, settle, record, EngineCache.mk.injEq]
  constructor <;> funext other <;> by_cases same : other = domain <;> simp [same]

/-- Calls for the engines of domains, with the cache that they share. -/
structure Race {n : Nat} (asked : Fin n → Domain) where
  cache : EngineCache
  /-- Whether no call has the permit to load a domain. -/
  free : Domain → Bool
  phase : Fin n → Race.Phase

variable {n : Nat} {asked : Fin n → Domain}

namespace Race

/-- What a call does between two suspensions. -/
inductive Turn (asked : Fin n → Domain) where
  /-- It finds no engine and waits for the permit. -/
  | wait (call : Fin n)
  /-- It waits on, or its load goes on. -/
  | stall (call : Fin n)
  /-- It takes the permit, and a load begins. -/
  | start (call : Fin n)
  /-- Its load ends, and the permit is given back. -/
  | finish (call : Fin n) (outcome : Except BuildError Engine)
  /-- It finds the engine. -/
  | read (call : Fin n)

/-- The race before the first turn. -/
def opening (asked : Fin n → Domain) (cache : EngineCache) : Race asked :=
  ⟨cache, fun _ => true, fun _ => .fresh⟩

/-- The race with a call in another phase. -/
def move (race : Race asked) (call : Fin n) (phase : Phase) : Race asked :=
  { race with phase := Function.update race.phase call phase }

/-- The race when a call has begun to load. -/
def begin (race : Race asked) (call : Fin n) : Race asked where
  cache := race.cache.begin (asked call)
  free := Function.update race.free (asked call) false
  phase := Function.update race.phase call .loading

/-- The race when the load of a call has ended. -/
def settle (race : Race asked) (call : Fin n)
    (outcome : Except BuildError Engine) : Race asked where
  cache := race.cache.settle (asked call) outcome
  free := Function.update race.free (asked call) true
  phase := Function.update race.phase call (.returned outcome)

section

variable (race : Race asked) (call other : Fin n) (phase : Phase)
  (outcome : Except BuildError Engine)

@[simp]
theorem move_cache : (race.move call phase).cache = race.cache := rfl

@[simp]
theorem move_phase :
    (race.move call phase).phase = Function.update race.phase call phase := rfl

@[simp]
theorem begin_cache : (race.begin call).cache = race.cache.begin (asked call) := rfl

@[simp]
theorem begin_free :
    (race.begin call).free = Function.update race.free (asked call) false := rfl

@[simp]
theorem begin_phase :
    (race.begin call).phase = Function.update race.phase call .loading := rfl

@[simp]
theorem settle_cache :
    (race.settle call outcome).cache = race.cache.settle (asked call) outcome := rfl

@[simp]
theorem settle_free :
    (race.settle call outcome).free = Function.update race.free (asked call) true := rfl

@[simp]
theorem settle_phase :
    (race.settle call outcome).phase =
      Function.update race.phase call (.returned outcome) := rfl

end

/-- The turns that can be taken.  Whoever comes later may take the permit before a
call that waits, and a call may wait although the permit is free. -/
inductive Step : Race asked → Turn asked → Race asked → Prop
  | wait {race : Race asked} (call : Fin n) :
      race.phase call = .fresh → race.cache.engine? (asked call) = none →
      Step race (.wait call) (race.move call .waiting)
  | stall {race : Race asked} (call : Fin n) :
      (race.phase call).IsSuspended → Step race (.stall call) race
  | start {race : Race asked} (call : Fin n) :
      (race.phase call).IsIdle → race.cache.engine? (asked call) = none →
      race.free (asked call) = true → Step race (.start call) (race.begin call)
  | finish {race : Race asked} (call : Fin n)
      (outcome : Except BuildError Engine) :
      race.phase call = .loading → Step race (.finish call outcome) (race.settle call outcome)
  | read {race : Race asked} {engine : Engine} (call : Fin n) :
      (race.phase call).IsIdle → race.cache.engine? (asked call) = some engine →
      Step race (.read call) (race.move call (.returned (.ok engine)))

/-- The turns of a race from its opening on, and where they have led. -/
inductive Run (cache : EngineCache) : List (Turn asked) → Race asked → Prop
  | opening : Run cache [] (Race.opening asked cache)
  | turn {turns : List (Turn asked)} {race after : Race asked} {turn : Turn asked} :
      Run cache turns race → Step race turn after → Run cache (turns ++ [turn]) after

namespace Turn

/-- The call whose turn it is. -/
def call : Turn asked → Fin n
  | wait call | stall call | start call | finish call _ | read call => call

/-- The call that begins to load in a turn. -/
def starter? : Turn asked → Option (Fin n)
  | start call => some call
  | _ => none

/-- The call whose load ends in a turn, and what came of it. -/
def ending? : Turn asked → Option (Fin n × Except BuildError Engine)
  | finish call outcome => some (call, outcome)
  | _ => none

/-- Whether a load of a domain ends in a turn and gives an engine. -/
def succeeds (domain : Domain) : Turn asked → Bool
  | finish call (.ok _) => asked call = domain
  | _ => false

end Turn

/-- The calls that begin to load, in their order. -/
def starts (turns : List (Turn asked)) : List (Fin n) :=
  turns.filterMap Turn.starter?

/-- The loads that end, in their order. -/
def endings (turns : List (Turn asked)) :
    List (Fin n × Except BuildError Engine) :=
  turns.filterMap Turn.ending?

/-! ## The permit -/

/-- A call that loads has the permit of its domain, which has no engine, and
nobody else has it. -/
structure Guarded (race : Race asked) : Prop where
  held : ∀ call, race.phase call = .loading →
    race.free (asked call) = false ∧ race.cache.engine? (asked call) = none
  alone : ∀ call other, race.phase call = .loading → race.phase other = .loading →
    asked call = asked other → call = other
  holder : ∀ domain, race.free domain = false →
    ∃ call, asked call = domain ∧ race.phase call = .loading

theorem Guarded.opening (cache : EngineCache) :
    (Race.opening asked cache).Guarded where
  held := by simp [Race.opening]
  alone := by simp [Race.opening]
  holder := by simp [Race.opening]

variable {race after : Race asked} {turn : Turn asked}

/-- A call that neither loads nor is about to does not touch the permit. -/
theorem Guarded.move (guarded : race.Guarded) {call : Fin n}
    (idle : (race.phase call).IsIdle) {phase : Phase} (notLoading : phase ≠ .loading) :
    (race.move call phase).Guarded := by
  have loads_iff (other : Fin n) :
      (race.move call phase).phase other = .loading ↔ race.phase other = .loading := by
    by_cases equal : other = call
    · subst equal
      simp [notLoading, idle.ne_loading]
    · simp [equal]
  constructor
  · intro other loads
    exact guarded.held other ((loads_iff other).mp loads)
  · intro one other oneLoads otherLoads
    exact guarded.alone one other ((loads_iff one).mp oneLoads) ((loads_iff other).mp otherLoads)
  · intro domain taken
    obtain ⟨holder, asks, loads⟩ := guarded.holder domain taken
    exact ⟨holder, asks, (loads_iff holder).mpr loads⟩

theorem Guarded.begin (guarded : race.Guarded) {call : Fin n}
    (missing : race.cache.engine? (asked call) = none)
    (free : race.free (asked call) = true) : (race.begin call).Guarded := by
  -- nobody loads a domain whose permit is there
  have nobody {other : Fin n} (loads : race.phase other = .loading) :
      asked other ≠ asked call := by
    intro same
    have taken := (guarded.held other loads).1
    rw [same, free] at taken
    contradiction
  have loads_iff (other : Fin n) :
      (race.begin call).phase other = .loading ↔ other = call ∨ race.phase other = .loading := by
    by_cases equal : other = call
    · simp [equal]
    · simp [equal]
  constructor
  · intro other loads
    rcases (loads_iff other).mp loads with equal | otherLoads
    · subst equal
      exact ⟨by simp, missing⟩
    · obtain ⟨taken, none⟩ := guarded.held other otherLoads
      rw [begin_free, Function.update_of_ne (nobody otherLoads)]
      exact ⟨taken, none⟩
  · intro one other loads otherLoads same
    rcases (loads_iff one).mp loads with oneEq | oneLoads <;>
      rcases (loads_iff other).mp otherLoads with otherEq | otherLoads
    · exact oneEq.trans otherEq.symm
    · rw [oneEq] at same
      exact absurd same.symm (nobody otherLoads)
    · rw [otherEq] at same
      exact absurd same (nobody oneLoads)
    · exact guarded.alone one other oneLoads otherLoads same
  · intro domain taken
    by_cases equal : domain = asked call
    · exact ⟨call, equal.symm, (loads_iff call).mpr (.inl rfl)⟩
    · rw [begin_free, Function.update_of_ne equal] at taken
      obtain ⟨holder, asks, loads⟩ := guarded.holder domain taken
      exact ⟨holder, asks, (loads_iff holder).mpr (.inr loads)⟩

theorem Guarded.settle (guarded : race.Guarded) {call : Fin n}
    (loading : race.phase call = .loading) (outcome : Except BuildError Engine) :
    (race.settle call outcome).Guarded := by
  have loads_iff (other : Fin n) :
      (race.settle call outcome).phase other = .loading ↔
        other ≠ call ∧ race.phase other = .loading := by
    by_cases equal : other = call
    · simp [equal]
    · simp [equal]
  constructor
  · intro other loads
    obtain ⟨ne, otherLoads⟩ := (loads_iff other).mp loads
    have elsewhere : asked other ≠ asked call :=
      fun same => ne (guarded.alone other call otherLoads loading same)
    obtain ⟨taken, none⟩ := guarded.held other otherLoads
    rw [settle_free, settle_cache, settle_engine?, Function.update_of_ne elsewhere,
      Function.update_of_ne elsewhere]
    exact ⟨taken, none⟩
  · intro one other loads otherLoads
    exact guarded.alone one other ((loads_iff one).mp loads).2 ((loads_iff other).mp otherLoads).2
  · intro domain taken
    by_cases equal : domain = asked call
    · subst equal
      simp at taken
    · rw [settle_free, Function.update_of_ne equal] at taken
      obtain ⟨holder, asks, loads⟩ := guarded.holder domain taken
      refine ⟨holder, asks, (loads_iff holder).mpr ⟨?_, loads⟩⟩
      intro same
      exact equal (asks.symm.trans (congrArg asked same))

/-- Every turn leaves the permits in order. -/
theorem Step.guarded (step : Step race turn after) (guarded : race.Guarded) :
    after.Guarded := by
  cases step with
  | wait call fresh missing => exact guarded.move (.inl fresh) (by simp)
  | stall call suspended => exact guarded
  | start call idle missing free => exact guarded.begin missing free
  | finish call outcome loading => exact guarded.settle loading outcome
  | read call idle present => exact guarded.move idle (by simp)

variable {cache : EngineCache} {turns : List (Turn asked)}

theorem Run.guarded (run : Run cache turns race) : race.Guarded := by
  induction run with
  | opening => exact .opening cache
  | turn run step ih => exact step.guarded ih

/-! ## What the turns tell -/

theorem starts_concat (turns : List (Turn asked)) (turn : Turn asked) :
    starts (turns ++ [turn]) = starts turns ++ turn.starter?.toList := by
  rw [starts, List.filterMap_append]
  cases turn <;> rfl

theorem endings_concat (turns : List (Turn asked)) (turn : Turn asked) :
    endings (turns ++ [turn]) = endings turns ++ turn.ending?.toList := by
  rw [endings, List.filterMap_append]
  cases turn <;> rfl

/-- What a call has done so far, from the phase that it has come to. -/
inductive History (turns : List (Turn asked)) (cache : EngineCache)
    (call : Fin n) : Phase → Prop
  | idle {phase : Phase} : phase.IsIdle → call ∉ starts turns →
      (∀ outcome, (call, outcome) ∉ endings turns) → History turns cache call phase
  | loading : call ∈ starts turns → (∀ outcome, (call, outcome) ∉ endings turns) →
      History turns cache call .loading
  /-- It returns what its load gave. -/
  | loaded {answer : Except BuildError Engine} : call ∈ starts turns →
      (∀ outcome, (call, outcome) ∈ endings turns ↔ outcome = answer) →
      History turns cache call (.returned answer)
  /-- It returns an engine that it found. -/
  | found {engine : Engine} : call ∉ starts turns →
      (∀ outcome, (call, outcome) ∉ endings turns) →
      cache.engine? (asked call) = some engine →
      History turns cache call (.returned (.ok engine))

variable {call : Fin n} {domain : Domain} {engine : Engine}

/-- A turn in which a call neither begins nor ends a load adds nothing to its
history. -/
theorem History.carry {before later : EngineCache} {phase : Phase}
    (history : History turns before call phase) (notStarted : turn.starter? ≠ some call)
    (notEnded : ∀ outcome, turn.ending? ≠ some (call, outcome))
    (kept : ∀ engine, before.engine? (asked call) = some engine →
      later.engine? (asked call) = some engine) :
    History (turns ++ [turn]) later call phase := by
  have sameStarts : call ∈ starts (turns ++ [turn]) ↔ call ∈ starts turns := by
    rw [starts_concat, List.mem_append, Option.mem_toList]
    exact or_iff_left notStarted
  have sameEndings (outcome : Except BuildError Engine) :
      (call, outcome) ∈ endings (turns ++ [turn]) ↔ (call, outcome) ∈ endings turns := by
    rw [endings_concat, List.mem_append, Option.mem_toList]
    exact or_iff_left (notEnded outcome)
  cases history with
  | idle idle unstarted unended =>
      exact .idle idle (mt sameStarts.mp unstarted)
        fun outcome => mt (sameEndings outcome).mp (unended outcome)
  | loading started unended =>
      exact .loading (sameStarts.mpr started)
        fun outcome => mt (sameEndings outcome).mp (unended outcome)
  | loaded started ended =>
      exact .loaded (sameStarts.mpr started)
        fun outcome => (sameEndings outcome).trans (ended outcome)
  | found unstarted unended present =>
      exact .found (mt sameStarts.mp unstarted)
        (fun outcome => mt (sameEndings outcome).mp (unended outcome)) (kept _ present)

/-- An engine that is there stays there, as nobody loads its domain. -/
theorem Step.engine?_of_isSome (step : Step race turn after) (guarded : race.Guarded)
    (present : race.cache.engine? domain = some engine) :
    after.cache.engine? domain = some engine := by
  cases step with
  | finish call outcome loading =>
      have missing := (guarded.held _ loading).2
      rw [Race.settle_cache, settle_engine?, Function.update_of_ne]
      · exact present
      · rintro rfl
        rw [present] at missing
        contradiction
  | wait | stall | start | read => exact present

/-- A call that is idle has begun no load and ended none. -/
theorem History.of_isIdle {phase : Phase} (history : History turns cache call phase)
    (idle : phase.IsIdle) :
    call ∉ starts turns ∧ ∀ outcome, (call, outcome) ∉ endings turns := by
  cases history with
  | idle _ unstarted unended => exact ⟨unstarted, unended⟩
  | loading => exact absurd rfl idle.ne_loading
  | loaded | found => exact absurd idle Phase.not_isIdle_returned

/-- A call that loads has begun a load and ended none. -/
theorem History.of_loading (history : History turns cache call .loading) :
    call ∈ starts turns ∧ ∀ outcome, (call, outcome) ∉ endings turns := by
  cases history with
  | idle idle => exact absurd rfl idle.ne_loading
  | loading started unended => exact ⟨started, unended⟩

/-- A turn is a turn of one call. -/
theorem Step.phase_of_ne (step : Step race turn after) (others : call ≠ turn.call) :
    after.phase call = race.phase call := by
  cases step with
  | stall => rfl
  | wait | start | finish | read => exact Function.update_of_ne others _ _

theorem Turn.starter?_ne (others : call ≠ turn.call) : turn.starter? ≠ some call := by
  intro starts
  cases turn <;> cases starts
  exact others rfl

theorem Turn.ending?_ne (others : call ≠ turn.call) (outcome : Except BuildError Engine) :
    turn.ending? ≠ some (call, outcome) := by
  intro ends
  cases turn <;> cases ends
  exact others rfl

/-- The history of the call whose turn it is. -/
theorem Step.history (step : Step race turn after)
    (history : History turns race.cache turn.call (race.phase turn.call)) :
    History (turns ++ [turn]) after.cache turn.call (after.phase turn.call) := by
  -- of the turns before, those of the call are listed in `history`
  have noStart (none : turn.starter? = none) (unstarted : turn.call ∉ starts turns) :
      turn.call ∉ starts (turns ++ [turn]) := by
    simpa [starts_concat, none] using unstarted
  have noEnd (none : turn.ending? = none)
      (unended : ∀ outcome, (turn.call, outcome) ∉ endings turns) :
      ∀ outcome, (turn.call, outcome) ∉ endings (turns ++ [turn]) := by
    simpa [endings_concat, none] using unended
  cases step with
  | wait call fresh missing =>
      obtain ⟨unstarted, unended⟩ := history.of_isIdle (.inl fresh)
      rw [Race.move_phase, Turn.call, Function.update_self]
      exact .idle (.inr rfl) (noStart rfl unstarted) (noEnd rfl unended)
  | stall call suspended =>
      exact history.carry (by simp [Turn.starter?]) (by simp [Turn.ending?]) fun _ => id
  | start call idle missing free =>
      obtain ⟨-, unended⟩ := history.of_isIdle idle
      rw [Race.begin_phase, Turn.call, Function.update_self]
      exact .loading (by simp [starts_concat, Turn.starter?]) (noEnd rfl unended)
  | finish call outcome loading =>
      rw [Turn.call, loading] at history
      obtain ⟨started, unended⟩ := history.of_loading
      rw [Race.settle_phase, Turn.call, Function.update_self]
      refine .loaded (by simpa [starts_concat, Turn.starter?] using started) ?_
      intro other
      rw [endings_concat, List.mem_append, or_iff_right (unended other)]
      simp [Turn.ending?]
  | read call idle present =>
      obtain ⟨unstarted, unended⟩ := history.of_isIdle idle
      rw [Race.move_phase, Turn.call, Function.update_self]
      exact .found (noStart rfl unstarted) (noEnd rfl unended) present

theorem Run.history (run : Run cache turns race) (call : Fin n) :
    History turns race.cache call (race.phase call) := by
  induction run with
  | opening => exact .idle (.inl rfl) (by simp [starts]) (by simp [endings])
  | @turn turns race after turn run step ih =>
      by_cases own : call = turn.call
      · subst own
        exact step.history ih
      · rw [step.phase_of_ne own]
        exact ih.carry (Turn.starter?_ne own) (Turn.ending?_ne own)
          fun _ => step.engine?_of_isSome run.guarded

/-! ## Loads of a run -/

/-- No call begins a second load. -/
theorem Run.starts_nodup (run : Run cache turns race) : (starts turns).Nodup := by
  induction run with
  | opening => exact List.nodup_nil
  | @turn turns race after turn run step ih =>
      rw [starts_concat]
      cases step with
      | start call idle missing free =>
          have unstarted := ((run.history call).of_isIdle idle).1
          exact List.Nodup.append ih (List.nodup_singleton call)
            (by simpa [List.disjoint_singleton, Turn.starter?] using unstarted)
      | wait | stall | finish | read => simpa [Turn.starter?] using ih

/-- The loads of a domain are counted as they begin. -/
theorem Run.loads_eq (run : Run cache turns race) (domain : Domain) :
    race.cache.loads domain =
      cache.loads domain + (starts turns).countP (asked · = domain) := by
  induction run with
  | opening => rfl
  | @turn turns race after turn run step ih =>
      rw [starts_concat, List.countP_append]
      cases step with
      | start call idle missing free =>
          rw [Race.begin_cache, begin_loads]
          by_cases same : asked call = domain
          · subst same
            simp [Turn.starter?, ih, Nat.add_assoc]
          · rw [Function.update_of_ne (Ne.symm same), ih]
            simp [Turn.starter?, same]
      | wait | stall | finish | read => exact ih

/-- A load that succeeds leaves its engine for good. -/
theorem Run.engine?_of_ending (run : Run cache turns race)
    (ended : (call, .ok engine) ∈ endings turns) :
    race.cache.engine? (asked call) = some engine := by
  induction run with
  | opening => simp [endings] at ended
  | @turn turns race after turn run step ih =>
      rw [endings_concat, List.mem_append] at ended
      rcases ended with before | now
      · exact step.engine?_of_isSome run.guarded (ih before)
      · cases step with
        | finish call outcome loading =>
            cases List.mem_singleton.mp now
            exact Function.update_self _ _ _
        | wait | stall | start | read => simp [Turn.ending?] at now

/-- An engine was there before the race, or a load gave it. -/
theorem Run.exists_of_engine? (run : Run cache turns race)
    (present : race.cache.engine? domain = some engine) :
    cache.engine? domain = some engine ∨
      ∃ call, asked call = domain ∧ (call, .ok engine) ∈ endings turns := by
  induction run with
  | opening => exact .inl present
  | @turn turns race after turn run step ih =>
      -- whoever gave the engine before this turn is still listed after it
      have earlier (present : race.cache.engine? domain = some engine) :
          cache.engine? domain = some engine ∨
            ∃ call, asked call = domain ∧ (call, .ok engine) ∈ endings (turns ++ [turn]) := by
        rw [endings_concat]
        exact (ih present).imp_right fun ⟨call, asks, ended⟩ =>
          ⟨call, asks, List.mem_append_left _ ended⟩
      cases step with
      | finish call outcome loading =>
          by_cases same : domain = asked call
          · subst same
            rw [Race.settle_cache, settle_engine?, Function.update_self] at present
            cases outcome with
            | error error => contradiction
            | ok given =>
                cases present
                refine .inr ⟨call, rfl, ?_⟩
                simp [endings_concat, Turn.ending?]
          · rw [Race.settle_cache, settle_engine?, Function.update_of_ne same] at present
            exact earlier present
      | wait | stall | start | read => exact earlier present

/-- The turns in which a load of a domain succeeds are as many as the engines that
came of them. -/
theorem Run.length_succeeds (run : Run cache turns race) (domain : Domain) :
    (turns.filter (Turn.succeeds domain)).length + (cache.isBuilt domain).toNat =
      (race.cache.isBuilt domain).toNat := by
  induction run with
  | opening => simp [Race.opening]
  | @turn turns race after turn run step ih =>
      rw [List.filter_append, List.length_append]
      cases step with
      | finish call outcome loading =>
          by_cases same : asked call = domain
          · subst same
            -- the domain had no engine as long as the load went on
            have missing := (run.guarded.held call loading).2
            simp only [isBuilt, missing] at ih
            cases outcome with
            | error error => simpa [Turn.succeeds, isBuilt, built?] using ih
            | ok engine =>
                simp only [Option.isSome_none, Bool.toNat_false] at ih
                simp [Turn.succeeds, isBuilt, built?]
                omega
          · have unchanged : (race.settle call outcome).cache.isBuilt domain =
                race.cache.isBuilt domain := by
              simp [isBuilt, Function.update_of_ne (Ne.symm same)]
            rw [unchanged, ← ih]
            cases outcome <;> simp [Turn.succeeds, same]
      | wait | stall | start | read => simpa [Turn.succeeds, isBuilt] using ih

/-- Once a load of a domain has succeeded, no load of the domain begins. -/
theorem Run.ne_of_mem_starts (run : Run cache turns race)
    {earlier later : List (Turn asked)} {other : Fin n}
    (split : turns = earlier ++ .finish call (.ok engine) :: later)
    (started : other ∈ starts later) : asked other ≠ asked call := by
  induction run generalizing later with
  | opening => simp at split
  | @turn turns race after turn run step ih =>
      rcases List.eq_nil_or_concat' later with rfl | ⟨others, last, rfl⟩
      · simp [starts] at started
      · rw [← List.cons_append, ← List.append_assoc] at split
        obtain ⟨rest, ⟨⟩⟩ := List.append_inj' split rfl
        rw [starts_concat, List.mem_append] at started
        rcases started with before | now
        · exact ih rest before
        · cases step with
          | start actor idle missing free =>
              cases List.mem_singleton.mp now
              have present : race.cache.engine? (asked call) = some engine := by
                apply run.engine?_of_ending
                simp [rest, endings, Turn.ending?]
              intro same
              rw [same, present] at missing
              contradiction
          | wait | stall | finish | read => simp [Turn.starter?] at now

theorem mem_endings_iff {outcome : Except BuildError Engine} :
    (call, outcome) ∈ endings turns ↔ .finish call outcome ∈ turns := by
  rw [endings, List.mem_filterMap]
  constructor
  · rintro ⟨turn, member, ended⟩
    cases turn <;> cases ended
    exact member
  · exact fun member => ⟨_, member, rfl⟩

/-- The load that succeeds is the only one of its domain that does. -/
theorem Run.filter_succeeds_eq (run : Run .empty turns race)
    (ended : .finish call (.ok engine) ∈ turns) :
    turns.filter (Turn.succeeds (asked call)) = [.finish call (.ok engine)] := by
  have total := run.length_succeeds (asked call)
  have few : (turns.filter (Turn.succeeds (asked call))).length ≤ 1 := by
    have built := Bool.toNat_le (race.cache.isBuilt (asked call))
    omega
  have member : .finish call (.ok engine) ∈ turns.filter (Turn.succeeds (asked call)) :=
    List.mem_filter.mpr ⟨ended, by simp [Turn.succeeds]⟩
  obtain ⟨only, onlyEq⟩ := List.length_eq_one_iff.mp
    (Nat.le_antisymm few (List.length_pos_of_mem member))
  rw [onlyEq, List.mem_singleton] at member
  rw [onlyEq, member]

/-! ## A call alone -/

/-- A call without others can take its turns so that it is a request. -/
theorem exists_run_get (source : Source) (domain : Domain) (cache : EngineCache) :
    ∃ (turns : List (Turn fun _ : Fin 1 => domain)) (race : Race fun _ : Fin 1 => domain),
      Run cache turns race ∧
        race.phase 0 = .returned (cache.get source domain).1 ∧
          race.cache = (cache.get source domain).2 := by
  have opened : Run cache [] (opening (fun _ : Fin 1 => domain) cache) := .opening
  cases present : cache.engine? domain with
  | some engine =>
      rw [get_of_engine? present]
      exact ⟨_, _, opened.turn (.read 0 (.inl rfl) present), rfl, rfl⟩
  | none =>
      rw [get_of_engine?_eq_none present]
      have started := opened.turn (.start 0 (.inl rfl) present rfl)
      exact ⟨_, _, started.turn (.finish 0 (source domain) rfl), rfl, settle_begin cache domain _⟩

/-! ## Engines that are there -/

/-- When the engines of all calls are there, no call waits or loads: each takes one
turn, in which it finds its engine. -/
theorem Run.reads_of_built (run : Run cache turns race)
    (built : ∀ call, (cache.engine? (asked call)).isSome) :
    race.cache = cache ∧ (∀ turn ∈ turns, ∃ call, turn = .read call) ∧
      ∀ call, race.phase call = .fresh ∨
        ∃ engine, cache.engine? (asked call) = some engine ∧
          race.phase call = .returned (.ok engine) := by
  induction run with
  | opening => exact ⟨rfl, by simp, fun _ => .inl rfl⟩
  | @turn turns race after turn run step ih =>
      obtain ⟨cacheEq, reads, phases⟩ := ih
      have unsuspended (call : Fin n) : ¬(race.phase call).IsSuspended := by
        rcases phases call with fresh | ⟨engine, -, returned⟩
        · simp [fresh, Phase.IsSuspended]
        · simp [returned, Phase.IsSuspended]
      have present (call : Fin n) : race.cache.engine? (asked call) ≠ none := by
        rw [cacheEq]
        exact Option.isSome_iff_ne_none.mp (built call)
      cases step with
      | wait call fresh missing => exact absurd missing (present _)
      | stall call suspended => exact absurd suspended (unsuspended _)
      | start call idle missing free => exact absurd missing (present _)
      | finish call outcome loading => exact absurd (.inr loading) (unsuspended _)
      | @read engine call idle found =>
          refine ⟨cacheEq, ?_, ?_⟩
          · intro turn member
            rcases List.mem_append.mp member with earlier | now
            · exact reads turn earlier
            · exact ⟨call, List.mem_singleton.mp now⟩
          · intro other
            rw [Race.move_phase]
            by_cases same : other = call
            · subst same
              rw [Function.update_self]
              exact .inr ⟨engine, cacheEq ▸ found, rfl⟩
            · rw [Function.update_of_ne same]
              exact phases other

/-! ## Every race -/

/-- What holds of the calls for the engine of a domain after some turns of a race
that has begun without engines. -/
structure Orderly (turns : List (Turn asked)) (race : Race asked) (domain : Domain) : Prop where
  /-- At most one load is under way. -/
  one_loading : ∀ call other, asked call = domain → asked other = domain →
    race.phase call = .loading → race.phase other = .loading → call = other
  /-- At most one load has succeeded. -/
  one_success : (turns.filter (Turn.succeeds domain)).length ≤ 1
  /-- Each call has begun at most one load, and each load is counted. -/
  one_load : (starts turns).Nodup ∧
    race.cache.loads domain = (starts turns).countP (asked · = domain)
  /-- A call has returned an error exactly if its own load ended with this error. -/
  returned_error_iff : ∀ call, asked call = domain → ∀ error,
    race.phase call = .returned (.error error) ↔ .finish call (.error error) ∈ turns
  /-- A call that has returned an engine has returned that of the one load that
  succeeded. -/
  returned_engine : ∀ call, asked call = domain → ∀ engine,
    race.phase call = .returned (.ok engine) →
    ∃ loader, asked loader = domain ∧
      turns.filter (Turn.succeeds domain) = [.finish loader (.ok engine)]
  /-- No load begins after one that has succeeded. -/
  no_start : ∀ earlier loader engine later, asked loader = domain →
    turns = earlier ++ .finish loader (.ok engine) :: later →
    ∀ call ∈ starts later, asked call ≠ domain
  /-- A call without an answer can have the engine or the permit at its next turn
  unless a load is under way, and that can end. -/
  progress : ∀ call, asked call = domain → (race.phase call).IsIdle →
    (∃ after, Step race (.read call) after) ∨ (∃ after, Step race (.start call) after) ∨
      ∃ other, asked other = domain ∧ race.phase other = .loading ∧
        ∀ outcome, ∃ after, Step race (.finish other outcome) after

/-- A call returns what its load gives. -/
theorem Run.returned_of_ending {outcome : Except BuildError Engine}
    (run : Run cache turns race) (ended : (call, outcome) ∈ endings turns) :
    race.phase call = .returned outcome := by
  have history := run.history call
  generalize race.phase call = phase at history
  cases history with
  | idle _ _ unended => exact absurd ended (unended outcome)
  | loading _ unended => exact absurd ended (unended outcome)
  | loaded _ ended_iff => rw [(ended_iff outcome).mp ended]
  | found _ unended => exact absurd ended (unended outcome)

/-- An answer is what the load of the call gave, or an engine that is there. -/
theorem Run.returned_cases {answer : Except BuildError Engine} (run : Run cache turns race)
    (returned : race.phase call = .returned answer) :
    (call ∈ starts turns ∧ (call, answer) ∈ endings turns) ∨
      ∃ engine, answer = .ok engine ∧ race.cache.engine? (asked call) = some engine := by
  have history := run.history call
  rw [returned] at history
  cases history with
  | idle idle => exact absurd idle Phase.not_isIdle_returned
  | loaded started ended_iff => exact .inl ⟨started, (ended_iff answer).mpr rfl⟩
  | found _ _ present => exact .inr ⟨_, rfl, present⟩

/-- A call that has returned has begun a load if one of its loads has ended. -/
theorem Run.mem_starts_iff {answer : Except BuildError Engine} (run : Run cache turns race)
    (returned : race.phase call = .returned answer) :
    call ∈ starts turns ↔ (call, answer) ∈ endings turns := by
  have history := run.history call
  rw [returned] at history
  cases history with
  | idle idle => exact absurd idle Phase.not_isIdle_returned
  | loaded started ended_iff => exact iff_of_true started ((ended_iff answer).mpr rfl)
  | found unstarted unended => exact iff_of_false unstarted (unended _)

/-- A call that has returned an error has loaded itself. -/
theorem Run.returned_error_iff (run : Run cache turns race) (call : Fin n)
    (error : BuildError) :
    race.phase call = .returned (.error error) ↔ .finish call (.error error) ∈ turns := by
  rw [← mem_endings_iff]
  constructor
  · intro returned
    rcases run.returned_cases returned with ⟨-, ended⟩ | ⟨engine, impossible, -⟩
    · exact ended
    · contradiction
  · exact run.returned_of_ending

theorem Run.returned_engine (run : Run .empty turns race)
    (returned : race.phase call = .returned (.ok engine)) :
    ∃ loader, asked loader = asked call ∧ .finish loader (.ok engine) ∈ turns := by
  have present : race.cache.engine? (asked call) = some engine := by
    rcases run.returned_cases returned with ⟨-, ended⟩ | ⟨found, equal, present⟩
    · exact run.engine?_of_ending ended
    · cases equal
      exact present
  rcases run.exists_of_engine? present with impossible | ⟨loader, asks, ended⟩
  · simp [EngineCache.empty] at impossible
  · exact ⟨loader, asks, mem_endings_iff.mp ended⟩

theorem Guarded.progress (guarded : race.Guarded) (idle : (race.phase call).IsIdle) :
    (∃ after, Step race (.read call) after) ∨ (∃ after, Step race (.start call) after) ∨
      ∃ other, asked other = asked call ∧ race.phase other = .loading ∧
        ∀ outcome, ∃ after, Step race (.finish other outcome) after := by
  cases present : race.cache.engine? (asked call) with
  | some engine => exact .inl ⟨_, .read call idle present⟩
  | none =>
      cases free : race.free (asked call) with
      | true => exact .inr (.inl ⟨_, .start call idle present free⟩)
      | false =>
          obtain ⟨other, asks, loads⟩ := guarded.holder _ free
          exact .inr (.inr ⟨other, asks, loads, fun outcome => ⟨_, .finish other outcome loads⟩⟩)

/-! ## The requests one after the other -/

/-- Each load has given what a source gives. -/
def Follows (source : Source) (turns : List (Turn asked)) : Prop :=
  ∀ call outcome, (call, outcome) ∈ endings turns → outcome = source (asked call)

/-- All calls have returned. -/
def IsOver (race : Race asked) : Prop := ∀ call, ∃ answer, race.phase call = .returned answer

section

variable {source : Source}

theorem Run.builtFrom (run : Run .empty turns race) (follows : Follows source turns) :
    BuiltFrom source race.cache := by
  intro domain engine present
  rcases run.exists_of_engine? present with impossible | ⟨call, rfl, ended⟩
  · cases impossible
  · exact (follows call _ ended).symm

/-- A call that has returned was answered as the source would answer it. -/
theorem Run.returned_eq {answer : Except BuildError Engine} (run : Run .empty turns race)
    (follows : Follows source turns) (returned : race.phase call = .returned answer) :
    answer = source (asked call) := by
  rcases run.returned_cases returned with ⟨-, ended⟩ | ⟨engine, rfl, present⟩
  · exact follows call answer ended
  · exact (run.builtFrom follows _ _ present).symm

/-- When all calls have returned, the domains that were asked for have the
engines that the source gives. -/
theorem Run.engine?_eq (run : Run .empty turns race) (follows : Follows source turns)
    (allOver : IsOver race) (domain : Domain) :
    race.cache.engine? domain =
      if domain ∈ List.ofFn asked then built? (source domain) else none := by
  cases present : race.cache.engine? domain with
  | some engine =>
      have given := run.builtFrom follows domain engine present
      rcases run.exists_of_engine? present with impossible | ⟨call, asks, -⟩
      · cases impossible
      · rw [if_pos (List.mem_ofFn.mpr ⟨call, asks⟩), given]
        rfl
  | none =>
      split
      · next member =>
          obtain ⟨call, rfl⟩ := List.mem_ofFn.mp member
          obtain ⟨answer, answered⟩ := allOver call
          rw [← run.returned_eq follows answered]
          cases answer with
          | error error => rfl
          | ok engine =>
              -- the engine that was returned is still there
              rcases run.returned_cases answered with ⟨-, ended⟩ | ⟨found, -, there⟩
              · rw [run.engine?_of_ending ended] at present
                contradiction
              · rw [there] at present
                contradiction
      · rfl

/-- Two loads of one domain that succeed are the same. -/
theorem Run.eq_of_endings (run : Run .empty turns race) {other : Fin n} {found : Engine}
    (ended : (call, .ok engine) ∈ endings turns) (otherEnded : (other, .ok found) ∈ endings turns)
    (same : asked other = asked call) : other = call := by
  have only := run.filter_succeeds_eq (mem_endings_iff.mp ended)
  have member : .finish other (.ok found) ∈ turns.filter (Turn.succeeds (asked call)) :=
    List.mem_filter.mpr ⟨mem_endings_iff.mp otherEnded, by simp [Turn.succeeds, same]⟩
  rw [only, List.mem_singleton] at member
  cases member
  rfl

/-- The calls that have begun to load a domain are counted by a list of them. -/
theorem Run.countP_starts_eq {calls : List (Fin n)} (run : Run cache turns race)
    (distinct : calls.Nodup)
    (same : ∀ call, call ∈ calls ↔ call ∈ starts turns ∧ asked call = domain) :
    (starts turns).countP (asked · = domain) = calls.length := by
  have perm : ((starts turns).filter (asked · = domain)).Perm calls := by
    rw [List.perm_ext_iff_of_nodup (run.starts_nodup.filter _) distinct]
    intro call
    rw [List.mem_filter, decide_eq_true_eq, same]
  rw [List.countP_eq_length_filter, perm.length_eq]

/-- If its engine cannot be built, every call loads. -/
theorem Run.mem_starts_of_error {error : BuildError} (run : Run .empty turns race)
    (follows : Follows source turns) (allOver : IsOver race)
    (failing : source (asked call) = .error error) : call ∈ starts turns := by
  obtain ⟨answer, answered⟩ := allOver call
  rcases run.returned_cases answered with ⟨started, -⟩ | ⟨engine, rfl, -⟩
  · exact started
  · rw [← run.returned_eq follows answered] at failing
    contradiction

/-- If its engine can be built, one of the calls for it loads and no other. -/
theorem Run.exists_loader (run : Run .empty turns race) (follows : Follows source turns)
    (allOver : IsOver race) (given : source (asked call) = .ok engine) :
    ∃ loader, ∀ other,
      other = loader ↔ other ∈ starts turns ∧ asked other = asked call := by
  obtain ⟨answer, answered⟩ := allOver call
  rw [run.returned_eq follows answered, given] at answered
  obtain ⟨loader, asks, finished⟩ := run.returned_engine answered
  have ended := mem_endings_iff.mpr finished
  refine ⟨loader, fun other => ⟨?_, ?_⟩⟩
  · rintro rfl
    exact ⟨(run.mem_starts_iff (run.returned_of_ending ended)).mpr ended, asks⟩
  · rintro ⟨started, otherAsks⟩
    -- another load of the domain would have succeeded too
    obtain ⟨otherAnswer, otherAnswered⟩ := allOver other
    have otherEnded := (run.mem_starts_iff otherAnswered).mp started
    rw [run.returned_eq follows otherAnswered, otherAsks, given] at otherEnded
    exact run.eq_of_endings ended otherEnded (otherAsks.trans asks.symm)

/-- The calls for a domain that have begun to load, when all have returned: every
one if loads fail, and a single one if they succeed. -/
theorem Run.countP_starts (run : Run .empty turns race) (follows : Follows source turns)
    (allOver : IsOver race) (domain : Domain) :
    (starts turns).countP (asked · = domain) =
      loadCount (source domain) ((List.ofFn asked).count domain) := by
  cases outcome : source domain with
  | error error =>
      have everyone (call : Fin n) : call ∈ (List.finRange n).filter (asked · = domain) ↔
          call ∈ starts turns ∧ asked call = domain := by
        simp only [List.mem_filter, List.mem_finRange, true_and, decide_eq_true_eq]
        refine (and_iff_right_of_imp ?_).symm
        rintro rfl
        exact run.mem_starts_of_error follows allOver outcome
      rw [run.countP_starts_eq ((List.nodup_finRange n).filter _) everyone,
        ← List.countP_eq_length_filter, loadCount, List.ofFn_eq_map, List.count_eq_countP,
        List.countP_map]
      rfl
  | ok engine =>
      rw [loadCount]
      by_cases asks : domain ∈ List.ofFn asked
      · have positive := List.count_pos_iff.mpr asks
        obtain ⟨call, rfl⟩ := List.mem_ofFn.mp asks
        obtain ⟨loader, only⟩ := run.exists_loader follows allOver outcome
        rw [run.countP_starts_eq (List.nodup_singleton loader)
          fun other => List.mem_singleton.trans (only other), List.length_singleton]
        omega
      · have nobody (call : Fin n) : call ∈ ([] : List (Fin n)) ↔
            call ∈ starts turns ∧ asked call = domain := by
          refine iff_of_false List.not_mem_nil ?_
          rintro ⟨-, rfl⟩
          exact asks (List.mem_ofFn.mpr ⟨call, rfl⟩)
        rw [run.countP_starts_eq List.nodup_nil nobody, List.count_eq_zero.mpr asks]
        rfl

/-- When all calls have returned, their answers and the cache are those of the
same requests made one after the other. -/
theorem Run.eq_getAll (run : Run .empty turns race) (follows : Follows source turns)
    (allOver : IsOver race) :
    List.ofFn race.phase = ((getAll source (List.ofFn asked) .empty).1).map .returned ∧
      race.cache = (getAll source (List.ofFn asked) .empty).2 := by
  have builtFrom := BuiltFrom.empty source
  constructor
  · rw [builtFrom.getAll_fst, List.map_ofFn, List.map_ofFn]
    congr 1
    funext call
    obtain ⟨answer, answered⟩ := allOver call
    rw [answered, run.returned_eq follows answered]
    rfl
  · have engines : race.cache.engine? = (getAll source (List.ofFn asked) .empty).2.engine? := by
      funext domain
      rw [run.engine?_eq follows allOver, builtFrom.getAll_engine?]
      rfl
    have loads : race.cache.loads = (getAll source (List.ofFn asked) .empty).2.loads := by
      funext domain
      rw [run.loads_eq, run.countP_starts follows allOver, builtFrom.getAll_loads]
      rfl
    calc
      race.cache = ⟨race.cache.engine?, race.cache.loads⟩ := rfl
      _ = ⟨(getAll source (List.ofFn asked) .empty).2.engine?,
            (getAll source (List.ofFn asked) .empty).2.loads⟩ := by rw [engines, loads]
      _ = (getAll source (List.ofFn asked) .empty).2 := rfl

end

theorem Run.orderly (run : Run .empty turns race) (domain : Domain) :
    Orderly turns race domain where
  one_loading := by
    intro call other asks otherAsks loads otherLoads
    exact run.guarded.alone call other loads otherLoads (asks.trans otherAsks.symm)
  one_success := by
    have total := run.length_succeeds domain
    have built := Bool.toNat_le (race.cache.isBuilt domain)
    omega
  one_load := ⟨run.starts_nodup, by simpa [EngineCache.empty] using run.loads_eq domain⟩
  returned_error_iff := fun call _ error => run.returned_error_iff call error
  returned_engine := by
    rintro call rfl engine returned
    obtain ⟨loader, asks, ended⟩ := run.returned_engine returned
    exact ⟨loader, asks, asks ▸ run.filter_succeeds_eq ended⟩
  no_start := by
    rintro earlier loader engine later rfl split call started
    exact run.ne_of_mem_starts split started
  progress := by
    rintro call rfl idle
    exact run.guarded.progress idle

/-- However the turns of calls for engines fall and whichever loads fail, each
domain has one load at a time and one that succeeds, and every call returns what
its own load gave or the engine of that one.  With loads that follow a source, it
all ends as if the requests had been made one after the other. -/
theorem Run.loads_once (run : Run .empty turns race) :
    (∀ domain, Orderly turns race domain) ∧
      ∀ source, Follows source turns → IsOver race →
        List.ofFn race.phase = ((getAll source (List.ofFn asked) .empty).1).map .returned ∧
          race.cache = (getAll source (List.ofFn asked) .empty).2 :=
  ⟨run.orderly, fun _ follows allOver => run.eq_getAll follows allOver⟩

/-- Three calls for Kubernetes and one for Terraform. -/
def fourCalls (call : Fin 4) : Domain := if call = 2 then .terraform else .kubernetes

/-- An engine without rules. -/
def idleEngine : Engine := ⟨.kubernetes, ⟨[], [], []⟩, .ofJson .null, Engine.defaultEntrypoint⟩

/-- The second call waits for the first, whose load fails, and then loads itself;
the last one finds the engine while the load for Terraform goes on. -/
def fourCallsTurns (error : BuildError) : List (Turn fourCalls) :=
  [.start 0, .wait 1, .start 2, .finish 0 (.error error), .start 1, .stall 2,
    .finish 1 (.ok idleEngine), .read 3]

theorem exists_run_fourCalls (error : BuildError) :
    ∃ race, Run .empty (fourCallsTurns error) race ∧
      race.phase 0 = .returned (.error error) ∧ race.phase 2 = .loading ∧
        race.phase 3 = .returned (.ok idleEngine) := by
  have opened : Run .empty [] (opening fourCalls .empty) := .opening
  have first := opened.turn (.start 0 (.inl rfl) rfl rfl)
  have second := (first.turn (.wait 1 rfl rfl)).turn
    (.start 2 (.inl rfl) rfl rfl)
  have third := (second.turn (.finish 0 (.error error) rfl)).turn
    (.start 1 (.inr rfl) rfl rfl)
  have fourth := (third.turn (.stall 2 (.inr rfl))).turn
    (.finish 1 (.ok idleEngine) rfl)
  exact ⟨_, fourth.turn (.read 3 (.inl rfl) rfl), rfl, rfl, rfl⟩

/-- Two calls for Kubernetes, of which the second waits for the load of the first. -/
def twoCallsTurns : List (Turn fun _ : Fin 2 => Domain.kubernetes) :=
  [.start 0, .wait 1, .finish 0 (.ok idleEngine), .read 1]

theorem exists_run_twoCalls :
    ∃ race, Run .empty twoCallsTurns race ∧ Follows (fun _ => .ok idleEngine) twoCallsTurns ∧
      IsOver race := by
  have opened : Run .empty [] (opening (fun _ : Fin 2 => Domain.kubernetes) .empty) := .opening
  have first := opened.turn (.start 0 (.inl rfl) rfl rfl)
  have second := (first.turn (.wait 1 rfl rfl)).turn
    (.finish 0 (.ok idleEngine) rfl)
  refine ⟨_, second.turn (.read 1 (.inr rfl) rfl), ?_, ?_⟩
  · intro call outcome ended
    cases List.mem_singleton.mp ended
    rfl
  · exact Fin.forall_fin_two.mpr ⟨⟨_, rfl⟩, ⟨_, rfl⟩⟩

/-- In the race of four calls one load for Kubernetes succeeds and no other
follows, and in the race of two calls there is one load in all. -/
theorem Run.loads_once_calls :
    (∃ race error, Run .empty (fourCallsTurns error) race ∧
      Orderly (fourCallsTurns error) race .kubernetes ∧
        race.phase 0 = .returned (.error error) ∧ race.cache.loads .kubernetes = 2) ∧
      ∃ race, Run .empty twoCallsTurns race ∧ race.cache.loads .kubernetes = 1 := by
  constructor
  · obtain ⟨race, run, failed, -, -⟩ :=
      exists_run_fourCalls (.unreadable "k8s_policy.rego" .notFound)
    have orderly := run.loads_once.1 .kubernetes
    exact ⟨race, _, run, orderly, failed, orderly.one_load.2.trans (by decide)⟩
  · obtain ⟨race, run, follows, allOver⟩ := exists_run_twoCalls
    obtain ⟨-, cacheEq⟩ := run.loads_once.2 _ follows allOver
    exact ⟨race, run, by rw [cacheEq]; decide⟩

end Race

end PolicyScan.EngineCache
