import PolicyScan.Proofs.Rego.Query
import PolicyScan.Rego.Evaluation

/-!
# Modules of one rule

The value of a rule is put below the data and taken from there again
(`path?_graft`), while what the data hold elsewhere stays as it is
(`Module.dataAt_of_unrelated`).  A module whose one rule gives members has a set of them, and
members that are all the same are one (`Module.evaluate_of_finds`).
-/

namespace PolicyScan.Rego

/-! ## Data -/

namespace Value

theorem lookup_insertField (key : String) (v : Value) (fields : List (Value × Value)) :
    lookup (.str key) (insertField (.str key) v fields) = some v := by
  have found : same (.str key) (.str key) = true := same_str_iff.mpr rfl
  induction fields with
  | nil => rw [insertField, lookup, if_pos found]
  | cons field rest ih =>
      rcases field with ⟨k, other⟩
      rw [insertField]
      split
      · rw [lookup, if_pos found]
      · next equal => rw [lookup, if_pos (by rw [same, equal]; rfl)]
      · next greater => rw [lookup, if_neg (by rw [same, greater]; decide), ih]

theorem get?_obj (key : String) (fields : List (Value × Value)) :
    (obj fields).get? (.str key) = lookup (.str key) fields := rfl

/-- A value stands below the objects around it. -/
theorem path?_foldr (v : Value) (keys : List String) :
    (keys.foldr (fun key v => obj [(.str key, v)]) v).path? keys = some v := by
  induction keys with
  | nil => rfl
  | cons key keys ih =>
      have found := lookup_insertField key (keys.foldr (fun key v => obj [(.str key, v)]) v) []
      rw [insertField] at found
      rw [List.foldr_cons, path?, get?_obj, found]
      exact ih

/-- A value that is put where nothing is stands there. -/
theorem path?_graft {fields : List (Value × Value)} {key : String}
    (lacks : lookup (.str key) fields = none) (v : Value) (keys : List String) :
    ∃ document, v.graft (key :: keys) (.obj fields) = .ok document ∧
      document.path? (key :: keys) = some v := by
  refine ⟨.obj (insertField (.str key) (keys.foldr (fun key v => obj [(.str key, v)]) v) fields),
    ?_, ?_⟩
  · rw [graft, lacks]
    rfl
  · rw [path?, get?_obj, lookup_insertField]
    exact path?_foldr v keys

end Value

namespace Module

variable {m : Module}

/-- What no rule lies on the way to or below is what the data hold. -/
theorem dataAt_of_unrelated {path : List String}
    (unrelated : ∀ p ∈ m.paths, p.isPrefixOf path = false ∧ path.isPrefixOf p = false)
    (value : List String → Except Fault (Option Value)) (base : Value) :
    m.dataAt value base path = .ok (base.path? path) := by
  have none : m.paths.eraseDups.filter (fun p => p.isPrefixOf path || path.isPrefixOf p) = [] := by
    refine List.filter_eq_nil_iff.mpr fun p member => ?_
    obtain ⟨notBefore, notBehind⟩ := unrelated p (List.mem_eraseDups.mp member)
    rw [notBefore, notBehind]
    simp
  rw [dataAt, none]
  rfl

theorem isRule_worldWithin (base input : Value) (levels : Nat) :
    (m.worldWithin base input levels).isRule = m.isRule := by
  cases levels <;> rfl

theorem input_worldWithin (base input : Value) (levels : Nat) :
    (m.worldWithin base input levels).input = input := by
  cases levels <;> rfl

theorem data_worldWithin_of_unrelated {path : List String}
    (unrelated : ∀ p ∈ m.paths, p.isPrefixOf path = false ∧ path.isPrefixOf p = false)
    (base input : Value) (levels : Nat) :
    (m.worldWithin base input levels).data path = .ok (base.path? path) := by
  cases levels <;> exact dataAt_of_unrelated unrelated _ base

end Module

/-! ## Rules -/

/-- A rule whose members are what a query finds. -/
def memberRule (path : List String) (name : String) (query : Query) : Rule :=
  ⟨path, .member (.var name), [⟨.const (.bool true), query⟩]⟩

/-- A clause that stands alone is the first one that holds, if any does. -/
theorem firstClause_singleton (w : World) (env : Env) (clause : Clause) :
    firstClause w env [clause] = forEach (solve w clause.query env) (clause.value.eval w none) := by
  rw [firstClause]
  cases forEach (solve w clause.query env) (clause.value.eval w none) with
  | error fault => rfl
  | ok found => cases found <;> rfl

theorem members_memberRule {w : World} {query : Query} {name : String} {v : Value}
    {condition : Prop} (finds : Finds w query [] name v condition) (path : List String) :
    ∃ members, (memberRule path name query).members w = .ok members ∧ (∀ m ∈ members, m = v) ∧
      (members ≠ [] ↔ condition) := by
  obtain ⟨envs, solved, all, nonempty⟩ := finds
  refine ⟨envs.map fun _ => v, ?_, by simp, by rw [← nonempty, ne_eq, List.map_eq_nil_iff]⟩
  have holds : firstClause w [] (memberRule path name query).clauses =
      .ok (envs.map fun env => (.bool true, env)) := by
    rw [memberRule, firstClause_singleton, solved, forEach_ok]
    exact collect_eq_map fun env _ => Expr.yields_const (.bool true)
  have items : forEach (.ok (envs.map fun env => (Value.bool true, env)))
      (fun way => (Expr.var name).eval w none way.2) = .ok (envs.map fun env => (v, env)) := by
    rw [forEach_ok, collect_map]
    exact collect_eq_map fun env member => Expr.yields_var (all env member)
  have gives : (memberRule path name query).members w =
      (forEach (firstClause w [] (memberRule path name query).clauses) fun way =>
        (Expr.var name).eval w none way.2).map fun found => found.map Prod.fst := rfl
  rw [gives, holds, items, Except.map, List.map_map]
  rfl

namespace Module

variable {m : Module} {path : List String} {name : String} {query : Query}

theorem eraseDups_singleton (path : List String) : [path].eraseDups = [path] := by
  rw [List.eraseDups_cons]
  rfl

/-- The rule's value is the set of its members. -/
theorem ruleValue_memberRule (rules : m.rules = [memberRule path name query]) {w : World}
    {members : List Value} (found : (memberRule path name query).members w = .ok members) :
    m.ruleValue w path = .ok (some (.ofMembers members)) := by
  have related : m.rules.filter (fun rule => rule.path = path) = [memberRule path name query] := by
    rw [rules]
    exact List.filter_cons_of_pos (decide_eq_true rfl)
  have values : (memberRule path name query).values w = .ok [] := rfl
  have entries : (memberRule path name query).entries w = .ok [] := rfl
  simp only [ruleValue, related, collect, values, found, entries]
  simp only [bind, Except.bind, List.append_nil]
  rfl

theorem dataAt_memberRule (paths : m.paths = [path])
    {value : List String → Except Fault (Option Value)} {v base document : Value}
    (valueEq : value path = .ok (some v)) (grafted : v.graft path base = .ok document) :
    m.dataAt value base path = .ok (document.path? path) := by
  have related : m.paths.eraseDups.filter (fun p => p.isPrefixOf path || path.isPrefixOf p) =
      [path] := by
    rw [paths, eraseDups_singleton]
    refine List.filter_cons_of_pos ?_
    rw [Bool.or_eq_true, List.isPrefixOf_iff_prefix]
    exact .inl List.prefix_rfl
  simp only [dataAt, related, List.foldlM_cons, List.foldlM_nil, valueEq, bind, Except.bind,
    grafted]
  rfl

/-- The set of what a query finds, if all of it is the same. -/
theorem evaluate_of_finds {key : String} {keys : List String} {fields : List (Value × Value)}
    {input v : Value} {condition : Prop} (rules : m.rules = [memberRule (key :: keys) name query])
    (noDefaults : m.defaults = []) (checked : m.check = .ok ())
    (lacks : Value.lookup (.str key) fields = none) (same : v.cmp v = .eq)
    (finds : Finds (m.worldWithin (.obj fields) input 0) query [] name v condition) :
    ∃ members, m.evaluate (.obj fields) input (pathText (key :: keys)) =
        .ok (some (.set members)) ∧
      (condition → members = [v]) ∧ (¬condition → members = []) := by
  obtain ⟨found, membersEq, all, nonempty⟩ := members_memberRule finds (key :: keys)
  have paths : m.paths = [key :: keys] := by
    rw [Module.paths, rules, noDefaults]
    rfl
  have levels : m.paths.eraseDups.length = 1 := by
    rw [paths, eraseDups_singleton, List.length_singleton]
  have start : m.paths.find? (fun path => pathText path = pathText (key :: keys)) =
      some (key :: keys) := by
    rw [paths]
    exact List.find?_cons_of_pos (decide_eq_true rfl)
  obtain ⟨document, grafted, stands⟩ := Value.path?_graft lacks (.ofMembers found) keys
  have evaluated : m.evaluate (.obj fields) input (pathText (key :: keys)) =
      .ok (some (.ofMembers found)) := by
    rw [evaluate, checked, start, world, levels, ← stands]
    exact dataAt_memberRule paths (ruleValue_memberRule rules membersEq) grafted
  rw [evaluated]
  by_cases holds : condition
  · exact ⟨[v], by rw [Value.ofMembers_eq same (nonempty.mpr holds) all], fun _ => rfl,
      fun fails => absurd holds fails⟩
  · have nothing : found = [] := not_not.mp fun some => holds (nonempty.mp some)
    exact ⟨[], by rw [nothing]; rfl, fun isTrue => absurd isTrue holds, fun _ => rfl⟩

end Module

end PolicyScan.Rego
