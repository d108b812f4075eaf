import PolicyScan.Proofs.Rego.Value
import PolicyScan.Rego.Eval
import PolicyScan.Rego.Module.Reader

/-!
# What queries find

Most expressions have one value in an environment or none, and leave the environment as it
is (`Expr.Yields`): names that have a value, what stands below them at fixed keys, and
objects of such expressions.  A literal over such expressions holds in one environment, in
none, or in one for each member of a collection, and a query is answered by going through
its literals one by one (`solve_cons`).
-/

namespace PolicyScan.Rego

section Ways

variable {α β γ : Type}

theorem forEach_ok (l : List α) (f : α → Except Fault (List β)) :
    forEach (.ok l) f = collect f l := rfl

theorem collect_map (f : α → γ) (g : γ → Except Fault (List β)) (l : List α) :
    collect g (l.map f) = collect (fun a => g (f a)) l := by
  induction l with
  | nil => rfl
  | cons a rest ih => rw [List.map_cons, collect, collect, ih]

theorem collect_eq_flatMap {f : α → Except Fault (List β)} {found : α → List β} {l : List α}
    (each : ∀ a ∈ l, f a = .ok (found a)) : collect f l = .ok (l.flatMap found) := by
  induction l with
  | nil => rfl
  | cons a rest ih =>
      obtain ⟨first, others⟩ := List.forall_mem_cons.mp each
      rw [collect, first, ih others, List.flatMap_cons]
      rfl

theorem collect_eq_map {f : α → Except Fault (List β)} {found : α → β} {l : List α}
    (each : ∀ a ∈ l, f a = .ok [found a]) : collect f l = .ok (l.map found) := by
  rw [collect_eq_flatMap each, List.map_eq_flatMap]

theorem forEach_singleton (a : α) (f : α → Except Fault (List β)) :
    forEach (.ok [a]) f = f a := by
  simp only [forEach, Except.bind, collect, bind]
  cases f a <;> simp

/-- Without a goal all ways count. -/
theorem map_agreeing_none (found : Except Fault (List (Value × Env))) :
    found.map (agreeing none) = found := by
  cases found with
  | error _ => rfl
  | ok ways => exact congrArg Except.ok (List.filter_eq_self.mpr fun _ _ => rfl)

end Ways

/-! ## Evaluation by cases -/

section Cases

variable {w : World} {goal : Option Value} {env : Env}

theorem Expr.eval_const (v : Value) :
    (Expr.const v).eval w goal env = .ok (agreeing goal [(v, env)]) := rfl

theorem Expr.eval_var (name : String) :
    (Expr.var name).eval w goal env = w.nameWays name goal env := rfl

theorem Expr.eval_obj (fields : List (Expr × Expr)) :
    (Expr.obj fields).eval w none env =
      (evalFields w fields none env).map fun found =>
        found.map fun (fields, env) => (.ofFields fields, env) := rfl

theorem Expr.eval_index_const (base : Expr) (key : Value) :
    (Expr.index base (.const key)).eval w goal env =
      match (Expr.index base (.const key)).path? w env with
      | some path => (w.dataWays path env).map (agreeing goal)
      | none =>
        (forEach (base.eval w none env) fun (v, env) =>
          forEach ((Expr.const key).eval w none env) fun (k, env) => entryAt v k env).map
            (agreeing goal) := rfl

theorem Expr.eval_index_var (base : Expr) (name : String) :
    (Expr.index base (.var name)).eval w goal env =
      if w.isOpen env name then
        (forEach (base.eval w none env) fun (v, env) => eachEntry name v env).map (agreeing goal)
      else
        (forEach (base.eval w none env) fun (v, env) =>
          forEach (w.nameWays name none env) fun (key, env) => entryAt v key env).map
            (agreeing goal) := rfl

theorem Expr.eval_equal (left right : Expr) :
    (Expr.binary .equal left right).eval w goal env =
      (forEach (left.eval w none env) fun (a, env) =>
        forEach (right.eval w none env) fun (b, env) =>
          .ok [(.bool (Value.same a b), env)]).map (agreeing goal) := rfl

theorem evalFields_nil : evalFields w [] none env = .ok [([], env)] := rfl

theorem evalFields_cons (key e : Expr) (rest : List (Expr × Expr)) :
    evalFields w ((key, e) :: rest) none env =
      forEach (key.eval w none env) fun (k, env) =>
        forEach (e.eval w none env) fun (v, env) =>
          (evalFields w rest none env).map fun found =>
            found.map fun (fields, env) => ((k, v) :: fields, env) := rfl

theorem Literal.solve_test (e : Expr) :
    (Literal.test e).solve w env =
      (e.eval w none env).map fun found =>
        (found.filter fun (v, _) => !Value.same v (.bool false)).map Prod.snd := rfl

theorem Literal.solve_assign (pattern e : Expr) :
    (Literal.assign pattern e).solve w env =
      forEach (e.eval w none env) fun (v, env) =>
        environments (pattern.eval w (some v) (env.declare pattern.patternVars)) := rfl

theorem Literal.solve_member (pattern collection : Expr) :
    (Literal.member none pattern collection).solve w env =
      forEach (collection.eval w none env) fun (v, env) =>
        (entriesOf v).bind <| collect fun (_, x) =>
          environments (pattern.eval w (some x) (env.declare pattern.patternVars)) := rfl

theorem solve_nil : solve w [] env = .ok [env] := rfl

theorem solve_cons (literal : Literal) (rest : Query) :
    solve w (literal :: rest) env = forEach (literal.solve w env) (solve w rest) := rfl

end Cases

/-! ## Expressions -/

/-- The expression has the value in the environment, or none, and leaves the environment as
it is. -/
def Expr.Yields (w : World) (env : Env) (e : Expr) (value : Option Value) : Prop :=
  e.eval w none env = .ok (value.toList.map (·, env))

section Expressions

variable {w : World} {env : Env} {e : Expr} {value : Option Value}

/-- What follows from the value of an expression. -/
theorem Expr.Yields.forEach {β : Type} (yields : e.Yields w env value)
    (f : Value × Env → Except Fault (List β)) :
    forEach (e.eval w none env) f = value.elim (.ok []) fun v => f (v, env) := by
  rw [yields]
  cases value with
  | none => rfl
  | some v => exact forEach_singleton (v, env) f

theorem Expr.yields_const (v : Value) : (Expr.const v).Yields w env (some v) := by
  rw [Yields, eval_const]
  rfl

theorem Expr.yields_var {name : String} {v : Value} (bound : env.lookup name = some (some v)) :
    (Expr.var name).Yields w env (some v) := by
  rw [Yields, eval_var, World.nameWays, World.isOpen, bound]
  rfl

theorem World.pathOf?_input (unbound : env.lookup "input" = none)
    (noRule : w.isRule "input" = false) : w.pathOf? env "input" = none := by
  rw [pathOf?, unbound, noRule]
  rfl

theorem Expr.yields_input (unbound : env.lookup "input" = none)
    (noRule : w.isRule "input" = false) : (Expr.var "input").Yields w env (some w.input) := by
  rw [Yields, eval_var, World.nameWays, World.isOpen, unbound, World.pathOf?_input unbound noRule]
  rfl

theorem Expr.path?_index {base : Expr} (noPath : base.path? w env = none) (key : String) :
    (Expr.index base (.const (.str key))).path? w env = none := by
  rw [path?, noPath, Option.map_none]

/-- At a fixed key stands what the value has there. -/
theorem Expr.Yields.index (yields : e.Yields w env value) (noPath : e.path? w env = none)
    (key : String) :
    (Expr.index e (.const (.str key))).Yields w env (value.bind (·.get? (.str key))) := by
  rw [Yields, eval_index_const, path?_index noPath key]
  simp only [map_agreeing_none, yields.forEach, (yields_const (.str key)).forEach,
    Option.elim_some]
  cases value <;> rfl

/-- At a row of fixed keys stands what the value has there. -/
theorem Expr.Yields.below (yields : e.Yields w env value) (noPath : e.path? w env = none)
    (keys : List String) :
    (keys.foldl (fun base key => Expr.index base (.const (.str key))) e).Yields w env
      (value.bind (·.path? keys)) := by
  induction keys generalizing e value with
  | nil =>
      cases value with
      | none => exact yields
      | some v => exact yields
  | cons key keys ih =>
      have later := ih (yields.index noPath key) (path?_index noPath key)
      rw [Option.bind_assoc] at later
      exact later

/-- At a path of the input stands what the input has there. -/
theorem Expr.yields_input_below (unbound : env.lookup "input" = none)
    (noRule : w.isRule "input" = false) (keys : List String) :
    (pathExpr ("input" :: keys)).Yields w env (w.input.path? keys) :=
  (yields_input unbound noRule).below (World.pathOf?_input unbound noRule) keys

/-- At a path of a variable stands what its value has there. -/
theorem Expr.yields_var_below {name : String} {v : Value}
    (bound : env.lookup name = some (some v)) (keys : List String) :
    (pathExpr (name :: keys)).Yields w env (v.path? keys) := by
  have noPath : (Expr.var name).path? w env = none := by
    rw [path?, World.pathOf?, bound]
    rfl
  exact (yields_var bound).below noPath keys

theorem Expr.path?_foldl {path : List String} (isPath : e.path? w env = some path)
    (keys : List String) :
    (keys.foldl (fun base key => Expr.index base (.const (.str key))) e).path? w env =
      some (path ++ keys) := by
  induction keys generalizing e path with
  | nil => rw [List.append_nil, List.foldl_nil, isPath]
  | cons key keys ih =>
      have next : (Expr.index e (.const (.str key))).path? w env = some (path ++ [key]) := by
        rw [path?, isPath, Option.map_some]
      rw [List.foldl_cons, ih next, List.append_assoc, List.singleton_append]

/-- At a path of the data stands what the data have there. -/
theorem Expr.yields_data (unbound : env.lookup "data" = none) (keys : List String) (key : String)
    (stands : w.data (keys ++ [key]) = .ok value) :
    (pathExpr ("data" :: (keys ++ [key]))).Yields w env value := by
  have root : (Expr.var "data").path? w env = some [] := by
    rw [path?, World.pathOf?, unbound]
    rfl
  have isPath := path?_foldl root (keys ++ [key])
  rw [pathExpr, Yields]
  rw [List.foldl_append, List.foldl_cons, List.foldl_nil] at isPath ⊢
  rw [eval_index_const, isPath]
  simp only [List.nil_append, World.dataWays, stands, map_agreeing_none]
  rfl

/-- An object of values is the value of an object of expressions. -/
theorem Expr.yields_obj {fields : List (Expr × Expr)} {values : List (Value × Value)}
    (all : List.Forall₂
      (fun field entry => field.1 = .const entry.1 ∧ field.2.Yields w env (some entry.2))
      fields values) :
    (Expr.obj fields).Yields w env (some (.ofFields values)) := by
  have found : evalFields w fields none env = .ok [(values, env)] := by
    induction all with
    | nil => exact evalFields_nil
    | @cons field entry rest others first _ ih =>
        rcases field with ⟨_, e⟩
        obtain ⟨rfl, yields⟩ := first
        rw [evalFields_cons, (yields_const entry.1).forEach, Option.elim_some]
        dsimp only
        rw [yields.forEach, Option.elim_some, ih]
        rfl
  rw [Yields, eval_obj, found]
  rfl

end Expressions

/-! ## Queries -/

/-- The query holds in some environment just if the condition is true, and in all of them
the name has the value. -/
def Finds (w : World) (query : Query) (env : Env) (name : String) (v : Value)
    (condition : Prop) : Prop :=
  ∃ envs, solve w query env = .ok envs ∧ (∀ env ∈ envs, env.lookup name = some (some v)) ∧
    (envs ≠ [] ↔ condition)

section Queries

variable {w : World} {env : Env} {e : Expr} {value : Option Value} {rest : Query}
  {name goal : String} {v : Value} {condition : Prop}

theorem Finds.congr {other : Prop} (finds : Finds w rest env name v condition)
    (same : condition ↔ other) : Finds w rest env name v other := by
  rwa [← propext same]

/-- A variable that has just been declared takes the value that it meets. -/
theorem environments_declared :
    environments ((Expr.var name).eval w (some v) (env.declare (Expr.var name).patternVars)) =
      .ok [(env.declare [name]).bind name v] := by
  have isOpen : w.isOpen (env.declare [name]) name = true := by
    rw [World.isOpen, Env.declare, List.map_singleton, List.singleton_append, List.lookup_cons_self]
    rfl
  rw [Expr.patternVars, Expr.eval_var, World.nameWays, if_pos isOpen]
  rfl

/-- The last condition gives the name its value. -/
theorem Finds.assign (yields : e.Yields w env (some v)) :
    Finds w [.assign (.var name) e] env name v True := by
  refine ⟨[(env.declare [name]).bind name v], ?_, ?_, by simp⟩
  · rw [solve_cons, Literal.solve_assign, yields.forEach, Option.elim_some]
    simp only [environments_declared]
    rw [forEach_singleton, solve_nil]
  · intro env' member
    rw [List.mem_singleton.mp member, Env.bind, List.lookup_cons_self]

/-- A test holds if the expression has this value. -/
theorem Finds.test {c : Value} (exact : ∀ u, Value.same u c ↔ u = c)
    (yields : e.Yields w env value) (others : value = some c → Finds w rest env name v condition) :
    Finds w (.test (.binary .equal e (.const c)) :: rest) env name v
      (value = some c ∧ condition) := by
  have solved (b : Bool) (passes : value.any (Value.same · c) = b) :
      (Literal.test (.binary .equal e (.const c))).solve w env = .ok (if b then [env] else []) := by
    rw [Literal.solve_test, Expr.eval_equal, yields.forEach]
    cases value with
    | none =>
        subst passes
        rfl
    | some u =>
        simp only [Option.elim_some, (Expr.yields_const c).forEach,
          map_agreeing_none, show Value.same u c = b from passes]
        cases b <;> rfl
  by_cases holds : value = some c
  · obtain ⟨envs, found, all, nonempty⟩ := others holds
    have passes : value.any (Value.same · c) = true := by
      rw [holds]
      exact (exact c).mpr rfl
    refine ⟨envs, ?_, all, nonempty.trans (and_iff_right holds).symm⟩
    rw [solve_cons, solved true passes, if_pos rfl, forEach_singleton, found]
  · have fails : value.any (Value.same · c) = false := by
      cases value with
      | none => rfl
      | some u =>
          rw [Option.any_some, Bool.eq_false_iff]
          exact fun isSame => holds (congrArg some ((exact u).mp isSame))
    refine ⟨[], ?_, by simp, by simp [holds]⟩
    rw [solve_cons, solved false fails]
    rfl

/-- A query for each of several environments. -/
theorem Finds.each {α : Type} {literal : Literal} {l : List α} {f : α → Env}
    {conditions : α → Prop} (solved : literal.solve w env = .ok (l.map f))
    (others : ∀ a ∈ l, Finds w rest (f a) name v (conditions a)) :
    Finds w (literal :: rest) env name v (∃ a ∈ l, conditions a) := by
  choose! envs found all nonempty using others
  refine ⟨l.flatMap envs, ?_, ?_, ?_⟩
  · rw [solve_cons, solved, forEach_ok, collect_map]
    exact collect_eq_flatMap found
  · intro env' member
    obtain ⟨a, isMember, inside⟩ := List.mem_flatMap.mp member
    exact all a isMember env' inside
  · rw [ne_eq, List.flatMap_eq_nil_iff]
    push Not
    exact exists_congr fun a => and_congr_right (nonempty a)

section Members

variable {entries : List (Value × Value)} (yields : e.Yields w env value)
  (stands : value.elim (some []) Value.entries? = some entries)

include yields stands

/-- A variable is each member of a collection in turn; without a collection there is none. -/
theorem Literal.solve_member_entries :
    (Literal.member none (.var name) e).solve w env =
      .ok (entries.map fun entry => (env.declare [name]).bind name entry.2) := by
  rw [Literal.solve_member, yields.forEach]
  cases value with
  | none =>
      cases stands
      rfl
  | some u =>
      rw [Option.elim_some] at stands
      simp only [Option.elim_some, entriesOf, stands, Except.bind]
      exact collect_eq_map fun _ _ => environments_declared

/-- So it is if it is given what stands at a key of any name. -/
theorem Literal.solve_assign_entries {key : String} (isOpen : w.isOpen env key) :
    (Literal.assign (.var name) (.index e (.var key))).solve w env =
      .ok (entries.map fun entry =>
        ((env.bind key entry.1).declare [name]).bind name entry.2) := by
  rw [Literal.solve_assign, Expr.eval_index_var, if_pos isOpen, map_agreeing_none, yields.forEach]
  cases value with
  | none =>
      cases stands
      rfl
  | some u =>
      rw [Option.elim_some] at stands
      simp only [Option.elim_some, eachEntry, entriesOf, stands, Except.map]
      rw [forEach_ok, collect_map]
      exact collect_eq_map fun _ _ => environments_declared

end Members

end Queries

end PolicyScan.Rego
