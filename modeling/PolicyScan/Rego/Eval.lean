import PolicyScan.Rego.Builtin
import PolicyScan.Rego.Order

/-!
# Evaluating queries

A query is answered by all environments in which its literals hold, and an
expression by the values it has in them.  Mostly there is one; there is none if
a part of the expression is undefined, and several if a variable stands for each
key of a collection in turn.

An expression can be given a goal, a value that it has to have.  A variable
without a value takes it then, and so arrays and objects of variables take
values apart.

What rules and functions stand for is given from outside, as a `World`.
-/

namespace PolicyScan.Rego

open Value (same)

/-- Variables and their values, the last one declared first.  One that is
declared may have no value yet. -/
abbrev Env := List (String × Option Value)

namespace Env

/-- Give a variable a value. -/
def bind (env : Env) (name : String) (v : Value) : Env := (name, some v) :: env

/-- Declare variables. -/
def declare (env : Env) (names : List String) : Env := names.map (·, none) ++ env

end Env

/-- What stands outside of a query. -/
structure World where
  input : Value
  /-- The names that lead to the package. -/
  package : List String
  /-- Whether a name is one of the package's rules. -/
  isRule : String → Bool
  /-- What stands at a path below `data`; none if it is undefined. -/
  data : List String → Except Fault (Option Value)
  /-- The function of a name, whose value is none if it is undefined. -/
  function : String → Except Fault (List Value → Except Fault (Option Value))

/-- Collect what follows from each of several ways. -/
def collect {α β : Type} (f : α → Except Fault (List β)) : List α → Except Fault (List β)
  | [] => .ok []
  | a :: rest => do
    let found ← f a
    let others ← collect f rest
    .ok (found ++ others)

/-- Collect what follows from each of the ways that were found. -/
def forEach {α β : Type} (found : Except Fault (List α)) (f : α → Except Fault (List β)) :
    Except Fault (List β) :=
  found.bind (collect f)

/-- The environments of the ways that were found. -/
def environments {α : Type} (found : Except Fault (List (α × Env))) : Except Fault (List Env) :=
  found.map fun found => found.map Prod.snd

/-- The values that are the goal, if there is one. -/
def agreeing (goal : Option Value) (found : List (Value × Env)) : List (Value × Env) :=
  found.filter fun (v, _) => goal.all (same v)

namespace World

/-- The path below `data` that a name stands for, if no variable has it. -/
def pathOf? (w : World) (env : Env) (name : String) : Option (List String) :=
  if (env.lookup name).isSome then none
  else if name = "data" then some []
  else if w.isRule name then some (w.package ++ [name])
  else none

/-- Whether a name is a variable that has no value yet. -/
def isOpen (w : World) (env : Env) (name : String) : Bool :=
  match env.lookup name with
  | some v => v.isNone
  | none => name ≠ "input" && (w.pathOf? env name).isNone

/-- The value of what stands at a path. -/
def dataWays (w : World) (path : List String) (env : Env) : Except Fault (List (Value × Env)) :=
  (w.data path).map fun v => v.toList.map (·, env)

/-- The value of a name; a variable without one takes the goal. -/
def nameWays (w : World) (name : String) (goal : Option Value) (env : Env) :
    Except Fault (List (Value × Env)) :=
  if w.isOpen env name then
    match goal with
    | some v => .ok [(v, env.bind name v)]
    | none => .error (.unsafeVariable name)
  else
    match env.lookup name, w.pathOf? env name with
    | some v, _ => .ok (agreeing goal (v.toList.map (·, env)))
    | none, some path => (w.dataWays path env).map (agreeing goal)
    | none, none => .ok (agreeing goal [(w.input, env)])

end World

/-- The path below `data` that an expression follows by fixed names. -/
def Expr.path? (w : World) (env : Env) : Expr → Option (List String)
  | .var name => w.pathOf? env name
  | .index base (.const (.str key)) => (base.path? w env).map (· ++ [key])
  | _ => none

/-- The keys and values of a collection. -/
def entriesOf (v : Value) : Except Fault (List (Value × Value)) :=
  match v.entries? with
  | some entries => .ok entries
  | none => .error .notACollection

/-- The entries of a collection, with a variable for the key. -/
def eachEntry (name : String) (v : Value) (env : Env) : Except Fault (List (Value × Env)) :=
  (entriesOf v).map fun entries => entries.map fun (key, x) => (x, env.bind name key)

/-- The entry of a collection at a key. -/
def entryAt (v key : Value) (env : Env) : Except Fault (List (Value × Env)) :=
  .ok ((v.get? key).toList.map (·, env))

/-- The object of the given fields; a key has only one value. -/
def objectOf : List (Value × Value) → List (Value × Value) → Except Fault Value
  | acc, [] => .ok (.obj acc)
  | acc, (key, v) :: rest =>
    match Value.lookup key acc with
    | some u => if same u v then objectOf acc rest else .error .duplicateKey
    | none => objectOf (Value.insertField key v acc) rest

/-- Whether a query holds for all entries, up to the first for which it does
not. -/
def holdsForAll (holds : Value × Value → Except Fault Bool) :
    List (Value × Value) → Except Fault Bool
  | [] => .ok true
  | entry :: rest => do if ← holds entry then holdsForAll holds rest else .ok false

mutual

/-- The values of an expression, or the ways in which it is the goal. -/
def Expr.eval (w : World) : Expr → Option Value → Env → Except Fault (List (Value × Env))
  | .const v, goal, env => .ok (agreeing goal [(v, env)])
  | .var name, goal, env => w.nameWays name goal env
  | .arr items, none, env =>
    (evalAll w items [] env).map fun found => found.map fun (vs, env) => (.arr vs, env)
  | .arr items, some (.arr goals), env =>
    if goals.length = items.length then
      (evalAll w items (goals.map some) env).map fun found =>
        found.map fun (vs, env) => (.arr vs, env)
    else .ok []
  | .arr _, some _, _ => .ok []
  | .set members, goal, env =>
    (evalAll w members [] env).map fun found =>
      agreeing goal (found.map fun (vs, env) => (.ofMembers vs, env))
  | .obj fields, none, env =>
    (evalFields w fields none env).map fun found =>
      found.map fun (fields, env) => (.ofFields fields, env)
  | .obj fields, some (.obj goals), env =>
    if goals.length = fields.length then
      (evalFields w fields (some goals) env).map fun found =>
        found.map fun (fields, env) => (.ofFields fields, env)
    else .ok []
  | .obj _, some _, _ => .ok []
  | .arrOf item query, goal, env => do
    let found ← forEach (solve w query env) fun env => item.eval w none env
    .ok (agreeing goal [(.arr (found.map Prod.fst), env)])
  | .setOf item query, goal, env => do
    let found ← forEach (solve w query env) fun env => item.eval w none env
    .ok (agreeing goal [(.ofMembers (found.map Prod.fst), env)])
  | .objOf key value query, goal, env => do
    let found ← forEach (solve w query env) fun env =>
      forEach (key.eval w none env) fun (k, env) =>
        (value.eval w none env).map fun found => found.map fun (v, _) => (k, v)
    .ok (agreeing goal [(← objectOf [] found, env)])
  | .index base (.var name), goal, env =>
    if w.isOpen env name then
      (forEach (base.eval w none env) fun (v, env) => eachEntry name v env).map (agreeing goal)
    else
      (forEach (base.eval w none env) fun (v, env) =>
        forEach (w.nameWays name none env) fun (key, env) => entryAt v key env).map
          (agreeing goal)
  | .index base key, goal, env =>
    match Expr.path? w env (.index base key) with
    | some path => (w.dataWays path env).map (agreeing goal)
    | none =>
      (forEach (base.eval w none env) fun (v, env) =>
        forEach (key.eval w none env) fun (k, env) => entryAt v k env).map (agreeing goal)
  | .call name arguments, goal, env => do
    let function ← w.function name
    let found ← forEach (evalAll w arguments [] env) fun (vs, env) =>
      (function vs).map fun v => v.toList.map (·, env)
    .ok (agreeing goal found)
  | .binary op left right, goal, env =>
    (forEach (left.eval w none env) fun (a, env) =>
      forEach (right.eval w none env) fun (b, env) =>
        (op.apply a b).map fun v => [(v, env)]).map (agreeing goal)
  | .negate operand, goal, env =>
    (forEach (operand.eval w none env) fun (a, env) =>
      (negateValue a).map fun v => [(v, env)]).map (agreeing goal)
  | .holds collection item, goal, env =>
    (forEach (item.eval w none env) fun (x, env) =>
      (collection.eval w none env).map fun found =>
        found.map fun (v, env) => (.bool (v.holds x), env)).map (agreeing goal)
  | .holdsAt collection key item, goal, env =>
    (forEach (key.eval w none env) fun (k, env) =>
      forEach (item.eval w none env) fun (x, env) =>
        (collection.eval w none env).map fun found =>
          found.map fun (v, env) => (.bool (v.holdsAt k x), env)).map (agreeing goal)

/-- The values of expressions, one after the other, each with its goal. -/
def evalAll (w : World) : List Expr → List (Option Value) → Env → Except Fault (List (List Value × Env))
  | [], _, env => .ok [([], env)]
  | e :: rest, goals, env =>
    forEach (e.eval w goals.head?.join env) fun (v, env) =>
      (evalAll w rest goals.tail env).map fun found => found.map fun (vs, env) => (v :: vs, env)

/-- The keys and values of fields; goals are the fields they have to be. -/
def evalFields (w : World) :
    List (Expr × Expr) → Option (List (Value × Value)) → Env →
      Except Fault (List (List (Value × Value) × Env))
  | [], _, env => .ok [([], env)]
  | (key, e) :: rest, goals, env =>
    forEach (key.eval w none env) fun (k, env) =>
      let goal := goals.bind (Value.lookup k)
      if goals.isSome && goal.isNone then .ok []
      else
        forEach (e.eval w goal env) fun (v, env) =>
          (evalFields w rest goals env).map fun found =>
            found.map fun (fields, env) => ((k, v) :: fields, env)

/-- The environments in which a literal holds. -/
def Literal.solve (w : World) : Literal → Env → Except Fault (List Env)
  | .test e, env =>
    (e.eval w none env).map fun found =>
      (found.filter fun (v, _) => !same v (.bool false)).map Prod.snd
  | .not condition, env =>
    (condition.solve w env).map fun found => if found.isEmpty then [env] else []
  | .assign pattern e, env =>
    forEach (e.eval w none env) fun (v, env) =>
      environments (pattern.eval w (some v) (env.declare pattern.patternVars))
  | .unify left right, env =>
    if left.patternVars.any (w.isOpen env) then
      forEach (right.eval w none env) fun (v, env) =>
        environments (left.eval w (some v) env)
    else
      forEach (left.eval w none env) fun (v, env) =>
        environments (right.eval w (some v) env)
  | .declare names, env => .ok [env.declare names]
  | .member none pattern collection, env =>
    forEach (collection.eval w none env) fun (v, env) => do
      (← entriesOf v) |> collect fun (_, x) =>
        environments (pattern.eval w (some x) (env.declare pattern.patternVars))
  | .member (some key) pattern collection, env =>
    forEach (collection.eval w none env) fun (v, env) => do
      let env := env.declare (key.patternVars ++ pattern.patternVars)
      (← entriesOf v) |> collect fun (k, x) =>
        forEach (key.eval w (some k) env) fun (_, env) =>
          environments (pattern.eval w (some x) env)
  | .every key name collection query, env =>
    forEach (collection.eval w none env) fun (v, env) => do
      let holds ← (v.entries?.getD []) |> holdsForAll fun (k, x) => do
        let env := Env.bind (key.toList.map (·, some k) ++ env) name x
        .ok (!(← solve w query env).isEmpty)
      .ok (if holds then [env] else [])

/-- The environments in which the literals of a query hold. -/
def solve (w : World) : List Literal → Env → Except Fault (List Env)
  | [], env => .ok [env]
  | literal :: rest, env => forEach (literal.solve w env) fun env => solve w rest env

end

end PolicyScan.Rego
