import PolicyScan.Rego.Eval

/-!
# Evaluating modules

A module stands over a document of data, below which its rules put their
values.  What the document already holds at the path of a rule stays, though
the rule is evaluated all the same.

All definitions of one value have to agree.  A rule of members has a set in any
case, a rule of entries an object; other rules may be undefined and then fall
back to their default.

While a rule is evaluated it may need others, but never itself: with as many
levels as there are rules, a level that is missing means a recursion.
-/

namespace PolicyScan.Rego

open Value (same)

/-- The one value that all of the given ones are. -/
def agreed (path : List String) : List Value → Except Fault (Option Value)
  | [] => .ok none
  | v :: rest =>
    if rest.all (same v) then .ok (some v) else .error (.conflict (pathText path))

/-- The values of the first clause that has any. -/
def firstClause (w : World) (env : Env) : List Clause → Except Fault (List (Value × Env))
  | [] => .ok []
  | clause :: rest => do
    let found ← forEach (solve w clause.query env) (clause.value.eval w none)
    if found.isEmpty then firstClause w env rest else .ok found

namespace Rule

/-- The values that a rule gives. -/
def values (w : World) (rule : Rule) : Except Fault (List Value) :=
  match rule.head with
  | .value => (firstClause w [] rule.clauses).map fun found => found.map Prod.fst
  | _ => .ok []

/-- The members that a rule gives. -/
def members (w : World) (rule : Rule) : Except Fault (List Value) :=
  match rule.head with
  | .member item =>
    (forEach (firstClause w [] rule.clauses) fun (_, env) => item.eval w none env).map
      fun found => found.map Prod.fst
  | _ => .ok []

/-- The entries that a rule gives. -/
def entries (w : World) (rule : Rule) : Except Fault (List (Value × Value)) :=
  match rule.head with
  | .entry key =>
    forEach (firstClause w [] rule.clauses) fun (v, env) =>
      (key.eval w none env).map fun found => found.map fun (k, _) => (k, v)
  | _ => .ok []

/-- Whether a rule gives members. -/
def givesMembers (rule : Rule) : Bool := rule.head matches .member _

/-- Whether a rule gives entries. -/
def givesEntries (rule : Rule) : Bool := rule.head matches .entry _

/-- Whether a rule is a function. -/
def isFunction (rule : Rule) : Bool := rule.head matches .function _

/-- The values of a function for arguments. -/
def results (w : World) (arguments : List Value) (rule : Rule) : Except Fault (List Value) :=
  match rule.head with
  | .function parameters =>
    if parameters.length = arguments.length then
      let env := Env.declare [] (patternVarsAll parameters)
      (forEach (evalAll w parameters (arguments.map some) env) fun (_, env) =>
        firstClause w env rule.clauses).map fun found => found.map Prod.fst
    else .error (.argumentCount (pathText rule.path))
  | _ => .ok []

end Rule

/-- Put a value at a path below a document, unless there is one. -/
def Value.graft (x : Value) : List String → Value → Except Fault Value
  | [], v => .ok v
  | key :: rest, .obj fields => do
    let child ← match Value.lookup (.str key) fields with
      | some child => x.graft rest child
      | none => .ok (rest.foldr (fun key v => .obj [(.str key, v)]) x)
    .ok (.obj (Value.insertField (.str key) child fields))
  | key :: _, _ => .error (.notAnObject key)

namespace Module

/-- The value of the rules of a path. -/
def ruleValue (m : Module) (w : World) (path : List String) : Except Fault (Option Value) := do
  let rules := m.rules.filter fun rule => rule.path = path
  let values ← collect (Rule.values w) rules
  let members ← collect (Rule.members w) rules
  let entries ← collect (Rule.entries w) rules
  let sets := if rules.any Rule.givesMembers then [Value.ofMembers members] else []
  let objects ← if rules.any Rule.givesEntries then (objectOf [] entries).map ([·]) else .ok []
  match ← agreed path (sets ++ (objects ++ values)) with
  | some v => .ok (some v)
  | none =>
    match m.defaults.find? fun d => d.path = path with
    | some d => (d.value.eval w none []).map fun found => (found.map Prod.fst).head?
    | none => .ok none

/-- The value of the functions of a path. -/
def functionValue (m : Module) (w : World) (path : List String) (arguments : List Value) :
    Except Fault (Option Value) := do
  let rules := m.rules.filter fun rule => rule.path = path
  agreed path (← collect (Rule.results w arguments) rules)

/-- The path of a function of the module. -/
def functionPath? (m : Module) (name : String) : Option (List String) :=
  let path := match name.splitOn "." with
    | "data" :: path => path
    | path => m.package ++ path
  if m.rules.any fun rule => rule.path = path && rule.isFunction then some path else none

/-- What stands at a path below `data`, with the values of all rules that lie
on the way or below. -/
def dataAt (m : Module) (value : List String → Except Fault (Option Value)) (base : Value)
    (path : List String) : Except Fault (Option Value) := do
  let related := m.paths.eraseDups.filter fun p => p.isPrefixOf path || path.isPrefixOf p
  let document ← related.foldlM (fun (document : Value) p => do
    match ← value p with
    | some v => v.graft p document
    | none => .ok document) base
  .ok (document.path? path)

/-- The world of a module, given the values of its rules and functions. -/
def worldOver (m : Module) (base input : Value)
    (value : List String → Except Fault (Option Value))
    (result : List String → List Value → Except Fault (Option Value)) : World where
  input := input
  package := m.package
  isRule := m.isRule
  data := m.dataAt value base
  function := fun name =>
    match m.functionPath? name, Builtin.ofName? name with
    | some path, _ => .ok (result path)
    | none, some builtin => .ok fun arguments => (builtin.apply arguments).map some
    | none, none => .error (.unknownFunction name)

/-- The world of a module in which rules need each other at most the given
number of levels deep. -/
def worldWithin (m : Module) (base input : Value) : Nat → World
  | 0 =>
    m.worldOver base input (fun path => .error (.recursion (pathText path)))
      (fun path _ => .error (.recursion (pathText path)))
  | levels + 1 =>
    let w := m.worldWithin base input levels
    m.worldOver base input (m.ruleValue w) (m.functionValue w)

/-- The world of a module. -/
def world (m : Module) (base input : Value) : World :=
  m.worldWithin base input m.paths.eraseDups.length

/-- The value of a rule; none if it is undefined. -/
def evaluate (m : Module) (base input : Value) (entrypoint : String) :
    Except Fault (Option Value) := do
  match m.check with
  | .error name => throw (.unsafeVariable name)
  | .ok () => pure ()
  match m.paths.find? fun path => pathText path = entrypoint with
  | some path => (m.world base input).data path
  | none => throw (.notARule entrypoint)

end Module
end PolicyScan.Rego
