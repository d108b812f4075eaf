import PolicyScan.Rego.Term

/-!
# The order of conditions

The literals of a query are written in any order.  They are evaluated in an
order in which each literal comes after those that give its variables their
values: the first one written that is ready comes first.  A variable that has
no value where it is needed makes its module unsafe.
-/

namespace PolicyScan.Rego

/-- The names of the second list that are not in the first. -/
def without (names uses : List String) : List String := uses.filter fun name => name ∉ names

mutual

/-- The variables that take part of a value when a pattern meets it. -/
def Expr.patternVars : Expr → List String
  | .var name => [name]
  | .arr items => patternVarsAll items
  | .obj fields => patternVarsFields fields
  | _ => []

/-- The variables of patterns. -/
def patternVarsAll : List Expr → List String
  | [] => []
  | item :: rest => item.patternVars ++ patternVarsAll rest

/-- The variables of the values of fields. -/
def patternVarsFields : List (Expr × Expr) → List String
  | [] => []
  | (_, value) :: rest => value.patternVars ++ patternVarsFields rest

end

mutual

/-- The variables that stand alone as a key and so take each key in turn. -/
def Expr.offers : Expr → List String
  | .arr items => offersAll items
  | .set members => offersAll members
  | .obj fields => offersFields fields
  | .index base (.var name) => base.offers ++ [name]
  | .index base key => base.offers ++ key.offers
  | .call _ arguments => offersAll arguments
  | .binary _ left right => left.offers ++ right.offers
  | .negate operand => operand.offers
  | .holds collection item => collection.offers ++ item.offers
  | .holdsAt collection key item => collection.offers ++ (key.offers ++ item.offers)
  | _ => []

/-- The offers of expressions. -/
def offersAll : List Expr → List String
  | [] => []
  | item :: rest => item.offers ++ offersAll rest

/-- The offers of fields. -/
def offersFields : List (Expr × Expr) → List String
  | [] => []
  | (key, value) :: rest => key.offers ++ (value.offers ++ offersFields rest)

end

/-- The variables that have a value after a literal. -/
def Literal.binds : Literal → List String
  | .test e => e.offers
  | .not _ => []
  | .assign pattern e => pattern.patternVars ++ e.offers
  | .unify left right =>
    (left.patternVars ++ right.patternVars) ++ (left.offers ++ right.offers)
  | .declare _ => []
  | .member key pattern collection =>
    (key.toList.flatMap Expr.patternVars ++ pattern.patternVars) ++ collection.offers
  | .every _ _ collection _ => collection.offers

/-- The variables that have a value after a query. -/
def queryBinds (query : Query) : List String := query.flatMap Literal.binds

mutual

/-- The variables that must have a value before an expression is evaluated. -/
def Expr.uses : Expr → List String
  | .const _ => []
  | .var name => [name]
  | .arr items => usesAll items
  | .set members => usesAll members
  | .obj fields => usesFields fields
  | .arrOf item query => without (queryBinds query ++ item.offers) (item.uses ++ queryUses query)
  | .setOf item query => without (queryBinds query ++ item.offers) (item.uses ++ queryUses query)
  | .objOf key value query =>
    without (queryBinds query ++ (key.offers ++ value.offers))
      (key.uses ++ (value.uses ++ queryUses query))
  | .index base (.var _) => base.uses
  | .index base key => base.uses ++ key.uses
  | .call _ arguments => usesAll arguments
  | .binary _ left right => left.uses ++ right.uses
  | .negate operand => operand.uses
  | .holds collection item => collection.uses ++ item.uses
  | .holdsAt collection key item => collection.uses ++ (key.uses ++ item.uses)

/-- The variables that expressions use. -/
def usesAll : List Expr → List String
  | [] => []
  | item :: rest => item.uses ++ usesAll rest

/-- The variables that fields use. -/
def usesFields : List (Expr × Expr) → List String
  | [] => []
  | (key, value) :: rest => key.uses ++ (value.uses ++ usesFields rest)

/-- The variables that must have a value before a literal is evaluated. -/
def Literal.uses : Literal → List String
  | .test e => e.uses
  | .not condition => condition.uses
  | .assign pattern e => without pattern.patternVars pattern.uses ++ e.uses
  | .unify left right =>
    without left.patternVars left.uses ++ without right.patternVars right.uses
  | .declare _ => []
  | .member _ _ collection => collection.uses
  | .every key name collection query =>
    collection.uses ++ without (key.toList ++ (name :: queryBinds query)) (queryUses query)

/-- The variables that must have a value before a query is evaluated. -/
def queryUses : List Literal → List String
  | [] => []
  | literal :: rest => literal.uses ++ queryUses rest

end

/-- Whether a literal can be evaluated while the given variables wait for their
values. -/
def Literal.ready (waiting : List String) (literal : Literal) : Bool :=
  let free (names : List String) : Bool := names.all fun name => name ∉ waiting
  match literal with
  | .unify left right =>
    free (Literal.uses (.unify left right)) && (free left.patternVars || free right.patternVars)
  | .not condition => free (condition.uses ++ condition.binds)
  | literal => free literal.uses

/-- Take the first ready literal out of a query; `before` are the ones passed,
the last one first. -/
def takeReady (bound : List String) : List Literal → Query → Option (Literal × Query)
  | _, [] => none
  | before, literal :: rest =>
    let others := before.reverse ++ rest
    if literal.ready (without bound (queryBinds others)) then some (literal, others)
    else takeReady bound (literal :: before) rest

/-- Put the literals of a query into order, at most `fuel` of them. -/
def arrangeWithin : Nat → List String → Query → Query
  | 0, _, query => query
  | fuel + 1, bound, query =>
    match takeReady bound [] query with
    | some (literal, others) =>
      literal :: arrangeWithin fuel (bound ++ literal.binds) others
    | none => query

/-- The literals of a query in the order of evaluation. -/
def arrange (query : Query) : Query := arrangeWithin query.length [] query

/-! ## Safety -/

/-- The first of the names that has no value. -/
def missing? (known : String → Bool) (bound names : List String) : Option String :=
  names.find? fun name => !known name && name ∉ bound

/-- The variables that have a value after a query in order, or one that lacks
it where it is needed. -/
def checkQuery (known : String → Bool) : List String → Query → Except String (List String)
  | bound, [] => .ok bound
  | bound, literal :: rest =>
    let needed := match literal with
      | .unify left right =>
        let left := left.patternVars
        let right := right.patternVars
        literal.uses ++
          (if (missing? known bound left).isNone || (missing? known bound right).isNone then []
          else left)
      | literal => literal.uses
    match missing? known bound needed with
    | some name => .error name
    | none => checkQuery known (bound ++ literal.binds) rest

/-- The expressions of a rule's head beside its value. -/
def Head.exprs : Head → List Expr
  | .member item => [item]
  | .entry key => [key]
  | _ => []

/-- The variables that the head of a rule gives values to. -/
def Head.parameters : Head → List String
  | .function parameters => patternVarsAll parameters
  | _ => []

/-- Check the clauses of a rule. -/
def Rule.check (known : String → Bool) (rule : Rule) : Except String Unit :=
  rule.clauses.forM fun clause => do
    let bound ← checkQuery known rule.head.parameters clause.query
    match missing? known bound (usesAll (clause.value :: rule.head.exprs)) with
    | some name => .error name
    | none => .ok ()

/-- Check the rules of a module. -/
def Module.check (m : Module) : Except String Unit :=
  let known (name : String) : Bool := name = "input" || name = "data" || m.isRule name
  m.rules.forM (Rule.check known)

end PolicyScan.Rego
