import PolicyScan.Rego.Module.Reader

/-!
# Comparing modules

Two modules can be compared part by part, and what comes out is a proof that they are the
same.  Only what policies mostly consist of is compared: rules of members, tests,
assignments and members of collections.  Everything else counts as different.
-/

namespace PolicyScan.Rego

/-- A proof that the two are the same, if they are found to be. -/
abbrev Equal? {α : Type} (a b : α) : Type := Option (PLift (a = b))

/-- Two values that can be told apart at once. -/
def equal? {α : Type} [DecidableEq α] (a b : α) : Equal? a b :=
  if h : a = b then some ⟨h⟩ else none

mutual

/-- Whether two expressions are the same. -/
def Expr.equal? : (a b : Expr) → Equal? a b
  | .const (.str s), .const (.str t) => do
    let ⟨h⟩ ← Rego.equal? s t
    return ⟨by rw [h]⟩
  | .const (.bool s), .const (.bool t) => do
    let ⟨h⟩ ← Rego.equal? s t
    return ⟨by rw [h]⟩
  | .var x, .var y => do
    let ⟨h⟩ ← Rego.equal? x y
    return ⟨by rw [h]⟩
  | .arr items, .arr others => do
    let ⟨h⟩ ← equalAll? items others
    return ⟨by rw [h]⟩
  | .obj fields, .obj others => do
    let ⟨h⟩ ← equalFields? fields others
    return ⟨by rw [h]⟩
  | .index base key, .index base' key' => do
    let ⟨h⟩ ← base.equal? base'
    let ⟨h'⟩ ← key.equal? key'
    return ⟨by rw [h, h']⟩
  | .binary op left right, .binary op' left' right' => do
    let ⟨h⟩ ← Rego.equal? op op'
    let ⟨h'⟩ ← left.equal? left'
    let ⟨h''⟩ ← right.equal? right'
    return ⟨by rw [h, h', h'']⟩
  | _, _ => none

/-- Whether expressions are the same one by one. -/
def equalAll? : (items others : List Expr) → Equal? items others
  | [], [] => some ⟨rfl⟩
  | item :: rest, other :: others => do
    let ⟨h⟩ ← item.equal? other
    let ⟨h'⟩ ← equalAll? rest others
    return ⟨by rw [h, h']⟩
  | _, _ => none

/-- Whether fields are the same one by one. -/
def equalFields? : (fields others : List (Expr × Expr)) → Equal? fields others
  | [], [] => some ⟨rfl⟩
  | (key, value) :: rest, (key', value') :: others => do
    let ⟨h⟩ ← key.equal? key'
    let ⟨h'⟩ ← value.equal? value'
    let ⟨h''⟩ ← equalFields? rest others
    return ⟨by rw [h, h', h'']⟩
  | _, _ => none

end

/-- Whether two literals are the same. -/
def Literal.equal? : (a b : Literal) → Equal? a b
  | .test e, .test e' => do
    let ⟨h⟩ ← e.equal? e'
    return ⟨by rw [h]⟩
  | .assign pattern e, .assign pattern' e' => do
    let ⟨h⟩ ← pattern.equal? pattern'
    let ⟨h'⟩ ← e.equal? e'
    return ⟨by rw [h, h']⟩
  | .member none pattern collection, .member none pattern' collection' => do
    let ⟨h⟩ ← pattern.equal? pattern'
    let ⟨h'⟩ ← collection.equal? collection'
    return ⟨by rw [h, h']⟩
  | _, _ => none

/-- Whether two lists are the same one by one. -/
def equalList? {α : Type} (equal? : (a b : α) → Equal? a b) : (l l' : List α) → Equal? l l'
  | [], [] => some ⟨rfl⟩
  | a :: rest, b :: others => do
    let ⟨h⟩ ← equal? a b
    let ⟨h'⟩ ← equalList? equal? rest others
    return ⟨by rw [h, h']⟩
  | _, _ => none

/-- Whether two clauses are the same. -/
def Clause.equal? : (a b : Clause) → Equal? a b
  | ⟨value, query⟩, ⟨value', query'⟩ => do
    let ⟨h⟩ ← value.equal? value'
    let ⟨h'⟩ ← equalList? Literal.equal? query query'
    return ⟨by rw [h, h']⟩

/-- Whether two rules of members are the same. -/
def Rule.equal? : (a b : Rule) → Equal? a b
  | ⟨path, .member item, clauses⟩, ⟨path', .member item', clauses'⟩ => do
    let ⟨h⟩ ← Rego.equal? path path'
    let ⟨h'⟩ ← item.equal? item'
    let ⟨h''⟩ ← equalList? Clause.equal? clauses clauses'
    return ⟨by rw [h, h', h'']⟩
  | _, _ => none

/-- Whether two modules without defaults are the same. -/
def Module.equal? : (a b : Module) → Equal? a b
  | ⟨package, rules, []⟩, ⟨package', rules', []⟩ => do
    let ⟨h⟩ ← Rego.equal? package package'
    let ⟨h'⟩ ← equalList? Rule.equal? rules rules'
    return ⟨by rw [h, h']⟩
  | _, _ => none

/-- A text is read as the module that it is compared with. -/
theorem Module.ofText_eq {text : String} {m : Module}
    (found : (Module.ofText text).toOption.any fun read => (read.equal? m).isSome) :
    Module.ofText text = .ok m := by
  cases read : Module.ofText text with
  | error misread =>
      rw [read] at found
      cases found
  | ok other =>
      rw [read] at found
      obtain ⟨⟨rfl⟩, -⟩ := Option.isSome_iff_exists.mp found
      rfl

theorem lexemes_ofList (text : List Char) :
    lexemes (String.ofList text) = lexemesWithin (text.length + 1) .lineEnd text := by
  rw [lexemes, String.toList_ofList, String.length_ofList]

end PolicyScan.Rego
