import PolicyScan.Yaml.Node.Reader
import PolicyScan.Yaml.Schema

/-!
# Documents of YAML as JSON values

Sequences become arrays and mappings objects, whose keys are the texts of the
scalars as written.  An alias is replaced by its node, which counts towards
the nesting where the alias stands; a document may resolve at most a hundred
aliases for each of its events.
-/

namespace PolicyScan.Yaml

/-- The number of aliases that may be resolved for each event. -/
def aliasLimit : Nat := 100

namespace Node

/-- The node that an alias stands for, taking one from the aliases left. -/
def resolve (marks : List (Nat × Node)) (left : Nat) : Node → Except Fault (Node × Nat)
  | .alias anchor =>
    match left, marks.lookup anchor with
    | 0, _ => .error .tooManyAliases
    | left + 1, some node => .ok (node, left)
    | _, none => .error .unknownAnchor
  | node => .ok (node, left)

/-- The text of a key. -/
def keyText (marks : List (Nat × Node)) (left : Nat) (key : Node) :
    Except Fault (String × Nat) := do
  match ← resolve marks left key with
  | (.scalar _ _ text, left) => return (String.ofList text, left)
  | _ => throw .keyNotScalar

/-- Whether a tag of a collection is a local one. -/
def Properties.isLocal (props : Properties) : Bool :=
  props.tag.any fun tag => tag.head? = some '!'

/-- The values of items, each given by `value`. -/
def itemValues (value : Nat → Node → Except Fault (Json × Nat)) :
    (left : Nat) → List Node → Except Fault (List Json × Nat)
  | left, [] => .ok ([], left)
  | left, item :: rest => do
    let (first, left) ← value left item
    let (others, left) ← itemValues value left rest
    return (first :: others, left)

/-- The fields of entries whose values `value` gives, put into the fields so
far one after the other. -/
def entryFields (marks : List (Nat × Node)) (value : Nat → Node → Except Fault (Json × Nat)) :
    (left : Nat) → List (Node × Node) → List (String × Json) →
      Except Fault (List (String × Json) × Nat)
  | left, [], fields => .ok (fields, left)
  | left, (k, v) :: rest, fields => do
    let (key, left) ← keyText marks left k
    let (first, left) ← value left v
    entryFields marks value left rest (Json.insertField key first fields)

/-- The value of a node with at most `depth` collections in one another, and
the number of aliases left. -/
def valueWithin (marks : List (Nat × Node)) :
    (depth : Nat) → (left : Nat) → Node → Except Fault (Json × Nat)
  | depth, left, node => do
    let (node, left) ← resolve marks left node
    match node with
    | .scalar props plain text => return (← scalarValue props.tag plain text, left)
    | .alias _ => throw .unknownAnchor
    | .sequence props items =>
      if Properties.isLocal props then throw .tagNotSupported
      else match depth with
        | 0 => throw .nestedTooDeep
        | depth + 1 =>
          (itemValues (valueWithin marks depth) left items).map
            fun (values, left) => (.arr values, left)
    | .mapping props entries =>
      if Properties.isLocal props then throw .tagNotSupported
      else match depth with
        | 0 => throw .nestedTooDeep
        | depth + 1 =>
          (entryFields marks (valueWithin marks depth) left entries []).map
            fun (fields, left) => (.obj fields, left)

/-- The value of a document. -/
def toJson (node : Node) : Except Fault Json := do
  let marks := node.anchors.reverse
  return (← valueWithin marks nestingLimit (aliasLimit * node.eventCount) node).1

end Node

/-- The values of the documents of a text; a text without any holds nothing. -/
def values (text : String) : Except Fault (List Json) := do
  match ← documents text.toList with
  | [] => return [.null]
  | nodes => nodes.mapM Node.toJson

end PolicyScan.Yaml
