import PolicyScan.Hcl.Expr

/-!
# Bodies of HCL

A body is a row of attributes and blocks.  As a value it is an object: an
attribute is a field of its name, and a block stands below its identifier and
its labels.  Blocks of the same place stand in one array.  Where an attribute
or blocks with different numbers of labels meet at one place, the later one
stands, and faults of what it replaces do not count.
-/

namespace PolicyScan.Hcl

/-- An attribute or a block. -/
inductive Item where
  | attribute (name : String) (value : Expr)
  | block (name : String) (labels : List String) (body : List Item)

/-- What stands at a place of a body. -/
inductive Slot where
  | value (json : Except Fault Json)
  /-- The blocks of the place. -/
  | blocks (objects : List (Except Fault Json))
  /-- The places below, sorted by label. -/
  | labels (slots : List (String × Slot))

namespace Slot

/-- Change what stands at a key of a sorted list. -/
def updateAt (key : String) (change : Option Slot → Slot) :
    List (String × Slot) → List (String × Slot)
  | [] => [(key, change none)]
  | (k, slot) :: rest =>
    if key < k then (key, change none) :: (k, slot) :: rest
    else if key = k then (k, change (some slot)) :: rest
    else (k, slot) :: updateAt key change rest

/-- Put a block below its labels, after what stands there. -/
def addBlock (object : Except Fault Json) : List String → Option Slot → Slot
  | [], some (.blocks objects) => .blocks (objects ++ [object])
  | [], _ => .blocks [object]
  | label :: rest, some (.labels slots) =>
    .labels (updateAt label (addBlock object rest) slots)
  | label :: rest, _ => .labels [(label, addBlock object rest none)]

mutual

/-- The value of a slot: one block is an object, more are an array. -/
def toJson : Slot → Except Fault Json
  | .value json => json
  | .blocks [object] => object
  | .blocks objects => (objects.mapM id).map .arr
  | .labels slots => (fieldsOf slots).map .obj

/-- The fields of slots. -/
def fieldsOf : List (String × Slot) → Except Fault (List (String × Json))
  | [] => .ok []
  | (key, slot) :: rest => do return (key, ← slot.toJson) :: (← fieldsOf rest)

end

end Slot

mutual

/-- The slots of a body, after those that are there already. -/
def slotsOf : List Item → List (String × Slot) → List (String × Slot)
  | [], slots => slots
  | item :: rest, slots => slotsOf rest (addItem item slots)

/-- Add an attribute or a block to the slots of a body. -/
def addItem : Item → List (String × Slot) → List (String × Slot)
  | .attribute name value, slots => Slot.updateAt name (fun _ => .value value.toJson) slots
  | .block name labels body, slots =>
    let object := (Slot.fieldsOf (slotsOf body [])).map Json.obj
    Slot.updateAt name (Slot.addBlock object labels) slots

end

/-- The value of a body. -/
def bodyToJson (body : List Item) : Except Fault Json :=
  (Slot.fieldsOf (slotsOf body [])).map Json.obj

end PolicyScan.Hcl
