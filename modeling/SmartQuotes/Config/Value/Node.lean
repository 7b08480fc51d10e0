import SmartQuotes.Config.Value.Scalar

/-!
# Values of YAML nodes

A node is checked level by level before its value is built: tags have to be known, scalars have to
have a value under their tags, keys have to be scalars, and merge keys have to name mappings. The
last of several entries with one key wins and keeps the place of the first.
-/

namespace SmartQuotes.Yaml

namespace Node

open SmartQuotes.Config

/-! ## Merging -/

/-- The entries of a mapping with those that its merge keys bring in put in front. -/
def entriesFrom (entries : List (Node × Node)) (start : Place) :
    Nat → Except Fault (List (Node × Node))
  | 0 => .ok entries
  | fuel + 1 => do
    let refuse {α : Type} (what : String) (n : Node) : Except Fault α :=
      .error (.at (some (.mappingValue, some start)) (.expectedNode what n.name) n.start)
    let merged ← (entries.filter fun e => e.1.tag == .merge).mapM fun e => do
      match e.2 with
      | .mapping _ inner p => entriesFrom inner p fuel
      | .sequence _ items _ => do
        let parts ← items.mapM fun item => match item with
          | .mapping _ inner p => entriesFrom inner p fuel
          | n => refuse "a mapping for merging" n
        return parts.reverse.flatten
      | n => refuse "a mapping or list of mappings for merging" n
    return merged.flatten ++ entries.filter fun e => e.1.tag != .merge

/-! ## Checking -/

/-- Check the tag of a node, and the text of a scalar. -/
def checkTag (n : Node) : Except Fault Unit :=
  let refuse (what : String) : Except Fault Unit :=
    .error (.at none (.expectedNode what n.name) n.start)
  let unknown : Except Fault Unit := .error (.at none (.unknownTag n.tag.name) n.start)
  match n.tag, n with
  | .other _, _ | .merge, _ | .assignment, _ => unknown
  | .seq, .sequence .. | .map, .mapping .. => .ok ()
  | .seq, _ => refuse "a sequence node"
  | .map, _ => refuse "a mapping node"
  | tag, .scalar _ t _ =>
    match Scalar.value tag t with
    | .ok _ => .ok ()
    | .error b => .error (.broken b)
  | _, _ => refuse "a scalar node"

/-- Check an entry of the mapping that starts at the given place. A key is a scalar, and the sign
for assignment is read as a text. -/
def checkEntry (start : Place) (e : Node × Node) : Except Fault Unit := do
  match e.1 with
  | .scalar .assignment _ _ => pure ()
  | .scalar .. => checkTag e.1
  | _ =>
    checkTag e.1
    throw (.at (some (.mappingValue, some start)) .unhashableKey e.1.start)
  checkTag e.2

/-- Check the nodes inside a node, and collect them. -/
def checkInside (fuel : Nat) : Node → Except Fault (List Node)
  | .scalar .. => .ok []
  | .sequence _ items _ => do
    items.forM checkTag
    return items
  | .mapping _ entries p => do
    let entries ← entriesFrom entries p fuel
    entries.forM (checkEntry p)
    return entries.map (·.2)

/-- Check what is inside the given nodes, level by level. -/
def checkLevels : Nat → List Node → Except Fault Unit
  | 0, _ => .ok ()
  | fuel + 1, level => do
    let next ← level.mapM (checkInside (fuel + 1))
    if next.flatten.isEmpty then return else checkLevels fuel next.flatten

/-! ## Building -/

/-- The whole number that a value amounts to, if it is one; a true value counts as one. -/
def wholeOf? : Value → Option Int
  | .bool b => some (if b then 1 else 0)
  | .int i => some i
  | .real r => r.toInt?
  | _ => none

/-- Whether two keys are the same. -/
def sameKey (a b : Value) : Bool :=
  match wholeOf? a, wholeOf? b with
  | some m, some n => m == n
  | none, none =>
    match a, b with
    | .null, .null => true
    | .text a, .text b => a == b
    | .real a, .real b => a == b
    | .day a, .day b => a == b
    | .moment a c, .moment b d => a == b && c == d
    | _, _ => false
  | _, _ => false

/-- Put an entry into a mapping. -/
def putEntry (key value : Value) : List (Value × Value) → List (Value × Value)
  | [] => [(key, value)]
  | (k, v) :: rest =>
    if sameKey k key then (k, value) :: rest else (k, v) :: putEntry key value rest

/-- The value of a node that has been checked. -/
def valueFrom : Nat → Node → Value
  | 0, _ => .null
  | fuel + 1, n =>
    match n with
    | .scalar tag t _ => (Scalar.value tag t).toOption.getD .null
    | .sequence _ items _ => .list (items.map (valueFrom fuel))
    | .mapping _ entries p =>
      let entries := (entriesFrom entries p (fuel + 1)).toOption.getD []
      .mapping (entries.foldl
        (fun found e => putEntry (valueFrom fuel e.1) (valueFrom fuel e.2) found) [])

/-- The value of a node that is nested no deeper than given. -/
def value (depth : Nat) (n : Node) : Except Fault Value := do
  checkTag n
  checkLevels depth [n]
  return valueFrom (depth + 1) n

end Node

/-- The value of the document in a text; null when the text holds none. -/
def valueOf (t : Text) : Except Fault Config.Value := do
  match ← Node.ofText? t with
  | none => return .null
  | some root => root.value (2 * t.length + 2)

end SmartQuotes.Yaml
