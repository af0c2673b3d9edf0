import CodingAgent.Yaml.Compose
import CodingAgent.Yaml.Convert
import CodingAgent.Json.Equal
import CodingAgent.Yaml.SetOrder

/-!
# Constructing data from the node graph

Every node becomes a datum by its tag: null, boolean, integer, real, text, binary data and
timestamp from scalars; lists, dictionaries, sets, ordered maps and pairs from collections.
A node of any other tag is an error. A scalar tag on a mapping reads the mapping's `=` key,
if it has one, as the scalar; a timestamp then fails, being matched against the mapping
itself.

Collections are built in two steps. First the empty collection is made and recorded as the
node's datum, so that the node's aliases, even those inside the collection itself, get the
same collection. Its contents are filled in later: all collections met while filling in a
round are filled in the next round, in the order they were met, so errors inside nested
collections come out in that order. The keys of a mapping are built at once, contents and
all (a *deep* build), since a key must be complete to be compared; a key that needs itself
to be built is an error, and so is a key that is a list, a dictionary or a set.

Before a mapping is filled, its merge keys (`<<`) are replaced by the pairs of the mappings
they name, those of earlier mappings in a list of them last; pairs written in the mapping
itself come after merged ones, so they win. A key `=` then reads as the text `=`. Equal keys
keep the first key and the last value.
-/

namespace CodingAgent.Yaml

/-- A datum of a document. Collections refer to their items by their index in the heap of
data, so that a collection may be reached from several places, or contain itself. -/
inductive Datum where
  | none
  | bool (b : Bool)
  | int (n : Int)
  | float (x : Float)
  | str (s : String)
  | bytes (bs : List UInt8)
  /-- A date, or a date and a time. -/
  | timestamp
  | list (items : Array Nat)
  /-- A dictionary: keys and values as heap indices, in the order the keys came. -/
  | dict (entries : Array (Nat × Nat))
  | set (items : Array Nat)
  /-- A pair of an ordered map or of a list of pairs. -/
  | pair (key value : Nat)
  deriving Inhabited

/-- The collections that are built in two steps. -/
inductive CollectionKind where
  | seq
  | map
  | set
  | omap
  | pairs

/-- The state of the construction. -/
structure Builder where
  nodes : Array Node
  heap : Array Datum := #[]
  /-- The datum of each node built so far. -/
  built : Array (Option Nat)
  /-- The nodes being built, to find those that need themselves. -/
  building : Array Bool
  /-- Whether collections are filled at once. -/
  deep : Bool := false
  /-- Collections waiting to be filled: their kind, node and datum. -/
  pending : Array (CollectionKind × Nat × Nat) := #[]

/-- A computation of the construction. -/
abbrev BuildM := StateT Builder (Except YamlError)

/-- Fail with a constructor error. -/
def constructError (context : Option String) (contextMark : Option Mark) (problem : String)
    (problemMark : Mark) : BuildM α :=
  throw (.marked "ConstructorError" context contextMark problem (some problemMark))

/-- Fail as a conversion fails. -/
def liftConversion (r : Except YamlError α) : BuildM α :=
  match r with
  | .ok a => pure a
  | .error e => throw e

/-- The node at an index. -/
def nodeAt (i : Nat) : BuildM Node := do
  return (← get).nodes.getD i default

/-- The pairs of a mapping node, as they are now. -/
def pairsAt (i : Nat) : BuildM (List (Nat × Nat)) := do
  match (← nodeAt i).body with
  | .mapping ps => return ps
  | _ => return []

/-- Replace the pairs of a mapping node. -/
def setPairs (i : Nat) (ps : List (Nat × Nat)) : BuildM Unit :=
  modify fun b => { b with nodes := b.nodes.modify i (fun n => { n with body := .mapping ps }) }

/-- Replace the tag of a node. -/
def setTag (i : Nat) (tag : String) : BuildM Unit :=
  modify fun b => { b with nodes := b.nodes.modify i (fun n => { n with tag := tag }) }

/-- Put a datum on the heap. -/
def allocate (d : Datum) : BuildM Nat := do
  let b ← get
  set { b with heap := b.heap.push d }
  return b.heap.size

/-- Replace a datum on the heap. -/
def store (r : Nat) (d : Datum) : BuildM Unit :=
  modify fun b => { b with heap := b.heap.set! r d }

/-- The hash of a number datum (see `Yaml.SetOrder`); other data have no hash fixed here. -/
def Datum.hash? : Datum → Option Int
  | .bool b => some (if b then 1 else 0)
  | .int n => some (intHash n)
  | .float x => floatHash x
  | _ => Option.none

/-- Whether a datum can be a key. -/
def Datum.isHashable : Datum → Bool
  | .list _ | .dict _ | .set _ => false
  | _ => true

/-- The value of a number datum as a real, for comparing numbers of different kinds. -/
def Datum.numeric? : Datum → Option (Sum Int Float)
  | .bool b => some (.inl (if b then 1 else 0))
  | .int n => some (.inl n)
  | .float x => some (.inr x)
  | _ => Option.none

/-- Whether two data are equal as keys: numbers by value, whatever their kinds (the one
NaN equals itself), texts and bytes by their contents, and anything else only itself. -/
def sameKey (heap : Array Datum) (a b : Nat) : Bool :=
  a == b ||
    match heap.getD a default, heap.getD b default with
    | .none, .none => true
    | .str s, .str t => s == t
    | .bytes s, .bytes t => s == t
    | x, y => match x.numeric?, y.numeric? with
      | some (.inl m), some (.inl n) => m == n
      | some (.inr u), some (.inr v) => u == v || (u.isNaN && v.isNaN)
      | some (.inl m), some (.inr v) => CodingAgent.Json.intEqualsFloat m v
      | some (.inr u), some (.inl n) => CodingAgent.Json.intEqualsFloat n u
      | _, _ => false

/-- Add a key and a value to dictionary entries; an equal key keeps its place and gets the
new value. -/
def insertEntry (heap : Array Datum) (entries : Array (Nat × Nat)) (k v : Nat) :
    Array (Nat × Nat) :=
  match entries.findIdx? (fun e => sameKey heap e.1 k) with
  | some j => entries.modify j (fun e => (e.1, v))
  | none => entries.push (k, v)

/-- The text of a scalar node; a mapping with a `=` key reads as that key's value. -/
def scalarText : Nat → Nat → BuildM String
  | 0, _ => throw (.conversion "RecursionError" "maximum recursion depth exceeded")
  | fuel + 1, i => do
    let n ← nodeAt i
    match n.body with
    | .scalar v => return v
    | .mapping pairs =>
      for (k, v) in pairs do
        if (← nodeAt k).tag == standardTag "value" then
          return ← scalarText fuel v
      constructError none none "expected a scalar node, but found mapping" n.start
    | .sequence _ =>
      constructError none none "expected a scalar node, but found sequence" n.start

/-- Replace the merge keys of a mapping node by the pairs they merge, and make `=` keys
texts. -/
def flattenMapping : Nat → Nat → BuildM Unit
  | 0, _ => pure ()
  | fuel + 1, i => do
    let owner ← nodeAt i
    let mergeError (problem : String) (m : Mark) : BuildM Unit :=
      constructError (some "while constructing a mapping") (some owner.start) problem m
    let mut merge : List (Nat × Nat) := []
    let mut index := 0
    for _ in [0:(← get).nodes.size * (← get).nodes.size + 16] do
      let ps ← pairsAt i
      match ps.drop index with
      | [] => break
      | (k, v) :: _ =>
        let keyNode ← nodeAt k
        if keyNode.tag == standardTag "merge" then
          setPairs i (ps.eraseIdx index)
          let valueNode ← nodeAt v
          match valueNode.body with
          | .mapping _ =>
            flattenMapping fuel v
            merge := merge ++ (← pairsAt v)
          | .sequence items =>
            let mut submerge : List (List (Nat × Nat)) := []
            for sub in items do
              let subNode ← nodeAt sub
              match subNode.body with
              | .mapping _ =>
                flattenMapping fuel sub
                submerge := submerge ++ [← pairsAt sub]
              | _ =>
                mergeError ("expected a mapping for merging, but found " ++ subNode.body.id)
                  subNode.start
            for value in submerge.reverse do
              merge := merge ++ value
          | .scalar _ =>
            mergeError ("expected a mapping or list of mappings for merging, but found " ++
              valueNode.body.id) valueNode.start
        else
          if keyNode.tag == standardTag "value" then
            setTag k (standardTag "str")
          index := index + 1
    if !merge.isEmpty then
      setPairs i (merge ++ (← pairsAt i))

/-- The collection kind of a tag, if it is built in two steps. -/
def collectionKind? (tag : String) : Option CollectionKind :=
  if tag == standardTag "seq" then some .seq
  else if tag == standardTag "map" then some .map
  else if tag == standardTag "set" then some .set
  else if tag == standardTag "omap" then some .omap
  else if tag == standardTag "pairs" then some .pairs
  else none

/-- The empty collection of a kind. -/
def CollectionKind.empty : CollectionKind → Datum
  | .seq | .omap | .pairs => .list #[]
  | .map => .dict #[]
  | .set => .set #[]

/-- The datum of a scalar node of a standard scalar tag, if the tag is one. -/
def scalarDatum (fuel : Nat) (i : Nat) (n : Node) : BuildM (Option Datum) := do
  let tag := n.tag
  if tag == standardTag "null" then
    discard (scalarText fuel i)
    return some .none
  else if tag == standardTag "bool" then
    return some (.bool (← liftConversion (convertBool (← scalarText fuel i))))
  else if tag == standardTag "int" then
    return some (.int (← liftConversion (convertInt (← scalarText fuel i))))
  else if tag == standardTag "float" then
    return some (.float (← liftConversion (convertFloat (← scalarText fuel i))))
  else if tag == standardTag "binary" then
    match convertBinary (← scalarText fuel i) with
    | .ok bytes => return some (.bytes bytes)
    | .error problem => constructError none none problem n.start
  else if tag == standardTag "timestamp" then
    let text ← scalarText fuel i
    -- the timestamp form is matched against the node's own value, which for a mapping with
    -- a value key is its list of pairs
    if let .mapping _ := n.body then
      throw (.conversion "TypeError" "expected string or bytes-like object, got 'list'")
    liftConversion (convertTimestamp text)
    return some .timestamp
  else if tag == standardTag "str" then
    return some (.str (← scalarText fuel i))
  else return none

mutual
/-- The datum of a node, built once: later calls give the same datum. With `deep`, the
collections met are filled at once. -/
def constructObject : Nat → Nat → Bool → BuildM Nat
  | 0, _, _ => throw (.conversion "RecursionError" "maximum recursion depth exceeded")
  | fuel + 1, i, deep => do
    if let some r := (← get).built.getD i none then return r
    let oldDeep := (← get).deep
    if deep then modify fun b => { b with deep := true }
    let n ← nodeAt i
    if (← get).building.getD i false then
      constructError none none "found unconstructable recursive node" n.start
    modify fun b => { b with building := b.building.set! i true }
    let r ← match ← scalarDatum fuel i n with
      | some d => allocate d
      | none =>
        match collectionKind? n.tag with
        | some kind => do
          let r ← allocate kind.empty
          if (← get).deep then fill fuel kind i r
          else modify fun b => { b with pending := b.pending.push (kind, i, r) }
          pure r
        | none =>
          constructError none none
            ("could not determine a constructor for the tag " ++ CodingAgent.Json.quoted n.tag)
            n.start
    modify fun b => { b with built := b.built.set! i (some r), building := b.building.set! i false }
    if deep then modify fun b => { b with deep := oldDeep }
    return r

/-- The entries of a mapping node as a dictionary, merge keys flattened first. -/
def constructMapping : Nat → Nat → BuildM (Array (Nat × Nat))
  | 0, _ => throw (.conversion "RecursionError" "maximum recursion depth exceeded")
  | fuel + 1, i => do
    if let .mapping _ := (← nodeAt i).body then
      flattenMapping ((← get).nodes.size + 2) i
    let n ← nodeAt i
    match n.body with
    | .mapping pairs =>
      let mut entries : Array (Nat × Nat) := #[]
      for (k, v) in pairs do
        let kr ← constructObject fuel k true
        if !((← get).heap.getD kr default).isHashable then
          constructError (some "while constructing a mapping") (some n.start)
            "found unhashable key" (← nodeAt k).start
        let vr ← constructObject fuel v false
        entries := insertEntry (← get).heap entries kr vr
      return entries
    | other =>
      constructError none none ("expected a mapping node, but found " ++ other.id) n.start

/-- Fill in a collection made empty before. -/
def fill : Nat → CollectionKind → Nat → Nat → BuildM Unit
  | 0, _, _, _ => throw (.conversion "RecursionError" "maximum recursion depth exceeded")
  | fuel + 1, kind, i, r => do
    let n ← nodeAt i
    match kind with
    | .seq =>
      match n.body with
      | .sequence items =>
        let mut refs : Array Nat := #[]
        for c in items do
          refs := refs.push (← constructObject fuel c false)
        store r (.list refs)
      | other =>
        constructError none none ("expected a sequence node, but found " ++ other.id) n.start
    | .map =>
      store r (.dict (← constructMapping fuel i))
    | .set =>
      let entries ← constructMapping fuel i
      let heap := (← get).heap
      let keys := entries.toList.map (fun (k, _) => (k, (heap.getD k default).hash?))
      store r (.set (setOrder keys).toArray)
    | .omap | .pairs =>
      let context := match kind with
        | .omap => "while constructing an ordered map"
        | _ => "while constructing pairs"
      match n.body with
      | .sequence items =>
        let mut refs : Array Nat := #[]
        for sub in items do
          let subNode ← nodeAt sub
          match subNode.body with
          | .mapping [(k, v)] =>
            let kr ← constructObject fuel k false
            let vr ← constructObject fuel v false
            refs := refs.push (← allocate (.pair kr vr))
          | .mapping ps =>
            constructError (some context) (some n.start)
              ("expected a single mapping item, but found " ++ toString ps.length ++ " items")
              subNode.start
          | other =>
            constructError (some context) (some n.start)
              ("expected a mapping of length 1, but found " ++ other.id) subNode.start
        store r (.list refs)
      | other =>
        constructError (some context) (some n.start)
          ("expected a sequence, but found " ++ other.id) n.start
end

/-- Build the datum of the root node, then fill the waiting collections round by round. -/
def constructDocument (root : Nat) : BuildM Nat := do
  let fuel := (← get).nodes.size * 4 + 16
  let r ← constructObject fuel root false
  for _ in [0:(← get).nodes.size + 2] do
    let wave := (← get).pending
    if wave.isEmpty then break
    modify fun b => { b with pending := #[] }
    for (kind, i, c) in wave do
      fill fuel kind i c
  return r

/-- The data of a node graph: the heap and the root's index in it. -/
def constructData (nodes : Array Node) (root : Nat) : Except YamlError (Array Datum × Nat) :=
  let start : Builder :=
    { nodes := nodes, built := Array.replicate nodes.size none,
      building := Array.replicate nodes.size false }
  match (constructDocument root).run start with
  | .ok (r, b) => .ok (b.heap, r)
  | .error e => .error e

end CodingAgent.Yaml
