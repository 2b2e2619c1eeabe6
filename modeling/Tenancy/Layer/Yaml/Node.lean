import Tenancy.Layer.Yaml.Token

/-!
# Nodes of a settings file

The tokens of a file spell a tree: scalars, sequences and mappings, each of which may have a tag and
a name. A reference stands for the last node that was given its name. A file holds one tree at most.
-/

namespace Tenancy.Layer.Yaml

/-- A part of a tree. A tag is kept in full; a plain scalar has no quotes and is no block. -/
inductive Node where
  | scalar (tag : Option String) (plain : Bool) (text : String)
  | sequence (tag : Option String) (items : List Node)
  | mapping (tag : Option String) (members : List (Node × Node))
  deriving Repr, Inhabited

namespace Node

/-- A place where nothing is written. -/
def empty : Node := .scalar none true ""

/-- The stems of the handles that every document knows. -/
def knownHandles : List (String × String) := [("!", "!"), ("!!", "tag:yaml.org,2002:")]

/-- What remains of the tokens, and the names given so far, the last one first. A node under which
the reader still is has a name but stands for nothing yet. -/
structure Reading where
  tokens : List Token
  names : List (String × Option Node)
  handles : List (String × String)

/-- A step of the reader, which may fail. -/
abbrev Read := StateT Reading Option

/-- The next token, if there is one. -/
def peek? : Read (Option Token) := do return (← get).tokens.head?

/-- Passes over the next token. -/
def advance : Read Unit := modify fun r => { r with tokens := r.tokens.drop 1 }

/-- Whether the next token is one of some. -/
def nextIsOneOf (ts : List Token) : Read Bool := do
  return ((← peek?).map ts.contains).getD false

/-- Passes over the next token if it is the given one; says whether it was. -/
def passed (t : Token) : Read Bool := do
  if (← peek?) = some t then
    advance
    return true
  return false

/-- What stands before a node: its name and its tag. -/
structure Properties where
  name : Option String
  tag : Option (String × String)

/-- Reads the name and the tag of a node, in any order. -/
def properties : Read Properties := do
  match ← peek? with
  | some (.anchor name) =>
    advance
    match ← peek? with
    | some (.tag handle suffix) =>
      advance
      return ⟨some name, some (handle, suffix)⟩
    | _ => return ⟨some name, none⟩
  | some (.tag handle suffix) =>
    advance
    match ← peek? with
    | some (.anchor name) =>
      advance
      return ⟨some name, some (handle, suffix)⟩
    | _ => return ⟨none, some (handle, suffix)⟩
  | _ => return ⟨none, none⟩

/-- A tag in full. -/
def fullTag (p : Properties) : Read (Option String) := do
  match p.tag with
  | none => return none
  | some (handle, suffix) =>
    if handle.isEmpty then return some suffix
    match (← get).handles.lookup handle with
    | some stem => return some (stem ++ suffix)
    | none => failure

/-- The tag that a scalar keeps; an exclamation mark alone says nothing about one. -/
def scalarTag (tag : Option String) : Option String := if tag = some "!" then none else tag

/-- Gives a name to a node, or to one that is being read. -/
def bind (name : Option String) (node : Option Node) : Read Unit :=
  match name with
  | none => pure ()
  | some n => modify fun r => { r with names := (n, node) :: r.names }

mutual

/-- Reads a node. Blocks may stand only inside blocks, and a sequence without an indentation of its
own only in a mapping. -/
def node (inBlock bare : Bool) : Nat → Read Node
  | 0 => failure
  | fuel + 1 => do
    if let some (.reference name) ← peek? then
      advance
      let some (some n) := (← get).names.lookup name | failure
      return n
    let p ← properties
    let tag ← fullTag p
    bind p.name none
    let made ← match ← peek? with
      | some .blockEntry =>
        if bare then Node.sequence tag <$> bareItems fuel
        else if p.name.isSome || tag.isSome then pure (Node.scalar (scalarTag tag) true "")
        else failure
      | some (.scalar plain text) =>
        advance
        pure (Node.scalar (scalarTag tag) plain text)
      | some .flowSequenceStart =>
        advance
        Node.sequence tag <$> flowItems true fuel
      | some .flowMappingStart =>
        advance
        Node.mapping tag <$> flowMembers true fuel
      | t =>
        if inBlock && t = some .blockSequenceStart then
          advance
          Node.sequence tag <$> blockItems fuel
        else if inBlock && t = some .blockMappingStart then
          advance
          Node.mapping tag <$> blockMembers fuel
        else if p.name.isSome || tag.isSome then pure (Node.scalar (scalarTag tag) true "")
        else failure
    bind p.name (some made)
    return made

/-- Reads a node unless one of some tokens follows, before which nothing is written. -/
def nodeUnless (ends : List Token) (inBlock bare : Bool) : Nat → Read Node
  | 0 => failure
  | fuel + 1 => do
    if ← nextIsOneOf ends then return empty
    node inBlock bare fuel

/-- Reads the items of a block up to its end. -/
def blockItems : Nat → Read (List Node)
  | 0 => failure
  | fuel + 1 => do
    if ← passed .blockEntry then
      let n ← nodeUnless [.blockEntry, .blockEnd] true false fuel
      return n :: (← blockItems fuel)
    if ← passed .blockEnd then return []
    failure

/-- Reads the items of a sequence that is indented like the mapping around it. -/
def bareItems : Nat → Read (List Node)
  | 0 => failure
  | fuel + 1 => do
    if ← passed .blockEntry then
      let n ← nodeUnless [.blockEntry, .key, .value, .blockEnd] true false fuel
      return n :: (← bareItems fuel)
    return []

/-- Reads the members of a block up to its end. -/
def blockMembers : Nat → Read (List (Node × Node))
  | 0 => failure
  | fuel + 1 => do
    if ← passed .key then
      let k ← nodeUnless [.key, .value, .blockEnd] true true fuel
      let v ← if ← passed .value then nodeUnless [.key, .value, .blockEnd] true true fuel
        else pure empty
      return (k, v) :: (← blockMembers fuel)
    if ← passed .blockEnd then return []
    failure

/-- Reads the items in brackets up to the closing one. A key among them is a mapping of its own. -/
def flowItems (first : Bool) : Nat → Read (List Node)
  | 0 => failure
  | fuel + 1 => do
    if ← passed .flowSequenceEnd then return []
    if !first then
      if !(← passed .flowEntry) then failure
      if ← passed .flowSequenceEnd then return []
    let n ← if ← passed .key then Node.mapping none <$> ([·]) <$> flowPair fuel
      else node false false fuel
    return n :: (← flowItems false fuel)

/-- Reads the one member of a mapping that stands in a list without brackets of its own. -/
def flowPair : Nat → Read (Node × Node)
  | 0 => failure
  | fuel + 1 => do
    let k ← if ← nextIsOneOf [.value, .flowEntry, .flowSequenceEnd] then
        advance
        pure empty
      else node false false fuel
    let v ← if ← passed .value then nodeUnless [.flowEntry, .flowSequenceEnd] false false fuel
      else pure empty
    return (k, v)

/-- Reads the members in braces up to the closing one. -/
def flowMembers (first : Bool) : Nat → Read (List (Node × Node))
  | 0 => failure
  | fuel + 1 => do
    if ← passed .flowMappingEnd then return []
    if !first then
      if !(← passed .flowEntry) then failure
      if ← passed .flowMappingEnd then return []
    let m ← if ← passed .key then do
        let k ← nodeUnless [.value, .flowEntry, .flowMappingEnd] false false fuel
        let v ← if ← passed .value then nodeUnless [.flowEntry, .flowMappingEnd] false false fuel
          else pure empty
        pure (k, v)
      else do
        let k ← node false false fuel
        pure (k, empty)
    return m :: (← flowMembers false fuel)

end

/-! ## Documents -/

/-- The directives before a document: at most one version, one or two of the first, and no handle
twice. -/
def directives (versioned : Bool) : List Token → List (String × String) →
    Option (List (String × String) × List Token)
  | .version major minor :: rest, handles =>
    if versioned || major ≠ 1 || (minor ≠ 1 && minor ≠ 2) then none
    else directives true rest handles
  | .handle name stem :: rest, handles =>
    if (handles.lookup name).isSome then none
    else directives versioned rest ((name, stem) :: handles)
  | rest, handles => some (handles ++ knownHandles, rest)

/-- Whether a document that begins with a mark holds nothing. -/
def holdsNothing : List Token → Bool
  | [] => true
  | t :: _ =>
    match t with
    | .version _ _ | .handle _ _ | .documentStart | .documentEnd => true
    | _ => false

/-- Reads one document; its tree, and the tokens behind it. -/
def document? (ts : List Token) : Option (Node × List Token) := do
  let (handles, rest) ← directives false ts []
  let headed := rest.length < ts.length
  let marked := rest.head? = some .documentStart
  if headed && !marked then none
  let body := if marked then rest.drop 1 else rest
  if marked && holdsNothing body then return (empty, body)
  let (n, r) ← (node true false (4 * body.length + 4)).run ⟨body, [], handles⟩
  return (n, r.tokens)

/-- Reads a file: the tree of its only document, if it has one. -/
def ofTokens? (ts : List Token) : Option (Option Node) :=
  if ts.isEmpty then some none
  else do
    let (n, rest) ← document? ts
    if (rest.dropWhile (· = .documentEnd)).isEmpty then some (some n) else none

end Node

end Tenancy.Layer.Yaml
