import ContractBuild.Yaml.Plain
import ContractBuild.Yaml.Token

/-!
# Nodes

A document is one node: a scalar, a list or a map. `Node.ofTokens` reads it from the tokens. Brackets and levels of
indentation have to be closed in order, an alias stands for the node with its anchor, and a stream holds at most one
document. What is missing is an empty scalar, which means null.
-/

namespace ContractBuild.Yaml

/-- A node of a document. -/
inductive Node where
  | scalar (tag : Tag) (text : Text)
  | list (tag : Tag) (items : List Node)
  | map (tag : Tag) (pairs : List (Node × Node))

/-- What is left to be read: the tokens, the nodes with anchors, and the handles of tags. -/
structure Reading where
  tokens : List Token
  anchors : List (Text × Node)
  handles : List (Text × Text)

/-- How deep nodes may be nested: a fixed number in place of the room that is left for nested calls. -/
def maxDepth : Nat := 480

namespace Reading

/-- The handles that need no directive. -/
def defaultHandles : List (Text × Text) := [("!", "!"), ("!!", tagBase)]

/-- What is left behind the next token. -/
def next (r : Reading) : Reading := { r with tokens := r.tokens.tail }

/-- Whether one of the given tokens follows. -/
def followsAny (r : Reading) (ts : List Token) : Bool :=
  match r.tokens with
  | [] => false
  | t :: _ => ts.elem t

/-- Whether the given token follows. -/
def follows (r : Reading) (t : Token) : Bool := r.followsAny [t]

/-- The address of a written tag, unless it leaves the kind of the node open. -/
def tagAddress? (r : Reading) (t : WrittenTag) : Except Error (Option Text) :=
  match t.handle with
  | none => .ok (if t.rest = "!" then none else some t.rest)
  | some handle =>
    match r.handles.lookup handle with
    | none => .error .malformed
    | some uri => .ok (some (uri ++ t.rest))

end Reading

/-- What stands before a node: its anchor and its tag. -/
structure Properties where
  anchor : Option Text
  tag : Option WrittenTag

namespace Properties

/-- No anchor and no tag. -/
def none : Properties := ⟨.none, .none⟩

/-- Reads an anchor and a tag, in either order. -/
def read (r : Reading) : Properties × Reading :=
  match r.tokens with
  | .anchor a :: .tag t :: rest => (⟨some a, some t⟩, { r with tokens := rest })
  | .tag t :: .anchor a :: rest => (⟨some a, some t⟩, { r with tokens := rest })
  | .anchor a :: rest => (⟨some a, .none⟩, { r with tokens := rest })
  | .tag t :: rest => (⟨.none, some t⟩, { r with tokens := rest })
  | _ => (none, r)

/-- Whether there is an anchor or a tag. -/
def isAny (p : Properties) : Bool := p.anchor.isSome || p.tag.isSome

/-- The tag of a list or a map. -/
def collectionTag (p : Properties) (r : Reading) (default : Tag) : Except Error Tag :=
  match p.tag with
  | .none => .ok default
  | some t => (r.tagAddress? t).map fun
    | .none => default
    | some address => .ofAddress address

/-- The tag of a scalar. Without a tag, a plain one is what it looks like and a quoted one is a text. -/
def scalarTag (p : Properties) (r : Reading) (style : ScalarStyle) (text : Text) : Except Error Tag :=
  match p.tag with
  | .none => .ok (if style = .plain then Plain.tagOf text else .text)
  | some t => (r.tagAddress? t).map fun
    | .none => Plain.tagOf text
    | some address => .ofAddress address

/-- Gives a node its anchor, which must be a new one. -/
def bind (p : Properties) (node : Node) (r : Reading) : Except Error (Node × Reading) :=
  match p.anchor with
  | .none => .ok (node, r)
  | some a =>
    if (r.anchors.lookup a).isSome then .error .malformed
    else .ok (node, { r with anchors := (a, node) :: r.anchors })

end Properties

namespace Node

/-- The scalar that stands for what is missing. -/
def empty : Node := .scalar .null []

/-- Where a node stands: in brackets, in a level of indentation, or as a key or value of a map, where a list may stand
without a level of its own. -/
inductive Place where
  | flow
  | block
  | mapEntry
deriving DecidableEq

mutual

/-- Reads a node. -/
def read (fuel depth : Nat) (place : Place) (r : Reading) : Except Error (Node × Reading) :=
  match fuel with
  | 0 => .error .malformed
  | fuel + 1 =>
    if depth > maxDepth then .error .tooDeep
    else match r.tokens with
      | .alias name :: _ =>
        match r.anchors.lookup name with
        | some node => .ok (node, r.next)
        | none => .error .malformed
      | _ => do
        let (p, r) := Properties.read r
        let (node, r) ← readBare fuel depth place p r
        p.bind node r
termination_by structural fuel

/-- Reads a node behind its properties. -/
def readBare (fuel depth : Nat) (place : Place) (p : Properties) (r : Reading) : Except Error (Node × Reading) :=
  match fuel with
  | 0 => .error .malformed
  | fuel + 1 =>
    if place = .mapEntry && r.follows .item then do
      let tag ← p.collectionTag r .list
      let (items, r) ← readBareItems fuel depth r
      return (.list tag items, r)
    else match r.tokens with
      | .scalar style text :: _ => do return (.scalar (← p.scalarTag r style text) text, r.next)
      | .flowSequence :: _ => do
        let tag ← p.collectionTag r .list
        let (items, r) ← readFlowItems fuel depth true r.next
        return (.list tag items, r)
      | .flowMapping :: _ => do
        let tag ← p.collectionTag r .map
        let (pairs, r) ← readFlowPairs fuel depth true r.next
        return (.map tag pairs, r)
      | .blockSequence :: _ =>
        if place = .flow then .error .malformed
        else do
          let tag ← p.collectionTag r .list
          let (items, r) ← readItems fuel depth r.next
          return (.list tag items, r)
      | .blockMapping :: _ =>
        if place = .flow then .error .malformed
        else do
          let tag ← p.collectionTag r .map
          let (pairs, r) ← readPairs fuel depth r.next
          return (.map tag pairs, r)
      | _ => if p.isAny then do return (.scalar (← p.scalarTag r .plain []) [], r) else .error .malformed
termination_by structural fuel

/-- Reads a node, or what is missing before one of the given tokens. -/
def readUnless (fuel depth : Nat) (place : Place) (stops : List Token) (r : Reading) : Except Error (Node × Reading) :=
  match fuel with
  | 0 => .error .malformed
  | fuel + 1 =>
    if r.followsAny stops then .ok (empty, r)
    else read fuel (depth + 1) place r
termination_by structural fuel

/-- Reads the items of a level of indentation. -/
def readItems (fuel depth : Nat) (r : Reading) : Except Error (List Node × Reading) :=
  match fuel with
  | 0 => .error .malformed
  | fuel + 1 =>
    if r.follows .item then do
      let (item, r) ← readUnless fuel depth .block [.item, .blockEnd] r.next
      let (items, r) ← readItems fuel depth r
      return (item :: items, r)
    else if r.follows .blockEnd then .ok ([], r.next)
    else .error .malformed
termination_by structural fuel

/-- Reads the items of a list without a level of its own. -/
def readBareItems (fuel depth : Nat) (r : Reading) : Except Error (List Node × Reading) :=
  match fuel with
  | 0 => .error .malformed
  | fuel + 1 =>
    if r.follows .item then do
      let (item, r) ← readUnless fuel depth .block [.item, .key, .value, .blockEnd] r.next
      let (items, r) ← readBareItems fuel depth r
      return (item :: items, r)
    else .ok ([], r)
termination_by structural fuel

/-- Reads the value of a key, when a colon follows. -/
def readValue (fuel depth : Nat) (place : Place) (stops : List Token) (r : Reading) : Except Error (Node × Reading) :=
  match fuel with
  | 0 => .error .malformed
  | fuel + 1 =>
    if r.follows .value then readUnless fuel depth place stops r.next else .ok (empty, r)
termination_by structural fuel

/-- Reads the entries of a level of indentation. -/
def readPairs (fuel depth : Nat) (r : Reading) : Except Error (List (Node × Node) × Reading) :=
  match fuel with
  | 0 => .error .malformed
  | fuel + 1 =>
    if r.follows .key then do
      let (key, r) ← readUnless fuel depth .mapEntry [.key, .value, .blockEnd] r.next
      let (value, r) ← readValue fuel depth .mapEntry [.key, .value, .blockEnd] r
      let (pairs, r) ← readPairs fuel depth r
      return ((key, value) :: pairs, r)
    else if r.follows .blockEnd then .ok ([], r.next)
    else .error .malformed
termination_by structural fuel

/-- Reads the items in brackets; a comma stands before each but the first. -/
def readFlowItems (fuel depth : Nat) (isFirst : Bool) (r : Reading) : Except Error (List Node × Reading) :=
  match fuel with
  | 0 => .error .malformed
  | fuel + 1 =>
    if r.follows .flowSequenceEnd then .ok ([], r.next)
    else if !isFirst && !r.follows .comma then .error .malformed
    else
      let r := if isFirst then r else r.next
      if r.follows .flowSequenceEnd then .ok ([], r.next)
      else do
        let (item, r) ←
          if r.follows .key then readSinglePair fuel (depth + 1) r.next else read fuel (depth + 1) .flow r
        let (items, r) ← readFlowItems fuel depth false r
        return (item :: items, r)
termination_by structural fuel

/-- Reads a map with one entry, which stands in brackets without any of its own. -/
def readSinglePair (fuel depth : Nat) (r : Reading) : Except Error (Node × Reading) :=
  match fuel with
  | 0 => .error .malformed
  | fuel + 1 => do
    let (key, r) ← readUnless fuel depth .flow [.value, .comma, .flowSequenceEnd] r
    let (value, r) ← readValue fuel depth .flow [.comma, .flowSequenceEnd] r
    return (.map .map [(key, value)], r)
termination_by structural fuel

/-- Reads the entries in braces; a comma stands before each but the first. -/
def readFlowPairs (fuel depth : Nat) (isFirst : Bool) (r : Reading) : Except Error (List (Node × Node) × Reading) :=
  match fuel with
  | 0 => .error .malformed
  | fuel + 1 =>
    if r.follows .flowMappingEnd then .ok ([], r.next)
    else if !isFirst && !r.follows .comma then .error .malformed
    else
      let r := if isFirst then r else r.next
      if r.follows .flowMappingEnd then .ok ([], r.next)
      else do
        let (pair, r) ←
          if r.follows .key then do
            let (key, r) ← readUnless fuel depth .flow [.value, .comma, .flowMappingEnd] r.next
            let (value, r) ← readValue fuel depth .flow [.comma, .flowMappingEnd] r
            pure ((key, value), r)
          else do
            let (key, r) ← read fuel (depth + 1) .flow r
            pure ((key, empty), r)
        let (pairs, r) ← readFlowPairs fuel depth false r
        return (pair :: pairs, r)
termination_by structural fuel

end

/-! ## Documents -/

/-- Reads the directives of a document. -/
def readDirectives : List Token → Option Nat → List (Text × Text) → Except Error (List (Text × Text) × List Token)
  | .directive (.version major) :: rest, version, handles =>
    if version.isSome || major ≠ 1 then .error .malformed else readDirectives rest (some major) handles
  | .directive (.handle name uri) :: rest, version, handles =>
    if (handles.lookup name).isSome then .error .malformed else readDirectives rest version ((name, uri) :: handles)
  | .directive .other :: rest, version, handles => readDirectives rest version handles
  | tokens, _, handles => .ok (handles ++ Reading.defaultHandles, tokens)

/-- What may follow a document: marks of its end. -/
def endsStream (tokens : List Token) : Bool := tokens.all (· = .documentEnd)

/-- Reads a document from its start. -/
def readDocument (tokens : List Token) (handles : List (Text × Text)) : Except Error (Node × Reading) :=
  read (8 * tokens.length + 8) 1 .block ⟨tokens, [], handles⟩

/-- Whether a document is empty although its start is marked. -/
def isEmptyDocument : List Token → Bool
  | [] => true
  | t :: _ => match t with
    | .directive _ | .documentStart | .documentEnd => true
    | _ => false

/-- The node that tokens make; none in a stream without a document. -/
def ofTokens (tokens : List Token) : Except Error (Option Node) :=
  let finish : Except Error (Node × Reading) → Except Error (Option Node) := fun result =>
    match result with
    | .error e => .error e
    | .ok (node, r) => if endsStream r.tokens then .ok (some node) else .error .malformed
  match tokens with
  | [] => .ok none
  | .directive _ :: _ | .documentStart :: _ => do
    let (handles, rest) ← readDirectives tokens none []
    match rest with
    | .documentStart :: rest =>
      if isEmptyDocument rest then finish (.ok (empty, ⟨rest, [], handles⟩)) else finish (readDocument rest handles)
    | _ => .error .malformed
  | _ => finish (readDocument tokens Reading.defaultHandles)

end Node

end ContractBuild.Yaml
