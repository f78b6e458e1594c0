import ApiCatalog.Yaml.ScalarTag
import ApiCatalog.Yaml.Token

set_option autoImplicit false

namespace ApiCatalog.Yaml

abbrev NodeId := Nat

inductive Content
  | scalar (text : String)
  | sequence (items : List NodeId)
  | mapping (pairs : List (NodeId × NodeId))

structure Node where
  tag : Tag
  content : Content

def Node.empty : Node := ⟨.null, .scalar ""⟩

instance : Inhabited Node := ⟨.empty⟩

abbrev Nodes := Array Node

-- The tokens ahead, the tag handles of the document, and the nodes and anchors so far.
structure Feed where
  tokens : List Token
  handles : List (String × String)
  nodes : Nodes
  anchors : List (String × NodeId)

namespace Feed

def peek (f : Feed) : Token := f.tokens.headD .streamEnd

def next (f : Feed) : Feed := { f with tokens := f.tokens.drop 1 }

def add (f : Feed) (node : Node) : NodeId × Feed :=
  (f.nodes.size, { f with nodes := f.nodes.push node })

def fill (f : Feed) (id : NodeId) (node : Node) : Feed :=
  { f with nodes := f.nodes.setIfInBounds id node }

def unexpected {α : Type} (f : Feed) : Except Fault α :=
  match f.peek with
  | .stop fault => .error fault
  | _ => .error .malformed

def setAnchor (f : Feed) (name : Option String) (id : NodeId) : Feed :=
  match name with
  | none => f
  | some name => { f with anchors := (name, id) :: f.anchors }

end Feed

structure Properties where
  anchor : Option String
  tag : Option TagName

def readProperties (f : Feed) : Properties × Feed :=
  match f.tokens with
  | .anchor a :: .tag t :: rest => (⟨some a, some t⟩, { f with tokens := rest })
  | .tag t :: .anchor a :: rest => (⟨some a, some t⟩, { f with tokens := rest })
  | .anchor a :: rest => (⟨some a, none⟩, { f with tokens := rest })
  | .tag t :: rest => (⟨none, some t⟩, { f with tokens := rest })
  | _ => (⟨none, none⟩, f)

def tagText (handles : List (String × String)) (t : TagName) : Except Fault String :=
  match t.handle with
  | none => .ok t.suffix
  | some handle =>
    match handles.lookup handle with
    | some address => .ok (address ++ t.suffix)
    | none => .error .malformed

def scalarTag (tag : Option String) (plain : Bool) (text : String) : Tag :=
  match tag with
  | none => if plain then Tag.ofPlain text else .text
  | some "!" => Tag.ofPlain text
  | some name => Tag.ofName name

def collectionTag (tag : Option String) (standard : Tag) : Tag :=
  match tag with
  | none | some "!" => standard
  | some name => Tag.ofName name

inductive Context
  | block
  | blockOrIndentless
  | flow
  deriving DecidableEq

def Token.endsMappingPart : Token → Bool
  | .key | .value | .blockEnd => true
  | _ => false

def Token.endsIndentless : Token → Bool
  | .blockEntry | .key | .value | .blockEnd => true
  | _ => false

def Token.endsBlockEntry : Token → Bool
  | .blockEntry | .blockEnd => true
  | _ => false

def Token.isFlowStop : Token → Token → Bool
  | .flowEntry, _ => true
  | .flowSequenceEnd, .flowSequenceEnd => true
  | .flowMappingEnd, .flowMappingEnd => true
  | _, _ => false

def Token.isValue : Token → Bool
  | .value => true
  | _ => false

-- At most two calls in a row read no token: three times the number of tokens is fuel enough.
mutual
def readNode : Nat → Context → Feed → Except Fault (NodeId × Feed)
  | 0, _, _ => .error .malformed
  | fuel + 1, context, f =>
    match f.peek with
    | .reference name =>
      match f.anchors.lookup name with
      | some id => .ok (id, f.next)
      | none => .error .malformed
    | _ => do
      let (properties, f) := readProperties f
      let tag ← properties.tag.mapM (tagText f.handles)
      if properties.anchor.any fun a => (f.anchors.lookup a).isSome then .error .malformed
      else
        -- A collection has its anchor before its contents are read.
        let (id, f) := f.add .empty
        let f := f.setAnchor properties.anchor id
        let (node, f) ←
          match f.peek, context with
          | .blockEntry, .blockOrIndentless => do
            let (items, f) ← readIndentless fuel f
            pure (Node.mk (collectionTag tag .sequence) (.sequence items), f)
          | .scalar text plain, _ =>
            pure (Node.mk (scalarTag tag plain text) (.scalar text), f.next)
          | .flowSequenceStart, _ => do
            let (items, f) ← readFlowItems fuel true f.next
            pure (Node.mk (collectionTag tag .sequence) (.sequence items), f)
          | .flowMappingStart, _ => do
            let (pairs, f) ← readFlowPairs fuel true f.next
            pure (Node.mk (collectionTag tag .mapping) (.mapping pairs), f)
          | .blockSequenceStart, .block | .blockSequenceStart, .blockOrIndentless => do
            let (items, f) ← readBlockItems fuel f.next
            pure (Node.mk (collectionTag tag .sequence) (.sequence items), f)
          | .blockMappingStart, .block | .blockMappingStart, .blockOrIndentless => do
            let (pairs, f) ← readBlockPairs fuel f.next
            pure (Node.mk (collectionTag tag .mapping) (.mapping pairs), f)
          | _, _ =>
            if properties.anchor.isSome || tag.isSome then
              pure (Node.mk (scalarTag tag true "") (.scalar ""), f)
            else f.unexpected
        return (id, f.fill id node)

def readBlockItems : Nat → Feed → Except Fault (List NodeId × Feed)
  | 0, _ => .error .malformed
  | fuel + 1, f =>
    match f.peek with
    | .blockEntry => do
      let f := f.next
      let (item, f) ← if f.peek.endsBlockEntry then pure (f.add .empty) else readNode fuel .block f
      let (rest, f) ← readBlockItems fuel f
      return (item :: rest, f)
    | .blockEnd => .ok ([], f.next)
    | _ => f.unexpected

def readIndentless : Nat → Feed → Except Fault (List NodeId × Feed)
  | 0, _ => .error .malformed
  | fuel + 1, f =>
    match f.peek with
    | .blockEntry => do
      let f := f.next
      let (item, f) ← if f.peek.endsIndentless then pure (f.add .empty) else readNode fuel .block f
      let (rest, f) ← readIndentless fuel f
      return (item :: rest, f)
    | _ => .ok ([], f)

def readBlockPairs : Nat → Feed → Except Fault (List (NodeId × NodeId) × Feed)
  | 0, _ => .error .malformed
  | fuel + 1, f =>
    match f.peek with
    | .key => do
      let f := f.next
      let (key, f) ←
        if f.peek.endsMappingPart then pure (f.add .empty) else readNode fuel .blockOrIndentless f
      let (value, f) ←
        if f.peek.isValue then
          let f := f.next
          if f.peek.endsMappingPart then pure (f.add .empty)
          else readNode fuel .blockOrIndentless f
        else pure (f.add .empty)
      let (rest, f) ← readBlockPairs fuel f
      return ((key, value) :: rest, f)
    | .blockEnd => .ok ([], f.next)
    | _ => f.unexpected

def readFlowValue : Nat → Token → Feed → Except Fault (NodeId × Feed)
  | 0, _, _ => .error .malformed
  | fuel + 1, close, f =>
    if f.peek.isValue then
      let f := f.next
      if f.peek.isFlowStop close then .ok (f.add .empty) else readNode fuel .flow f
    else .ok (f.add .empty)

def readFlowPair : Nat → Token → Feed → Except Fault ((NodeId × NodeId) × Feed)
  | 0, _, _ => .error .malformed
  | fuel + 1, close, f => do
    let (key, f) ←
      if f.peek.isValue || f.peek.isFlowStop close then pure (f.add .empty)
      else readNode fuel .flow f
    let (value, f) ← readFlowValue fuel close f
    return ((key, value), f)

def readFlowItems : Nat → Bool → Feed → Except Fault (List NodeId × Feed)
  | 0, _, _ => .error .malformed
  | fuel + 1, first, f => do
    match f.peek with
    | .flowSequenceEnd => .ok ([], f.next)
    | head =>
      let f ← match first, head with
        | true, _ => pure f
        | false, .flowEntry => pure f.next
        | false, _ => f.unexpected
      match f.peek with
      | .flowSequenceEnd => .ok ([], f.next)
      | .key => do
        let (pair, f) ← readFlowPair fuel .flowSequenceEnd f.next
        let (item, f) := f.add ⟨.mapping, .mapping [pair]⟩
        let (rest, f) ← readFlowItems fuel false f
        return (item :: rest, f)
      | _ => do
        let (item, f) ← readNode fuel .flow f
        let (rest, f) ← readFlowItems fuel false f
        return (item :: rest, f)

def readFlowPairs : Nat → Bool → Feed → Except Fault (List (NodeId × NodeId) × Feed)
  | 0, _, _ => .error .malformed
  | fuel + 1, first, f => do
    match f.peek with
    | .flowMappingEnd => .ok ([], f.next)
    | head =>
      let f ← match first, head with
        | true, _ => pure f
        | false, .flowEntry => pure f.next
        | false, _ => f.unexpected
      match f.peek with
      | .flowMappingEnd => .ok ([], f.next)
      | .key => do
        let (pair, f) ← readFlowPair fuel .flowMappingEnd f.next
        let (rest, f) ← readFlowPairs fuel false f
        return (pair :: rest, f)
      | _ => do
        let (key, f) ← readNode fuel .flow f
        let (value, f) := f.add .empty
        let (rest, f) ← readFlowPairs fuel false f
        return ((key, value) :: rest, f)
end

def defaultHandles : List (String × String) := [("!", "!"), ("!!", standardAddress)]

def readDirectives (seenVersion : Bool) (handles : List (String × String)) :
    List Token → Except Fault (List (String × String) × List Token)
  | .directive (.version major) :: rest =>
    if seenVersion || major != 1 then .error .malformed else readDirectives true handles rest
  | .directive (.tag handle address) :: rest =>
    if (handles.lookup handle).isSome then .error .malformed
    else readDirectives seenVersion ((handle, address) :: handles) rest
  | .directive .other :: rest => readDirectives seenVersion handles rest
  | rest => .ok (handles ++ defaultHandles, rest)

def requireEnd : List Token → Except Fault Unit
  | .documentEnd :: rest => requireEnd rest
  | .streamEnd :: _ => .ok ()
  | .stop fault :: _ => .error fault
  | _ => .error .malformed

structure Graph where
  nodes : Nodes
  root : NodeId

def readDocument (f : Feed) : Except Fault Graph := do
  let (root, f) ← readNode (3 * f.tokens.length + 3) .block f
  requireEnd f.tokens
  return ⟨f.nodes, root⟩

def Graph.ofTokens (ts : List Token) : Except Fault (Option Graph) := do
  match ts with
  | [] | .streamEnd :: _ => return none
  | .directive _ :: _ | .documentStart :: _ =>
    let (handles, rest) ← readDirectives false [] ts
    match rest with
    | .documentStart :: rest =>
      match rest with
      | .directive _ :: _ | .documentStart :: _ => .error .malformed
      | .documentEnd :: _ | .streamEnd :: _ | [] =>
        requireEnd rest
        return some ⟨#[.empty], 0⟩
      | _ => return some (← readDocument ⟨rest, handles, #[], []⟩)
    | _ => Feed.unexpected ⟨rest, [], #[], []⟩
  | _ => return some (← readDocument ⟨ts, defaultHandles, #[], []⟩)

end ApiCatalog.Yaml
