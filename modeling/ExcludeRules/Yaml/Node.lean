/-
The nodes of a YAML document.

A node is a scalar, a sequence or a mapping, each with a tag; an alias is the node
that its anchor names.  Mappings are told from each other by the number of the tokens that
are left where they begin.  Nodes are built from tokens by the grammar of the
language: each function reads what its name says and takes `fuel` that is greater
than the number of the tokens.
-/
import ExcludeRules.Yaml.Tag
import ExcludeRules.Yaml.Token

namespace ExcludeRules.Yaml

inductive Node
  | scalar (tag : Tag) (text : String)
  | sequence (tag : Tag) (items : List Node)
  | mapping (id : Nat) (tag : Tag) (entries : List (Node × Node))

/-- What is known while nodes are built. -/
structure Builder where
  tokens : List Token
  /-- What each tag handle stands for. -/
  handles : List (String × String)
  /-- What each anchor names; nothing while that is being built. -/
  anchors : List (String × Option Node)

abbrev Build := StateT Builder (Except Fault)

namespace Build

def defaultHandles : List (String × String) := [("!", "!"), ("!!", Tag.standard)]

def peek : Build (Option Token) := do return (← get).tokens.head?

def advance : Build Unit := modify fun b => { b with tokens := b.tokens.tail }

/-- The number of the tokens that are left. -/
def here : Build Nat := do return (← get).tokens.length

/-- Whether the next token is one of these. -/
def nextIs (ts : List Token) : Build Bool := do return (← peek).any ts.contains

/-- Steps over a token if it comes next. -/
def take (t : Token) : Build Bool := do
  if (← peek) = some t then
    advance
    return true
  else return false

/-- The node that stands where nothing is written. -/
def nothing : Node := .scalar .null ""

/-! ### Properties -/

/-- The tag that a handle and a suffix name. -/
def tagName (handle : Option String) (suffix : String) : Build String := do
  match handle with
  | none => return suffix
  | some handle =>
    match (← get).handles.find? (·.1 = handle) with
    | some (_, start) => return start ++ suffix
    | none => throw (.undefinedHandle handle)

def anchor? : Build (Option String) := do
  match ← peek with
  | some (.anchor name) =>
    advance
    return some name
  | _ => return none

def tag? : Build (Option String) := do
  match ← peek with
  | some (.tag handle suffix) =>
    advance
    return some (← tagName handle suffix)
  | _ => return none

/-- The anchor and the tag in front of a node, in either order. -/
def properties : Build (Option String × Option String) := do
  match ← anchor? with
  | some anchor => return (some anchor, ← tag?)
  | none =>
    let tag ← tag?
    return (← if tag.isSome then anchor? else pure none, tag)

/-- Notes an anchor whose node follows. -/
def openAnchor (name : String) : Build Unit := do
  if (← get).anchors.any (·.1 = name) then throw (.duplicateAnchor name)
  modify fun b => { b with anchors := (name, none) :: b.anchors }

/-- Says what an anchor names. -/
def closeAnchor (name : String) (node : Node) : Build Unit :=
  modify fun b => { b with anchors := (name, some node) :: b.anchors.filter (·.1 ≠ name) }

def aliased (name : String) : Build Node := do
  match (← get).anchors.find? (·.1 = name) with
  | some (_, some node) => return node
  | some (_, none) => throw .tooDeep
  | none => throw (.undefinedAlias name)

/-- The tag of a scalar; the tag `!` asks for the form to decide, also in quotes. -/
def scalarTag (tag : Option String) (plain : Bool) (text : String) : Tag :=
  match tag with
  | none => if plain then Tag.ofPlain text else .text
  | some "!" => Tag.ofPlain text
  | some name => Tag.ofName name

/-- The tag of a collection. -/
def collectionTag (tag : Option String) (default : Tag) : Tag :=
  match tag with
  | none => default
  | some "!" => default
  | some name => Tag.ofName name

/-! ### Nodes -/

mutual

/-- A node; `block` says whether block collections may stand here. -/
def node : (fuel : Nat) → (block indentless : Bool) → Build Node
  | 0, _, _ => throw .tooDeep
  | fuel + 1, block, indentless => do
    match ← peek with
    | some (.alias name) =>
      advance
      aliased name
    | _ =>
      let (anchor, tag) ← properties
      anchor.forM openAnchor
      let node ← content fuel block indentless tag (anchor.isSome || tag.isSome)
      anchor.forM (closeAnchor · node)
      return node

/-- A node without its properties; where there are some, it may be left out. -/
def content : (fuel : Nat) → (block indentless : Bool) → (tag : Option String) →
    (optional : Bool) → Build Node
  | 0, _, _, _, _ => throw .tooDeep
  | fuel + 1, block, indentless, tag, optional => do
    let asSequence := collectionTag tag .sequence
    let asMapping := collectionTag tag .mapping
    let next ← peek
    let id ← here
    match next with
    | some (.scalar text plain) =>
      advance
      return .scalar (scalarTag tag plain text) text
    | some .openSequence =>
      advance
      return .sequence asSequence (← flowItems fuel true)
    | some .openMapping =>
      advance
      return .mapping id asMapping (← flowEntries fuel true)
    | _ =>
      if next = some .entry && indentless then
        return .sequence asSequence (← indentlessItems fuel)
      else if next = some .blockSequence && block then
        advance
        return .sequence asSequence (← blockItems fuel)
      else if next = some .blockMapping && block then
        advance
        return .mapping id asMapping (← blockEntries fuel)
      else if optional then return .scalar (scalarTag tag true "") ""
      else throw .missingContent

/-- A node, or nothing in front of one of the given tokens. -/
def optionalNode : (fuel : Nat) → (block indentless : Bool) → List Token → Build Node
  | 0, _, _, _ => throw .tooDeep
  | fuel + 1, block, indentless, ends => do
    if ← nextIs ends then return nothing else node fuel block indentless

/-- The value of an entry, if a colon announces one. -/
def entryValue : (fuel : Nat) → (block : Bool) → List Token → Build Node
  | 0, _, _ => throw .tooDeep
  | fuel + 1, block, ends => do
    if ← take .value then optionalNode fuel block block ends else return nothing

/-- The items of a block sequence, up to its end. -/
def blockItems : (fuel : Nat) → Build (List Node)
  | 0 => throw .tooDeep
  | fuel + 1 => do
    if ← take .entry then
      let item ← optionalNode fuel true false [.entry, .blockEnd]
      return item :: (← blockItems fuel)
    else if ← take .blockEnd then return []
    else throw .missingBlockEnd

/-- The items of a sequence that is not indented more than the mapping that holds it. -/
def indentlessItems : (fuel : Nat) → Build (List Node)
  | 0 => throw .tooDeep
  | fuel + 1 => do
    if ← take .entry then
      let item ← optionalNode fuel true false [.entry, .key, .value, .blockEnd]
      return item :: (← indentlessItems fuel)
    else return []

/-- The entries of a block mapping, up to its end. -/
def blockEntries : (fuel : Nat) → Build (List (Node × Node))
  | 0 => throw .tooDeep
  | fuel + 1 => do
    let ends : List Token := [.key, .value, .blockEnd]
    if ← take .key then
      let key ← optionalNode fuel true true ends
      let value ← entryValue fuel true ends
      return (key, value) :: (← blockEntries fuel)
    else if ← take .blockEnd then return []
    else throw .missingBlockEnd

/-- The items of a flow sequence, up to its end; a single entry is a mapping. -/
def flowItems : (fuel : Nat) → (first : Bool) → Build (List Node)
  | 0, _ => throw .tooDeep
  | fuel + 1, first => do
    if ← take .closeSequence then return []
    if !first then
      if !(← take .comma) then throw .missingComma
    let id ← here
    if ← take .key then
      let key ← optionalNode fuel false false [.value, .comma, .closeSequence]
      let value ← entryValue fuel false [.comma, .closeSequence]
      return .mapping id .mapping [(key, value)] :: (← flowItems fuel false)
    else if ← take .closeSequence then return []
    else
      let item ← node fuel false false
      return item :: (← flowItems fuel false)

/-- The entries of a flow mapping, up to its end; one without a colon has no value. -/
def flowEntries : (fuel : Nat) → (first : Bool) → Build (List (Node × Node))
  | 0, _ => throw .tooDeep
  | fuel + 1, first => do
    if ← take .closeMapping then return []
    if !first then
      if !(← take .comma) then throw .missingComma
    if ← take .key then
      let key ← optionalNode fuel false false [.value, .comma, .closeMapping]
      let value ← entryValue fuel false [.comma, .closeMapping]
      return (key, value) :: (← flowEntries fuel false)
    else if ← take .closeMapping then return []
    else
      let key ← node fuel false false
      return (key, nothing) :: (← flowEntries fuel false)

end

/-! ### Documents -/

/-- The directives in front of a document; `version` says whether one was stated. -/
def directives : (fuel : Nat) → (version : Bool) → Build Unit
  | 0, _ => throw .tooDeep
  | fuel + 1, version => do
    match ← peek with
    | some (.version major) =>
      if version then throw .duplicateVersion
      if major ≠ 1 then throw .incompatibleVersion
      advance
      directives fuel true
    | some (.handle name start) =>
      if (← get).handles.any (·.1 = name) then throw .duplicateHandle
      advance
      modify fun b => { b with handles := (name, start) :: b.handles }
      directives fuel version
    | some .reserved =>
      advance
      directives fuel version
    | _ => return

/-- Whether a directive comes next. -/
def atDirective : Build Bool := do
  match ← peek with
  | some (.version _) => return true
  | some (.handle _ _) => return true
  | some .reserved => return true
  | _ => return false

/-- The only document of a text, or nothing. -/
def document (fuel : Nat) : Build (Option Node) := do
  if (← peek) = none then return none
  let explicit ← if ← atDirective then pure true else nextIs [.documentStart]
  let root ←
    if explicit then
      directives fuel false
      modify fun b => { b with handles := b.handles ++ defaultHandles }
      if !(← take .documentStart) then throw .missingDocumentStart
      let empty ← if ← atDirective then pure true else nextIs [.documentStart, .documentEnd]
      if empty || (← peek) = none then pure nothing else node fuel true false
    else
      modify fun b => { b with handles := defaultHandles }
      node fuel true false
  modify fun b => { b with tokens := b.tokens.dropWhile (· = .documentEnd) }
  if (← peek) = none then return some root else throw .secondDocument

end Build

/-- The node that a text stands for, if it holds a document. -/
def Node.ofText? (text : List Char) : Except ReadError (Option Node) := do
  let tokens ← Token.ofText text
  let (node, _) ← ((Build.document (4 * tokens.length + 4)).run ⟨tokens, [], []⟩).mapError .fault
  return node

end ExcludeRules.Yaml
