import FormScript.Yaml.Node
import FormScript.Yaml.Stream

/-!
# YAML documents

The node that the tokens of a document form. Every reader takes the tokens from a place on and returns
what it read and the tokens after it.
-/

namespace FormScript.Yaml

/-- What tag handles stand for. -/
abbrev TagHandles := List (String × Tag)

namespace TagHandles

/-- Where the tags of the standard types begin. -/
def standardLead : Tag := .ofAscii "tag:yaml.org,2002:"

/-- The handles that need no directive. -/
def standard : TagHandles := [("!", .ofAscii "!"), ("!!", standardLead)]

/-- The tag of a handle and a suffix. -/
def resolve? (handles : TagHandles) (handle : String) (suffix : Tag) : Option Tag :=
  if handle.isEmpty then some suffix else (handles.lookup handle).map (· ++ suffix)

end TagHandles

namespace Document

/-- Where a node stands: what may stand there, and which tokens show that it is left out. -/
inductive Place where
  /-- The node of a document that has a mark of its own. -/
  | marked
  /-- The node of a document without such a mark. -/
  | bare
  | blockItem
  /-- An item of a sequence that is not indented. -/
  | looseItem
  | blockKey
  | blockValue
  | flowItem
  /-- After the mark of a key, in a flow collection with this closing mark. -/
  | flowKey (closing : Token)
  /-- After the colon, in a flow collection with this closing mark. -/
  | flowValue (closing : Token)
  deriving DecidableEq, Repr

namespace Place

/-- A block collection may stand there. -/
def takesBlock : Place → Bool
  | flowItem | flowKey _ | flowValue _ => false
  | _ => true

/-- A sequence that is not indented may stand there. -/
def takesLoose : Place → Bool
  | blockKey | blockValue => true
  | _ => false

/-- A token between documents. -/
def isBetween : Token → Bool
  | .versionDirective _ _ | .tagDirective _ _ | .documentStart | .documentEnd => true
  | _ => false

/-- The next token shows that the node is left out. -/
def isOmitted : Place → List Token → Bool
  | marked, tokens => tokens.head?.all isBetween
  | bare, _ | flowItem, _ | _, [] => false
  | blockItem, t :: _ => t = .blockEntry || t = .blockEnd
  | looseItem, t :: _ => t = .blockEntry || t = .key || t = .value || t = .blockEnd
  | blockKey, t :: _ | blockValue, t :: _ => t = .key || t = .value || t = .blockEnd
  | flowKey closing, t :: _ => t = .value || t = .flowEntry || t = closing
  | flowValue closing, t :: _ => t = .flowEntry || t = closing

end Place

/-- What follows properties that stand for themselves where no node comes next. -/
def leftOut? (p : Properties String) (tokens : List Token) : Option (Node String × List Token) :=
  if p.isSome then some (.omitted p, tokens) else none

mutual

/-- The node that comes next. -/
def node? (handles : TagHandles) (place : Place) (tokens : List Token) :
    Option (Node String × List Token) :=
  match tokens with
  | .reference name :: rest => some (.reference name, rest)
  | .anchor name :: .tag handle suffix :: rest | .tag handle suffix :: .anchor name :: rest =>
    match handles.resolve? handle suffix with
    | some tag => content? handles place ⟨some name, some tag⟩ rest
    | none => none
  | .anchor name :: rest => content? handles place ⟨some name, none⟩ rest
  | .tag handle suffix :: rest =>
    match handles.resolve? handle suffix with
    | some tag => content? handles place ⟨none, some tag⟩ rest
    | none => none
  | tokens => content? handles place .none tokens
termination_by (tokens.length, 2)

/-- The node with these properties that comes next. -/
def content? (handles : TagHandles) (place : Place) (p : Properties String)
    (tokens : List Token) : Option (Node String × List Token) :=
  match tokens with
  | .scalar style text :: rest => some (.scalar p style text, rest)
  | .flowSequenceStart :: rest => flowItems? handles p true [] rest
  | .flowMappingStart :: rest => flowPairs? handles p true [] rest
  | .blockSequenceStart :: rest =>
    if place.takesBlock then blockItems? handles p [] rest else leftOut? p tokens
  | .blockMappingStart :: rest =>
    if place.takesBlock then blockPairs? handles p [] rest else leftOut? p tokens
  | .blockEntry :: rest =>
    if place.takesLoose then looseItems? handles p [] (.blockEntry :: rest)
    else leftOut? p tokens
  | tokens => leftOut? p tokens
termination_by (tokens.length, 1)

/-- The node that comes next, or an empty one where it is left out. -/
def part? (handles : TagHandles) (place : Place) (tokens : List Token) :
    Option (Node String × List Token) :=
  if place.isOmitted tokens then some (.empty, tokens) else node? handles place tokens
termination_by (tokens.length, 3)

/-- The items of a block sequence from a hyphen on; `done` has those before, last first. -/
def blockItems? (handles : TagHandles) (p : Properties String) (done : List (Node String))
    (tokens : List Token) : Option (Node String × List Token) :=
  match tokens with
  | .blockEntry :: rest =>
    match part? handles .blockItem rest with
    | some (item, next) =>
      if next.length ≤ rest.length then blockItems? handles p (item :: done) next else none
    | none => none
  | .blockEnd :: rest => some (.sequence p done.reverse, rest)
  | _ => none
termination_by (tokens.length, 0)

/-- The items of a sequence that is not indented. -/
def looseItems? (handles : TagHandles) (p : Properties String) (done : List (Node String))
    (tokens : List Token) : Option (Node String × List Token) :=
  match tokens with
  | .blockEntry :: rest =>
    match part? handles .looseItem rest with
    | some (item, next) =>
      if next.length ≤ rest.length then looseItems? handles p (item :: done) next else none
    | none => none
  | tokens => some (.sequence p done.reverse, tokens)
termination_by (tokens.length, 0)

/-- The pairs of a block mapping. -/
def blockPairs? (handles : TagHandles) (p : Properties String)
    (done : List (Node String × Node String)) (tokens : List Token) :
    Option (Node String × List Token) :=
  match tokens with
  | .key :: rest =>
    match part? handles .blockKey rest with
    | some (key, .value :: afterKey) =>
      if afterKey.length < rest.length then
        match part? handles .blockValue afterKey with
        | some (value, next) =>
          if next.length ≤ rest.length then blockPairs? handles p ((key, value) :: done) next
          else none
        | none => none
      else none
    | some (key, next) =>
      if next.length ≤ rest.length then blockPairs? handles p ((key, .empty) :: done) next
      else none
    | none => none
  | .blockEnd :: rest => some (.mapping p done.reverse, rest)
  | _ => none
termination_by (tokens.length, 0)

/-- The items of a flow sequence from a comma on; before the first item there is none. -/
def flowItems? (handles : TagHandles) (p : Properties String) (first : Bool)
    (done : List (Node String)) (tokens : List Token) : Option (Node String × List Token) :=
  match tokens with
  | .flowSequenceEnd :: rest => some (.sequence p done.reverse, rest)
  | .flowEntry :: rest => if first then none else flowItem? handles p done rest
  | tokens => if first then flowItem? handles p done tokens else none
termination_by (tokens.length, 4)

/-- The items of a flow sequence from an item on. A key mark makes an item a mapping of one pair; where
that key is left out, the token after the mark is passed over. -/
def flowItem? (handles : TagHandles) (p : Properties String) (done : List (Node String))
    (tokens : List Token) : Option (Node String × List Token) :=
  match tokens with
  | .flowSequenceEnd :: rest => some (.sequence p done.reverse, rest)
  | .key :: rest =>
    let key :=
      if Place.isOmitted (.flowKey .flowSequenceEnd) rest then some (.empty, rest.drop 1)
      else node? handles (.flowKey .flowSequenceEnd) rest
    match key with
    | some (key, .value :: afterKey) =>
      if afterKey.length < rest.length then
        match part? handles (.flowValue .flowSequenceEnd) afterKey with
        | some (value, next) =>
          if next.length ≤ rest.length then
            flowItems? handles p false (.mapping .none [(key, value)] :: done) next
          else none
        | none => none
      else none
    | some (key, next) =>
      if next.length ≤ rest.length then
        flowItems? handles p false (.mapping .none [(key, .empty)] :: done) next
      else none
    | none => none
  | tokens =>
    match node? handles .flowItem tokens with
    | some (item, next) =>
      if next.length < tokens.length then flowItems? handles p false (item :: done) next else none
    | none => none
termination_by (tokens.length, 3)

/-- The pairs of a flow mapping from a comma on; before the first pair there is none. -/
def flowPairs? (handles : TagHandles) (p : Properties String) (first : Bool)
    (done : List (Node String × Node String)) (tokens : List Token) :
    Option (Node String × List Token) :=
  match tokens with
  | .flowMappingEnd :: rest => some (.mapping p done.reverse, rest)
  | .flowEntry :: rest => if first then none else flowPair? handles p done rest
  | tokens => if first then flowPair? handles p done tokens else none
termination_by (tokens.length, 4)

/-- The pairs of a flow mapping from a pair on. Without a key mark there is no value. -/
def flowPair? (handles : TagHandles) (p : Properties String)
    (done : List (Node String × Node String)) (tokens : List Token) :
    Option (Node String × List Token) :=
  match tokens with
  | .flowMappingEnd :: rest => some (.mapping p done.reverse, rest)
  | .key :: rest =>
    match part? handles (.flowKey .flowMappingEnd) rest with
    | some (key, .value :: afterKey) =>
      if afterKey.length < rest.length then
        match part? handles (.flowValue .flowMappingEnd) afterKey with
        | some (value, next) =>
          if next.length ≤ rest.length then
            flowPairs? handles p false ((key, value) :: done) next
          else none
        | none => none
      else none
    | some (key, next) =>
      if next.length ≤ rest.length then flowPairs? handles p false ((key, .empty) :: done) next
      else none
    | none => none
  | tokens =>
    match node? handles .flowItem tokens with
    | some (key, next) =>
      if next.length < tokens.length then flowPairs? handles p false ((key, .empty) :: done) next
      else none
    | none => none
termination_by (tokens.length, 3)

end

/-! ## Documents in a stream -/

/-- The directives of a document, and the tokens after them. -/
def spanDirectives : List Token → List Token × List Token
  | .versionDirective major minor :: rest =>
    let (directives, rest) := spanDirectives rest
    (.versionDirective major minor :: directives, rest)
  | .tagDirective handle lead :: rest =>
    let (directives, rest) := spanDirectives rest
    (.tagDirective handle lead :: directives, rest)
  | tokens => ([], tokens)

/-- The versions that directives name. -/
def versions (directives : List Token) : List (Nat × Nat) :=
  directives.filterMap fun
    | .versionDirective major minor => some (major, minor)
    | _ => none

/-- The tag handles that directives name. -/
def handles (directives : List Token) : TagHandles :=
  directives.filterMap fun
    | .tagDirective handle lead => some (handle, lead)
    | _ => none

/-- The handles of a document with these directives: at most one version, 1.1 or 1.2, and no handle
twice. -/
def handlesOf? (directives : List Token) : Option TagHandles :=
  let known := match versions directives with
    | [] => true
    | [version] => version = (1, 1) || version = (1, 2)
    | _ => false
  let names := (handles directives).map (·.1)
  if known && decide names.Nodup then some (handles directives ++ TagHandles.standard) else none

/-- The node of the first document, and the tokens after it. -/
def first? (tokens : List Token) : Option (Node String × List Token) :=
  match spanDirectives tokens with
  | (directives, .documentStart :: rest) => do
    part? (← handlesOf? directives) .marked rest
  | ([], tokens) => node? TagHandles.standard .bare tokens
  | (_ :: _, _) => none

/-- The node of the only document. -/
def only? (tokens : List Token) : Option (Node String) := do
  let (node, rest) ← first? tokens
  if (rest.dropWhile (· = .documentEnd)).isEmpty then some node else none

end Document

/-- What a YAML text holds. -/
inductive Document where
  /-- Nothing but blanks and comments. -/
  | none
  | node (root : Node Nat)

/-- What a YAML text with at most one document holds. -/
def Document.read (text : String) : Option Document := do
  let tokens ← tokens? text.toList
  if tokens.isEmpty then some .none
  else
    let (root, _) ← (← Document.only? tokens).link ∅
    some (.node root)

end FormScript.Yaml
