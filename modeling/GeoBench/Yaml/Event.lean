import GeoBench.Yaml.Fault
import GeoBench.Yaml.Tokenizer

/-!
# The structure of a text

The events of a data file: where its documents, sequences and mappings begin and end, and the
scalars and references between. They follow from the tokens by a grammar that looks one token ahead;
what is still expected is kept as a stack of **goals**.

A value that is left out counts as an empty plain scalar.

## Goals

The grammar is kept as a stack, and the goal at the top looks at the next token. It makes an event
or none, takes the token or leaves it, and puts the goals in its place that have to be met next. No
goal looks back, so what a token means depends on the stack alone. A token asks for few steps, and a
run is given eight for each of them and some more.

## What is not told by tokens

A tag is short for a longer one by the handles that the directives of a document declare, and the
standard ones besides. The full tag stands in the event, so nothing later has to know the handles.
An anchor is an event's own matter; to what it belongs is found out when the document is put
together.
-/

namespace GeoBench.Yaml

/-- The name and the tag of a value. -/
structure Properties where
  anchor? : Option String := none
  tag? : Option String := none
  deriving DecidableEq, Repr

/-- An **event**. -/
inductive Event where
  | streamEnd
  | documentStart
  | documentEnd
  | reference (name : String)
  | scalar (p : Properties) (text : String) (style : ScalarStyle)
  | sequenceStart (p : Properties)
  | sequenceEnd
  | mappingStart (p : Properties)
  | mappingEnd
  deriving DecidableEq, Repr

/-- The scalar that stands for a value left out. -/
def Event.missing : Event :=
  .scalar {} "" .plain

/-- What is **expected** next. -/
inductive Goal where
  /-- A document; only the first one may do without its mark. -/
  | document (first : Bool)
  /-- The content of a document behind its mark. -/
  | content
  /-- The end of a document. -/
  | documentEnd
  /-- A value; block collections may be allowed, and so may a sequence at the indentation of the
  mapping around it. -/
  | node (block indentless : Bool)
  /-- Members of a block sequence. -/
  | entries
  /-- Members of a sequence at the indentation of the mapping around it. -/
  | indentlessEntries
  /-- A key of a block mapping, or its end. -/
  | key
  /-- The value behind a key of a block mapping. -/
  | value
  /-- Members of a sequence in brackets. -/
  | flowEntries (first : Bool)
  /-- The key of a single pair inside a sequence in brackets. -/
  | pairKey
  /-- The value of such a pair. -/
  | pairValue
  /-- The end of such a pair. -/
  | pairEnd
  /-- A key of a mapping in braces, or its end. -/
  | flowKey (first : Bool)
  /-- The value behind a key of a mapping in braces. -/
  | flowValue
  /-- The value of a member of a mapping in braces that has no key of its own. -/
  | noValue
  deriving DecidableEq, Repr

/-- The short forms of tags: a handle and what it stands for. -/
abbrev Handles := List (String × String)

/-- The short forms that every document has. -/
def standardHandles : Handles :=
  [("!", "!"), ("!!", "tag:yaml.org,2002:")]

/-- What is known while a text is read: the goals, the tokens to come, and the short forms. -/
structure Parse where
  goals : List Goal
  tokens : List Token
  handles : Handles := standardHandles

namespace Parse

/-- A step of a parse: the events that it gives and the parse after it. -/
abbrev Step := Except Fault (List Event × Parse)

/-- The directives before a document, and the tokens behind them. -/
def directives : Bool → Handles → List Token → Except Fault (Handles × List Token)
  | versioned, handles, .version major minor :: ts =>
    if versioned || major != 1 || (minor != 1 && minor != 2) then .error .grammar
    else directives true handles ts
  | versioned, handles, .tagDirective handle lead :: ts =>
    if handles.any fun h => h.1 == handle then .error .grammar
    else directives versioned (handles ++ [(handle, lead)]) ts
  | _, handles, ts => .ok (handles, ts)

/-- The full form of a tag. -/
def fullTag (handles : Handles) (handle suffix : String) : Except Fault String :=
  if handle = "" then .ok suffix
  else match handles.lookup handle with
    | some lead => .ok (lead ++ suffix)
    | none => .error .grammar

/-- The properties before a value, in either order, and the tokens behind them. -/
def properties (handles : Handles) (ts : List Token) : Except Fault (Properties × List Token) := do
  match ts with
  | .anchor a :: .tag h s :: ts => return ({ anchor? := a, tag? := ← fullTag handles h s }, ts)
  | .tag h s :: .anchor a :: ts => return ({ anchor? := a, tag? := ← fullTag handles h s }, ts)
  | .anchor a :: ts => return ({ anchor? := a }, ts)
  | .tag h s :: ts => return ({ tag? := ← fullTag handles h s }, ts)
  | ts => return ({}, ts)

/-- A value. -/
def node (block indentless : Bool) (p : Parse) : Step :=
  match p.tokens with
  | .alias name :: ts => .ok ([.reference name], { p with tokens := ts })
  | tokens => do
    let (props, ts) ← properties p.handles tokens
    let into (e : Event) (goal : Goal) (ts : List Token) : Step :=
      .ok ([e], { p with tokens := ts, goals := goal :: p.goals })
    let bare : Step :=
      if props = {} then .error .grammar
      else .ok ([.scalar props "" .plain], { p with tokens := ts })
    match ts with
    | [] => .error .grammar
    | t :: rest =>
      match t with
      | .blockEntry =>
        if indentless then into (.sequenceStart props) .indentlessEntries ts else bare
      | .scalar text style => .ok ([.scalar props text style], { p with tokens := rest })
      | .flowSequenceStart => into (.sequenceStart props) (.flowEntries true) rest
      | .flowMappingStart => into (.mappingStart props) (.flowKey true) rest
      | .blockSequenceStart => if block then into (.sequenceStart props) .entries rest else bare
      | .blockMappingStart => if block then into (.mappingStart props) .key rest else bare
      | _ => bare

/-- A value and then a goal, or the goal alone behind a missing value when one of some tokens
comes. -/
def nodeUnless (stop : Token → Bool) (block indentless : Bool) (goal : Goal) (p : Parse) : Step :=
  match p.tokens with
  | [] => .error .grammar
  | t :: _ =>
    if stop t then .ok ([.missing], { p with goals := goal :: p.goals })
    else node block indentless { p with goals := goal :: p.goals }

/-- The end of a collection. -/
def close (e : Event) (ts : List Token) (p : Parse) : Step :=
  .ok ([e], { p with tokens := ts })

/-- The start of a document, or the end of the text. -/
def document (first : Bool) (p : Parse) : Step :=
  let tokens := if first then p.tokens else p.tokens.dropWhile (· == .documentEnd)
  let marked : Step := do
    let (handles, ts) ← directives false [] tokens
    match ts with
    | .documentStart :: ts =>
      return ([.documentStart],
        { tokens := ts, goals := [.content, .documentEnd], handles := handles ++ standardHandles })
    | _ => .error .grammar
  match tokens with
  | [] => .error .grammar
  | .streamEnd :: _ => .ok ([.streamEnd], { p with goals := [], tokens := [] })
  | .version _ _ :: _ => marked
  | .tagDirective _ _ :: _ => marked
  | .documentStart :: _ => marked
  | _ =>
    if first then
      .ok ([.documentStart], { tokens, goals := [.node true false, .documentEnd] })
    else .error .grammar

/-- Whether a token ends the content of a document. -/
def endsContent : Token → Bool
  | .version _ _ | .tagDirective _ _ | .documentStart | .documentEnd | .streamEnd => true
  | _ => false

/-- Whether a token ends a value of a block mapping. -/
def endsBlockValue : Token → Bool
  | .key | .value | .blockEnd => true
  | _ => false

/-- One step towards a goal; the other goals are those of the parse. -/
def step (goal : Goal) (p : Parse) : Step :=
  match goal with
  | .document first => document first p
  | .content =>
    match p.tokens with
    | [] => .error .grammar
    | t :: _ => if endsContent t then .ok ([.missing], p) else node true false p
  | .documentEnd =>
    match p.tokens with
    | [] => .error .grammar
    | .documentEnd :: ts =>
      .ok ([.documentEnd], { goals := [.document false], tokens := ts })
    | ts => .ok ([.documentEnd], { goals := [.document false], tokens := ts })
  | .node block indentless => node block indentless p
  | .entries =>
    match p.tokens with
    | .blockEntry :: ts =>
      nodeUnless (fun t => t == .blockEntry || t == .blockEnd) true false .entries
        { p with tokens := ts }
    | .blockEnd :: ts => close .sequenceEnd ts p
    | _ => .error .grammar
  | .indentlessEntries =>
    match p.tokens with
    | [] => .error .grammar
    | .blockEntry :: ts =>
      nodeUnless (fun t => t == .blockEntry || endsBlockValue t) true false .indentlessEntries
        { p with tokens := ts }
    | ts => close .sequenceEnd ts p
  | .key =>
    match p.tokens with
    | .key :: ts => nodeUnless endsBlockValue true true .value { p with tokens := ts }
    | .blockEnd :: ts => close .mappingEnd ts p
    | _ => .error .grammar
  | .value =>
    match p.tokens with
    | [] => .error .grammar
    | .value :: ts => nodeUnless endsBlockValue true true .key { p with tokens := ts }
    | _ => .ok ([.missing], { p with goals := .key :: p.goals })
  | .flowEntries first =>
    let entry (ts : List Token) : Step :=
      match ts with
      | [] => .error .grammar
      | .flowSequenceEnd :: ts => close .sequenceEnd ts p
      | .key :: ts =>
        .ok ([.mappingStart {}],
          { p with tokens := ts, goals := .pairKey :: .flowEntries false :: p.goals })
      | ts => node false false { p with tokens := ts, goals := .flowEntries false :: p.goals }
    match p.tokens with
    | [] => .error .grammar
    | .flowSequenceEnd :: ts => close .sequenceEnd ts p
    | .flowEntry :: ts => if first then entry p.tokens else entry ts
    | ts => if first then entry ts else .error .grammar
  | .pairKey =>
    match p.tokens with
    | [] => .error .grammar
    | t :: ts =>
      -- a pair without a key swallows the token behind the place of the key
      if t == .value || t == .flowEntry || t == .flowSequenceEnd then
        .ok ([.missing], { p with tokens := ts, goals := .pairValue :: p.goals })
      else node false false { p with goals := .pairValue :: p.goals }
  | .pairValue =>
    match p.tokens with
    | [] => .error .grammar
    | .value :: ts =>
      nodeUnless (fun t => t == .flowEntry || t == .flowSequenceEnd) false false .pairEnd
        { p with tokens := ts }
    | _ => .ok ([.missing], { p with goals := .pairEnd :: p.goals })
  | .pairEnd => .ok ([.mappingEnd], p)
  | .flowKey first =>
    let key (ts : List Token) : Step :=
      match ts with
      | [] => .error .grammar
      | .flowMappingEnd :: ts => close .mappingEnd ts p
      | .key :: ts =>
        nodeUnless (fun t => t == .value || t == .flowEntry || t == .flowMappingEnd) false false
          .flowValue { p with tokens := ts }
      | ts => node false false { p with tokens := ts, goals := .noValue :: p.goals }
    match p.tokens with
    | [] => .error .grammar
    | .flowMappingEnd :: ts => close .mappingEnd ts p
    | .flowEntry :: ts => if first then key p.tokens else key ts
    | ts => if first then key ts else .error .grammar
  | .flowValue =>
    match p.tokens with
    | [] => .error .grammar
    | .value :: ts =>
      nodeUnless (fun t => t == .flowEntry || t == .flowMappingEnd) false false (.flowKey false)
        { p with tokens := ts }
    | _ => .ok ([.missing], { p with goals := .flowKey false :: p.goals })
  | .noValue =>
    match p.tokens with
    | [] => .error .grammar
    | _ => .ok ([.missing], { p with goals := .flowKey false :: p.goals })

/-- The events up to the end of the text or the first fault, which may lie behind the last token. -/
def run (behind? : Option Fault) : Nat → Parse → List Event × Option Fault
  | 0, _ => ([], some .grammar)
  | fuel + 1, p =>
    match p.goals with
    | [] => ([], none)
    | goal :: goals =>
      match step goal { p with goals } with
      | .error fault => ([], some (if p.tokens.isEmpty then behind?.getD fault else fault))
      | .ok (es, p') =>
        let (rest, fault?) := run behind? fuel p'
        (es ++ rest, fault?)

end Parse

/-- The **events** of a text, and the fault that came after them. -/
def Event.ofText (text : String) : List Event × Option Fault :=
  let scan := Scan.ofText text
  Parse.run scan.fault? (8 * scan.tokens.length + 16)
    { goals := [.document true], tokens := scan.tokens }

end GeoBench.Yaml
