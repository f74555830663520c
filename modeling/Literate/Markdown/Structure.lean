import Literate.Markdown.Definition
import Literate.Markdown.Prose
import Literate.Markdown.Verbatim

/-! The block structure of a markdown document. Blocks are read one after the other. The
open containers form a stack of frames, and a line closes those that it is not in. Running
text is not read here: it stays as it is written. -/

namespace Literate.Markdown

open Text

/-- An open container. Its blocks, or the items of a list, are in reverse. -/
structure Frame where
  container : Container
  blocks : List (Block Passage) := []
  items : List (List (Block Passage)) := []
  /-- A blank line stands between two blocks of an item, or between two items. -/
  loose : Bool := false

/-- What has been read of a document. -/
structure State where
  /-- Open containers, the innermost first. -/
  frames : List Frame := []
  /-- Blocks outside all containers, in reverse. -/
  blocks : List (Block Passage) := []
  defined : Definitions := []
  /-- A blank line has been read, and no block after it. -/
  blank : Bool := false
  /-- The last item began with a blank line, and no block has been read after that. -/
  emptyItem : Bool := false

namespace State

def containers (state : State) : List Container := (state.frames.map (·.container)).reverse

def addBlock (state : State) (block : Block Passage) : State :=
  match state.frames with
  | [] => { state with blocks := block :: state.blocks }
  | frame :: outer => { state with frames := { frame with blocks := block :: frame.blocks } :: outer }

def addItem (state : State) (item : List (Block Passage)) : State :=
  match state.frames with
  | [] => state
  | frame :: outer => { state with frames := { frame with items := item :: frame.items } :: outer }

/-- Closes the innermost container, which becomes a block or an item of the next one. -/
def close (state : State) : State :=
  match state.frames with
  | [] => state
  | frame :: outer =>
    let left := { state with frames := outer }
    match frame.container with
    | .quote => left.addBlock (.quote frame.blocks.reverse)
    | .item _ => left.addItem frame.blocks.reverse
    | .list marker =>
      { left.addBlock (.list marker.start (!frame.loose) frame.items.reverse) with
        emptyItem := state.emptyItem && frame.loose }

/-- Closes containers until some number of them is left. -/
def closeTo (count : Nat) : (fuel : Nat) → State → State
  | 0, state => state
  | fuel + 1, state => if count < state.frames.length then closeTo count fuel state.close else state

def innermost? (state : State) : Option Container := state.frames.head?.map (·.container)

/-- Marks the list some number of containers outwards as loose if it is one. -/
def loosen (outwards : Nat) (state : State) : State :=
  let loosened (frame : Frame) : Frame := match frame.container with
    | .list _ => { frame with loose := true }
    | _ => frame
  { state with frames := state.frames.modify outwards loosened }

/-- An item that began with a blank line ends with the next one. -/
def leaveEmptyItem (state : State) : State :=
  let left := match state.innermost? with
    | some (.item _) => if state.emptyItem && state.blank then state.close else state
    | _ => state
  { left with emptyItem := false }

/-- Gets ready for a block: a list holds items only, so it ends here, and a blank line in
front of the block makes the list around it loose. -/
def makeRoom (state : State) : State :=
  let inside := state.leaveEmptyItem
  let left := match inside.innermost? with
    | some (.list _) => inside.close
    | _ => inside
  { (if left.blank then left.loosen 1 else left) with blank := false }

def push (state : State) (container : Container) : State :=
  { state with frames := { container } :: state.frames }

/-- Opens an item, in the list that is open or in a new one. -/
def openItem (state : State) (marker : Marker) (columns : Nat) : State :=
  let inside := state.leaveEmptyItem
  let another : State := { inside.makeRoom.push (.list marker) with blank := false }
  let list := match inside.innermost? with
    | some (.list current) =>
      if current.symbol = marker.symbol then { (if inside.blank then inside.loosen 0 else inside) with blank := false }
      else another
    | _ => another
  list.push (.item columns)

/-- Opens the containers that begin at a place, and gives the place inside them. An item with
nothing behind its marker ends the line. -/
def openContainers : (fuel : Nat) → State → Place → State × Place × Bool
  | 0, state, place => (state, place, false)
  | fuel + 1, state, place =>
    if 4 ≤ place.indent then (state, place, false)
    else
      match item? place with
      | some (marker, columns, inside) =>
        let opened := state.openItem marker columns
        if inside.isBlank then ({ opened with emptyItem := true }, inside, true)
        else openContainers fuel opened inside
      | none =>
        match quoteMark? place.skipAll with
        | some inside => openContainers fuel (state.makeRoom.push .quote) inside
        | none => (state, place, false)

/-- Reads a blank line. The lines of an item that began with one need no indentation. -/
def blankLine (state : State) : State :=
  match state.frames with
  | { container := .quote, .. } :: _ => state
  | frame :: outer =>
    let changed := match frame.container with
      | .item _ => if state.emptyItem then { frame with container := .item 0 } else frame
      | _ => frame
    { state with frames := changed :: outer, blank := true }
  | [] => { state with blank := true }

/-- Reads code that is indented by four columns. -/
def indentedCode (state : State) (place : Place) : State × Text :=
  let ready := state.makeRoom
  let inner := place.skip 4
  let (copied, rest) := indentedLines ready.containers inner.rest.length inner.pad inner.rest
  let kept := (copied.reverse.dropWhile (·.2)).reverse
  let read : State := { ready with blank := copied.getLast?.any (·.2) }
  (read.addBlock (.code [] (kept.flatMap (·.1))), rest)

/-- Reads a paragraph, or the table or heading that it turns out to be. -/
def paragraph (state : State) (text : Text) : State × Text :=
  let containers := state.containers
  match tableHead? containers text with
  | some (columns, body) =>
    let (rows, rest) := rows containers columns body.length body
    (state.addBlock (.table columns (fitRow columns (toLineEnd text)) rows), rest)
  | none =>
    let (lines, level, rest) := paragraphLines containers (text.length + 1) [] text
    let content := Passage.ofLines lines
    (state.addBlock (level.elim (.paragraph content) (.heading · content)), rest)

/-- Reads definitions and what follows them. As a definition could be the start of a paragraph,
the next line belongs to the same block unless it would end a paragraph. -/
def definitionsFrom : (fuel : Nat) → State → Text → State × Text
  | 0, state, text => (state, text)
  | fuel + 1, state, text =>
    match definition? state.containers text with
    | none => state.paragraph text
    | some (found, rest) =>
      let changed := { state with defined := state.defined ++ [found] }
      let (count, place) := enter state.containers { rest }
      let inAll : Bool := count = state.frames.length
      let start := place.skipAll
      if start.atEnd || (place.indent ≤ 3 && interruptsIn state.containers inAll start.rest) then (changed, rest)
      else definitionsFrom fuel changed start.rest

/-- Reads the block that begins on a line that is not blank. -/
def leaf (state : State) (place : Place) : State × Text :=
  let text := place.skipAll.rest
  let ready := state.makeRoom
  let containers := ready.containers
  let html (copied : Text × Text) : State × Text := (ready.addBlock (.html copied.1), copied.2)
  if 4 ≤ place.indent then state.indentedCode place
  else
    match verbatimEnd? text with
    | some closing => html (htmlUntil containers closing text.length place.indent text)
    | none =>
      if opensBlockTag text || loneTag text then html (htmlUntilBlank containers text.length place.indent text)
      else
        match rule? text with
        | some rest => (ready.addBlock .rule, rest)
        | none =>
          match headingLevel? text with
          | some level =>
            (ready.addBlock (.heading level { text := headingText ((toLineEnd text).drop level) }), nextLine text)
          | none =>
            match fence? text with
            | some fence =>
              let (line, next) := copiedLine (text.drop fence.length)
              let (code, rest) := fencedLines containers fence place.indent (next.length + 1) next
              (ready.addBlock (.code (fenceLanguage line) code), rest)
            | none => ready.definitionsFrom (text.length + 1) text

/-- Reads the next block, or a line that has none. -/
def block (state : State) (text : Text) : State × Text :=
  let (count, place) := enter state.containers { rest := text }
  let inside := state.closeTo count state.frames.length
  match openContainers (text.length + 1) inside place with
  | (opened, last, true) => (opened, (blankLine? last.rest).getD [])
  | (opened, last, false) =>
    match blankLine? last.rest with
    | some rest => (opened.blankLine, rest)
    | none => opened.leaf last

/-- Reads blocks to the end of the document. -/
def readAll (fuel : Nat) (state : State) (text : Text) : State :=
  match fuel, text with
  | 0, _ | _, [] => state
  | fuel + 1, text =>
    let (next, rest) := state.block text
    readAll fuel next rest

end State

/-- The blocks of a document with their running text as it is written, and the link
definitions in it. -/
def outline (document : Text) : List (Block Passage) × Definitions :=
  let state := State.readAll document.length {} document
  let closed := state.closeTo 0 state.frames.length
  (closed.blocks.reverse, closed.defined)

end Literate.Markdown
