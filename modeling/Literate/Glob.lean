import Literate.Text.Basic

/-! Glob patterns over relative paths. A pattern is a list of pieces, and each piece leads
from places in a text to the places that can be reached over it; wildcards and classes
never match a slash, except the one that stands for whole directories. -/

namespace Literate

namespace Glob

/-- A member of a character class: the characters from `low` to `high`. -/
structure Member where
  low : Char
  high : Char
deriving DecidableEq

inductive Piece where
  | literal (c : Char)
  /-- Any one character. -/
  | anyChar
  /-- Any number of characters. -/
  | anySequence
  /-- Any number of whole components, or all of the rest. -/
  | anyComponents
  /-- One character in the class, or outside it. -/
  | oneOf (negated : Bool) (members : List Member)
deriving DecidableEq

/-- The piece matches this one character. -/
def Piece.matchesChar : Piece → Char → Bool
  | literal expected, c => c = expected
  | oneOf negated members, c => c ≠ '/' && members.any (fun member => member.low ≤ c && c ≤ member.high) != negated
  | anyChar, c | anySequence, c | anyComponents, c => c ≠ '/'

/-- A set of places in a text: a flag for the place in front of each character, and one for
the end. -/
abbrev Places := List Bool

/-- The places in a set and those after a component goes on from one of them. `reached` says
that the first place can be reached from the left. -/
def withinComponent (reached : Bool) : Text → Places → Places
  | c :: text, place :: places => (reached || place) :: withinComponent ((reached || place) && c ≠ '/') text places
  | [], place :: _ => [reached || place]
  | _, [] => []

/-- The places in a set, and behind them all places after a slash and the end. `seen` says
that a place of the set is on the left, and `slash` that a slash is directly in front. -/
def afterComponents (seen slash : Bool) : Text → Places → Places
  | c :: text, place :: places =>
    (place || (seen && slash)) :: afterComponents (seen || place) (c = '/') text places
  | [], place :: _ => [place || seen]
  | _, [] => []

/-- The places that can be reached over a piece from a set of places. -/
def Piece.reach (piece : Piece) (text : Text) (places : Places) : Places :=
  match piece with
  | anySequence => withinComponent false text places
  | anyComponents => afterComponents false false text places
  | literal _ | anyChar | oneOf _ _ => false :: List.zipWith (fun c place => place && piece.matchesChar c) text places

/-- Some way over the pieces leads from the start of the text to its end. -/
def accepts (pieces : List Piece) (text : Text) : Bool :=
  let start : Places := true :: text.map fun _ => false
  (pieces.foldl (fun places piece => piece.reach text places) start).getLast?.any id

/-- Why a pattern is not one. -/
inductive Problem where
  | threeStars
  | brokenComponent
  | brokenClass
deriving DecidableEq

def Problem.message : Problem → String
  | threeStars => "wildcards are either regular `*` or recursive `**`"
  | brokenComponent => "recursive wildcards must form a single path component"
  | brokenClass => "invalid range pattern"

structure Error where
  /-- Characters in front of the place. -/
  position : Nat
  problem : Problem
deriving DecidableEq

def Error.message (error : Error) : String :=
  s!"Pattern syntax error near position {error.position}: {error.problem.message}"

/-- The members of a class, between its brackets. A hyphen between two characters makes
a range of them. -/
def members : Text → List Member
  | low :: '-' :: high :: rest => ⟨low, high⟩ :: members rest
  | c :: rest => ⟨c, c⟩ :: members rest
  | [] => []

/-- The text up to the next closing bracket, and what follows that bracket. -/
def untilBracket : Text → Option (Text × Text)
  | [] => none
  | c :: rest => if c = ']' then some ([], rest) else (untilBracket rest).map fun (inside, after) => (c :: inside, after)

/-- A class after its opening bracket. Its first member may be a closing bracket. -/
def classAfterBracket? : Text → Option (Piece × Text)
  | '!' :: first :: rest => (untilBracket rest).map fun (inside, after) => (.oneOf true (members (first :: inside)), after)
  | ['!'] => none
  | first :: rest => (untilBracket rest).map fun (inside, after) => (.oneOf false (members (first :: inside)), after)
  | [] => none

theorem untilBracket_length {text inside after : Text} (found : untilBracket text = some (inside, after)) :
    after.length < text.length := by
  fun_induction untilBracket text generalizing inside with
  | case1 => cases found
  | case2 => cases found; simp
  | case3 c rest _ ih =>
    obtain ⟨⟨inner, last⟩, closed, equal⟩ := Option.map_eq_some_iff.mp found
    cases equal
    exact Nat.lt_succ_of_lt (ih closed)

theorem classAfterBracket?_length {text after : Text} {piece : Piece}
    (found : classAfterBracket? text = some (piece, after)) : after.length < text.length := by
  unfold classAfterBracket? at found
  split at found
  next first rest =>
    obtain ⟨⟨inside, last⟩, closed, equal⟩ := Option.map_eq_some_iff.mp found
    cases equal
    have shorter := untilBracket_length closed
    simp only [List.length_cons]
    omega
  · cases found
  next first rest _ _ =>
    obtain ⟨⟨inside, last⟩, closed, equal⟩ := Option.map_eq_some_iff.mp found
    cases equal
    exact Nat.lt_succ_of_lt (untilBracket_length closed)
  · cases found

/-- The pieces of a pattern from one of its places on. The place and the character in
front of it are needed to report errors and to recognise whole components. -/
def piecesFrom (position : Nat) (previous : Option Char) (pattern : Text) : Except Error (List Piece) :=
  match pattern with
  | [] => .ok []
  | '*' :: '*' :: '*' :: _ => .error ⟨position + 2, .threeStars⟩
  | '*' :: '*' :: rest =>
    if previous.all (· = '/') then
      match rest with
      | [] => .ok [.anyComponents]
      | c :: after =>
        if c = '/' then (piecesFrom (position + 3) (some c) after).map (.anyComponents :: ·)
        else .error ⟨position + 2, .brokenComponent⟩
    else .error ⟨position - 1, .brokenComponent⟩
  | '[' :: rest =>
    match found : classAfterBracket? rest with
    | some (piece, after) =>
      (piecesFrom (position + 1 + (rest.length - after.length)) (some ']') after).map (piece :: ·)
    | none => .error ⟨position, .brokenClass⟩
  | c :: rest =>
    let piece := if c = '?' then .anyChar else if c = '*' then .anySequence else .literal c
    (piecesFrom (position + 1) (some c) rest).map (piece :: ·)
termination_by pattern.length
decreasing_by
  · simp only [List.length_cons]; omega
  · exact Nat.lt_succ_of_lt (classAfterBracket?_length found)
  · simp

end Glob

/-- A pattern that paths can be matched against. -/
structure Glob where
  pieces : List Glob.Piece
deriving DecidableEq

namespace Glob

def parse (pattern : Text) : Except Error Glob := (piecesFrom 0 none pattern).map Glob.mk

/-- The pattern matches the whole path. -/
def isMatch (glob : Glob) (path : Text) : Bool := accepts glob.pieces path

end Glob

end Literate
