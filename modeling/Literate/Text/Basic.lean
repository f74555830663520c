/-! Text is a list of characters, so that scanners and trimmers are recursive
functions on it. Positions in text are counted in bytes of its UTF-8 form; they
are always computed from the characters in front and never used to index. -/

namespace Literate

abbrev Text := List Char

namespace Text

/-- Bytes of the UTF-8 form. -/
def byteSize : Text → Nat
  | [] => 0
  | c :: text => c.utf8Size + byteSize text

@[simp] theorem byteSize_nil : byteSize [] = 0 := rfl

@[simp] theorem byteSize_cons (c : Char) (text : Text) : byteSize (c :: text) = c.utf8Size + byteSize text := rfl

@[simp] theorem byteSize_append (first second : Text) :
    byteSize (first ++ second) = byteSize first + byteSize second := by
  induction first with
  | nil => simp
  | cons c first ih => simp [ih, Nat.add_assoc]

/-- The Unicode property White_Space. -/
def isSpace (c : Char) : Bool :=
  (0x09 ≤ c.toNat && c.toNat ≤ 0x0D) || c.toNat = 0x20 || c.toNat = 0x85 || c.toNat = 0xA0 ||
  c.toNat = 0x1680 || (0x2000 ≤ c.toNat && c.toNat ≤ 0x200A) || c.toNat = 0x2028 || c.toNat = 0x2029 ||
  c.toNat = 0x202F || c.toNat = 0x205F || c.toNat = 0x3000

/-- A space or a tab, the two characters that pad a line. -/
def isPad (c : Char) : Bool := c = ' ' || c = '\t'

/-- The text without the longest suffix of characters that satisfy the test. -/
def dropEndWhile (test : Char → Bool) (text : Text) : Text := (text.reverse.dropWhile test).reverse

/-- The text without the white space at its end. -/
def trimEnd (text : Text) : Text := text.dropEndWhile isSpace

/-- What precedes `ending`, if the text ends with it. -/
def before? (text ending : Text) : Option Text :=
  if ending.isSuffixOf text then some (text.take (text.length - ending.length)) else none

/-- What follows `beginning`, if the text starts with it. -/
def after? : (text beginning : Text) → Option Text
  | text, [] => some text
  | c :: text, expected :: beginning => if c = expected then after? text beginning else none
  | [], _ :: _ => none

/-- The text in front of the first occurrence of `mark`, and the text behind it. -/
def cutAt? (mark : Text) : Text → Option (Text × Text)
  | [] => if mark.isEmpty then some ([], []) else none
  | c :: rest =>
    match after? (c :: rest) mark with
    | some behind => some ([], behind)
    | none => (cutAt? mark rest).map fun (front, behind) => (c :: front, behind)

/-- The pieces between the characters that satisfy the test. -/
def splitWhere (test : Char → Bool) : Text → List Text
  | [] => [[]]
  | c :: text => if test c then [] :: splitWhere test text else (splitWhere test text).modifyHead (c :: ·)

/-- Maximal runs of characters other than white space, in order. -/
def words (text : Text) : List Text := (text.splitWhere isSpace).filter (· ≠ [])

/-- The pieces in order, with `separator` between each two. -/
def join (separator : Text) : List Text → Text
  | [] => []
  | [piece] => piece
  | piece :: pieces => piece ++ separator ++ join separator pieces

/-- At or before another text in the order of dictionaries, with characters ordered by code
point. -/
def precedes : (first second : Text) → Bool
  | [], _ => true
  | _ :: _, [] => false
  | c :: first, d :: second => if c = d then precedes first second else c.toNat < d.toNat

/-- Letters of ASCII in lower case, all other characters unchanged. -/
def asciiLower (text : Text) : Text := text.map Char.toLower

/-- Equal up to the case of ASCII letters. -/
def equalIgnoringCase (first second : Text) : Bool := first.asciiLower = second.asciiLower

end Text

end Literate
