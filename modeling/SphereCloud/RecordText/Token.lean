import SphereCloud.RecordText.Fault

/-!
What may stand between two tokens (white space, comments up to the end of a line and nested block
comments), and names: plain ones, and raw ones that begin with `r#` and may hold dots and signs.
-/

namespace SphereCloud.RecordText

abbrev Source := List Char

def isBlank (c : Char) : Bool :=
  c = ' ' || c = '\t' || c = '\n' || c = '\r' || c = '\x0b' || c = '\x0c' || c = '\u0085' ||
    c = '\u200e' || c = '\u200f' || c = '\u2028' || c = '\u2029'

/-- Where a reader of blanks stands: between tokens, in a line comment, or in a block comment with
`depth` others around it. -/
inductive BlankState where
  | between
  | line
  | block (depth : Nat)

def skipBlankIn : BlankState → Source → Except Fault Source
  | .between, '/' :: '/' :: r => skipBlankIn .line r
  | .between, '/' :: '*' :: r => skipBlankIn (.block 0) r
  | .between, '/' :: c :: _ => .error (.strayCharacter c)
  | .between, ['/'] => .error .endOfText
  | .between, c :: r => if isBlank c then skipBlankIn .between r else .ok (c :: r)
  | .between, [] => .ok []
  | .line, c :: r => if c = '\n' then skipBlankIn .between r else skipBlankIn .line r
  | .line, [] => .ok []
  | .block depth, '/' :: '*' :: r => skipBlankIn (.block (depth + 1)) r
  | .block 0, '*' :: '/' :: r => skipBlankIn .between r
  | .block (depth + 1), '*' :: '/' :: r => skipBlankIn (.block depth) r
  | .block depth, _ :: r => skipBlankIn (.block depth) r
  | .block _, [] => .error .unclosedComment

def skipBlank (s : Source) : Except Fault Source :=
  skipBlankIn .between s

/-- Drops a comma, if one comes next, and the blanks on both its sides; says whether it did. -/
def comma (s : Source) : Except Fault (Bool × Source) := do
  match ← skipBlank s with
  | ',' :: r => return (true, ← skipBlank r)
  | r => return (false, r)

/-- What is left of `s` after `lead`, if `s` begins with it. -/
def after? : (lead s : Source) → Option Source
  | [], s => some s
  | _ :: _, [] => none
  | a :: lead, c :: s => if a = c then after? lead s else none

/-- What is left after the whole word `w`: no character of a name follows it. -/
def afterWord? (w : String) (s : Source) : Option Source :=
  match after? w.toList s with
  | some r => if r.head?.any Text.isNameChar then none else some r
  | none => none

def isRawNameChar (c : Char) : Bool :=
  c = '.' || c = '+' || c = '-' || Text.isNameChar c

def isNameStart (c : Char) : Bool :=
  c = '_' || Text.isLetter c

def startsLiteral : Source → Bool
  | '"' :: _ => true
  | 'r' :: '"' :: _ => true
  | 'r' :: '#' :: '"' :: _ => true
  | 'r' :: '#' :: '#' :: _ => true
  | 'b' :: '"' :: _ => true
  | 'b' :: '\'' :: _ => true
  | 'b' :: 'r' :: '"' :: _ => true
  | 'b' :: 'r' :: '#' :: _ => true
  | _ => false

/-- Reads a name that does not begin like a literal. -/
def readWord : Source → Except Fault (String × Source)
  | 'r' :: '#' :: r =>
    let name := r.takeWhile isRawNameChar
    if name.isEmpty then .error .noName
    else .ok (String.ofList name, r.dropWhile isRawNameChar)
  | s =>
    let name := s.takeWhile Text.isNameChar
    let raw := s.takeWhile isRawNameChar
    if name.length < raw.length then .error (.needsRawName (String.ofList raw))
    else .ok (String.ofList name, s.dropWhile Text.isNameChar)

/-- Reads a name. What would be a raw name without its sign is refused with a hint. -/
def readName (s : Source) : Except Fault (String × Source) :=
  match s with
  | [] => .error .endOfText
  | c :: _ =>
    if isNameStart c then
      if startsLiteral s then .error .noName else readWord s
    else if isRawNameChar c then
      .error (.needsRawName (String.ofList (s.takeWhile isRawNameChar)))
    else .error .noName

/-- What is left after a name, none if there is no name. How the text goes on is not looked at: of
what lacks the sign of a raw name the plain part is taken. -/
def skipName? (s : Source) : Option Source :=
  if startsLiteral s then none
  else match s with
    | 'r' :: '#' :: r =>
      if r.head?.any isRawNameChar then some (r.dropWhile isRawNameChar) else none
    | c :: r => if isNameStart c then some (r.dropWhile Text.isNameChar) else none
    | [] => none

end SphereCloud.RecordText
