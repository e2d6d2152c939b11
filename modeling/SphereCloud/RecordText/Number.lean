import SphereCloud.RecordText.Integer

/-!
Numbers that are passed over: whole ones of any width, decimal fractions with an exponent, and the
values that are no number.
-/

namespace SphereCloud.RecordText

def isDecimalChar (c : Char) : Bool :=
  c.isDigit || c = 'e' || c = 'E' || c = '.' || c = '+' || c = '-' || c = '_'

/-- Drops the underscores, each of which must come after a digit or an exponent sign. -/
def dropUnderscores : Bool → List Char → Option (List Char)
  | _, [] => some []
  | allowed, c :: r =>
    if c = '_' then
      if allowed then dropUnderscores allowed r else none
    else
      let next :=
        if c.isDigit || c = 'e' || c = 'E' then true else if c = '.' then false else allowed
      (dropUnderscores next r).map (c :: ·)

private def dropSign : List Char → List Char
  | '+' :: r => r
  | '-' :: r => r
  | s => s

/-- Whether the text is a decimal number: digits on at least one side of an optional point, then an
optional exponent. -/
def isDecimal (text : List Char) : Bool :=
  let unsigned := dropSign text
  let whole := unsigned.takeWhile Char.isDigit
  let (part, r) :=
    match unsigned.dropWhile Char.isDigit with
    | '.' :: r => (r.takeWhile Char.isDigit, r.dropWhile Char.isDigit)
    | r => ([], r)
  (!whole.isEmpty || !part.isEmpty) &&
    match r with
    | [] => true
    | c :: r => (c = 'e' || c = 'E') && !(dropSign r).isEmpty && (dropSign r).all Char.isDigit

/-- The words for what is no finite number, with a width behind them or not. -/
private def specialWords : List String :=
  ["inf", "NaN"].flatMap fun word =>
    ["", "+", "-"].flatMap fun sign => ["", "f32", "f64"].map fun width => sign ++ word ++ width

def skipDecimal (s : Source) : Except Fault Source :=
  match specialWords.findSome? (afterWord? · s) with
  | some r => .ok r
  | none =>
    let text := s.takeWhile isDecimalChar
    let r := s.dropWhile isDecimalChar
    match text with
    | [] => .error .noFloat
    | '_' :: _ => .error .leadingUnderscore
    | _ =>
      match dropUnderscores false text with
      | none => .error .misplacedUnderscore
      | some digits =>
        if isDecimal digits then
          .ok (((afterWord? "f32" r).orElse fun _ => afterWord? "f64" r).getD r)
        else .error .noFloat

/-- What is left after a number. What fails as a whole number may still be a fraction, if that is
read at least as far. -/
def skipNumber (s : Source) : Except Fault Source :=
  let unsigned := dropSign s
  if (unsigned.takeWhile isDigitChar).length < (unsigned.takeWhile isDecimalChar).length then
    skipDecimal s
  else
    let attempt := readIntToken (fun negative => if negative then .i64 else .u64) s
    match attempt.result with
    | .ok _ => .ok attempt.rest
    | .error fault =>
      match skipDecimal s with
      | .ok r => if r.length ≤ attempt.rest.length then .ok r else .error fault
      | .error _ => .error fault

end SphereCloud.RecordText
