import SphereCloud.RecordText.Number
import SphereCloud.RecordText.Header

/-!
Sequences of entries between brackets, and values that are passed over whatever they are.
-/

namespace SphereCloud.RecordText

/-- How deeply values may be nested: a record, a list, a map, an option and every entry, key or
value in one of them counts one. -/
def nestingLimit : Nat := 128

/-- Reads at most `n` entries up to the character `close`, which is left to be read. Between two
entries a comma must stand, and one may follow the last. -/
def readEntriesFrom {β : Type} (close : Char)
    (entry : β → Source → Except Fault (β × Source)) :
    Nat → Bool → β → Source → Except Fault (β × Source)
  | 0, _, _, _ => .error .endOfText
  | n + 1, separated, acc, s => do
    let s ← skipBlank s
    if s.head? = some close then return (acc, s)
    else if separated then
      let (acc, s) ← entry acc s
      let (separated, s) ← comma s
      readEntriesFrom close entry n separated acc s
    else throw .noComma

def readEntries {β : Type} (close : Char) (entry : β → Source → Except Fault (β × Source))
    (acc : β) (s : Source) : Except Fault (β × Source) :=
  readEntriesFrom close entry (s.length + 1) true acc s

def expectColon (s : Source) : Except Fault Source := do
  match ← skipBlank s with
  | ':' :: r => skipBlank r
  | _ => throw .noColon

inductive Shape where
  /-- There are no parentheses. -/
  | unit
  /-- Names with values. -/
  | named
  /-- Values. -/
  | tuple
  /-- One value. -/
  | single
  deriving DecidableEq

private def shapeAhead : Source → Except Fault Shape
  | '(' :: r => do
    let r ← skipBlank r
    match r with
    | ')' :: _ => return .tuple
    | _ =>
      match skipName? r with
      | none => return .tuple
      | some r =>
        match ← skipBlank r with
        | ':' :: _ => return .named
        | ',' :: r => do
          let _ ← skipBlank r
          return .tuple
        | _ => return .tuple
  | _ => .ok .unit

/-- The result of a step that may fail to apply. A text that does not end fails for good. -/
private def tryStep (step : Source → Except Fault Source) (s : Source) : Except Fault Source :=
  match step s with
  | .ok r => .ok r
  | .error .unclosedText => .error .unclosedText
  | .error .endOfText => .error .endOfText
  | .error _ => .ok s

/-- Counts brackets up to the comma behind the first value or to the end of the parentheses. -/
private def shapeBehind : Nat → Nat → Source → Except Fault Shape
  | 0, _, _ => .error .endOfText
  | n + 1, depth, s => do
    let s ← skipBlank s
    let s := match skipCharacter s with
      | .ok r => r
      | .error _ => s
    let s ← tryStep skipText s
    let s ← tryStep skipByteText s
    match s with
    | [] => throw .endOfText
    | c :: r =>
      if c = '(' ∨ c = '[' ∨ c = '\x7b' then shapeBehind n (depth + 1) r
      else if c = ')' ∨ c = ']' ∨ c = '\x7d' then
        if depth = 0 then return .single else shapeBehind n (depth - 1) r
      else if c = ',' ∧ depth = 0 then do
        let r ← skipBlank r
        return if r.head? = some ')' then .single else .tuple
      else shapeBehind n depth r

private def shapeInside (s : Source) : Except Fault Shape := do
  let s ← skipBlank s
  match skipName? s with
  | some r =>
    let r ← skipBlank r
    match r with
    | ':' :: _ => return .named
    | ',' :: r =>
      let r ← skipBlank r
      return if r.head? = some ')' then .single else .tuple
    | ')' :: _ => return .single
    | _ => shapeBehind (r.length + 1) 0 r
  | none => shapeBehind (s.length + 1) 0 s

/-- Passes over a value, inside parentheses that stand for the value itself or not. -/
abbrev Skipper := Bool → Source → Except Fault Source

private def orTooDeep : Option Skipper → Skipper
  | some skip => skip
  | none => fun _ _ => .error .tooDeep

private def skipEntries (once : Option Skipper) (close : Char)
    (entry : Source → Except Fault Source) (s : Source) : Except Fault Source :=
  match once with
  | none => .error .tooDeep
  | some _ => do
    let (_, s) ← readEntries close (fun _ s => do return ((), ← entry s)) () s
    return s

private def skipField (twice : Option Skipper) (s : Source) : Except Fault Source :=
  match twice with
  | none => .error .tooDeep
  | some skip => do
    let (_, s) ← readName s
    skip false (← expectColon s)

private def skipPair (twice : Option Skipper) (s : Source) : Except Fault Source := do
  let s ← orTooDeep twice false s
  orTooDeep twice false (← expectColon s)

/-- Passes over `None`, over `Some` with a value in parentheses or, where they may be left out, over
`Some` and a value. -/
private def skipOption (ext : Extensions) (once : Option Skipper) (s : Source) :
    Except Fault Source :=
  match afterWord? "None" s, afterWord? "Some" s with
  | some r, _ => .ok r
  | none, none => .error .noOption
  | none, some r => do
    match ← skipBlank r with
    | '(' :: r =>
      let r ← orTooDeep once ext.sharedParentheses (← skipBlank r)
      match ← comma r with
      | (_, ')' :: r) => return r
      | _ => throw .noOptionEnd
    | r => if ext.bareOption then orTooDeep once false r else throw .noOption

private def skipStructure (once twice : Option Skipper) (s : Source) : Except Fault Source := do
  match ← shapeAhead s with
  | .unit => return s
  | .named => do return (← skipEntries once ')' (skipField twice) (s.drop 1)).drop 1
  | _ => do return (← skipEntries once ')' (orTooDeep twice false) (s.drop 1)).drop 1

private def valueWords : List String :=
  ["inf", "inff32", "inff64", "NaN", "NaNf32", "NaNf64"]

private def skipPlain (ext : Extensions) (once twice : Option Skipper) (s : Source) :
    Except Fault Source :=
  match (afterWord? "true" s).orElse fun _ => afterWord? "false" s with
  | some r => .ok r
  | none =>
    if (afterWord? "Some" s).isSome || (afterWord? "None" s).isSome then skipOption ext once s
    else
      match (after? ['(', ')'] s).orElse fun _ => valueWords.findSome? (afterWord? · s) with
      | some r => .ok r
      | none =>
        match skipName? s with
        | some r => do skipStructure once twice (← skipBlank r)
        | none =>
          match s with
          | [] => .error .endOfText
          | '(' :: _ => skipStructure once twice s
          | '[' :: r => do return (← skipEntries once ']' (orTooDeep twice false) r).drop 1
          | '"' :: _ => skipText s
          | 'r' :: _ => skipText s
          | 'b' :: '\'' :: _ => skipNumber s
          | 'b' :: _ => skipByteText s
          | '\'' :: _ => skipCharacter s
          | c :: r =>
            if c = '\x7b' then do return (← skipEntries once '\x7d' (skipPair twice) r).drop 1
            else if c.isDigit || c = '+' || c = '-' || c = '.' then skipNumber s
            else .error (.strayCharacter c)

/-- Passes over a value, given how values nested once and twice are passed over. Inside parentheses
that stand for the value itself the closing one is left to be read. -/
private def skipValueStep (ext : Extensions) (once twice : Option Skipper) : Skipper
  | false, s => skipPlain ext once twice s
  | true, s =>
    if s.head? = some ')' then .ok s
    else do
      match ← shapeInside s with
      | .named => skipEntries once ')' (skipField twice) s
      | .tuple => skipEntries once ')' (orTooDeep twice false) s
      | _ => skipPlain ext once twice s

def skipValue (ext : Extensions) : Nat → Skipper
  | 0 => skipValueStep ext none none
  | 1 => skipValueStep ext (some (skipValue ext 0)) none
  | depth + 2 => skipValueStep ext (some (skipValue ext (depth + 1))) (some (skipValue ext depth))

end SphereCloud.RecordText
