import SphereCloud.RecordText.Literal

/-!
Whole numbers of a fixed width: a sign, a base, digits with underscores between them, and the name
of a width behind them. A number that does not fit its width is refused, never cut.
-/

namespace SphereCloud.RecordText

structure IntKind where
  signed : Bool
  bits : Nat
  deriving DecidableEq, Repr

namespace IntKind

def u32 : IntKind := ⟨false, 32⟩
def u64 : IntKind := ⟨false, 64⟩
def i64 : IntKind := ⟨true, 64⟩

/-- How many of the numbers are not negative. -/
def reach (k : IntKind) : Nat :=
  if k.signed then 1 <<< (k.bits - 1) else 1 <<< k.bits

def least (k : IntKind) : Int :=
  if k.signed then -(k.reach : Int) else 0

def greatest (k : IntKind) : Int :=
  (k.reach : Int) - 1

def holds (k : IntKind) (n : Int) : Bool :=
  k.least ≤ n && n ≤ k.greatest

def suffix (k : IntKind) : String :=
  (if k.signed then "i" else "u") ++ toString k.bits

def description (k : IntKind) : String :=
  "an " ++ toString k.bits ++ "-bit " ++ (if k.signed then "signed" else "unsigned") ++ " integer"

def named : List IntKind :=
  [⟨true, 8⟩, ⟨true, 16⟩, ⟨true, 32⟩, ⟨true, 64⟩, ⟨false, 8⟩, ⟨false, 16⟩, ⟨false, 32⟩, ⟨false, 64⟩]

end IntKind

/-- A reading step with the place where it stopped, which also a failed one has. -/
structure Attempt (α : Type) where
  result : Except Fault α
  rest : Source

def isDigitChar (c : Char) : Bool :=
  (hexDigit? c).isSome || c = '_'

/-- Appends digits to `acc`, away from zero on the side of the sign. A failure tells which digits
were not looked at: none after a number that is too large. -/
def appendDigits (kind : IntKind) (base : Nat) (negative : Bool) :
    Int → List Char → Except (Fault × List Char) Int
  | acc, [] => .ok acc
  | acc, c :: r =>
    if c = '_' then appendDigits kind base negative acc r
    else if !kind.holds (acc * base) then .error (.outOfBounds, [])
    else
      let digit := (hexDigit? c).getD 0
      if base ≤ digit then .error (.badDigit c base, c :: r)
      else
        let next := if negative then acc * base - digit else acc * base + digit
        if kind.holds next then appendDigits kind base negative next r
        else .error (.outOfBounds, [])

def splitBase : Source → Nat × Source
  | '0' :: 'b' :: r => (2, r)
  | '0' :: 'o' :: r => (8, r)
  | '0' :: 'x' :: r => (16, r)
  | s => (10, s)

def readDigits (kind : IntKind) (negative : Bool) (s : Source) : Attempt Int :=
  let (base, s) := splitBase s
  match s.takeWhile isDigitChar with
  | [] => ⟨.error .noInteger, s⟩
  | c :: digits =>
    if c = '_' then ⟨.error .leadingUnderscore, s⟩
    else
      match appendDigits kind base negative 0 (c :: digits) with
      | .ok n => ⟨.ok n, s.dropWhile isDigitChar⟩
      | .error (fault, left) => ⟨.error fault, left ++ s.dropWhile isDigitChar⟩

def namedKind? (s : Source) : Option (IntKind × Source) :=
  let behind := s.dropWhile isDigitChar
  IntKind.named.findSome? fun kind => (afterWord? kind.suffix behind).map (kind, ·)

structure IntToken where
  kind : IntKind
  value : Int
  written : List Char

/-- Reads the digits behind a sign. A number that names its kind is of that kind, any other of the
kind `plain`. Where the digits themselves are wrong the reader stops before the name. -/
def readSigned (plain : IntKind) (negative : Bool) (whole s : Source) : Attempt IntToken :=
  match namedKind? s with
  | some (kind, behind) =>
    let digits := readDigits kind negative s
    match digits.result with
    | .ok n => ⟨.ok ⟨kind, n, whole.take (whole.length - behind.length)⟩, behind⟩
    | .error .leadingUnderscore => ⟨.error .leadingUnderscore, digits.rest⟩
    | .error (.badDigit c base) => ⟨.error (.badDigit c base), digits.rest⟩
    | .error fault => ⟨.error fault, behind⟩
  | none =>
    let digits := readDigits plain negative s
    ⟨digits.result.map fun n => ⟨plain, n, whole.take (whole.length - digits.rest.length)⟩,
      digits.rest⟩

/-- Reads a whole number; a byte in quotes is one of eight bits. Its value plays no part, as no
field of a record is that narrow. -/
def readIntToken (plain : Bool → IntKind) (s : Source) : Attempt IntToken :=
  match s with
  | [] => ⟨.error .endOfText, s⟩
  | 'b' :: '\'' :: r =>
    match skipByte r with
    | .ok rest => ⟨.ok ⟨⟨false, 8⟩, 0, s.take (s.length - rest.length)⟩, rest⟩
    | .error fault => ⟨.error fault, s⟩
  | '+' :: r => readSigned (plain false) false s r
  | '-' :: r => readSigned (plain true) true s r
  | _ => readSigned (plain false) false s s

/-- Reads a number of the given kind; one that names another kind is refused. -/
def readInt (kind : IntKind) (s : Source) : Except Fault (Int × Source) := do
  let attempt := readIntToken (fun _ => kind) s
  let token ← attempt.result
  if token.kind = kind then return (token.value, attempt.rest)
  else throw (.otherType kind.description (String.ofList token.written))

end SphereCloud.RecordText
