import SphereCloud.RecordText.Token

/-!
Quoted texts, byte texts and characters. They only occur where a value is passed over, so that a
reader here tells what is left after the literal, not what the literal says.
-/

namespace SphereCloud.RecordText

def hexDigit? (c : Char) : Option Nat :=
  if '0' ≤ c ∧ c ≤ '9' then some (c.toNat - '0'.toNat)
  else if 'a' ≤ c ∧ c ≤ 'f' then some (c.toNat - 'a'.toNat + 10)
  else if 'A' ≤ c ∧ c ≤ 'F' then some (c.toNat - 'A'.toNat + 10)
  else none

private def hexDigit (c : Char) : Except Fault Nat :=
  match hexDigit? c with
  | some d => .ok d
  | none => .error (.badEscape .notHex)

private def hexByte : Source → Except Fault (UInt8 × Source)
  | [] => .error .endOfText
  | c :: r => do
    let high ← hexDigit c
    match r with
    | [] => .error .endOfText
    | d :: r => return (UInt8.ofNat (16 * high + (← hexDigit d)), r)

/-- The escaped bytes that complete a character, at most `n` of them. -/
private def restOfCharacter : Nat → ByteArray → Source → Except Fault Source
  | 0, _, _ => .error (.badEscape .brokenBytes)
  | n + 1, bytes, '\\' :: 'x' :: r => do
    let (b, r) ← hexByte r
    if (bytes.push b).validateUTF8 then return r else restOfCharacter n (bytes.push b) r
  | _ + 1, _, _ => .error (.badEscape .brokenBytes)

/-- At most `n` hexadecimal digits before a closing brace: the number they make, whether there is
one at all, and the rest. -/
private def braceDigits : Nat → Nat → Bool → Source → Except Fault (Nat × Bool × Source)
  | 0, value, found, s => .ok (value, found, s)
  | _ + 1, _, _, [] => .error .endOfText
  | n + 1, value, found, c :: r =>
    if c = '\x7d' then .ok (value, found, c :: r)
    else do braceDigits n (16 * value + (← hexDigit c)) true r

private def bracedCharacter : Source → Except Fault Source
  | [] => .error (.badEscape .noOpeningBrace)
  | c :: r =>
    if c = '\x7b' then do
      let (value, found, r) ← braceDigits 6 0 false r
      if !found then throw (.badEscape .noDigits)
      match r with
      | [] => throw (.badEscape .noClosingBrace)
      | d :: r =>
        if d ≠ '\x7d' then throw (.badEscape .noClosingBrace)
        if value.isValidChar then return r else throw (.badEscape .noSuchCharacter)
    else .error (.badEscape .noOpeningBrace)

inductive Quoting where
  | bytes
  | character
  | text
  deriving DecidableEq

/-- Passes over what follows a backslash; says whether it was the number of a character. -/
def skipEscape (quoting : Quoting) : Source → Except Fault (Bool × Source)
  | [] => .error .endOfText
  | 'x' :: r => do
    let (b, r) ← hexByte r
    if quoting = .bytes ∨ b < 128 then return (false, r)
    else if quoting = .character then throw (.badEscape .brokenBytes)
    else return (false, ← restOfCharacter 3 (ByteArray.empty.push b) r)
  | 'u' :: r => do return (true, ← bracedCharacter r)
  | c :: r =>
    if c = '\'' ∨ c = '"' ∨ c = '\\' ∨ c = 'n' ∨ c = 'r' ∨ c = 't' ∨ c = '0' then .ok (false, r)
    else .error (.badEscape .unknown)

/-- What is left after the closing quote. That there is one is looked at before each escape. -/
private def skipQuotedFrom (quoting : Quoting) : Nat → Source → Except Fault Source
  | 0, _ => .error .unclosedText
  | n + 1, s =>
    if s.contains '"' then
      match s.dropWhile fun c => c ≠ '"' && c ≠ '\\' with
      | '\\' :: r => do
        let (_, r) ← skipEscape quoting r
        skipQuotedFrom quoting n r
      | _ :: r => .ok r
      | [] => .error .unclosedText
    else .error .unclosedText

def skipQuoted (quoting : Quoting) (s : Source) : Except Fault Source :=
  skipQuotedFrom quoting (s.length + 1) s

/-- What is left of `s` after the first place where `ending` stands. -/
private def afterFirst? (ending : Source) : Source → Option Source
  | [] => none
  | c :: s =>
    match after? ending (c :: s) with
    | some r => some r
    | none => afterFirst? ending s

/-- A text without escapes, which begins after its `r`: as many `#` follow the closing quote as
stand before the opening one. -/
def skipRaw (noQuote : Fault) (s : Source) : Except Fault Source :=
  let hashes := s.takeWhile (· = '#')
  match s.dropWhile (· = '#') with
  | '"' :: r =>
    match afterFirst? ('"' :: hashes) r with
    | some rest => .ok rest
    | none => .error .unclosedText
  | _ => .error noQuote

def skipText : Source → Except Fault Source
  | '"' :: r => skipQuoted .text r
  | 'r' :: r => skipRaw .noText r
  | _ => .error .noText

def skipByteText : Source → Except Fault Source
  | 'b' :: '"' :: r => skipQuoted .bytes r
  | 'b' :: 'r' :: r => skipRaw .noByteText r
  | _ => .error .noByteText

private def closeCharacter (fault : Fault) : Source → Except Fault Source
  | '\'' :: r => .ok r
  | _ => .error fault

def skipCharacter : Source → Except Fault Source
  | '\'' :: '\\' :: r => do
    let (_, r) ← skipEscape .character r
    closeCharacter .noCharacter r
  | ['\''] => .error .endOfText
  | '\'' :: _ :: r => closeCharacter .noCharacter r
  | _ => .error .noCharacter

def skipByte : Source → Except Fault Source
  | [] => .error .endOfText
  | '\\' :: r => do
    let (character, r) ← skipEscape .bytes r
    if character then throw (.badEscape .characterInByte)
    closeCharacter .noByte r
  | c :: r => if c.toNat < 128 then closeCharacter .noByte r else .error .noByte

end SphereCloud.RecordText
