import SphereCloud.Text.Quoted
import SphereCloud.Text.WordChar

/-!
What can be wrong with a record text, and the message for each cause.
-/

namespace SphereCloud.RecordText

inductive EscapeFault where
  | notHex
  | noOpeningBrace
  | noDigits
  | noClosingBrace
  | noSuchCharacter
  | brokenBytes
  | unknown
  | characterInByte
  deriving DecidableEq, Repr

inductive Fault where
  | endOfText
  | noListStart
  | noAttribute
  | noAttributeEnd
  | noComma
  | noColon
  | noCharacter
  | noByte
  | noInteger
  | noFloat
  | misplacedUnderscore
  | leadingUnderscore
  | noOption
  | noOptionEnd
  | noText
  | noByteText
  | unclosedText
  | noName
  | unnamed (record : String)
  | misnamed (record found : String)
  | noRecordStart (record : String)
  | repeatedField (record field : String)
  | unknownChoice (kind found choices : String)
  | outOfBounds
  | badDigit (digit : Char) (base : Nat)
  | otherType (wanted found : String)
  | badEscape (fault : EscapeFault)
  | unknownExtension (name : String)
  | unclosedComment
  | strayCharacter (c : Char)
  | needsRawName (name : String)
  | tooDeep
  | trailing
  deriving DecidableEq, Repr

/-- A name as a message shows it; one that is no plain name takes the sign of a raw name. -/
def shownName (name : String) : String :=
  let plain :=
    match name.toList with
    | [] => false
    | c :: r => (c = '_' || Text.isLetter c) && r.all Text.isNameChar
  if plain then "`" ++ name ++ "`" else "`r#" ++ name ++ "`"

def EscapeFault.message : EscapeFault → String
  | .notHex => "Non-hex digit found"
  | .noOpeningBrace => "Missing \x7b in Unicode escape"
  | .noDigits => "Expected 1-6 digits, got 0 digits in Unicode escape"
  | .noClosingBrace => "No \x7d at the end of Unicode escape"
  | .noSuchCharacter => "Not a valid Unicode-escaped character"
  | .brokenBytes => "Not a valid byte-escaped Unicode character"
  | .unknown => "Unknown escape character"
  | .characterInByte => "Unexpected Unicode escape in byte literal"

def Fault.message : Fault → String
  | .endOfText => "Unexpected end of RON"
  | .noListStart => "Expected opening `[`"
  | .noAttribute => "Expected an `#![enable(...)]` attribute"
  | .noAttributeEnd => "Expected closing `)]` after the enable attribute"
  | .noComma => "Expected comma"
  | .noColon => "Expected colon"
  | .noCharacter => "Expected char"
  | .noByte => "Expected byte literal"
  | .noInteger => "Expected integer"
  | .noFloat => "Expected float"
  | .misplacedUnderscore => "Unexpected underscore in float"
  | .leadingUnderscore => "Unexpected leading underscore in a number"
  | .noOption => "Expected option"
  | .noOptionEnd => "Expected closing `)`"
  | .noText => "Expected string"
  | .noByteText => "Expected byte string"
  | .unclosedText => "Expected end of string"
  | .noName => "Expected identifier"
  | .unnamed record =>
    "Expected the explicit struct name " ++ shownName record ++ ", but none was found"
  | .misnamed record found =>
    "Expected struct " ++ shownName record ++ " but found " ++ shownName found
  | .noRecordStart record => "Expected opening `(` for struct " ++ shownName record
  | .repeatedField record field =>
    "Unexpected duplicate field named " ++ shownName field ++ " in " ++ shownName record
  | .unknownChoice kind found choices =>
    "Unexpected variant named " ++ shownName found ++ " in enum " ++ shownName kind ++
      ", expected one of " ++ choices ++ " instead"
  | .outOfBounds => "Integer is out of bounds"
  | .badDigit digit base =>
    "Invalid digit " ++ Text.quotedChar digit ++ " for base " ++ toString base ++ " integers"
  | .otherType wanted found => "Expected " ++ wanted ++ " but found " ++ found ++ " instead"
  | .badEscape fault => fault.message
  | .unknownExtension name => "No RON extension named " ++ shownName name
  | .unclosedComment => "Unclosed block comment"
  | .strayCharacter c => "Unexpected char " ++ Text.quotedChar c
  | .needsRawName name =>
    "Found invalid std identifier " ++ Text.quoted name ++ ", try the raw identifier `r#" ++
      name ++ "` instead"
  | .tooDeep =>
    "Exceeded recursion limit, try increasing `ron::Options::recursion_limit` and using " ++
      "`serde_stacker` to protect against a stack overflow"
  | .trailing => "Non-whitespace trailing characters"

end SphereCloud.RecordText
