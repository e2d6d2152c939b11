import SphereCloud.RecordText.Token

/-!
Attributes at the head of a text, which switch variants of the format on.
-/

namespace SphereCloud.RecordText

structure Extensions where
  /-- A value may stand for itself in `Some`. -/
  bareOption : Bool
  /-- The parentheses of `Some` may be those of the value in it. -/
  sharedParentheses : Bool
  /-- A record carries its name. -/
  explicitNames : Bool
  deriving DecidableEq, Repr

def Extensions.none : Extensions := ⟨false, false, false⟩

/-- Switches a variant on. Records of one unnamed field, which one of the variants is about, occur
in no text that is read here. -/
def Extensions.enable (ext : Extensions) (name : String) : Except Fault Extensions :=
  if name = "unwrap_newtypes" then .ok ext
  else if name = "implicit_some" then .ok { ext with bareOption := true }
  else if name = "unwrap_variant_newtypes" then .ok { ext with sharedParentheses := true }
  else if name = "explicit_struct_names" then .ok { ext with explicitNames := true }
  else .error (.unknownExtension name)

/-- Passes over the tokens that come next in this order and over blanks behind each; says whether
all of them came. Tokens after a missing one are still passed over. -/
private def skipTokens : List String → Source → Except Fault (Bool × Source)
  | [], s => .ok (true, s)
  | token :: tokens, s =>
    match after? token.toList s with
    | some r => do skipTokens tokens (← skipBlank r)
    | none => do return (false, (← skipTokens tokens s).2)

private def readExtensions : Nat → Extensions → Source → Except Fault (Extensions × Source)
  | 0, _, _ => .error .endOfText
  | n + 1, ext, s => do
    let (name, s) ← readName s
    let ext ← ext.enable name
    let (separated, s) ← comma s
    if s.head?.any Text.isNameChar then
      if separated then readExtensions n ext s else throw .noComma
    else return (ext, s)

def readAttributes : Nat → Extensions → Source → Except Fault (Extensions × Source)
  | n + 1, ext, '#' :: r => do
    let (opened, s) ← skipTokens ["#", "!", "[", "enable", "("] ('#' :: r)
    if !opened then throw .noAttribute
    let (ext, s) ← readExtensions (s.length + 1) ext s
    let (closed, s) ← skipTokens [")", "]"] s
    if !closed then throw .noAttributeEnd
    readAttributes n ext s
  | _, ext, s => .ok (ext, s)

def readHeader (s : Source) : Except Fault (Extensions × Source) := do
  let s ← skipBlank s
  readAttributes s.length .none s

def expectEnd (s : Source) : Except Fault Unit := do
  match ← skipBlank s with
  | [] => return ()
  | _ => throw .trailing

end SphereCloud.RecordText
