/-!
Lines handed to the log. A computation that logs is a value with the lines that led to it, in order.
-/

namespace SphereCloud

inductive Level where
  | error
  | warn
  | info
  | debug
  deriving DecidableEq, Repr

def Level.name : Level → String
  | error => "ERROR"
  | warn => "WARN"
  | info => "INFO"
  | debug => "DEBUG"

structure LogLine where
  level : Level
  text : String
  deriving DecidableEq, Repr

def LogLine.render (line : LogLine) : String :=
  line.level.name ++ " " ++ line.text

/-- Part of a filter: how much is shown of what is logged under names that begin with `name`. -/
structure Directive where
  name : List Char
  shown : Nat

namespace Directive

/-- How much a word shows, from nothing to everything, is its place. -/
def words : List String := ["off", "error", "warn", "info", "debug", "trace"]

def rank? (word : List Char) : Option Nat :=
  words.idxOf? (String.ofList (word.map Char.toLower))

/-- A word alone is about all names; of a name alone everything is shown. -/
def read? (text : List Char) : Option Directive :=
  match text.splitOn '=' with
  | [[]] => none
  | [part] => some (((rank? part).map (⟨[], ·⟩)).getD ⟨part, words.length⟩)
  | [name, []] => some ⟨name, words.length⟩
  | [name, word] => (rank? word).map (⟨name, ·⟩)
  | _ => none

/-- The directives of a filter that has no blanks and no pattern for the text. A filter without
directives shows errors. -/
def ofFilter (filter : String) : List Directive :=
  match (filter.toList.splitOn ',').filterMap read? with
  | [] => [⟨[], 1⟩]
  | directives => directives

end Directive

/-- Whether a filter shows lines of a level that are logged under a name. Of the directives about
the name the longest decides, of several the last. -/
def Level.passes (level : Level) (filter : String) (name : List Char) : Bool :=
  let about := (Directive.ofFilter filter).filter (·.name.isPrefixOf name)
  let (_, shown) := about.foldl (fun (length, shown) d =>
    if length ≤ d.name.length then (d.name.length, d.shown) else (length, shown)) (0, 0)
  (Directive.rank? level.name.toList).getD 0 ≤ shown

structure Logged (α : Type) where
  value : α
  lines : List LogLine

namespace Logged

instance : Monad Logged where
  pure a := ⟨a, []⟩
  bind m f :=
    let next := f m.value
    ⟨next.value, m.lines ++ next.lines⟩

@[simp] theorem value_pure {α : Type} (a : α) : (pure a : Logged α).value = a := rfl

@[simp] theorem lines_pure {α : Type} (a : α) : (pure a : Logged α).lines = [] := rfl

@[simp] theorem value_bind {α β : Type} (m : Logged α) (f : α → Logged β) :
    (m >>= f).value = (f m.value).value := rfl

@[simp] theorem lines_bind {α β : Type} (m : Logged α) (f : α → Logged β) :
    (m >>= f).lines = m.lines ++ (f m.value).lines := rfl

@[simp] theorem value_map {α β : Type} (f : α → β) (m : Logged α) :
    (f <$> m).value = f m.value := rfl

@[simp] theorem lines_map {α β : Type} (f : α → β) (m : Logged α) : (f <$> m).lines = m.lines :=
  List.append_nil m.lines

instance : LawfulMonad Logged :=
  LawfulMonad.mk' Logged (fun m => by cases m; simp [Functor.map]) (fun a f => by simp [bind, pure])
    (fun m f g => by simp [bind])

end Logged

def log (level : Level) (text : String) : Logged Unit :=
  ⟨(), [⟨level, text⟩]⟩

/-- The value of an attempt, if it has one; a failure leaves one error line that begins with what
was attempted. -/
def Logged.ofExcept {α : Type} (context : String) : Except String α → Logged (Option α)
  | .ok a => pure (some a)
  | .error message => do
    log .error (context ++ ": " ++ message)
    pure none

end SphereCloud
