/-!
What clouds are made from, and how that is written: one field a line, a list with one entry a line,
each followed by a comma, and four spaces for each level.
-/

namespace SphereCloud

structure Settings where
  /-- Where the hash chain starts. -/
  pcgSeed : UInt32
  /-- The seed of the uniform numbers; without one they differ from run to run. -/
  uniformSeed : Option UInt64
  /-- How many points each method makes, once for each entry. -/
  sampleCounts : List UInt64
  /-- The color of the points, `0xRRGGBBAA`. -/
  pointColor : UInt32
  deriving DecidableEq, Repr

namespace Settings

def defaultSeed : UInt32 := 123

def defaultColor : UInt32 := 0x00FFFFFF

instance : Inhabited Settings where
  default := ⟨defaultSeed, none, [1024, 2048], defaultColor⟩

def number (n : Nat) : List Char :=
  Nat.toDigits 10 n

def indent (level : Nat) : List Char :=
  List.replicate (4 * level) ' '

def field (name : String) (value : List Char) : List Char :=
  indent 1 ++ name.toList ++ ':' :: ' ' :: value ++ [',', '\n']

def optional : Option UInt64 → List Char
  | none => "None".toList
  | some n => "Some(".toList ++ number n.toNat ++ [')']

def counts : List UInt64 → List Char
  | [] => ['[', ']']
  | ns => '[' :: '\n' :: ns.flatMap (fun n => indent 2 ++ number n.toNat ++ [',', '\n']) ++
      indent 1 ++ [']']

def written (c : Settings) : List Char :=
  '(' :: '\n' :: field "pcg_seed" (number c.pcgSeed.toNat) ++
    field "uniform_seed" (optional c.uniformSeed) ++
    field "sample_counts" (counts c.sampleCounts) ++
    field "point_color" (number c.pointColor.toNat) ++ [')']

end Settings

end SphereCloud
