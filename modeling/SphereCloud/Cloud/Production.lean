import SphereCloud.Cloud.Receiver
import SphereCloud.Generator.Sequences
import SphereCloud.Generator.Uniform
import SphereCloud.Settings.Basic

/-!
What the settings ask for: the layout, and then a cloud of every method for every count. A method
continues where its last call ended; the radical inverse has no state.
-/

namespace SphereCloud

structure Streams where
  chain : HashChain
  uniform : UniformStream
  deriving DecidableEq, Repr

namespace Streams

/-- Fresh streams; the key stands in for a uniform seed that is not given. -/
def ofSeeds (pcgSeed : UInt32) (uniformSeed : Option UInt64) (entropy : Key) : Streams :=
  ⟨⟨pcgSeed⟩, UniformStream.ofSeed? uniformSeed entropy⟩

def heightBase : UInt32 := 2

def angleBase : UInt32 := 3

variable {α : Type} [UniformScalar α]

/-- Samples that take height and angle of each pair from the chain in turn. -/
def pcgPairs (chain : HashChain) (n : Nat) :
    Except (SampleFault α) (Cylindrical α) × HashChain :=
  if fitsSamples n then
    let (draws, chain) := chain.pairs n
    (Cylindrical.ofUnit? (draws.map (·.1)) (draws.map (·.2)), chain)
  else (.error (.tooMany n), chain)

/-- Samples that take all heights and then all angles from the stream. -/
def uniformPairs (stream : UniformStream) (n : Nat) :
    Except (SampleFault α) (Cylindrical α) × UniformStream :=
  match stream.draw n (-1.0) 1.0 with
  | (.error fault, stream) => (.error fault, stream)
  | (.ok heights, stream) =>
    match stream.draw n 0.0 Scalar.tau with
    | (.error fault, stream) => (.error fault, stream)
    | (.ok angles, stream) => (Cylindrical.ofLists? heights angles, stream)

def haltonPairs (n : Nat) : Except (SampleFault α) (Cylindrical α) := do
  let heights ← haltonTerms n heightBase
  let angles ← haltonTerms n angleBase
  Cylindrical.ofUnit? heights angles

def draw (s : Streams) (method : Method) (n : Nat) :
    Except (SampleFault α) (Cylindrical α) × Streams :=
  match method with
  | .pcg =>
    let (pairs, chain) := pcgPairs s.chain n
    (pairs, { s with chain := chain })
  | .random =>
    let (pairs, uniform) := uniformPairs s.uniform n
    (pairs, { s with uniform := uniform })
  | .halton => (haltonPairs n, s)

end Streams

/-- Every count, where it occurs first, with every method. -/
def Settings.jobs (settings : Settings) : List (UInt64 × Method) :=
  settings.sampleCounts.eraseDups.flatMap fun count => Method.productionOrder.map (count, ·)

variable {α : Type} [UniformScalar α]

def Streams.points (s : Streams) (method : Method) (count : UInt64) :
    Except (SampleFault α) (List (Vec3 α)) × Streams :=
  match s.draw method count.toNat with
  | (.ok pairs, s) => (pairs.project, s)
  | (.error fault, s) => (.error fault, s)

def runJobs {σ : Type} [Receiver σ α] (color : UInt32) :
    List (UInt64 × Method) → Streams → σ → Logged (σ × Except (SampleFault α) Unit)
  | [], _, state => pure (state, .ok ())
  | (count, method) :: jobs, streams, state =>
    match streams.points method count with
    | (.error fault, _) => pure (state, .error fault)
    | (.ok positions, streams) => do
      let label := method.label count
      log .debug ("Generated " ++ toString positions.length ++ " points for " ++ label)
      let state ← Receiver.takeCloud state ⟨label, positions, color⟩
      runJobs color jobs streams state

/-- Hands the layout and all clouds to a receiver. The key stands in for a uniform seed that is not
given. -/
def Settings.produce {σ : Type} [Receiver σ α] (settings : Settings) (entropy : Key) (state : σ) :
    Logged (σ × Except (SampleFault α) Unit) := do
  let state ← Receiver.takeLayout state (Layout.grid settings.sampleCounts Method.all)
  runJobs settings.pointColor settings.jobs
    (Streams.ofSeeds settings.pcgSeed settings.uniformSeed entropy) state

end SphereCloud
