import ShaderEffects.Geometry
import ShaderEffects.Notice
import ShaderEffects.Program.Compiler

/-!
# Graphics devices

What the library needs of a graphics device. A device is a value; a call that
changes it returns the device as it is afterwards, also if the call fails.
-/

namespace ShaderEffects

/-- A register of a program: four numbers. -/
abbrev Register := Vector Float32 4

namespace Register

/-- The register of four zeros. -/
def zero : Register := Vector.replicate 4 0

/-- The first four of a list of numbers; missing ones are zero. -/
def ofList (values : List Float32) : Register :=
  Vector.ofFn fun i => values.getD i 0

/-- A list of numbers as registers, of which the last is filled up with zeros. -/
def fill : List Float32 → List Register
  | [] => []
  | a :: b :: c :: d :: rest => ofList [a, b, c, d] :: fill rest
  | values => [ofList values]

end Register

/-- A graphics device. -/
class Device (D : Type) where
  /-- The render state of the host, which drawing an effect must not change. -/
  HostState : Type
  backbufferSize : D → Nat × Nat
  isLost : D → Bool
  supports : D → Profile → Bool
  /-- Whether programs can be loaded and bound together. -/
  validate : D → List Program → Except DeviceError Unit × D
  createTexture : D → String → TextureDesc → Except DeviceError TextureId × D
  /-- Loads the file at a path as a texture. -/
  loadTexture : D → FileTree → (name path : String) →
    Except DeviceError (TextureId × TextureDesc) × D × List Notice
  loadProgram : D → Program → Except DeviceError ProgramId × D
  bind : D → Stage → ProgramId → Except DeviceError Unit × D
  unbind : D → Stage → D
  /-- Writes whole registers of a program, from a register on. -/
  setConstants : D → ProgramId → Nat → List Float32 → D
  setSampler : D → ProgramId → Nat → TextureId → D
  target : D → Surface
  setTarget : D → Surface → Except DeviceError Unit × D
  capture : D → HostState
  restore : D → HostState → D
  /-- Turns depth test, blending and culling off. -/
  enterEffectState : D → D
  /-- Draws into the target with the programs that are bound. -/
  draw : D → Geometry → Except DeviceError Unit × D
  /-- Stretches one surface over another. -/
  copy : D → (source destination : Surface) → Except DeviceError Unit × D

end ShaderEffects
