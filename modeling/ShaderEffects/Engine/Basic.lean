import ShaderEffects.Renderer.Draw

/-!
# Engines

The parts that every use of effects has in common: parameters, textures, a
compiler, a renderer with its device, and the effects that are loaded.
-/

namespace ShaderEffects

/-- Parameters, textures, effects, and what it takes to draw them. -/
structure Engine (D : Type) where
  parameters : Parameters := {}
  textures : TextureRegistry := {}
  effects : Arena Effect := ∅
  compiler : Compiler
  renderer : Renderer D

namespace Engine

variable {D : Type}

/-- Writes into the journal. -/
def note (engine : Engine D) (notices : List Notice) : Engine D :=
  { engine with renderer := engine.renderer.note notices }

/-- What happened since the journal was last taken, and the engine with an empty
journal. -/
def takeJournal (engine : Engine D) : List Notice × Engine D :=
  (engine.renderer.journal, { engine with renderer := { engine.renderer with journal := [] } })

/-- The device. -/
def device (engine : Engine D) : D := engine.renderer.device

/-- The engine with another state of its device. -/
def withDevice (engine : Engine D) (device : D) : Engine D :=
  { engine with renderer := { engine.renderer with device } }

/-- What drawing reads. -/
def scene (engine : Engine D) : Scene := ⟨engine.parameters, engine.textures⟩

/-- Makes a virtual parameter. -/
def createVirtual (engine : Engine D) (name : String) (type : ParameterType) :
    Except LinkError ParameterId × Engine D :=
  match engine.parameters.createVirtual name type with
  | .error e => (.error e, engine)
  | .ok (id, parameters) =>
    (.ok id, { engine with parameters }.note [.parameterRegistered name type])

/-- Gives a name to a texture of the device. -/
def registerTexture (engine : Engine D) (name : String) (backing : TextureId)
    (desc : TextureDesc) : Except LinkError (Handle Texture) × Engine D :=
  match engine.textures.register name backing desc with
  | .error e => (.error e, engine)
  | .ok (handle, textures) =>
    (.ok handle, { engine with textures }.note [.textureRegistered name desc])

/-- Writes to a parameter. -/
def write (engine : Engine D) (id : ParameterId) (w : Write) : Engine D :=
  { engine with parameters := engine.parameters.write id w }

variable [Device D]

/-- Creates a blank texture without looking at its name, and gives the name to it. -/
def createRegistered (engine : Engine D) (name : String) (desc : TextureDesc) :
    Except LinkError (Handle Texture) × Engine D :=
  match Device.createTexture engine.device name desc with
  | (.error e, device) => (.error (.device e), engine.withDevice device)
  | (.ok backing, device) => (engine.withDevice device).registerTexture name backing desc

/-- Creates a blank texture under a name that is still free. -/
def createTexture (engine : Engine D) (name : String) (desc : TextureDesc) :
    Except LinkError (Handle Texture) × Engine D :=
  if engine.textures.contains name then (.error (.duplicateTexture name), engine)
  else engine.createRegistered name desc

/-- Gives a sampler a texture, also on the device if a pass is bound. The result
says whether the parameter is a sampler. -/
def connect (engine : Engine D) (id : ParameterId) (texture : Handle Texture) :
    Bool × Engine D :=
  let engine := engine.write id (.texture (some texture))
  let (connected, renderer) := engine.renderer.connected engine.scene id
  (connected, { engine with renderer })

end Engine

end ShaderEffects
