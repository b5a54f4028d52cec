import ShaderEffects.Link.Basic

/-!
# Finding textures for samplers

A sampler that has no texture yet gets the one its annotations name: a
registered texture, else the image file of that name, else a blank target.
-/

namespace ShaderEffects.Linking

variable {D : Type} [Device D]

/-- The texture that a parameter holds. -/
def heldTexture? (l : Linking D) (id : ParameterId) : Option (Handle Texture) :=
  (l.engine.parameters.get? id).bind (·.texture)

/-- Gives a sampler a texture. -/
def give (l : Linking D) (id : ParameterId) (texture : Handle Texture) : Linking D :=
  { l with engine := l.engine.write id (.texture (some texture)) }

/-- Loads an image file and registers it. There is no texture if that fails. -/
def loadFile (l : Linking D) (name path : String) : Option (Handle Texture) × Linking D :=
  let (result, device, notices) :=
    Device.loadTexture l.engine.device l.engine.compiler.files name path
  let l := { l with engine := l.engine.withDevice device }.note notices
  match result with
  | .error e => (none, l.note [.textureNotLoaded name e])
  | .ok (backing, desc) =>
    match l.engine.registerTexture name backing desc with
    | (.error e, engine) => (none, { l with engine }.report [e])
    | (.ok handle, engine) => (some handle, { l with engine }.note [.textureLoaded name path])

/-- Loads the image file of a name, if there is one. -/
def load (l : Linking D) (name : String) : Option (Handle Texture) × Linking D :=
  match l.engine.compiler.resolve? name with
  | none => (none, l)
  | some path => l.loadFile name path

/-- Gives a sampler a blank target. -/
def giveBlank (l : Linking D) (effect : String) (p : EffectParameter) (name : String) :
    BlankTarget → Linking D
  | .error fault =>
    let e : LinkError := .unresolvedSampler p.name name fault
    (l.note [.linkProblem effect e]).report [e]
  | .ok desc =>
    match l.engine.createRegistered name desc with
    | (.error e, engine) => ({ l with engine }.note [.linkProblem effect e]).report [e]
    | (.ok handle, engine) => ({ l with engine }.note [.blankCreated name desc]).give p.id handle

/-- Finds a texture for a parameter, if it is a sampler that needs one. -/
def resolveSampler (effect : String) (l : Linking D) (p : EffectParameter) : Linking D :=
  if p.type.category ≠ .sampler ∨ (l.heldTexture? p.id).isSome then l
  else
    match Directive.texture? p.directives with
    | none => l
    | some (name, blank) =>
      match l.engine.textures.find? name with
      | some handle => l.give p.id handle
      | none =>
        match l.load name with
        | (some handle, l) => l.give p.id handle
        | (none, l) => l.giveBlank effect p name blank

/-- Finds textures for the samplers of an effect. -/
def resolveSamplers (l : Linking D) (effect : Effect) : Linking D :=
  effect.parameters.foldl (resolveSampler effect.name) l

end ShaderEffects.Linking
