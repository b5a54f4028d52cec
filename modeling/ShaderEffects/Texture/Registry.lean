import ShaderEffects.Arena
import ShaderEffects.Link.Error
import ShaderEffects.Table

/-!
# Registered textures

The textures of a session, by name. A name that is taken stays with its first
texture for good. Four of the names belong to the session itself.
-/

namespace ShaderEffects

/-- A texture with a name. -/
structure Texture where
  name : String
  /-- The texture on the device. -/
  backing : TextureId
  desc : TextureDesc
deriving DecidableEq, Repr

namespace Staging

/-- Where a pass draws by default. It holds what the technique has drawn so far. -/
def lastPass : String := ":lastpass"

/-- Where a technique ends by default. It is copied to the backbuffer. -/
def lastShader : String := ":lastshader"

/-- The backbuffer before the first effect of the frame. -/
def thisFrame : String := ":thisframe"

/-- The backbuffer after the last effect of the frame before. -/
def lastFrame : String := ":lastframe"

/-- The textures that every session has. -/
def all : List String := [lastPass, lastShader, thisFrame, lastFrame]

end Staging

/-- The textures of a session. -/
structure TextureRegistry where
  textures : Arena Texture := ∅
  names : Table String (Handle Texture) := ∅

namespace TextureRegistry

/-- The handle of the texture with a name. -/
def find? (registry : TextureRegistry) (name : String) : Option (Handle Texture) :=
  registry.names.get? name

/-- The texture under a handle. -/
def get? (registry : TextureRegistry) (handle : Handle Texture) : Option Texture :=
  registry.textures.get? handle

/-- The texture with a name. -/
def byName? (registry : TextureRegistry) (name : String) : Option Texture :=
  (registry.find? name).bind registry.get?

/-- Whether a name is taken. -/
def contains (registry : TextureRegistry) (name : String) : Bool :=
  registry.names.contains name

/-- Gives a name to a texture of the device. -/
def register (registry : TextureRegistry) (name : String) (backing : TextureId)
    (desc : TextureDesc) : Except LinkError (Handle Texture × TextureRegistry) :=
  if registry.contains name then .error (.duplicateTexture name)
  else
    let (textures, handle) := registry.textures.insert ⟨name, backing, desc⟩
    .ok (handle, ⟨textures, registry.names.insert name handle⟩)

/-- The number of names. -/
def size (registry : TextureRegistry) : Nat := registry.names.size

/-- The textures with their handles, in the order in which they were registered. -/
def toList (registry : TextureRegistry) : List (Handle Texture × Texture) :=
  registry.textures.toList

end TextureRegistry

end ShaderEffects
