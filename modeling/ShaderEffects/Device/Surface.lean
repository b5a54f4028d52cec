/-!
# What a device keeps

The numbers by which a device knows its textures and programs, and the surfaces
it can draw into and copy between.
-/

namespace ShaderEffects

/-- The number of a texture on the device that made it. -/
structure TextureId where
  number : Nat
deriving DecidableEq, Repr

/-- The number of a program on the device that loaded it. -/
structure ProgramId where
  number : Nat
deriving DecidableEq, Repr

/-- The text of a texture's number in messages. -/
def TextureId.text (id : TextureId) : String := "TextureId(" ++ toString id.number ++ ")"

/-- The text of a program's number in messages. -/
def ProgramId.text (id : ProgramId) : String := "ProgramId(" ++ toString id.number ++ ")"

/-- What can be drawn into and copied from. -/
inductive Surface where
  | backbuffer
  /-- The surface every pass is drawn into first. -/
  | scratch
  | texture (id : TextureId)
deriving DecidableEq, Repr

/-- The text of a surface in messages. -/
def Surface.text : Surface → String
  | .backbuffer => "Backbuffer"
  | .scratch => "Scratch"
  | .texture id => "Texture(" ++ id.text ++ ")"

end ShaderEffects
