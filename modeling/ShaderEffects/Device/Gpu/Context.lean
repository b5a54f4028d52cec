import ShaderEffects.Image.Size
import ShaderEffects.Texture.Format

/-!
# What a graphics device is made for

A device may have a window to present to, in a format that the window chooses.
Without one it keeps to the standard format. How the bytes of an image file are
decoded is given to it, too.
-/

namespace ShaderEffects.Gpu

/-- A layout of texels, by its name in the graphics interface. -/
structure PixelFormat where
  name : String
deriving DecidableEq, Repr

instance : Coe TextureFormat PixelFormat := ⟨fun format => ⟨format.deviceName⟩⟩

/-- The format where nothing asks for another one. -/
def PixelFormat.standard : PixelFormat := TextureFormat.rgba8

/-- The part of the screen that a device presents to. -/
structure Window where
  format : PixelFormat
  width : Nat
  height : Nat
deriving DecidableEq, Repr

/-- What a window has for the next frame. -/
inductive FrameAnswer where
  | frame
  | lost
  | outdated
  | timeout
  /-- There is nothing, for another reason. -/
  | failed (reason : String)
deriving DecidableEq, Repr

/-- What a device is made for. -/
structure GpuContext where
  window : Option Window := none
  /-- The size of an image, from the bytes of its file, or why they cannot be decoded. -/
  decode : List UInt8 → Except String ImageSize

namespace GpuContext

/-- The format of the surfaces of a device. -/
def surfaceFormat (context : GpuContext) : PixelFormat :=
  match context.window with
  | some window => window.format
  | none => .standard

/-- No window, and no decoder for the formats whose pixels are not looked at here. -/
def plain : GpuContext where
  decode := wholeImageSize fun format _ => .error (ImageFormat.unsupportedText format.name)

end GpuContext

end ShaderEffects.Gpu
