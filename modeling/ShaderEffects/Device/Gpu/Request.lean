import ShaderEffects.Device.Basic
import ShaderEffects.Device.Gpu.Context

/-!
# What is asked of a graphics interface

The textures, shaders, layouts and pipelines that a device makes, and the
render passes it records, each with all it refers to. A request is written as
one line, a render pass as a line for its beginning and one for each draw.
-/

namespace ShaderEffects.Gpu

/-- A shader with its label. -/
structure ShaderModule where
  label : String
  source : String
deriving DecidableEq, Repr

/-- What a layout has at a binding. -/
inductive BindingType where
  /-- A uniform buffer of at least a number of bytes. -/
  | uniform (bytes : Nat)
  /-- A flat texture of floats, and whether it can be filtered. -/
  | texture (filterable : Bool)
  /-- A sampler, and whether it filters. -/
  | sampler (filtering : Bool)
deriving DecidableEq, Repr

/-- A binding of a bind group. -/
structure LayoutEntry where
  binding : Nat
  /-- The stage that sees it. -/
  visibility : Stage
  type : BindingType
deriving DecidableEq, Repr

/-- The bindings of a bind group. -/
abbrev BindGroupLayout := List LayoutEntry

/-- A way to draw triangles into a colour target. -/
structure Pipeline where
  label : String
  /-- The layout of each bind group. -/
  layout : List BindGroupLayout
  vertex : ShaderModule
  vertexEntry : String
  fragment : ShaderModule
  fragmentEntry : String
  /-- The number of vertex buffers. -/
  buffers : Nat
  target : PixelFormat
deriving DecidableEq, Repr

/-- A texture in a bind group. -/
inductive Sampled where
  | texture (id : TextureId)
  /-- What stands in for a missing texture. -/
  | fallback
deriving DecidableEq, Repr

/-- What is put at a binding. -/
inductive BindingResource where
  /-- The whole buffer of a program. -/
  | buffer (program : ProgramId)
  | texture (texture : Sampled)
  /-- The sampler that all effects share. -/
  | sampler
deriving DecidableEq, Repr

/-- A binding with what is put there. -/
structure BindGroupEntry where
  binding : Nat
  resource : BindingResource
deriving DecidableEq, Repr

/-- What is put at the bindings of a layout. -/
structure BindGroup where
  layout : BindGroupLayout
  entries : List BindGroupEntry
deriving DecidableEq, Repr

/-- The draw of a render pass, by its number of corners. -/
inductive DrawCall where
  | direct (vertices : Nat)
  | indexed (indices : Nat)
deriving DecidableEq, Repr

/-- The corners that are drawn. -/
def DrawCall.corners : DrawCall → Nat
  | .direct vertices => vertices
  | .indexed indices => indices

/-- A render pass that draws with a vertex and a fragment program. -/
structure DrawPass where
  label : String
  target : Surface
  pipeline : Pipeline
  groups : List BindGroup
  /-- The bytes of the vertex buffer. -/
  vertexBytes : Nat
  /-- The bytes of the index buffer, if there is one. -/
  indexBytes : Option Nat
  call : DrawCall
deriving DecidableEq, Repr

/-- The buffers of a draw, by their bytes. Each is read from its first byte to its last. -/
def DrawPass.buffers (pass : DrawPass) : List Nat :=
  pass.vertexBytes :: pass.indexBytes.toList

/-- A render pass that stretches one surface over another. -/
structure BlitPass where
  source : Surface
  destination : Surface
  pipeline : Pipeline
deriving DecidableEq, Repr

/-- Something asked of the graphics interface. -/
inductive Request where
  | texture (label : String) (width height : Nat) (format : PixelFormat)
  | shader (module : ShaderModule)
  | layout (label : String) (entries : BindGroupLayout)
  | pipeline (pipeline : Pipeline)
  /-- Writes registers to the buffer of a program, from its first byte on. -/
  | writeBuffer (program : ProgramId) (registers : List Register)
  | writeTexture (width height bytes : Nat)
  /-- A render pass that only clears the backbuffer. -/
  | clear
  | draw (pass : DrawPass)
  | blit (pass : BlitPass)
  /-- Gives the surface of the window its size. -/
  | configure (window : Window)
  /-- A render pass that stretches the backbuffer over the next frame of the window. -/
  | present (pipeline : Pipeline)

/-- The longest side of a texture. -/
def sideLimit : Nat := 8192

/-- Whether a texture can have this size: it has a texel, and no side is too long. -/
def fitsLimit (width height : Nat) : Bool :=
  1 ≤ width ∧ width ≤ sideLimit ∧ 1 ≤ height ∧ height ≤ sideLimit

/-- Whether a request ends the program. The interface is not asked to report on the size of a
texture, of the window or of a buffer that is read. -/
def Request.isFatal : Request → Bool
  | .texture _ width height _ => !fitsLimit width height
  | .configure window => !fitsLimit window.width window.height
  | .draw pass => 0 ∈ pass.buffers
  | _ => false

/-- The lower-case hexadecimal digits of a word, all eight of them. -/
def wordText (word : UInt32) : String :=
  let digits := Text.hexDigits word.toNat
  String.ofList (List.replicate (8 - digits.length) '0' ++ digits)

/-- The words of a register file up to the last one that is not zero. -/
def usedWords (registers : List Register) : List UInt32 :=
  let words := registers.flatMap fun register => register.toList.map Float32.toBits
  (words.reverse.dropWhile (· = 0)).reverse

/-- The line that begins a render pass. -/
def beginLine (label : String) (clears : Bool) : String :=
  "begin " ++ label ++ (if clears then " clear" else " load")

/-- The lines of a request. -/
def Request.lines : Request → List String
  | .texture label width height format =>
    ["texture " ++ label ++ " " ++ toString width ++ "x" ++ toString height ++ " "
      ++ format.name]
  | .shader module => ["shader " ++ module.label ++ "\n" ++ module.source]
  | .layout label entries =>
    ["layout " ++ label ++ " bindings=["
      ++ ", ".intercalate (entries.map fun entry => toString entry.binding) ++ "]"]
  | .pipeline p =>
    ["pipeline " ++ p.label ++ " vs=" ++ p.vertexEntry ++ " buffers=" ++ toString p.buffers
      ++ " fs=" ++ p.fragmentEntry ++ " target=Some(" ++ p.target.name ++ ")"]
  | .writeBuffer _ registers =>
    ["write_buffer " ++ " ".intercalate ((usedWords registers).map wordText)]
  | .writeTexture width height bytes =>
    ["write_texture " ++ toString width ++ "x" ++ toString height ++ " " ++ toString bytes
      ++ " bytes"]
  | .clear => [beginLine "Clear backbuffer" true]
  | .draw pass =>
    [beginLine pass.label false,
      match pass.call with
      | .direct n => "draw " ++ toString n
      | .indexed n => "draw_indexed " ++ toString n]
  | .blit _ | .present _ => [beginLine "Blit" true, "draw 3"]
  | .configure _ => []

end ShaderEffects.Gpu
