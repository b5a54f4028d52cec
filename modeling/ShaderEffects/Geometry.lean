/-!
# Geometry

The triangles of a draw: either what the host hands over, or a quad that covers
the whole target.
-/

namespace ShaderEffects

/-- A corner of a triangle: a position in clip space and a texture coordinate. -/
structure Vertex where
  x : Float32
  y : Float32
  z : Float32
  w : Float32
  u : Float32
  v : Float32

/-- The numbers of a vertex, in the order in which a device takes them. -/
def Vertex.toList (p : Vertex) : List Float32 := [p.x, p.y, p.z, p.w, p.u, p.v]

/-- The bytes of a vertex: four for each of its numbers. -/
def Vertex.stride : Nat := 24

/-- A list of triangles, whose corners may be picked by index. -/
structure Geometry where
  vertices : List Vertex := []
  indices : Option (List Nat) := none

/-- The number of corners that are drawn. -/
def Geometry.indexCount (g : Geometry) : Nat :=
  match g.indices with
  | some indices => indices.length
  | none => g.vertices.length

/-- The bytes of all vertices. -/
def Geometry.vertexBytes (g : Geometry) : Nat := Vertex.stride * g.vertices.length

/-- The bytes of the indices, if there are any: four for each. -/
def Geometry.indexBytes? (g : Geometry) : Option Nat :=
  g.indices.map fun indices => 4 * indices.length

/-- Two triangles that cover a target, with the texture coordinate zero in the
upper left corner. -/
structure FullscreenQuad where
  width : Nat
  height : Nat
  halfPixel : Bool
  geometry : Geometry

namespace FullscreenQuad

/-- The corners of the two triangles. -/
def indices : List Nat := [0, 1, 2, 2, 1, 3]

/-- The corners of a quad shifted to the left by `dx` and up by `dy`. -/
def corners (dx dy : Float32) : List Vertex :=
  [⟨-1 - dx, 1 + dy, 0, 1, 0, 0⟩, ⟨1 - dx, 1 + dy, 0, 1, 1, 0⟩,
    ⟨-1 - dx, -1 + dy, 0, 1, 0, 1⟩, ⟨1 - dx, -1 + dy, 0, 1, 1, 1⟩]

/-- The quad for a target of a size, each side of which counts as at least one.
A quad with `halfPixel` is shifted by half a texel, which is one part of the
target's size in clip space. -/
def ofSize (width height : Nat) (halfPixel : Bool) : FullscreenQuad :=
  let w := max width 1
  let h := max height 1
  let corners :=
    if halfPixel then corners (1 / Float32.ofNat w) (1 / Float32.ofNat h) else corners 0 0
  ⟨w, h, halfPixel, corners, some indices⟩

/-- Whether a quad is for a target of the size. -/
def fits (quad : FullscreenQuad) (width height : Nat) : Bool :=
  quad.width = max width 1 ∧ quad.height = max height 1

/-- The quad for a target that may have another size by now. -/
def fit (quad : FullscreenQuad) (width height : Nat) : FullscreenQuad :=
  if quad.fits width height then quad else ofSize width height quad.halfPixel

@[simp] theorem fits_ofSize (width height : Nat) (halfPixel : Bool) :
    (ofSize width height halfPixel).fits width height = true := by
  simp [fits, ofSize]

@[simp] theorem fits_fit (quad : FullscreenQuad) (width height : Nat) :
    (quad.fit width height).fits width height = true := by
  unfold fit
  split <;> simp_all

end FullscreenQuad

end ShaderEffects
