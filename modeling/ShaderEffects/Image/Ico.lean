import ShaderEffects.Image.Bmp
import ShaderEffects.Image.Png

/-!
# ICO images

The directory of an ICO file and the best of its images: the one with the most
bits to a pixel, and of those the largest. It is a PNG image or the second header
and the pixels of a BMP image, where each row of pixels has another one for the
shape of the icon.
-/

namespace ShaderEffects

namespace Ico

/-- Why bytes are not taken for an image. -/
inductive Fault where
  /-- The bytes end too early. -/
  | cutOff
  | manyPlanes
  | manyBits
  | noImage
  /-- The image is a PNG image with a fault. -/
  | png (fault : Png.Fault)
  /-- The image is a BMP image with a fault. -/
  | bmp (fault : Bmp.Fault)
deriving DecidableEq, Repr

namespace Fault

instance : Truncation Fault := ⟨fun _ _ => .cutOff⟩

/-- The wording of a fault. -/
def message : Fault → String
  | .cutOff => shortFieldText
  | .manyPlanes =>
    ImageFormat.ico.malformed
      "ICO image entry has too many color planes or too large hotspot value"
  | .manyBits =>
    ImageFormat.ico.malformed
      "ICO image entry has too many bits per pixel or too large hotspot value"
  | .noImage => ImageFormat.ico.malformed "ICO directory contains no image"
  | .png fault => fault.message
  | .bmp fault => fault.message

end Fault

/-- A reader of an image. -/
abbrev Reader := ByteReader Fault

/-- What the directory tells of an image. -/
structure Entry where
  /-- A side of zero stands for one of 256. -/
  width : Nat
  height : Nat
  /-- The bits of a pixel. -/
  bits : Nat
  /-- Where in the file the image begins. -/
  place : Nat
deriving DecidableEq, Repr

/-- The pixels of an image. -/
def Entry.area (entry : Entry) : Nat :=
  let side n := if n = 0 then 256 else n
  side entry.width * side entry.height

/-- Whether an image is better than another one. -/
def Entry.isBetter (entry other : Entry) : Bool :=
  other.bits < entry.bits || other.bits = entry.bits && other.area < entry.area

/-- An entry of the directory. Each field is judged before the next is read. -/
def entry : Reader Entry := do
  let width ← ByteReader.bigEndian 1
  let height ← ByteReader.bigEndian 1
  let _ ← ByteReader.take 2
  if 256 < (← ByteReader.littleEndian 2) then throw .manyPlanes
  let bits ← ByteReader.littleEndian 2
  if 256 < bits then throw .manyBits
  let _ ← ByteReader.take 4
  let place ← ByteReader.littleEndian 4
  return { width, height, bits, place }

/-- The entries of the directory. -/
def entries : Nat → Reader (List Entry)
  | 0 => return []
  | n + 1 => return (← entry) :: (← entries n)

/-- The best of the images. Of equal ones the last comes first, then the others in
their order. -/
def best? (entries : List Entry) : Option Entry :=
  entries.getLast?.map fun last =>
    entries.dropLast.foldl (fun best entry => if entry.isBetter best then entry else best) last

/-- The size of an image. -/
def size : Reader ImageSize := do
  let content ← get
  let _ ← ByteReader.take 4
  let count ← ByteReader.littleEndian 2
  match best? (← entries count) with
  | none => throw .noImage
  | some entry =>
    set (content.drop entry.place)
    let front ← ByteReader.take 8
    let image := content.drop entry.place
    if front = Png.signature.flatten then
      match Png.size image with
      | .ok (size, _) => return size
      | .error fault => throw (.png fault)
    else
      match Bmp.header image with
      | .ok (size, _) => return { size with height := size.height / 2 }
      | .error fault => throw (.bmp fault)

end Ico

end ShaderEffects
