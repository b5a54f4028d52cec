import ShaderEffects.Image.Bytes
import ShaderEffects.Image.Format

/-!
# TIFF images

The first directory of a TIFF image. The first two bytes tell the order of the
bytes in all numbers; behind the signature stands the place of the directory,
whose entries hold the width and the height.
-/

namespace ShaderEffects

namespace Tiff

/-- Why bytes are not taken for an image. -/
inductive Fault where
  /-- The bytes end too early. -/
  | cutOff
  /-- The first bytes are others. -/
  | noSignature
  /-- The order of the bytes is told, but no signature follows. -/
  | otherSignature
  | noDirectory
  /-- The directory has no entry of a name. -/
  | missing (entry : String)
deriving DecidableEq, Repr

namespace Fault

instance : Truncation Fault := ⟨fun _ _ => .cutOff⟩

/-- What is wrong with the content, if that is what is wrong. -/
def reason? : Fault → Option String
  | .cutOff => none
  | .noSignature => some "TIFF signature not found"
  | .otherSignature => some "TIFF signature invalid"
  | .noDirectory => some "image file directory not found"
  | .missing entry => some ("required tag `" ++ entry ++ "` not found")

/-- The wording of a fault. -/
def message (fault : Fault) : String :=
  match fault.reason? with
  | some reason => ImageFormat.tiff.malformed ("format error: " ++ reason)
  | none => shortFieldText

end Fault

/-- A reader of an image. -/
abbrev Reader := ByteReader Fault

/-- The order of the bytes in a number. -/
inductive ByteOrder where
  | little
  | big
deriving DecidableEq, Repr

/-- The order that the first bytes tell. -/
def ByteOrder.ofBytes? : List UInt8 → Option ByteOrder
  | [0x49, 0x49] => some .little
  | [0x4D, 0x4D] => some .big
  | _ => none

/-- The number in the next bytes. -/
def ByteOrder.number (order : ByteOrder) (width : Nat) : Reader Nat :=
  match order with
  | .little => ByteReader.littleEndian width
  | .big => ByteReader.bigEndian width

/-- The sizes of the numbers in a file. -/
structure Layout where
  /-- The bytes of a place in the file. -/
  place : Nat
  /-- The bytes of the number of entries. -/
  count : Nat
deriving DecidableEq, Repr

/-- The layout that the signature tells. Where places take eight bytes, the
signature says so once more. -/
def layout (order : ByteOrder) : Reader Layout := do
  let signature ← order.number 2
  if signature = 42 then return ⟨4, 2⟩
  if signature ≠ 43 then throw .otherSignature
  if (← order.number 2) ≠ 8 then throw .noSignature
  if (← order.number 2) ≠ 0 then throw .noSignature
  return ⟨8, 8⟩

/-- The entries of a directory: the tag and the number that it is given. A number
of two bytes stands in the first two. -/
def entries (order : ByteOrder) (layout : Layout) : Nat → Reader (List (Nat × Nat))
  | 0 => return []
  | n + 1 => do
    let tag ← order.number 2
    let type ← order.number 2
    let _ ← order.number layout.place
    let field ← ByteReader.take layout.place
    let (value, _) ← order.number (if type = 3 then 2 else layout.place) field
    return (tag, value) :: (← entries order layout n)

/-- The value of an entry. -/
def required (entries : List (Nat × Nat)) (tag : Nat) (name : String) : Reader Nat :=
  match entries.lookup tag with
  | some value => return value
  | none => throw (.missing name)

/-- The size of an image. -/
def size : Reader ImageSize := do
  let content ← get
  match ByteOrder.ofBytes? (content.take 2) with
  | none => throw .noSignature
  | some order =>
    ByteReader.skip 2
    let layout ← layout order
    let place ← order.number layout.place
    if place = 0 then throw .noDirectory
    set (content.drop place)
    let count ← order.number layout.count
    let entries ← entries order layout (min count content.length)
    let _ ← order.number layout.place
    let width ← required entries 256 "ImageWidth"
    let height ← required entries 257 "ImageLength"
    return { width, height }

end Tiff

end ShaderEffects
