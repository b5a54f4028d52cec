import ShaderEffects.Image.Bytes
import ShaderEffects.Image.Format

/-!
# JPEG images

The segments of a JPEG image up to its first scan. A segment begins with a byte
of ones and a marker. Bytes that are in no segment are passed over.
-/

namespace ShaderEffects

namespace Jpeg

/-- Why bytes are not taken for an image. -/
inductive Fault where
  /-- Fewer bytes were found than were needed. -/
  | cutOff (needed found : Nat)
  /-- The first two bytes are others. -/
  | otherStart (word : Nat)
  /-- A segment is shorter than its length. -/
  | shortSegment (length : Nat)
  /-- A segment with a marker that is not known is shorter than its length. -/
  | shortUnknownSegment (length : Nat)
  /-- The image ends before its first scan. -/
  | noScan
  /-- The first scan comes before the size. -/
  | noFrame
  | duplicateFrame
  | precision (bits : Nat)
  | zeroSized
  | zeroComponents
deriving DecidableEq, Repr

namespace Fault

instance : Truncation Fault := ⟨.cutOff⟩

/-- What is wrong with the content. -/
def reason : Fault → String
  | .cutOff needed found =>
    "I/O errors Not enough bytes, expected " ++ toString needed ++ " but found " ++ toString found
      ++ "\n"
  | .otherStart word => "Error parsing image. Illegal start bytes:" ++ Text.upperDigits word
  | .shortSegment length =>
    Text.quoted ("Found a marker with invalid length:" ++ toString length ++ "\n")
  | .shortUnknownSegment length =>
    Text.quoted ("Found a marker with invalid length : " ++ toString length)
  | .noScan => Text.quoted "Premature End of image"
  | .noFrame => Text.quoted "Error decoding SOF Marker, Number of components cannot be zero."
  | .duplicateFrame => "Error parsing SOF segment. Reason:Two Start of Frame Markers"
  | .precision bits =>
    "Error parsing SOF segment. Reason:The library can only parse 8-bit images, the image has "
      ++ toString bits ++ " bits of precision"
  | .zeroSized => "Image width or height is set to zero, cannot continue"
  | .zeroComponents =>
    "Error parsing SOF segment. Reason:Number of components cannot be zero."

/-- The wording of a fault. -/
def message (fault : Fault) : String := ImageFormat.jpeg.malformed fault.reason

end Fault

/-- A reader of an image. -/
abbrev Reader := ByteReader Fault

/-- Whether a marker is known. -/
def isKnown (marker : UInt8) : Bool := 0xC0 ≤ marker && marker < 0xF0 || marker = 0xFE

/-- Whether a marker begins the segment that holds the size. -/
def isFrame (marker : UInt8) : Bool := 0xC0 ≤ marker && marker ≤ 0xC2

/-- Goes past a segment. -/
def skipSegment (marker : UInt8) : Reader Unit := do
  let length ← ByteReader.bigEndian 2
  if length < 2 then
    throw (if isKnown marker then .shortSegment length else .shortUnknownSegment length)
  if marker = 0xE0 ∧ 5 < length then
    let _ ← ByteReader.take 5
    ByteReader.skip (length - 7)
  else ByteReader.skip (length - 2)

/-- The size in the segment that holds it. -/
def frame : Reader ImageSize := do
  let length ← ByteReader.bigEndian 2
  let precision ← ByteReader.bigEndian 1
  if precision ≠ 8 then throw (.precision precision)
  let height ← ByteReader.bigEndian 2
  let width ← ByteReader.bigEndian 2
  if width = 0 ∨ height = 0 then throw .zeroSized
  if (← ByteReader.bigEndian 1) = 0 then throw .zeroComponents
  ByteReader.skip (length - 8)
  return { width, height }

/-- The next byte and the one before it, past the bytes of ones and zeros that
fill the space behind a byte of ones. -/
def filled : UInt8 → List UInt8 → Except Fault ((UInt8 × UInt8) × List UInt8)
  | _, [] => .error (.cutOff 1 0)
  | last, b :: bytes => if b = 0xFF ∨ b = 0 then filled b bytes else .ok ((last, b), bytes)

/-- Looks for segments up to the first scan, among at most the given number of
bytes. -/
def segments : Nat → UInt8 → Option ImageSize → Reader ImageSize
  | 0, _, _ => throw (.cutOff 1 0)
  | budget + 1, last, size => do
    let (last, marker) ←
      if last = 0xFF then filled last else Prod.mk last <$> ByteReader.byte
    if last ≠ 0xFF then segments budget marker size
    else if isFrame marker then
      if size.isSome then throw .duplicateFrame
      segments budget marker (some (← frame))
    else if marker = 0xD9 then throw .noScan
    else if marker = 0xDA then
      match size with
      | some size => return size
      | none => throw .noFrame
    else do
      skipSegment marker
      segments budget marker size

/-- The size of an image. -/
def size : Reader ImageSize := do
  let word ← ByteReader.bigEndian 2
  if word ≠ 0xFFD8 then throw (.otherStart word)
  segments ((← get).length + 1) 0 none

end Jpeg

end ShaderEffects
