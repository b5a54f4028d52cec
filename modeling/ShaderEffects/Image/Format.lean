import ShaderEffects.Text.Quoted

/-!
# Image formats

The formats of image files: how the extension of a file's name and how the first
bytes of a file tell its format, and the words that all messages about images
share.
-/

namespace ShaderEffects

/-- The width and height of an image. -/
structure ImageSize where
  width : Nat
  height : Nat
deriving DecidableEq, Repr

/-- The bytes that the pixels of an image take. -/
def ImageSize.bytes (size : ImageSize) (perPixel : Nat) : Nat :=
  size.width * size.height * perPixel

/-- The most bytes that an image may take. -/
def imageByteLimit : Nat := Nat.pow 2 29

/-- The formats that can be told. -/
inductive ImageFormat where
  | avif
  | jpeg
  | png
  | gif
  | webp
  | tiff
  | tga
  | dds
  | bmp
  | ico
  | hdr
  | openExr
  | pnm
  | farbfeld
  | qoi
deriving DecidableEq, Repr

namespace ImageFormat

/-- The name of a format. -/
def name : ImageFormat → String
  | .avif => "Avif"
  | .jpeg => "Jpeg"
  | .png => "Png"
  | .gif => "Gif"
  | .webp => "WebP"
  | .tiff => "Tiff"
  | .tga => "Tga"
  | .dds => "Dds"
  | .bmp => "Bmp"
  | .ico => "Ico"
  | .hdr => "Hdr"
  | .openExr => "OpenExr"
  | .pnm => "Pnm"
  | .farbfeld => "Farbfeld"
  | .qoi => "Qoi"

/-- The extensions of each format, in lower case. -/
def extensions : List (String × ImageFormat) :=
  [("avif", .avif), ("jpg", .jpeg), ("jpeg", .jpeg), ("jfif", .jpeg), ("png", .png),
    ("apng", .png), ("gif", .gif), ("webp", .webp), ("tif", .tiff), ("tiff", .tiff),
    ("tga", .tga), ("dds", .dds), ("bmp", .bmp), ("ico", .ico), ("hdr", .hdr),
    ("exr", .openExr), ("pbm", .pnm), ("pam", .pnm), ("ppm", .pnm), ("pgm", .pnm),
    ("pnm", .pnm), ("ff", .farbfeld), ("qoi", .qoi)]

/-- The format of an extension, whose ASCII letters may have either case. -/
def ofExtension? (extension : String) : Option ImageFormat :=
  extensions.lookup (String.ofList (extension.toList.map Char.toLower))

/-- The bytes of a text. -/
def letters (text : String) : List (Option UInt8) := text.toUTF8.data.toList.map some

/-- The first bytes of the files of each format that tells itself. A byte that is
left out can have any value. -/
def marks : List (List (Option UInt8) × ImageFormat) :=
  [([some 0x89] ++ letters "PNG\r\n" ++ [some 0x1A] ++ letters "\n", .png),
    ([some 0xFF, some 0xD8, some 0xFF], .jpeg),
    (letters "GIF89a", .gif), (letters "GIF87a", .gif),
    (letters "RIFF" ++ List.replicate 4 none ++ letters "WEBP", .webp),
    (letters "MM\x00*", .tiff), (letters "II*\x00", .tiff),
    (letters "DDS ", .dds), (letters "BM", .bmp), (letters "\x00\x00\x01\x00", .ico),
    (letters "#?RADIANCE", .hdr),
    (letters "\x00\x00" ++ List.replicate 2 none ++ letters "ftypavif", .avif),
    (letters "v/1\x01", .openExr), (letters "qoif", .qoi),
    (letters "P1", .pnm), (letters "P2", .pnm), (letters "P3", .pnm), (letters "P4", .pnm),
    (letters "P5", .pnm), (letters "P6", .pnm), (letters "P7", .pnm),
    (letters "farbfeld", .farbfeld)]

/-- Whether bytes begin with a mark. -/
def isMarked : List (Option UInt8) → List UInt8 → Bool
  | [], _ => true
  | _ :: _, [] => false
  | none :: mark, _ :: bytes => isMarked mark bytes
  | some m :: mark, b :: bytes => m == b && isMarked mark bytes

/-- The format that the first bytes of a file tell. -/
def ofContent? (content : List UInt8) : Option ImageFormat :=
  (marks.find? fun mark => isMarked mark.1 content).map (·.2)

/-- A message about content that is not as the format wants it. -/
def malformed (format : ImageFormat) (reason : String) : String :=
  "Format error decoding " ++ format.name ++ ": " ++ reason

/-- A message about a part of the format that cannot be read. -/
def missingFeature (format : ImageFormat) (feature : String) : String :=
  "The decoder for " ++ format.name ++ " does not support the format features " ++ feature

/-- A message about a format that cannot be read. -/
def unsupportedText (format : String) : String :=
  "The image format " ++ format ++ " is not supported"

/-- A message about bytes that could not be had, for a given reason. Three of the
formats take that for a fault of the content. -/
def unread (format : ImageFormat) (reason : String) : String :=
  match format with
  | .openExr | .farbfeld => format.malformed reason
  | .qoi => format.malformed ("i/o error: " ++ reason)
  | _ => reason

end ImageFormat

/-- What is said of bytes that end inside a field. -/
def shortFieldText : String := "failed to fill whole buffer"

/-- What is said of bytes that end inside an image. -/
def cutOffText : String := "unexpected end of file"

/-- What is said of images that take too many bytes. -/
def byteLimitText : String := "Memory limit exceeded"

end ShaderEffects
