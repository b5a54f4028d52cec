import ShaderEffects.Image.Dds
import ShaderEffects.Image.Extension
import ShaderEffects.Image.Farbfeld
import ShaderEffects.Image.Gif
import ShaderEffects.Image.Hdr
import ShaderEffects.Image.Ico
import ShaderEffects.Image.Jpeg
import ShaderEffects.Image.OpenExr
import ShaderEffects.Image.Pnm
import ShaderEffects.Image.Qoi
import ShaderEffects.Image.Tga
import ShaderEffects.Image.Tiff
import ShaderEffects.Image.WebP

/-!
# Sizes of images

The size of an image file, by the reader of its format. The format is told either
by the name of the file or by its first bytes.
-/

namespace ShaderEffects

/-- Why a file is not taken for an image. -/
inductive ImageFault where
  /-- Nothing tells the format. -/
  | unknownFormat
  /-- No format has the extension. -/
  | unknownExtension (extension : String)
  /-- The format cannot be read. -/
  | unsupported (format : ImageFormat)
  | jpeg (fault : Jpeg.Fault)
  | png (fault : Png.Fault)
  | gif (fault : Gif.Fault)
  | webp (fault : WebP.Fault)
  | tiff (fault : Tiff.Fault)
  | tga (fault : Tga.Fault)
  | dds (fault : Dds.Fault)
  | bmp (fault : Bmp.Fault)
  | ico (fault : Ico.Fault)
  | hdr (fault : Hdr.Fault)
  | openExr (fault : OpenExr.Fault)
  | pnm (fault : Pnm.Fault)
  | farbfeld (fault : Farbfeld.Fault)
  | qoi (fault : Qoi.Fault)
deriving DecidableEq, Repr

/-- The wording of such a reason. -/
def ImageFault.message : ImageFault → String
  | .unknownFormat => "The image format could not be determined"
  | .unknownExtension extension =>
    "The file extension `." ++ Text.quoted extension ++ "` was not recognized as an image format"
  | .unsupported format => ImageFormat.unsupportedText format.name
  | .jpeg fault => fault.message
  | .png fault => fault.message
  | .gif fault => fault.message
  | .webp fault => fault.message
  | .tiff fault => fault.message
  | .tga fault => fault.message
  | .dds fault => fault.message
  | .bmp fault => fault.message
  | .ico fault => fault.message
  | .hdr fault => fault.message
  | .openExr fault => fault.message
  | .pnm fault => fault.message
  | .farbfeld fault => fault.message
  | .qoi fault => fault.message

/-- What a reader finds at the front of a file. -/
def ByteReader.find {ε α : Type} (reader : ByteReader ε α) (wrap : ε → ImageFault)
    (content : List UInt8) : Except ImageFault α :=
  match reader content with
  | .ok (a, _) => .ok a
  | .error fault => .error (wrap fault)

namespace ImageFormat

/-- The format of a file by its name. -/
def ofPath (path : String) : Except ImageFault ImageFormat :=
  match extension? path with
  | none => .error .unknownFormat
  | some extension =>
    match ofExtension? extension with
    | none => .error (.unknownExtension extension)
    | some .avif => .error (.unsupported .avif)
    | some format => .ok format

/-- The size that the header of an image tells, whether or not the pixels are all
there. -/
def size (format : ImageFormat) (content : List UInt8) : Except ImageFault ImageSize :=
  match format with
  | .avif => .error (.unsupported .avif)
  | .jpeg => Jpeg.size.find .jpeg content
  | .png => Png.size.find .png content
  | .gif => Gif.size.find .gif content
  | .webp => WebP.size.find .webp content
  | .tiff => Tiff.size.find .tiff content
  | .tga => Tga.size.find .tga content
  | .dds => Dds.size.find .dds content
  | .bmp => Bmp.size.find .bmp content
  | .ico => Ico.size.find .ico content
  | .hdr => Hdr.size.find .hdr content
  | .openExr => OpenExr.size.find .openExr content
  | .pnm => Pnm.size.find .pnm content
  | .farbfeld => Farbfeld.size.find .farbfeld content
  | .qoi => Qoi.size.find .qoi content

/-- The size of an image whose pixels are all there and fit into memory. The pixels
of four formats are looked at here, and those of the others, once the header is read, by
a decoder that is given. -/
def wholeSize (others : ImageFormat → List UInt8 → Except String Unit)
    (format : ImageFormat) (content : List UInt8) : Except String ImageSize :=
  match format with
  | .avif => .error (unsupportedText ImageFormat.avif.name)
  | .png => (Png.wholeSize.find .png content).mapError ImageFault.message
  | .hdr => (Hdr.wholeSize.find .hdr content).mapError ImageFault.message
  | .pnm => (Pnm.wholeSize.find .pnm content).mapError ImageFault.message
  | .farbfeld => (Farbfeld.wholeSize.find .farbfeld content).mapError ImageFault.message
  | .jpeg | .gif | .webp | .tiff | .tga | .dds | .bmp | .ico | .openExr | .qoi =>
    match format.size content with
    | .error fault => .error fault.message
    | .ok size => (others format content).map fun _ => size

end ImageFormat

/-- The size of an image whose first bytes tell its format. -/
def wholeImageSize (others : ImageFormat → List UInt8 → Except String Unit)
    (content : List UInt8) : Except String ImageSize :=
  match ImageFormat.ofContent? content with
  | none => .error ImageFault.unknownFormat.message
  | some format => format.wholeSize others content

end ShaderEffects
