import ShaderEffects.Json.Writer
import ShaderEffects.Notice

/-!
# Settings

The configuration of a session. Settings that were read are checked: a value
that cannot be used is replaced by its default, and a notice says so.
-/

namespace ShaderEffects

/-- The configuration of a session. -/
structure Settings where
  /-- The folders searched for effect, program and texture files, in order. -/
  searchPaths : List String := ["."]
  /-- The format of the staging textures. -/
  stagingFormat : TextureFormat := .rgba8
  /-- Whether the full-screen quad is shifted by half a texel. -/
  halfPixelOffset : Bool := true
  /-- Whether the parameters `time`, `frame` and `resolution` are registered. -/
  builtinParameters : Bool := true
  logFilter : String := "info"
deriving DecidableEq, Repr

namespace Settings

open Json Json.Reader

/-- The formats by the names that settings documents use. -/
def formatNames : List (String × TextureFormat) :=
  TextureFormat.all.map fun format => (format.key, format)

/-- Reads settings. -/
def reader : Reader Settings :=
  record "EffectSettings"
    [.of "search_paths" false (list path) fun ps s => { s with searchPaths := ps },
      .of "staging_format" false (choice formatNames) fun f s => { s with stagingFormat := f },
      .of "half_pixel_offset" false boolean fun b s => { s with halfPixelOffset := b },
      .of "builtin_parameters" false boolean fun b s => { s with builtinParameters := b },
      .of "log_filter" false string fun t s => { s with logFilter := t }]
    {}

/-- Writes settings as a document. -/
def text (layout : Layout) (s : Settings) : String :=
  .ofList <| Write.object layout 0
    [("search_paths", Write.array layout 1 (s.searchPaths.map Write.string)),
      ("staging_format", Write.string s.stagingFormat.key),
      ("half_pixel_offset", Write.boolean s.halfPixelOffset),
      ("builtin_parameters", Write.boolean s.builtinParameters),
      ("log_filter", Write.string s.logFilter)]

/-- The defaults, in the place of values that cannot be used. -/
def checked (s : Settings) : Settings :=
  { s with
    searchPaths := if s.searchPaths.isEmpty then ({} : Settings).searchPaths else s.searchPaths
    stagingFormat := if s.stagingFormat.isColor then s.stagingFormat else default
    logFilter := if Text.isBlankText s.logFilter then ({} : Settings).logFilter else s.logFilter }

/-- What checking settings has to say. -/
def complaints (s : Settings) : List Notice :=
  (if s.searchPaths.isEmpty then [.noSearchPath] else [])
    ++ (if s.stagingFormat.isColor then [] else [.stagingNotColor s.stagingFormat default])
    ++ (if Text.isBlankText s.logFilter then [.noLogFilter] else [])

/-- Reads and checks the text of a settings document. -/
def ofText (text : String) : Except ReadError Settings × List Notice :=
  match Json.read reader text with
  | .error e => (.error e, [])
  | .ok s => (.ok s.checked, s.complaints)

/-- The settings in a file, or the defaults if they cannot be read. -/
def load (files : FileTree) (path : String) : Settings × List Notice :=
  match files.readText path with
  | .error .notFound => ({}, [.settingsNotFound path])
  | .error fault => ({}, [.settingsUnreadable path fault])
  | .ok text =>
    match ofText text with
    | (.ok settings, notices) => (settings, notices ++ [.settingsLoaded path])
    | (.error e, notices) => ({}, notices ++ [.settingsMalformed path e])

/-- The file that settings are read from unless another one is named. -/
def defaultFile : String := "settings.json"

end Settings

end ShaderEffects
