import ShaderEffects.Link.Basic

/-!
# Finding targets

A pass and a technique end in the registered texture that their annotations
name, else in a staging texture. That a pass takes the staging texture is noted.
-/

namespace ShaderEffects.Linking

/-- The registered texture that annotations name as a target. -/
def namedTarget? (textures : TextureRegistry) (directives : List Directive) :
    Option (Handle Texture) :=
  (Directive.target? directives).bind textures.find?

/-- Where something ends: in the texture its annotations name, else in the
texture of a given name. -/
def target? (textures : TextureRegistry) (fallback : String) (directives : List Directive) :
    Option TargetBinding :=
  match namedTarget? textures directives with
  | some texture => some ⟨texture, true⟩
  | none => (textures.find? fallback).map fun texture => ⟨texture, false⟩

/-- A pass with its target. Without a texture to end in it keeps the one it had. -/
def aimPass (textures : TextureRegistry) (pass : Pass) : Pass :=
  { pass with target := target? textures Staging.lastPass pass.directives <|> pass.target }

/-- A technique with its target and those of its passes. -/
def aimTechnique (textures : TextureRegistry) (t : Technique) : Technique :=
  { t with
    target := target? textures Staging.lastShader t.directives <|> t.target
    passes := t.passes.map (aimPass textures) }

/-- What there is to say about the target of a pass. -/
def targetNotices (textures : TextureRegistry) (owner : String) (directives : List Directive) :
    List Notice :=
  if (namedTarget? textures directives).isSome then []
  else
    match Directive.target? directives with
    | some name => [.targetUnregistered owner name Staging.lastPass]
    | none => [.defaultTarget owner Staging.lastPass]

variable {D : Type}

/-- Tells about the annotations and the target of a pass. -/
def reportPass (technique : String) (l : Linking D) (pass : Pass) : Linking D :=
  let owner := technique ++ "/" ++ pass.name
  (l.reportMalformed owner pass.directives).note
    (targetNotices l.engine.textures owner pass.directives)

/-- Tells about the annotations of a technique, and about its passes. -/
def reportTechnique (effect : String) (l : Linking D) (t : Technique) : Linking D :=
  let owner := effect ++ "/" ++ t.name
  t.passes.foldl (reportPass owner) (l.reportMalformed owner t.directives)

/-- Finds the targets of an effect. -/
def aim (l : Linking D) (effect : Effect) : Effect × Linking D :=
  ({ effect with techniques := effect.techniques.map (aimTechnique l.engine.textures) },
    effect.techniques.foldl (reportTechnique effect.name) l)

end ShaderEffects.Linking
