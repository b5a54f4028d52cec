import ShaderEffects.Renderer.Basic

/-!
# Drawing a technique

Each pass is drawn into the scratch surface, which is then copied to the target
of the pass. When all passes are drawn, the target of the last one is copied to
the target of the technique, and from there to the backbuffer unless an
annotation asked for that target. A pass that fails is left out; only the loss
of the device ends the drawing.
-/

namespace ShaderEffects

/-- What became of one effect in one frame. -/
structure FrameReport where
  passesDrawn : Nat := 0
  bindErrors : List BindError := []
  /-- Whether the effect has no technique to draw. -/
  skipped : Bool := false
deriving DecidableEq, Repr

/-- How far a technique is drawn. -/
structure Progress where
  report : FrameReport := {}
  /-- Where the last drawn pass ended. -/
  result : Option Surface := none

/-- The surface of a target. Without a texture it is the backbuffer. -/
def TargetBinding.surface (textures : TextureRegistry) (binding : Option TargetBinding) :
    Surface :=
  match binding.bind fun b => textures.get? b.texture with
  | some texture => .texture texture.backing
  | none => .backbuffer

namespace Renderer

variable {D : Type} [Device D]

/-- Copies a surface. A failure other than the loss of the device only goes into
the journal; the result says whether the copy was made. -/
def copy (r : Renderer D) (source destination : Surface) :
    Except DeviceError Bool × Renderer D :=
  match Device.copy r.device source destination with
  | (.ok _, device) => (.ok true, { r with device })
  | (.error .lost, device) => (.error .lost, { r with device })
  | (.error e, device) =>
    (.ok false, { r with device }.note [.copyFailed source destination e])

/-- Draws with the programs that are bound, in a state that is put back. -/
def drawBound (r : Renderer D) (geometry : Option Geometry) :
    Except DeviceError Unit × Renderer D :=
  let state := Device.capture r.device
  let (result, device) :=
    Device.draw (Device.enterEffectState r.device) (geometry.getD r.quad.geometry)
  (result, { r with device := Device.restore device state })

/-- Draws one pass and copies it to its target. -/
def drawPass (r : Renderer D) (scene : Scene) (effect : Effect) (geometry : Option Geometry)
    (progress : Progress) (pass : Pass) : Except DeviceError Progress × Renderer D :=
  match r.bindPass scene effect pass with
  | (.error e, r) =>
    if Device.isLost r.device then (.error .lost, r)
    else
      let report := progress.report
      (.ok { progress with report := { report with bindErrors := report.bindErrors ++ [e] } },
        r.note [.passSkipped effect.name pass.name e])
  | (.ok _, r) =>
    let (drawn, r) := r.drawBound geometry
    let r := r.unbindPass
    match drawn with
    | .error e =>
      if e = .lost ∨ Device.isLost r.device then (.error .lost, r)
      else (.ok progress, r.note [.drawFailed pass.name e])
    | .ok _ =>
      let destination := TargetBinding.surface scene.textures pass.target
      match r.copy .scratch destination with
      | (.error e, r) => (.error e, r)
      | (.ok false, r) => (.ok progress, r)
      | (.ok true, r) =>
        let report := progress.report
        (.ok ⟨{ report with passesDrawn := report.passesDrawn + 1 }, some destination⟩, r)

/-- Draws passes one after the other. A pass that the device cannot use is left out. -/
def drawPasses (r : Renderer D) (scene : Scene) (effect : Effect) (geometry : Option Geometry)
    (progress : Progress) : List Pass → Except DeviceError Progress × Renderer D
  | [] => (.ok progress, r)
  | pass :: rest =>
    if pass.valid then
      match r.drawPass scene effect geometry progress pass with
      | (.error e, r) => (.error e, r)
      | (.ok progress, r) => r.drawPasses scene effect geometry progress rest
    else (r.note [.passNotDrawn pass.name]).drawPasses scene effect geometry progress rest

/-- Copies the target of the last drawn pass to the target of the technique, if
that is another surface. -/
def copyResult (r : Renderer D) (result destination : Surface) :
    Except DeviceError Unit × Renderer D :=
  if result = destination then (.ok (), r)
  else
    match r.copy result destination with
    | (.error e, r) => (.error e, r)
    | (.ok _, r) => (.ok (), r)

/-- Shows the target of a technique on the backbuffer, unless an annotation asked
for that target. -/
def present (r : Renderer D) (binding : Option TargetBinding) (destination : Surface) :
    Except DeviceError Unit × Renderer D :=
  let isDefault := binding.any fun b => !b.explicit
  if isDefault ∧ destination ≠ .backbuffer then
    match r.copy destination .backbuffer with
    | (.error e, r) => (.error e, r)
    | (.ok _, r) => (.ok (), r)
  else (.ok (), r)

/-- Brings what was drawn to where the technique ends. -/
def compose (r : Renderer D) (scene : Scene) (technique : Technique) :
    Option Surface → Except DeviceError Unit × Renderer D
  | none => (.ok (), r)
  | some result =>
    let destination := TargetBinding.surface scene.textures technique.target
    match r.copyResult result destination with
    | (.error e, r) => (.error e, r)
    | (.ok _, r) => r.present technique.target destination

/-- Draws the passes of a technique and composes them. -/
def runTechnique (r : Renderer D) (scene : Scene) (effect : Effect) (technique : Technique)
    (geometry : Option Geometry) : Except DeviceError FrameReport × Renderer D :=
  match Device.setTarget r.device .scratch with
  | (.error e, device) => (.error e, { r with device })
  | (.ok _, device) =>
    match { r with device }.drawPasses scene effect geometry {} technique.passes with
    | (.error e, r) => (.error e, r)
    | (.ok progress, r) =>
      match r.compose scene technique progress.result with
      | (.error e, r) => (.error e, r)
      | (.ok _, r) => (.ok progress.report, r)

/-- Fits the full-screen quad to the backbuffer. -/
def fitQuad (r : Renderer D) : Renderer D :=
  let (width, height) := Device.backbufferSize r.device
  if r.quad.fits width height then r
  else { r with quad := r.quad.fit width height }.note [.quadRebuilt width height]

/-- Chooses a target, and notes it if that fails. -/
def restoreTarget (r : Renderer D) (target : Surface) : Renderer D :=
  match Device.setTarget r.device target with
  | (.ok _, device) => { r with device }
  | (.error e, device) => { r with device }.note [.targetNotRestored e]

/-- Draws a technique, and puts the target of the device back. -/
def drawTechnique (r : Renderer D) (scene : Scene) (effect : Effect) (technique : Technique)
    (geometry : Option Geometry) : Except DeviceError FrameReport × Renderer D :=
  if !technique.isValid then
    (.ok { skipped := true }, r.note [.techniqueSkipped effect.name technique.name])
  else if Device.isLost r.device then (.error .lost, r)
  else
    let r := r.fitQuad
    let target := Device.target r.device
    let (result, r) := r.runTechnique scene effect technique geometry
    let r := r.restoreTarget target
    match result with
    | .ok report => (.ok report, r)
    | .error e => (.error e, r.note [.techniqueAborted effect.name technique.name e])

/-- Draws the technique that was chosen for an effect. -/
def drawEffect (r : Renderer D) (scene : Scene) (effect : Effect)
    (geometry : Option Geometry) : Except DeviceError FrameReport × Renderer D :=
  match effect.default? with
  | some technique => r.drawTechnique scene effect technique geometry
  | none => (.ok { skipped := true }, r.note [.effectSkipped effect.name])

end Renderer

end ShaderEffects
