import ShaderEffects.Device.Basic

/-!
# A device without a screen

A device that draws no pixels. In their place each surface carries the label of
the program that was drawn into it last; copying a surface copies the label. It
can be told to refuse programs and to be lost after a number of draws.
-/

namespace ShaderEffects

/-- The render state of a host. -/
structure RenderState where
  depthTest : Bool := true
  alphaBlend : Bool := true
  culling : Bool := true
  stream : Option String := some "host"
deriving DecidableEq, Repr

/-- The state in which effects are drawn. -/
def RenderState.effect : RenderState := ⟨false, false, false, some "effect"⟩

/-- A call that changed a headless device. -/
inductive HeadlessCall where
  | load (program : String)
  | bind (stage : Stage) (program : String)
  | unbind (stage : Stage)
  | target (surface : Surface)
  | draw (target : Surface) (corners : Nat) (state : RenderState)
  | copy (source destination : Surface)
deriving DecidableEq, Repr

/-- A loaded program and what was written to it. -/
structure HeadlessProgram where
  label : String
  stage : Stage
  constants : Table Nat Register := ∅
  samplers : Table Nat TextureId := ∅

/-- A texture of a headless device. -/
structure HeadlessTexture where
  name : String
  desc : TextureDesc
deriving DecidableEq, Repr

/-- A device without a screen. -/
structure HeadlessDevice where
  width : Nat
  height : Nat
  /-- The profiles that are refused, in lower case. -/
  refusedProfiles : List String := []
  /-- The labels of the programs that cannot be bound. -/
  failingBinds : List String := []
  /-- The labels of the programs that cannot be loaded. -/
  failingLoads : List String := []
  /-- The draws that are left until the device is lost. -/
  drawsLeft : Option Nat := none
  lost : Bool := false
  nextId : Nat := 1
  textures : Table TextureId HeadlessTexture := ∅
  programs : Table ProgramId HeadlessProgram := ∅
  bound : Table Stage ProgramId := ∅
  contents : Table Surface String := ∅
  renderTarget : Surface := .backbuffer
  state : RenderState := {}
  /-- The calls since they were last taken, oldest first. -/
  calls : List HeadlessCall := []

namespace HeadlessDevice

/-- What the backbuffer shows at first. -/
def hostContent : String := "backbuffer"

/-- A device with a backbuffer of at least one pixel. -/
def ofSize (width height : Nat) : HeadlessDevice :=
  { width := max width 1, height := max height 1,
    contents := (∅ : Table Surface String).insert .backbuffer hostContent }

/-- Refuses programs of a profile. -/
def withoutProfile (d : HeadlessDevice) (profile : String) : HeadlessDevice :=
  { d with refusedProfiles := String.ofList (profile.toList.map Char.toLower) :: d.refusedProfiles }

/-- Fails to bind a program. -/
def failingBind (d : HeadlessDevice) (label : String) : HeadlessDevice :=
  { d with failingBinds := label :: d.failingBinds }

/-- Fails to load a program. -/
def failingLoad (d : HeadlessDevice) (label : String) : HeadlessDevice :=
  { d with failingLoads := label :: d.failingLoads }

/-- Is lost by the draw that follows a number of others. -/
def losingAfter (d : HeadlessDevice) (draws : Nat) : HeadlessDevice :=
  { d with drawsLeft := some draws }

/-- Loses the device. -/
def lose (d : HeadlessDevice) : HeadlessDevice := { d with lost := true }

/-- Changes the size of the backbuffer. -/
def resize (d : HeadlessDevice) (width height : Nat) : HeadlessDevice :=
  { d with width := max width 1, height := max height 1 }

/-- What the host draws on a surface. -/
def paint (d : HeadlessDevice) (surface : Surface) (content : String) : HeadlessDevice :=
  { d with contents := d.contents.insert surface content }

/-- What a surface shows. -/
def content? (d : HeadlessDevice) (surface : Surface) : Option String :=
  d.contents.get? surface

/-- The texture of a name. -/
def textureId? (d : HeadlessDevice) (name : String) : Option TextureId :=
  d.textures.findKey? fun texture => texture.name = name

/-- The description of the texture of a name. -/
def textureDesc? (d : HeadlessDevice) (name : String) : Option TextureDesc :=
  ((d.textureId? name).bind d.textures.get?).map (·.desc)

/-- What the texture of a name shows. -/
def textureContent? (d : HeadlessDevice) (name : String) : Option String :=
  (d.textureId? name).bind fun id => d.content? (.texture id)

/-- The program of a label. -/
def programLabelled? (d : HeadlessDevice) (label : String) : Option HeadlessProgram :=
  (d.programs.findKey? fun program => program.label = label).bind d.programs.get?

/-- What was last written to a register of the program of a label. -/
def constant? (d : HeadlessDevice) (label : String) (register : Nat) : Option Register :=
  (d.programLabelled? label).bind fun program => program.constants.get? register

/-- The texture in a slot of the program of a label. -/
def sampler? (d : HeadlessDevice) (label : String) (slot : Nat) : Option TextureId :=
  (d.programLabelled? label).bind fun program => program.samplers.get? slot

/-- The label of the program that is bound for a stage. -/
def boundLabel? (d : HeadlessDevice) (stage : Stage) : Option String :=
  ((d.bound.get? stage).bind d.programs.get?).map (·.label)

/-- Notes a call. -/
def record (d : HeadlessDevice) (call : HeadlessCall) : HeadlessDevice :=
  { d with calls := d.calls ++ [call] }

/-- Fails if the device is lost. -/
def alive (d : HeadlessDevice) : Except DeviceError Unit :=
  if d.lost then .error .lost else .ok ()

/-- Fails if a surface is a texture the device does not have. -/
def checkSurface (d : HeadlessDevice) : Surface → Except DeviceError Unit
  | .texture id =>
    if d.textures.contains id then .ok () else .error (.invalidCall (.unknownTexture id))
  | _ => .ok ()

/-- Whether programs of a profile can be used. -/
def supports (d : HeadlessDevice) (profile : Profile) : Bool :=
  !d.refusedProfiles.contains profile.name

/-- The first stage that has two programs. -/
def repeatedStage? (seen : List Stage) : List Program → Option Stage
  | [] => none
  | p :: rest => if p.stage ∈ seen then some p.stage else repeatedStage? (p.stage :: seen) rest

/-- Accepts programs of different stages. -/
def validate (d : HeadlessDevice) (programs : List Program) : Except DeviceError Unit :=
  match d.alive with
  | .error e => .error e
  | .ok _ =>
    match repeatedStage? [] programs with
    | some stage => .error (.invalidCall (.sameStage stage))
    | none => .ok ()

/-- Creates a texture that shows nothing. -/
def createTexture (d : HeadlessDevice) (name : String) (desc : TextureDesc) :
    Except DeviceError TextureId × HeadlessDevice :=
  match d.alive with
  | .error e => (.error e, d)
  | .ok _ =>
    if desc.width = 0 ∨ desc.height = 0 then (.error (.textureCreation name .zeroSized), d)
    else
      let id : TextureId := ⟨d.nextId⟩
      (.ok id, { d with nextId := d.nextId + 1, textures := d.textures.insert id ⟨name, desc⟩ })

/-- The size of an image file. The format is told by the name of the file, before
the content is looked at. -/
def imageSize (files : FileTree) (path : String) : Except LoadFault ImageSize :=
  match files.find path with
  | .error fault => .error (.unopened fault)
  | .ok entry =>
    match ImageFormat.ofPath path, entry with
    | .error fault, _ => .error (.unmeasured fault)
    | .ok format, .directory => .error (.unread format .isDirectory)
    | .ok format, .file content => (format.size content.data.toList).mapError .unmeasured

/-- Creates a texture of the size of an image, which shows the path of the image. -/
def loadTexture (d : HeadlessDevice) (files : FileTree) (name path : String) :
    Except DeviceError (TextureId × TextureDesc) × HeadlessDevice :=
  match d.alive with
  | .error e => (.error e, d)
  | .ok _ =>
    match imageSize files path with
    | .error fault => (.error (.textureLoad path fault), d)
    | .ok size =>
      let desc := { TextureDesc.target size.width size.height default with mipmaps := true }
      match d.createTexture name desc with
      | (.error e, d) => (.error e, d)
      | (.ok id, d) => (.ok (id, desc), d.paint (.texture id) ("file:" ++ path))

/-- Loads a program. -/
def loadProgram (d : HeadlessDevice) (program : Program) :
    Except DeviceError ProgramId × HeadlessDevice :=
  match d.alive with
  | .error e => (.error e, d)
  | .ok _ =>
    if program.label ∈ d.failingLoads then
      (.error (.invalidCall (.rejected program.label)), d)
    else
      let id : ProgramId := ⟨d.nextId⟩
      let loaded : HeadlessProgram := { label := program.label, stage := program.stage }
      (.ok id,
        { d with nextId := d.nextId + 1, programs := d.programs.insert id loaded }.record
          (.load program.label))

/-- Binds a program to its stage. -/
def bind (d : HeadlessDevice) (stage : Stage) (id : ProgramId) :
    Except DeviceError Unit × HeadlessDevice :=
  match d.alive with
  | .error e => (.error e, d)
  | .ok _ =>
    match d.programs.get? id with
    | none => (.error (.invalidCall (.unknownProgram id)), d)
    | some program =>
      if program.stage ≠ stage then
        (.error (.invalidCall (.wrongStage program.label stage)), d)
      else if program.label ∈ d.failingBinds then
        (.error (.invalidCall (.unbindable program.label)), d)
      else
        (.ok (), { d with bound := d.bound.insert stage id }.record (.bind stage program.label))

/-- Frees a stage. The program stays loaded. -/
def unbind (d : HeadlessDevice) (stage : Stage) : HeadlessDevice :=
  { d with bound := d.bound.erase stage }.record (.unbind stage)

/-- The number of registers that have a number of their own, a word of 32 bits. -/
def registerNumbers : Nat := Nat.pow 2 32

/-- Writes registers from a register on. The first follows the last. -/
def writeRegisters (constants : Table Nat Register) (register : Nat) :
    List Register → Table Nat Register
  | [] => constants
  | r :: rest =>
    writeRegisters (constants.insert register r) ((register + 1) % registerNumbers) rest

/-- Writes numbers to the registers of a program. -/
def setConstants (d : HeadlessDevice) (id : ProgramId) (register : Nat)
    (values : List Float32) : HeadlessDevice :=
  { d with
    programs := d.programs.modify id fun program =>
      { program with
        constants := writeRegisters program.constants register (Register.fill values) } }

/-- Puts a texture into a slot of a program. -/
def setSampler (d : HeadlessDevice) (id : ProgramId) (slot : Nat) (texture : TextureId) :
    HeadlessDevice :=
  { d with
    programs := d.programs.modify id fun program =>
      { program with samplers := program.samplers.insert slot texture } }

/-- Chooses the surface to draw into. -/
def setTarget (d : HeadlessDevice) (surface : Surface) :
    Except DeviceError Unit × HeadlessDevice :=
  match d.alive with
  | .error e => (.error e, d)
  | .ok _ =>
    match d.checkSurface surface with
    | .error e => (.error e, d)
    | .ok _ => (.ok (), { d with renderTarget := surface }.record (.target surface))

/-- The label that a draw leaves on its target. -/
def drawTag (d : HeadlessDevice) : String :=
  match d.boundLabel? .fragment with
  | some label => label
  | none => (d.boundLabel? .vertex).getD "unbound"

/-- Counts a draw. The device is lost if none was left. -/
def countDraw (d : HeadlessDevice) : Except DeviceError Unit × HeadlessDevice :=
  match d.drawsLeft with
  | none => (.ok (), d)
  | some 0 => (.error .lost, d.lose)
  | some (n + 1) => (.ok (), { d with drawsLeft := some n })

/-- Draws into the target. -/
def draw (d : HeadlessDevice) (geometry : Geometry) :
    Except DeviceError Unit × HeadlessDevice :=
  match d.alive with
  | .error e => (.error e, d)
  | .ok _ =>
    match d.countDraw with
    | (.error e, d) => (.error e, d)
    | (.ok _, d) =>
      (.ok (),
        (d.paint d.renderTarget d.drawTag).record
          (.draw d.renderTarget geometry.indexCount d.state))

/-- What the surfaces show after one was copied to another. A surface that shows
nothing takes away what the other one shows. -/
def copiedContents (contents : Table Surface String) (source destination : Surface) :
    Table Surface String :=
  match contents.get? source with
  | some content => contents.insert destination content
  | none => contents.erase destination

/-- Copies one surface to another. -/
def copy (d : HeadlessDevice) (source destination : Surface) :
    Except DeviceError Unit × HeadlessDevice :=
  match d.alive with
  | .error e => (.error e, d)
  | .ok _ =>
    match d.checkSurface source with
    | .error e => (.error e, d)
    | .ok _ =>
      match d.checkSurface destination with
      | .error e => (.error e, d)
      | .ok _ =>
        (.ok (),
          { d with contents := copiedContents d.contents source destination }.record
            (.copy source destination))

instance : Device HeadlessDevice where
  HostState := RenderState
  backbufferSize d := (d.width, d.height)
  isLost d := d.lost
  supports := supports
  validate d programs := (d.validate programs, d)
  createTexture := createTexture
  loadTexture d files name path :=
    let (result, d) := d.loadTexture files name path
    (result, d, [])
  loadProgram := loadProgram
  bind := bind
  unbind := unbind
  setConstants := setConstants
  setSampler := setSampler
  target d := d.renderTarget
  setTarget := setTarget
  capture d := d.state
  restore d state := { d with state }
  enterEffectState d := { d with state := .effect }
  draw := draw
  copy := copy

end HeadlessDevice

end ShaderEffects
