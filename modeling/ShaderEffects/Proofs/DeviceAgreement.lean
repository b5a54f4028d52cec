import ShaderEffects.Proofs.GpuRegisters
import ShaderEffects.Proofs.HandedConstants
import ShaderEffects.Proofs.SurfaceStrokes
import ShaderEffects.Proofs.TwinHosts

/-!
# The device without a screen and the graphics device

On what a graphics device can use, the two devices answer alike: they give out the same
numbers, bind the same programs and refuse the same calls. What the graphics device is
asked to draw and copy is what the other one notes, and it paints what the other shows.
-/
namespace ShaderEffects

open Gpu

/-- What the surfaces show before anything is drawn. -/
def backdrop : Table Surface String :=
  (∅ : Table Surface String).insert .backbuffer HeadlessDevice.hostContent

/-- The image of a texture that the other device keeps. -/
def HeadlessTexture.image (texture : HeadlessTexture) : Image :=
  .ofSize texture.desc.width texture.desc.height texture.desc.format

/-- Two devices that gave out the same numbers, have the same programs in their stages,
and drew and copied the same. -/
structure Agrees (d : HeadlessDevice) (g : GpuDevice) : Prop where
  obliging : d.Obliging
  lost : g.lost = false
  size : (g.backbuffer.width, g.backbuffer.height) = (d.width, d.height)
  nextId : g.nextId = d.nextId
  textures : ∀ id, g.textures.get? id = (d.textures.get? id).map (·.image)
  plates : ∀ id, g.plate? id = d.plate? id
  bound : g.bound = d.bound
  issued : ∀ id plate, d.plate? id = some plate → id.number < d.nextId
  carried : ∀ stage id, d.bound.get? stage = some id → ∃ label, d.plate? id = some (label, stage)
  target : g.renderTarget = d.renderTarget
  aimed : d.checkSurface d.renderTarget = .ok ()
  replay : d.replay = ⟨d.boundLabel?, g.strokes⟩
  contents : d.contents = g.strokes.foldl Stroke.paint backdrop

namespace Agrees

variable {d : HeadlessDevice} {g g' : GpuDevice}

theorem ofSize (context : GpuContext) (width height : Nat) :
    Agrees (.ofSize width height) (.ofSize context width height) where
  obliging := ⟨rfl, rfl, rfl, rfl, rfl⟩
  lost := rfl
  size := rfl
  nextId := rfl
  textures := fun _ => rfl
  plates := fun _ => rfl
  bound := rfl
  issued := fun _ _ h => by cases h
  carried := fun _ _ h => by cases h
  target := rfl
  aimed := rfl
  replay := rfl
  contents := rfl

/-- What goes on behind the scenes breaks no agreement. -/
theorem backstage (h : Agrees d g) (hg : g.Backstage g') : Agrees d g' where
  obliging := h.obliging
  lost := hg.lost.trans h.lost
  size := by rw [hg.backbuffer, h.size]
  nextId := hg.nextId.trans h.nextId
  textures := fun id => by rw [hg.textures, h.textures]
  plates := fun id => (hg.plates id).trans (h.plates id)
  bound := hg.bound.trans h.bound
  issued := h.issued
  carried := h.carried
  target := hg.target.trans h.target
  aimed := h.aimed
  replay := by rw [hg.strokes, h.replay]
  contents := by rw [hg.strokes, h.contents]

theorem alive (h : Agrees d g) : g.alive = .ok () := GpuDevice.alive_of_found h.lost

theorem drawTag (h : Agrees d g) : d.drawTag = d.replay.tag :=
  HeadlessDevice.drawTag_of_replay (by rw [h.replay])

/-- Both devices have a surface, or both miss it. -/
theorem surface (h : Agrees d g) (surface : Surface) :
    (∃ e, d.checkSurface surface = .error e ∧ g.image surface = .error e) ∨
      ∃ image, d.checkSurface surface = .ok () ∧ g.image surface = .ok image := by
  cases surface with
  | backbuffer => exact Or.inr ⟨g.backbuffer, rfl, rfl⟩
  | scratch => exact Or.inr ⟨g.scratch, rfl, rfl⟩
  | texture id =>
    have htexture := h.textures id
    cases hid : d.textures.get? id with
    | none =>
      rw [hid] at htexture
      exact Or.inl ⟨.invalidCall (.unknownTexture id),
        by simp [HeadlessDevice.checkSurface, Table.contains, hid],
        by simp [GpuDevice.image, htexture]⟩
    | some texture =>
      rw [hid] at htexture
      exact Or.inr ⟨texture.image, by simp [HeadlessDevice.checkSurface, Table.contains, hid],
        by simp [GpuDevice.image, htexture]⟩

/-! ### Programs -/

/-- A program that is loaded is known by the same number on both devices. -/
theorem loadProgram (h : Agrees d g) (p : Program) :
    Mirrors Agrees (d.loadProgram p) (g.loadProgram p) := by
  have hagrees := h.backstage (GpuDevice.moduleFor_moves g p).1.backstage
  have hother : ∀ id plate, d.plate? id = some plate → id ≠ (⟨d.nextId⟩ : ProgramId) := by
    rintro id plate hid rfl
    exact Nat.lt_irrefl _ (h.issued _ plate hid)
  rw [h.obliging.loadProgram_eq]
  unfold GpuDevice.loadProgram
  simp only [h.alive, hagrees.nextId]
  refine ⟨rfl,
    { obliging := ⟨h.obliging.1, h.obliging.2, h.obliging.3, h.obliging.4, h.obliging.5⟩
      lost := hagrees.lost
      size := hagrees.size
      nextId := rfl
      textures := hagrees.textures
      plates := fun id => ?_
      bound := hagrees.bound
      issued := fun id plate hid => ?_
      carried := fun stage id hid => ?_
      target := hagrees.target
      aimed := h.aimed
      replay := ?_
      contents := hagrees.contents }⟩
  · have hplate := hagrees.plates id
    simp only [GpuDevice.plate?, HeadlessDevice.plate?, HeadlessDevice.record,
      Table.get?_insert] at hplate ⊢
    split_ifs
    · rfl
    · exact hplate
  · simp only [HeadlessDevice.plate?, HeadlessDevice.record, Table.get?_insert] at hid ⊢
    split_ifs at hid with hnew
    · rw [hnew]
      exact Nat.lt_succ_self d.nextId
    · exact Nat.lt_succ_of_lt (h.issued id plate hid)
  · obtain ⟨label, hlabel⟩ := h.carried stage id hid
    refine ⟨label, ?_⟩
    simpa [HeadlessDevice.plate?, HeadlessDevice.record, hother id _ hlabel] using hlabel
  · rw [HeadlessDevice.replay_record]
    refine Eq.trans hagrees.replay (congrArg (Replay.mk · _) (funext fun stage => ?_))
    simp only [HeadlessDevice.boundLabel?, HeadlessDevice.record]
    cases hid : d.bound.get? stage with
    | none => rfl
    | some id =>
      obtain ⟨label, hlabel⟩ := h.carried stage id hid
      simp [hother id _ hlabel]

/-- A program is bound on both devices, or refused by both. -/
theorem bind (h : Agrees d g) (stage : Stage) (id : ProgramId) :
    Mirrors Agrees (d.bind stage id) (g.bind stage id) := by
  have hplate := h.plates id
  cases hp : d.plate? id with
  | none =>
    rw [hp] at hplate
    have hp' := Option.map_eq_none_iff.mp hp
    have hq' := Option.map_eq_none_iff.mp hplate
    simp only [HeadlessDevice.bind, GpuDevice.bind, h.obliging.alive, h.alive, hp', hq']
    exact ⟨rfl, h⟩
  | some plate =>
    obtain ⟨label, own⟩ := plate
    rw [hp] at hplate
    obtain ⟨q, hq, hsame⟩ := Option.map_eq_some_iff.mp hplate
    obtain ⟨rfl, rfl⟩ := Prod.mk.inj hsame
    by_cases hstage : q.stage = stage
    · subst hstage
      rw [h.obliging.bind_eq hp]
      unfold GpuDevice.bind
      simp only [h.alive, hq, ne_eq, not_true_eq_false, if_false]
      refine ⟨rfl,
        { obliging := ⟨h.obliging.1, h.obliging.2, h.obliging.3, h.obliging.4, h.obliging.5⟩
          lost := h.lost
          size := h.size
          nextId := h.nextId
          textures := h.textures
          plates := h.plates
          bound := congrArg (·.insert q.stage id) h.bound
          issued := h.issued
          carried := fun other k hk => ?_
          target := h.target
          aimed := h.aimed
          replay := ?_
          contents := h.contents }⟩
      · simp only [HeadlessDevice.record, Table.get?_insert] at hk
        split_ifs at hk with hother
        · cases hk
          exact ⟨q.label, hother ▸ hp⟩
        · exact h.carried other k hk
      · rw [HeadlessDevice.replay_record]
        show Replay.follow d.replay _ = _
        rw [h.replay]
        refine congrArg (Replay.mk · _) (funext fun other => ?_)
        obtain ⟨p, hlabelled, hplated⟩ := Option.map_eq_some_iff.mp hp
        simp only [HeadlessDevice.boundLabel?, HeadlessDevice.record, Table.get?_insert,
          Function.update_apply]
        split_ifs
        · simp [hlabelled, (Prod.mk.inj hplated).1]
        · rfl
    · obtain ⟨p, hlabelled, hplated⟩ := Option.map_eq_some_iff.mp hp
      obtain ⟨hlabel, hown⟩ := Prod.mk.inj hplated
      simp only [HeadlessDevice.bind, GpuDevice.bind, h.obliging.alive, h.alive, hlabelled, hq,
        hlabel, hown, if_pos (show q.stage ≠ stage from hstage)]
      exact ⟨rfl, h⟩

theorem unbind (h : Agrees d g) (stage : Stage) : Agrees (d.unbind stage) (g.unbind stage) where
  obliging := ⟨h.obliging.1, h.obliging.2, h.obliging.3, h.obliging.4, h.obliging.5⟩
  lost := h.lost
  size := h.size
  nextId := h.nextId
  textures := h.textures
  plates := h.plates
  bound := congrArg (·.erase stage) h.bound
  issued := h.issued
  carried := fun other id hid => by
    simp only [HeadlessDevice.unbind, HeadlessDevice.record, Table.get?_erase] at hid
    split_ifs at hid
    exact h.carried other id hid
  target := h.target
  aimed := h.aimed
  replay := by
    unfold HeadlessDevice.unbind
    rw [HeadlessDevice.replay_record]
    show Replay.follow d.replay _ = _
    rw [h.replay]
    refine congrArg (Replay.mk · _) (funext fun other => ?_)
    simp only [HeadlessDevice.boundLabel?, HeadlessDevice.record, Table.get?_erase,
      Function.update_apply]
    split_ifs <;> rfl
  contents := h.contents

/-- What is written to programs does not show in their labels and stages. -/
theorem rewritten (h : Agrees d g) {programs : Table ProgramId HeadlessProgram}
    {loaded : Table ProgramId LoadedProgram}
    (hd : ∀ id, HeadlessDevice.plate? { d with programs } id = d.plate? id)
    (hg : ∀ id, GpuDevice.plate? { g with programs := loaded } id = g.plate? id) :
    Agrees { d with programs } { g with programs := loaded } where
  obliging := ⟨h.obliging.1, h.obliging.2, h.obliging.3, h.obliging.4, h.obliging.5⟩
  lost := h.lost
  size := h.size
  nextId := h.nextId
  textures := h.textures
  plates := fun id => by rw [hd, hg, h.plates]
  bound := h.bound
  issued := fun id plate hid => h.issued id plate (hd id ▸ hid)
  carried := fun stage id hid => by
    rw [hd]
    exact h.carried stage id hid
  target := h.target
  aimed := h.aimed
  replay := by
    refine Eq.trans h.replay (congrArg (Replay.mk · _) (funext fun stage => ?_))
    rw [Renderer.boundLabel?_eq, Renderer.boundLabel?_eq]
    simp only [hd]
  contents := h.contents

theorem setConstants (h : Agrees d g) (id : ProgramId) (register : Nat)
    (values values' : List Float32) :
    Agrees (d.setConstants id register values) (g.setConstants id register values') :=
  h.rewritten (HeadlessDevice.plate?_setConstants d id register values)
    (GpuDevice.plate?_setConstants g id register values')

theorem setSampler (h : Agrees d g) (id : ProgramId) (slot : Nat) (texture : TextureId) :
    Agrees (d.setSampler id slot texture) (g.setSampler id slot texture) :=
  h.rewritten (HeadlessDevice.plate?_setSampler d id slot texture)
    (GpuDevice.plate?_setSampler g id slot texture)

/-- Programs go together on both devices. -/
theorem validate (h : Agrees d g) {programs : List Program}
    (hd : HeadlessDevice.repeatedStage? [] programs = none) {vertex fragment : Program}
    (hg : GpuDevice.checkPair programs = .ok (vertex, fragment)) :
    Mirrors Agrees (d.validate programs, d) (g.validate programs) := by
  have hback := (((GpuDevice.moduleFor_moves g vertex).1.trans
    (GpuDevice.moduleFor_moves _ fragment).1).trans (GpuDevice.buildPipeline_moves _
      (fragment.label ++ " (validation)") (.ofProgram vertex (g.moduleFor vertex).1)
      (.ofProgram fragment ((g.moduleFor vertex).2.moduleFor fragment).1)
      .standard)).backstage
  unfold HeadlessDevice.validate GpuDevice.validate
  simp only [h.obliging.alive, h.alive, hd, hg]
  exact ⟨rfl, h.backstage hback⟩

/-! ### Surfaces -/

/-- A texture that is created is known by the same number on both devices. -/
theorem createTexture (h : Agrees d g) (name : String) {desc : TextureDesc}
    (hwidth : desc.width ≠ 0) (hheight : desc.height ≠ 0)
    (hdesc : GpuDevice.creationFault? desc = none) :
    Mirrors Agrees (d.createTexture name desc) (g.createTexture name desc) := by
  have hasked :
      g.Backstage (g.ask ((Image.ofSize desc.width desc.height desc.format).request name)) :=
    GpuDevice.backstage_ask g rfl
  have hagrees := h.backstage hasked
  have hsized : ¬ (desc.width = 0 ∨ desc.height = 0) := not_or.mpr ⟨hwidth, hheight⟩
  unfold HeadlessDevice.createTexture GpuDevice.createTexture
  simp only [h.obliging.alive, h.alive, hdesc, if_neg hsized, GpuDevice.keep, hagrees.nextId]
  refine ⟨rfl,
    { obliging := ⟨h.obliging.1, h.obliging.2, h.obliging.3, h.obliging.4, h.obliging.5⟩
      lost := hagrees.lost
      size := hagrees.size
      nextId := rfl
      textures := fun id => ?_
      plates := hagrees.plates
      bound := hagrees.bound
      issued := fun id plate hid => Nat.lt_succ_of_lt (h.issued id plate hid)
      carried := h.carried
      target := hagrees.target
      aimed := ?_
      replay := hagrees.replay
      contents := hagrees.contents }⟩
  · have htexture := hagrees.textures id
    simp only [Table.get?_insert]
    split_ifs
    · rfl
    · exact htexture
  · have haimed := h.aimed
    unfold HeadlessDevice.checkSurface at haimed ⊢
    cases htarget : d.renderTarget with
    | backbuffer | scratch => rfl
    | texture id =>
      rw [htarget] at haimed
      have hthere : d.textures.contains id = true := by
        by_contra hmissing
        simp [hmissing] at haimed
      refine if_pos ?_
      simp only [Table.contains, Table.get?_insert] at hthere ⊢
      split_ifs
      · rfl
      · exact hthere

theorem setTarget (h : Agrees d g) (surface : Surface) :
    Mirrors Agrees (d.setTarget surface) (g.setTarget surface) := by
  unfold HeadlessDevice.setTarget GpuDevice.setTarget
  rcases h.surface surface with ⟨e, hd, hg⟩ | ⟨image, hd, hg⟩ <;>
    simp only [h.obliging.alive, h.alive, hd, hg]
  · exact ⟨rfl, h⟩
  · refine ⟨rfl,
      { obliging := ⟨h.obliging.1, h.obliging.2, h.obliging.3, h.obliging.4, h.obliging.5⟩
        lost := h.lost
        size := h.size
        nextId := h.nextId
        textures := h.textures
        plates := h.plates
        bound := h.bound
        issued := h.issued
        carried := h.carried
        target := rfl
        aimed := hd
        replay := ?_
        contents := h.contents }⟩
    rw [HeadlessDevice.replay_record]
    exact h.replay

/-- A stroke that shows on both devices. -/
theorem stroke (h : Agrees d g) {stroke : Stroke} {call : HeadlessCall} {request : Request}
    (hcall : d.replay.follow call = { d.replay with strokes := d.replay.strokes ++ [stroke] })
    (hrequest : request.stroke? = some stroke) :
    Agrees ({ d with contents := stroke.paint d.contents }.record call) (g.ask request) where
  obliging := ⟨h.obliging.1, h.obliging.2, h.obliging.3, h.obliging.4, h.obliging.5⟩
  lost := h.lost
  size := h.size
  nextId := h.nextId
  textures := h.textures
  plates := h.plates
  bound := h.bound
  issued := h.issued
  carried := h.carried
  target := h.target
  aimed := h.aimed
  replay := by
    rw [HeadlessDevice.replay_record, GpuDevice.strokes_ask, hrequest]
    refine Eq.trans (b := d.replay.follow call) rfl ?_
    rw [hcall, h.replay]
    rfl
  contents := by
    rw [GpuDevice.strokes_ask, hrequest, Option.toList_some, List.foldl_append, ← h.contents]
    rfl

/-- A copy is made on both devices, or refused by both. -/
theorem copy (h : Agrees d g) {source destination : Surface} (hne : source ≠ destination) :
    Mirrors Agrees (d.copy source destination) (g.copy source destination) := by
  unfold HeadlessDevice.copy GpuDevice.copy
  rcases h.surface source with ⟨e, hd, hg⟩ | ⟨image, hd, hg⟩ <;>
    simp only [h.obliging.alive, h.alive, if_neg hne, hd, hg]
  · exact ⟨rfl, h⟩
  · rcases h.surface destination with ⟨e, hd', hg'⟩ | ⟨image', hd', hg'⟩ <;> simp only [hd', hg']
    · exact ⟨rfl, h⟩
    · have hback := (GpuDevice.blitPipelineFor_moves g image'.format).1.backstage
      have hfollow : d.replay.follow (.copy source destination) =
          { d.replay with strokes := d.replay.strokes ++ [.copy source destination] } := rfl
      exact ⟨rfl, (h.backstage hback).stroke hfollow rfl⟩

theorem withState (h : Agrees d g) (state : RenderState) : Agrees { d with state } g :=
  ⟨⟨h.obliging.1, h.obliging.2, h.obliging.3, h.obliging.4, h.obliging.5⟩, h.lost, h.size,
    h.nextId, h.textures, h.plates, h.bound, h.issued, h.carried, h.target, h.aimed, h.replay,
    h.contents⟩

/-- With a vertex and a fragment program bound, both devices draw. -/
theorem drawAside (h : Agrees d g) {vertex fragment : ProgramId}
    (hvertex : d.bound.get? .vertex = some vertex)
    (hfragment : d.bound.get? .fragment = some fragment) {geometry : Geometry}
    (hgeometry : geometry.vertices ≠ []) :
    Mirrors Agrees (Device.drawAside d geometry) (Device.drawAside g geometry) := by
  obtain ⟨_, hvplate⟩ := h.carried .vertex vertex hvertex
  obtain ⟨label, hfplate⟩ := h.carried .fragment fragment hfragment
  obtain ⟨image, himage⟩ : ∃ image, g.image g.renderTarget = .ok image := by
    rcases h.surface d.renderTarget with ⟨e, hd, _⟩ | ⟨image, _, hg⟩
    · rw [h.aimed] at hd
      cases hd
    · exact ⟨image, h.target ▸ hg⟩
  have hvplate' : (g.plate? vertex).isSome = true := by rw [h.plates, hvplate]; rfl
  have hfplate' := (h.plates fragment).trans hfplate
  obtain ⟨g₁, request, hdraw, hback, hstroke⟩ :=
    g.drawWith_stroke himage hvplate' hfplate' geometry
  have htag : d.replay.tag = label := by
    have hlabel : d.replay.labels .fragment = some label := by
      rw [h.replay]
      simp only [Renderer.boundLabel?_eq, hfragment, Option.bind_some, hfplate, Option.map_some]
    simp only [Replay.tag, hlabel]
  -- the state of the host, which is set aside, is nothing that the devices agree on
  have hset := h.withState .effect
  have hdrawn : Device.drawAside d geometry = (.ok (),
      { (({ d with state := .effect } : HeadlessDevice).paint d.renderTarget label).record
        (.draw d.renderTarget geometry.indexCount .effect) with state := d.state }) := by
    have htagged : ({ d with state := .effect } : HeadlessDevice).drawTag = label :=
      hset.drawTag.trans htag
    have heq := hset.obliging.draw_eq geometry
    rw [htagged] at heq
    simp only [Device.drawAside, HeadlessDevice.device_enterEffectState,
      HeadlessDevice.device_draw, heq]
    rfl
  have hasked : Device.drawAside g geometry = (.ok (), g₁.ask request) := by
    have hcorners : geometry.vertices.isEmpty = false := by simpa using hgeometry
    have heq : g.draw geometry = (.ok (), g₁.ask request) := by
      simp only [GpuDevice.draw, h.alive, h.bound, hvertex, hfragment, hcorners,
        Bool.false_eq_true, if_false, hdraw]
    exact heq
  have hfollow : d.replay.follow (.draw d.renderTarget geometry.indexCount .effect) =
      { d.replay with
        strokes := d.replay.strokes ++ [.draw d.renderTarget label geometry.indexCount] } := by
    simp only [Replay.follow, htag]
  rw [h.target] at hstroke
  rw [hdrawn, hasked]
  exact ⟨rfl, ((hset.backstage hback).stroke hfollow hstroke).withState d.state⟩

end Agrees

end ShaderEffects
