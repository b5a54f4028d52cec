import ShaderEffects.Proofs.UndisturbedDevices

/-!
# The sizes of textures

A texture has a texel, and its sides are no longer than an interface lets them be. A device
asks for textures in three places: for a description, for an image file, and when the surfaces
change their size. It sees to it everywhere that there is a texel. Only descriptions are checked
for sides that are too long, so that a texture is too large if, and only if, a file or the size
of the surfaces is.
-/
namespace ShaderEffects

open Gpu

/-! ## What is asked for -/

namespace Gpu

/-- The size of a texture that is asked for. -/
def Request.size? : Request → Option (Nat × Nat)
  | .texture _ width height _ => some (width, height)
  | .shader _ | .layout .. | .pipeline _ | .writeBuffer .. | .writeTexture .. | .clear | .draw _
  | .blit _ | .configure _ | .present _ => none

/-- The sizes of the textures that are asked for, in order. -/
def textureSizes (requests : List Request) : List (Nat × Nat) := requests.filterMap Request.size?

@[simp] theorem textureSizes_append (asked later : List Request) :
    textureSizes (asked ++ later) = textureSizes asked ++ textureSizes later :=
  List.filterMap_append

/-- A size with a texel and without a side that is too long. -/
def Fits (size : Nat × Nat) : Prop := fitsLimit size.1 size.2 = true

instance (size : Nat × Nat) : Decidable (Fits size) := inferInstanceAs (Decidable (_ = true))

/-- The size of an image. -/
def Image.size (image : Image) : Nat × Nat := (image.width, image.height)

@[simp] theorem Image.size?_request (image : Image) (label : String) :
    (image.request label).size? = some image.size := rfl

theorem fits_iff {size : Nat × Nat} :
    Fits size ↔ (1 ≤ size.1 ∧ 1 ≤ size.2) ∧ size.1 ≤ sideLimit ∧ size.2 ≤ sideLimit := by
  simp only [Fits, fitsLimit, decide_eq_true_eq]
  tauto

/-- An image has a texel, and fits if the size it was made for is not too large. -/
theorem fits_ofSize {width height : Nat} {format : PixelFormat} :
    Fits (Image.ofSize width height format).size ↔ width ≤ sideLimit ∧ height ≤ sideLimit := by
  simp only [fits_iff, Image.size, Image.ofSize, sideLimit]
  omega

end Gpu

namespace GpuDevice

variable {g g' : GpuDevice} {kind : MoveKind} {kinds : MoveKind → Prop}

@[simp] theorem textureSizes_ask (g : GpuDevice) (request : Request) :
    textureSizes (g.ask request).requests = textureSizes g.requests ++ request.size?.toList := by
  rw [ask, textureSizes_append]
  cases hsize : request.size? <;> simp [textureSizes, hsize]

/-- Moves that neither number a texture nor change the surfaces ask for no texture. -/
theorem MovesBy.textureSizes (h : g.MovesBy kinds g') (hkeep : ¬kinds .keep)
    (hhost : ¬kinds .host) : textureSizes g'.requests = textureSizes g.requests := by
  obtain ⟨asked, hasked, hnone⟩ := h.appends (P := fun request => request.size? = none) (by
    intro g₁ k request hk hmay
    cases request with
    | texture =>
      rcases hmay with rfl | rfl
      · exact absurd hk hkeep
      · exact absurd hk hhost
    | _ => rfl)
  rw [hasked, textureSizes_append, Gpu.textureSizes, Gpu.textureSizes,
    List.filterMap_eq_nil_iff.mpr hnone, List.append_nil]

/-- A move leaves each texture as it is. -/
theorem Move.textures_within (h : g.Move kind g') (hg : g.Numbered) :
    g.textures.Within g'.textures := by
  cases h with
  | ask | makeModule | makeLayout | makePipeline | makeBlit | load | bind | unbind | write | sample
  | aim | draw | copy | resize | configure | present | lose => exact .refl _
  | upload id => exact (backstage_upload g id).textures ▸ .refl _
  | keep image => exact (hg.keep image).2.textures

theorem MovesBy.textures_within (h : g.MovesBy kinds g') (hg : g.Numbered) :
    g.textures.Within g'.textures :=
  (h.preserve (P := fun g' => g'.Numbered ∧ g.textures.Within g'.textures)
    (fun _ _ _ _ hmove hkept => ⟨hmove.numbered hkept.1,
      hkept.2.trans (hmove.textures_within hkept.1)⟩) ⟨hg, .refl _⟩).2

end GpuDevice

/-- Only textures are asked for under a size. -/
theorem GpuDevice.textureSizes_configure (g : GpuDevice) (width height : Nat) :
    textureSizes (g.configure width height).requests = textureSizes g.requests := by
  unfold configure
  split_ifs
  · rfl
  · cases g.context.window with
    | none => rfl
    | some window => simp [Request.size?]

theorem GpuDevice.textureSizes_present (g : GpuDevice) (answer : FrameAnswer) :
    textureSizes (g.present answer).2.1.requests = textureSizes g.requests := by
  unfold present
  cases g.context.window with
  | none => rfl
  | some window =>
    cases answer with
    | lost | outdated => exact g.textureSizes_configure _ _
    | timeout | failed => rfl
    | frame =>
      have hprepares := (g.blitPipelineFor_moves window.format).1
      simp [hprepares.textureSizes nofun nofun, Request.size?]

/-- A description that is let through is not too large. -/
theorem GpuDevice.le_of_creationFault? {desc : TextureDesc} (h : creationFault? desc = none) :
    desc.width ≤ sideLimit ∧ desc.height ≤ sideLimit := by
  unfold creationFault? at h
  split_ifs at h with _ _ hlarge
  omega

/-- The image that a call asks for, if it can be made. -/
def DeviceCall.image? (g : GpuDevice) : DeviceCall JudgedDevice → Option Image
  | .createTexture _ desc =>
    if g.lost ∨ GpuDevice.creationFault? desc ≠ none then none
    else some (.ofSize desc.width desc.height desc.format)
  | .loadTexture files _ path =>
    match g.imageSize files path with
    | .error _ => none
    | .ok size => if g.lost then none else some (.ofSize size.width size.height TextureFormat.rgba8)
  | _ => none

/-- The sizes of the textures that a device asks for. -/
def GpuOp.sizes (w : JudgedDevice) : GpuOp → List (Nat × Nat)
  | .call c => (c.image? w.device).toList.map Image.size
  | .act (.resize width height) =>
    if width = 0 ∨ height = 0 then []
    else List.replicate 2 (Image.ofSize width height w.device.backbuffer.format).size
  | .act _ => []

namespace GpuOp

/-- What comes to the textures that were asked for. -/
theorem textureSizes_perform (w : JudgedDevice) (op : GpuOp) :
    textureSizes (op.perform w).device.requests =
      textureSizes w.device.requests ++ op.sizes w := by
  have hnone : op.kind ≠ .keep → op.kind ≠ .host →
      textureSizes (op.perform w).device.requests = textureSizes w.device.requests :=
    fun hkeep hhost => (op.moves w).textureSizes
      (fun h => hkeep (h.resolve_left (by decide)).symm)
      fun h => hhost (h.resolve_left (by decide)).symm
  have hkept : ∀ (g : GpuDevice) (image : Image), (g.keep image).2.requests = g.requests :=
    fun _ _ => rfl
  cases op with
  | act a =>
    cases a with
    | resize width height =>
      simp only [perform, GpuAct.perform, GpuDevice.resize, sizes]
      split_ifs
      · simp
      · simp only [GpuDevice.textureSizes_ask, Image.size?_request, Option.toList_some,
          List.append_assoc, GpuDevice.textureSizes_configure]
        rfl
    | clearBackbuffer =>
      simp [perform, GpuAct.perform, GpuDevice.clearBackbuffer, Request.size?, sizes]
    | present answer =>
      simp [perform, GpuAct.perform, sizes, GpuDevice.textureSizes_present]
    | lose => simp [perform, GpuAct.perform, sizes]
  | call c =>
    cases c with
    | createTexture name desc =>
      change textureSizes (w.createTexture name desc).2.device.requests = _
      obtain ⟨hno, e, heq⟩ | ⟨⟨hfound, hfault⟩, rest, ⟨e, heq⟩ | heq⟩ :=
        w.createTexture_cases name desc
      · simp [sizes, DeviceCall.image?, hno, heq]
      · simp [sizes, DeviceCall.image?, hfound, hfault, heq]
      · simp [sizes, DeviceCall.image?, hfound, hfault, heq, hkept]
    | loadTexture files name path =>
      change textureSizes (w.device.loadTexture files name path).2.1.requests = _
      obtain ⟨hno, e, notices, heq⟩ | ⟨size, notices, ⟨hfound, hsize⟩, heq⟩ :=
        w.device.loadTexture_cases files name path
      · obtain hlost | ⟨fault, hfault⟩ := hno
        · cases hsize : w.device.imageSize files path <;>
            simp [sizes, DeviceCall.image?, hsize, hlost, heq]
        · simp [sizes, DeviceCall.image?, hfault, heq]
      · have htexels : ∀ width height bytes,
            (Request.writeTexture width height bytes).size? = none := fun _ _ _ => rfl
        simp [sizes, DeviceCall.image?, hsize, hfound, heq, hkept, htexels]
    | _ =>
      have hsame := hnone (fun h => by cases h) (fun h => by cases h)
      simpa [sizes, DeviceCall.image?] using hsame

/-- The image file is too large, or the size that the surfaces are to have. -/
def Oversteps (w : JudgedDevice) : GpuOp → Prop
  | .call (.loadTexture files _ path) => w.device.lost = false ∧
    ∃ size, w.device.imageSize files path = .ok size ∧
      ¬(size.width ≤ sideLimit ∧ size.height ≤ sideLimit)
  | .act (.resize width height) =>
    width ≠ 0 ∧ height ≠ 0 ∧ ¬(width ≤ sideLimit ∧ height ≤ sideLimit)
  | _ => False

/-- Nothing else than a step too far makes a texture too large. -/
theorem fits_sizes_iff {w : JudgedDevice} {op : GpuOp} :
    (∀ size ∈ op.sizes w, Fits size) ↔ ¬op.Oversteps w := by
  cases op with
  | act a =>
    cases a with
    | resize width height =>
      simp only [sizes, Oversteps]
      split_ifs with hzero
      · simp only [List.not_mem_nil, false_implies, implies_true, true_iff]
        tauto
      · simp only [List.mem_replicate, ne_eq, and_imp, forall_eq_apply_imp_iff, fits_ofSize]
        tauto
    | clearBackbuffer | present | lose => simp [sizes, Oversteps]
  | call c =>
    have hcall : (∀ size ∈ (call c).sizes w, Fits size) ↔
        ∀ image, c.image? w.device = some image → Fits image.size := by
      cases hnew : c.image? w.device <;> simp [sizes, hnew]
    rw [hcall]
    cases c with
    | createTexture name desc =>
      simp only [DeviceCall.image?, Oversteps, not_false_eq_true, iff_true]
      intro image hnew
      split_ifs at hnew with hno
      cases hnew
      exact fits_ofSize.mpr (GpuDevice.le_of_creationFault? (not_not.mp (not_or.mp hno).2))
    | loadTexture files name path =>
      simp only [DeviceCall.image?, Oversteps]
      cases w.device.lost <;> cases w.device.imageSize files path <;> simp [fits_ofSize]
    | _ => simp [DeviceCall.image?, Oversteps]

/-- Every texture that is asked for has a texel. -/
theorem pos_of_mem_sizes {w : JudgedDevice} {op : GpuOp} {size : Nat × Nat}
    (h : size ∈ op.sizes w) : 1 ≤ size.1 ∧ 1 ≤ size.2 := by
  have hpos : ∀ width height format, 1 ≤ (Image.ofSize width height format).size.1 ∧
      1 ≤ (Image.ofSize width height format).size.2 := fun _ _ _ =>
    ⟨Nat.le_max_right _ _, Nat.le_max_right _ _⟩
  cases op with
  | act a =>
    cases a with
    | resize width height =>
      simp only [sizes] at h
      split_ifs at h
      · exact absurd h List.not_mem_nil
      · rw [List.eq_of_mem_replicate h]
        exact hpos _ _ _
    | clearBackbuffer | present | lose => exact absurd h List.not_mem_nil
  | call c =>
    simp only [sizes, List.mem_map, Option.mem_toList] at h
    obtain ⟨image, hnew, rfl⟩ := h
    unfold DeviceCall.image? at hnew
    split at hnew
    · split_ifs at hnew
      cases hnew
      exact hpos _ _ _
    · split at hnew
      · cases hnew
      · split_ifs at hnew
        cases hnew
        exact hpos _ _ _
    · cases hnew

/-- The texture of a description is given a number. -/
def Gives (w : JudgedDevice) (id : TextureId) (desc : TextureDesc) : GpuOp → Prop
  | .call (.createTexture name described) =>
    described = desc ∧ (w.createTexture name described).1 = .ok id
  | .call (.loadTexture files name path) =>
    (w.device.loadTexture files name path).1 = .ok (id, desc)
  | _ => False

theorem Gives.image {w : JudgedDevice} {op : GpuOp} {id : TextureId} {desc : TextureDesc}
    (h : op.Gives w id desc) : (op.perform w).device.textures.get? id =
      some (.ofSize desc.width desc.height desc.format) := by
  have hkept : ∀ (g : GpuDevice) (image : Image),
      (g.keep image).2.textures.get? ⟨g.nextId⟩ = some image := fun g image => by
    simp [GpuDevice.keep]
  unfold Gives at h
  split at h
  · rename_i name described
    obtain ⟨rfl, hid⟩ := h
    change (w.createTexture name described).2.device.textures.get? id = _
    obtain ⟨-, e, heq⟩ | ⟨-, rest, ⟨e, heq⟩ | heq⟩ :=
      w.createTexture_cases name described <;> rw [heq] at hid ⊢ <;> cases hid
    exact hkept _ _
  · rename_i files name path
    change (w.device.loadTexture files name path).2.1.textures.get? id = _
    obtain ⟨-, e, notices, heq⟩ | ⟨size, notices, -, heq⟩ :=
      w.device.loadTexture_cases files name path <;> rw [heq] at h ⊢ <;> cases h
    -- A description as large as the file is for the same image.
    exact (hkept _ _).trans (by simp [Image.ofSize, TextureDesc.target])
  · exact h.elim

end GpuOp

namespace JudgedDevice

variable {w : JudgedDevice} {ops : List GpuOp}

/-- In the course of a run there is a step too far. -/
def Overstepped (w : JudgedDevice) (ops : List GpuOp) : Prop :=
  ∃ before op after, ops = before ++ op :: after ∧ op.Oversteps (w.run before)

theorem not_overstepped_nil (w : JudgedDevice) : ¬w.Overstepped [] := by
  rintro ⟨before, op, after, heq, -⟩
  exact List.append_ne_nil_of_right_ne_nil before (List.cons_ne_nil op after) heq.symm

theorem overstepped_concat {op : GpuOp} :
    w.Overstepped (ops ++ [op]) ↔ w.Overstepped ops ∨ op.Oversteps (w.run ops) := by
  constructor
  · rintro ⟨before, other, after, heq, hover⟩
    rcases List.eq_nil_or_concat after with rfl | ⟨others, last, rfl⟩
    · obtain ⟨rfl, hlast⟩ := List.append_inj' heq rfl
      obtain rfl := List.singleton_inj.mp hlast
      exact Or.inr hover
    · rw [List.concat_eq_append, ← List.cons_append, ← List.append_assoc] at heq
      exact Or.inl ⟨before, other, others, (List.append_inj' heq rfl).1, hover⟩
  · rintro (⟨before, other, after, rfl, hover⟩ | hover)
    · exact ⟨before, other, after ++ [op], by simp, hover⟩
    · exact ⟨ops, op, [], rfl, hover⟩

theorem textureSizes_concat (w : JudgedDevice) (ops : List GpuOp) (op : GpuOp) :
    textureSizes (w.run (ops ++ [op])).device.requests =
      textureSizes (w.run ops).device.requests ++ op.sizes (w.run ops) := by
  rw [run_concat, GpuOp.textureSizes_perform]

theorem pos_run (h : ∀ size ∈ textureSizes w.device.requests, 1 ≤ size.1 ∧ 1 ≤ size.2) :
    ∀ size ∈ textureSizes (w.run ops).device.requests, 1 ≤ size.1 ∧ 1 ≤ size.2 := by
  induction ops using List.reverseRecOn with
  | nil => exact h
  | append_singleton ops op ih =>
    rw [textureSizes_concat]
    exact List.forall_mem_append.mpr ⟨ih, fun size => GpuOp.pos_of_mem_sizes⟩

/-- The textures that are asked for in the course of a run fit if no step is too far. -/
theorem fits_run_iff : (∀ size ∈ textureSizes (w.run ops).device.requests, Fits size) ↔
    (∀ size ∈ textureSizes w.device.requests, Fits size) ∧ ¬w.Overstepped ops := by
  induction ops using List.reverseRecOn with
  | nil => simp [run, not_overstepped_nil]
  | append_singleton ops op ih =>
    rw [textureSizes_concat, List.forall_mem_append, ih, GpuOp.fits_sizes_iff, overstepped_concat,
      not_or, and_assoc]

/-- The textures that a new device asks for: its surfaces, and one that stands in for others. -/
theorem textureSizes_ofSize (context : GpuContext) (width height : Nat)
    (verdicts : List (Option String)) :
    textureSizes (ofSize context width height verdicts).device.requests =
      [(Image.ofSize width height context.surfaceFormat).size,
        (Image.ofSize width height context.surfaceFormat).size,
        (Image.ofSize 1 1 .standard).size] := rfl

/-- In the course of a run the texture of a description is given a number. -/
def Describes (w : JudgedDevice) (ops : List GpuOp) (id : TextureId) (desc : TextureDesc) : Prop :=
  ∃ before op after, ops = before ++ op :: after ∧ op.Gives (w.run before) id desc

/-- A texture stays on the device as it was made. -/
theorem Describes.image (hw : w.device.Numbered) {id : TextureId} {desc : TextureDesc}
    (h : w.Describes ops id desc) : (w.run ops).device.textures.get? id =
      some (.ofSize desc.width desc.height desc.format) := by
  obtain ⟨before, op, after, rfl, hgives⟩ := h
  have hnumbered : (op.perform (w.run before)).device.Numbered :=
    (op.moves _).numbered ((w.run_moves before).numbered hw)
  have hwithin := ((op.perform (w.run before)).run_moves after).textures_within hnumbered
  rw [run_append]
  exact hwithin id _ hgives.image

/-- A description that is too large is turned down, and nothing else happens. -/
theorem createTexture_refused (w : JudgedDevice) (name : String) {desc : TextureDesc}
    (h : ¬(desc.width ≤ sideLimit ∧ desc.height ≤ sideLimit)) :
    ∃ e, w.createTexture name desc = (.error e, w) := by
  obtain ⟨-, heq⟩ | ⟨⟨-, hfault⟩, -⟩ := w.createTexture_cases name desc
  · exact heq
  · exact absurd (GpuDevice.le_of_creationFault? hfault) h

/-- Every texture that a device asks for has a texel. None is too large as long as the surfaces
and the image files are not; a description that is too large is turned down. A texture has the
size of its description, if that has a texel. -/
theorem textures_limited (context : GpuContext) (width height : Nat)
    (verdicts : List (Option String)) (ops : List GpuOp) :
    let opened := ofSize context width height verdicts
    let w := opened.run ops
    (∀ size ∈ textureSizes w.device.requests, 1 ≤ size.1 ∧ 1 ≤ size.2) ∧
      ((∀ size ∈ textureSizes w.device.requests, Fits size) ↔
        (width ≤ sideLimit ∧ height ≤ sideLimit) ∧ ¬opened.Overstepped ops) ∧
      (∀ name (desc : TextureDesc), ¬(desc.width ≤ sideLimit ∧ desc.height ≤ sideLimit) →
        ∃ e, w.createTexture name desc = (.error e, w)) ∧
      ∀ id desc, opened.Describes ops id desc →
        ∃ image, w.device.textures.get? id = some image ∧
          (image.size = (desc.width, desc.height) ↔ desc.width ≠ 0 ∧ desc.height ≠ 0) := by
  intro opened w
  refine ⟨?_, ?_, fun name desc => w.createTexture_refused name, fun id desc hdesc => ?_⟩
  · refine pos_run ?_
    simp [opened, textureSizes_ofSize, Image.size, Image.ofSize]
  · refine fits_run_iff.trans (and_congr_left' ?_)
    simp [opened, textureSizes_ofSize, fits_ofSize, sideLimit]
  · refine ⟨_, hdesc.image (GpuDevice.numbered_ofSize context width height), ?_⟩
    simp only [Image.size, Image.ofSize, Prod.mk.injEq]
    omega

/-- A texture that is described and made, and one that is turned down. -/
theorem textures_limited_glow :
    let glow : TextureDesc := ⟨8, 4, 1, false, .rgba8⟩
    let wide : TextureDesc := ⟨8193, 4, 1, false, .rgba8⟩
    let opened := ofSize .plain 4 4 []
    let ops : List GpuOp := [.call (.createTexture "glow" glow)]
    let w := opened.run ops
    opened.Describes ops ⟨1⟩ glow ∧ ¬opened.Overstepped ops ∧
      (∀ size ∈ textureSizes w.device.requests, Fits size) ∧
      (∃ image, w.device.textures.get? ⟨1⟩ = some image ∧ image.size = (8, 4)) ∧
      ¬(wide.width ≤ sideLimit ∧ wide.height ≤ sideLimit) ∧
      ∃ e, w.createTexture "wide" wide = (.error e, w) := by
  intro glow wide opened ops w
  obtain ⟨-, hfits, hrefused, hdescribed⟩ := textures_limited .plain 4 4 [] ops
  have hdescribes : opened.Describes ops ⟨1⟩ glow := ⟨[], _, [], rfl, rfl, rfl⟩
  have hover : ¬opened.Overstepped ([] ++ ops) := by
    rw [overstepped_concat]
    exact not_or.mpr ⟨not_overstepped_nil opened, id⟩
  have hwide : ¬(wide.width ≤ sideLimit ∧ wide.height ≤ sideLimit) := by decide
  obtain ⟨image, himage, hsize⟩ := hdescribed ⟨1⟩ glow hdescribes
  exact ⟨hdescribes, hover, hfits.mpr ⟨by decide, hover⟩, ⟨image, himage, hsize.mpr (by decide)⟩,
    hwide, hrefused "wide" wide hwide⟩

/-- A bitmap of one row, which is one texel too long. -/
def wideBitmap : FileTree :=
  let content := "P4 8193 1 ".toUTF8.data.toList ++ List.replicate 1025 0
  .ofList ["home"] [("wide.pbm", .file ⟨content.toArray⟩)]

/-- Surfaces and image files that are too large are asked for, and what is described without a
texel is registered for a texture that has some. -/
theorem not_textures_limited_wide :
    let thin : TextureDesc := ⟨0, 4, 1, false, .rgba8⟩
    let opened := ofSize .plain 4 4 []
    let created := [GpuOp.call (.createTexture "thin" thin)]
    textureSizes (opened.run [.act (.resize 8193 1)]).device.requests =
        [(4, 4), (4, 4), (1, 1), (8193, 1), (8193, 1)] ∧
      textureSizes (opened.run
          [.call (.loadTexture wideBitmap "wide" "wide.pbm")]).device.requests =
        [(4, 4), (4, 4), (1, 1), (8193, 1)] ∧
      ¬Fits (8193, 1) ∧ opened.Describes created ⟨1⟩ thin ∧
      ((opened.run created).device.textures.get? ⟨1⟩).map Image.size = some (1, 4) := by
  exact ⟨by decide +kernel, by decide +kernel, by decide, ⟨[], _, [], rfl, rfl, rfl⟩, rfl⟩

end JudgedDevice

end ShaderEffects
