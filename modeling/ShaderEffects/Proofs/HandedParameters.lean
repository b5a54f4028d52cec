import ShaderEffects.Proofs.SuppliedTextures

/-!
# Parameters that are handed to a bound pass

A host may hand any parameter to the pass that is bound, also one of another effect. It
goes into the slots of its name that are for its kind of value, and nowhere else. So a slot
has what was handed over last under its name, or what the pass was bound with.
-/
namespace ShaderEffects

/-! ## What is handed over -/

/-- A parameter as it is handed over, with the textures among which its own is looked up. -/
structure Handing where
  parameter : Parameter
  textures : TextureRegistry

namespace Handing

/-- The numbers that are handed over under a name. -/
def numbers? (h : Handing) (name : String) : Option Scalars :=
  if h.parameter.category = .scalar ∧ h.parameter.name = name then some h.parameter.scalars
  else none

/-- The texture that is handed over under a name. -/
def texture? (h : Handing) (name : String) : Option TextureId :=
  if h.parameter.category = .sampler ∧ h.parameter.name = name then
    (h.parameter.texture.bind h.textures.get?).map (·.backing)
  else none

/-- The values for some bound programs. -/
def uploads (h : Handing) (programs : List BoundProgram) : List Upload :=
  programs.filterMap (Upload.of? ⟨{}, h.textures⟩ h.parameter)

end Handing

/-- The last value of some parameters that were handed over, from the oldest on. -/
def lastGiven? {α : Type} (value : Handing → Option α) (hs : List Handing) : Option α :=
  hs.reverse.findSome? value

theorem lastGiven?_append {α : Type} (value : Handing → Option α) (hs later : List Handing) :
    lastGiven? value (hs ++ later) = (lastGiven? value later).or (lastGiven? value hs) := by
  simp [lastGiven?, List.findSome?_append]

theorem lastGiven?_toList {α : Type} (value : Handing → Option α) (h : Option Handing) :
    lastGiven? value h.toList = h.bind value := by
  cases h with
  | none => rfl
  | some h => cases hvalue : value h <;> simp [lastGiven?, hvalue]

namespace Scene

/-- A parameter of a scene as it is handed over. -/
def handing? (scene : Scene) (id : ParameterId) : Option Handing :=
  (scene.parameters.get? id).map fun p => ⟨p, scene.textures⟩

/-- A sampler of a scene as it is handed over. -/
def connecting? (scene : Scene) (id : ParameterId) : Option Handing :=
  (scene.handing? id).filter fun h => h.parameter.category = .sampler

/-- The numbers that the parameter of an effect holds. -/
def numbersOf? (scene : Scene) (effect : Effect) (name : String) : Option Scalars :=
  (effect.parameter? name).bind fun ep => (scene.parameters.get? ep.id).map (·.scalars)

end Scene

namespace Renderer

variable {D : Type} [Device D]

/-- Hands a parameter to the pass that is bound. -/
def hand (r : Renderer D) (h : Handing) : Renderer D :=
  { r with device := (h.uploads (r.bound.elim [] (·.programs))).foldl Upload.apply r.device }

theorem hand_of_bound {r : Renderer D} {bound : BoundPass} (hbound : r.bound = some bound)
    (h : Handing) :
    r.hand h = { r with device := (h.uploads bound.programs).foldl Upload.apply r.device } := by
  rw [hand, hbound]
  rfl

theorem hand_of_unbound {r : Renderer D} (hbound : r.bound = none) (h : Handing) :
    r.hand h = r := by
  obtain ⟨device, quad, loaded, _, journal⟩ := r
  subst hbound
  rfl

theorem applyParameter_eq (r : Renderer D) (scene : Scene) (id : ParameterId) :
    r.applyParameter scene id = (scene.handing? id).elim r r.hand := by
  unfold applyParameter uploads Scene.handing?
  cases hp : scene.parameters.get? id with
  | none => cases hbound : r.bound <;> simp [← hbound]
  | some p =>
    cases hbound : r.bound with
    | none => simp [hand_of_unbound hbound, ← hbound]
    | some bound =>
      simp only [Option.map_some, Option.elim_some, hand_of_bound hbound]
      rw [← hbound]
      rfl

/-- Connecting a texture hands the parameter over if it is a sampler. -/
theorem connected_eq (r : Renderer D) (scene : Scene) (id : ParameterId) :
    ∃ notices, (r.connected scene id).2 =
      ((scene.connecting? id).elim r r.hand).note notices := by
  have hnil : ∀ r : Renderer D, r.note [] = r := fun r => by simp [note]
  unfold connected Scene.connecting?
  cases hp : scene.parameters.get? id with
  | none => exact ⟨[], by simp [Scene.handing?, hp, hnil]⟩
  | some p =>
    cases hcategory : p.category with
    | sampler =>
      refine ⟨[], ?_⟩
      simp [applyParameter_eq, Scene.handing?, Option.filter, hp, hcategory, hnil]
    | scalar =>
      exact ⟨[.notSampler p.name], by simp [Scene.handing?, Option.filter, hp, hcategory]⟩

/-- A parameter that no bound program has a slot for is handed to none. -/
theorem hand_eq_self {r : Renderer D} {h : Handing}
    (hnot : ∀ bound, r.bound = some bound → ∀ b ∈ bound.programs,
      Upload.of? ⟨{}, h.textures⟩ h.parameter b = none) : r.hand h = r := by
  cases hbound : r.bound with
  | none => exact hand_of_unbound hbound h
  | some bound =>
    rw [hand_of_bound hbound, Handing.uploads,
      List.filterMap_eq_nil_iff.mpr (hnot bound hbound)]
    rfl

/-! ## One slot of one program -/

variable [RegisterFile D] {r r' : Renderer D} {bound : BoundPass} {key : ProgramKey}
  {id : ProgramId}

section numbers

variable {slot : ConstantSlot} (hid : r.loaded.get? key = some id) (hlaid : key.constants.Laid)
  (hfits : key.constants.Fits (RegisterFile.capacity D))
  (hslot : slot ∈ key.constants.constants)

include hid hlaid hfits hslot

/-- A slot of a bound program has the numbers that are handed over under its name. -/
theorem Kept.slotHolds_hand (hkept : r.Kept) (hbound : r.bound = some bound)
    (hmem : ∃ b ∈ bound.programs, b.id = id) (h : Handing) {s : Scalars}
    (hholds : SlotHolds r.device id slot s) :
    SlotHolds (r.hand h).device id slot ((h.numbers? slot.parameter).getD s) := by
  rw [hand_of_bound hbound]
  refine hkept.slotHolds_foldl hbound hid hlaid hfits hslot (fun u hu => ?_) ?_
  · obtain ⟨b, hb, hof⟩ := List.mem_filterMap.mp hu
    refine ⟨_, _, b, hb, hof, fun hscalar hname => ?_⟩
    rw [Handing.numbers?, if_pos ⟨hscalar, hname⟩, Option.getD_some]
  · unfold Handing.numbers?
    split_ifs with hmeant
    · obtain ⟨b, hb, rfl⟩ := hmem
      have hfound : b.constants.constant? h.parameter.name = some slot := by
        rw [hkept.constants_eq (hkept.knows bound hbound b hb) hid, hmeant.2]
        exact hlaid.constant? hslot
      exact Or.inr (List.mem_filterMap.mpr ⟨b, hb, Upload.of?_of_scalar _ hmeant.1 hfound⟩)
    · exact Or.inl hholds

end numbers

/-- What is known of loaded programs holds after a parameter was handed over. -/
theorem Kept.hand (hkept : r.Kept) (h : Handing) : (r.hand h).Kept := by
  cases hbound : r.bound with
  | none => rwa [hand_of_unbound hbound]
  | some bound =>
    rw [hand_of_bound hbound]
    exact StepsBy.kept (foldl_upload_steps hbound _ fun u hu => List.mem_filterMap.mp hu) hkept

variable [SamplerFile D]

/-- A slot of a bound program has the texture that is handed over under its name. -/
theorem Kept.sampler?_hand (hkept : r.Kept) (hbound : r.bound = some bound)
    (hid : r.loaded.get? key = some id) (hsampled : key.constants.Sampled) {slot : SamplerSlot}
    (hslot : slot ∈ key.constants.samplers) (hmem : ∃ b ∈ bound.programs, b.id = id) (h : Handing)
    (hhas : SamplerFile.HasSlot r.device id slot.slot) :
    SamplerFile.HasSlot (r.hand h).device id slot.slot ∧
      SamplerFile.sampler? (r.hand h).device id slot.slot =
        (h.texture? slot.parameter).or (SamplerFile.sampler? r.device id slot.slot) := by
  have hloaded := hkept.has key id hid
  have hknown : ∀ b ∈ bound.programs, b.id = id → b.constants = key.constants := by
    rintro b hb rfl
    exact hkept.constants_eq (hkept.knows bound hbound b hb) hid
  rw [hand_of_bound hbound]
  refine ⟨hasSlot_foldl hloaded hhas _, sampler?_foldl hloaded hhas ?_ ?_⟩
  · intro u hu texture hinto
    obtain ⟨b, hb, hof⟩ := List.mem_filterMap.mp hu
    rcases Upload.of?_eq_some_iff.mp hof with
      ⟨_, _, _, rfl⟩ | ⟨hsampler, found, held, hfound, hheld, rfl⟩
    · cases hinto
    · simp only [Upload.into?] at hinto
      split_ifs at hinto with hthis
      -- the slot that was found has the number of the slot, so it is the slot
      rw [hknown b hb hthis.1] at hfound
      obtain ⟨hfoundMem, hparameter⟩ := ConstantTable.of_sampler? hfound
      obtain rfl := hsampled.eq_of_slot hslot hfoundMem hthis.2
      rw [Handing.texture?, if_pos ⟨hsampler, hparameter.symm⟩, hheld]
      exact hinto
  · intro texture htexture
    right
    unfold Handing.texture? at htexture
    split_ifs at htexture with hmeant
    obtain ⟨held, hheld, rfl⟩ := Option.map_eq_some_iff.mp htexture
    obtain ⟨b, hb, rfl⟩ := hmem
    have hfound : b.constants.sampler? h.parameter.name = some slot := by
      rw [hknown b hb rfl, hmeant.2]
      exact hsampled.sampler? hslot
    refine ⟨_, List.mem_filterMap.mpr ⟨b, hb, Upload.of?_of_sampler hmeant.1 hfound hheld⟩, ?_⟩
    simp [Upload.into?]

end Renderer

end ShaderEffects
