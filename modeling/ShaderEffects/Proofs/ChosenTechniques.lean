import ShaderEffects.Proofs.BindGroups
import ShaderEffects.Proofs.IndependentLinks
import ShaderEffects.Proofs.JudgedDevices
import ShaderEffects.Proofs.LostDevices
import ShaderEffects.Proofs.SessionAgreement

/-!
# Which technique is drawn

When an effect is linked for the first time it is settled which of its passes the device can
use, which of its techniques have such a pass, and which one is drawn: the first that has. An
effect that is linked again, on whatever device, may get other passes that can be drawn, but
its techniques are as good or bad as before, and the same one is drawn.
-/
namespace ShaderEffects

open Gpu

/-! ## What a device can use -/

/-- A device, as it is, can use the programs of a pass: there is one, it supports the profile
of each, and it accepts all of them together. -/
structure Device.Usable {D : Type} [Device D] (d : D) (programs : List Program) : Prop where
  nonempty : programs ≠ []
  supported : ∀ p ∈ programs, Device.supports d p.profile = true
  accepted : (Device.validate d programs).1 = .ok ()

/-- What the device without a screen can use, unless it is lost: programs of different stages
and of no profile that it refuses. -/
structure HeadlessDevice.Admits (d : HeadlessDevice) (programs : List Program) : Prop where
  found : d.lost = false
  nonempty : programs ≠ []
  profiles : ∀ p ∈ programs, p.profile.name ∉ d.refusedProfiles
  stages : (programs.map (·.stage)).Nodup

/-- What a graphics device can use, unless it is lost: one vertex and one fragment program of
the family `wgsl` whose numbers fit its registers and whose samplers are flat. -/
structure GpuDevice.Admits (g : GpuDevice) (programs : List Program) : Prop where
  found : g.lost = false
  plain : Plain programs

namespace HeadlessDevice

variable {d : HeadlessDevice} {programs : List Program}

theorem repeatedStage?_of_nodup {seen : List Stage} (h : (programs.map (·.stage)).Nodup)
    (hnew : ∀ p ∈ programs, p.stage ∉ seen) : repeatedStage? seen programs = none := by
  induction programs generalizing seen with
  | nil => rfl
  | cons p rest ih =>
    obtain ⟨hfirst, hrest⟩ := List.nodup_cons.mp h
    rw [repeatedStage?, if_neg (hnew p List.mem_cons_self)]
    refine ih hrest fun q hq => ?_
    rw [List.mem_cons, not_or]
    exact ⟨fun hsame => hfirst (List.mem_map.mpr ⟨q, hq, hsame⟩),
      hnew q (List.mem_cons_of_mem p hq)⟩

theorem supports_iff (profile : Profile) :
    Device.supports d profile = true ↔ profile.name ∉ d.refusedProfiles := by
  simp [Device.supports, HeadlessDevice.supports]

/-- Programs are accepted if the device is not lost and their stages differ. -/
theorem validate_eq_ok_iff :
    (Device.validate d programs).1 = .ok () ↔
      d.lost = false ∧ (programs.map (·.stage)).Nodup := by
  simp only [device_validate, HeadlessDevice.validate, alive]
  cases d.lost with
  | true => simp
  | false =>
    cases hrepeated : repeatedStage? [] programs with
    | none => simpa using (nodup_of_repeatedStage? hrepeated).1
    | some stage =>
      suffices hnot : ¬ (programs.map (·.stage)).Nodup by simpa using hnot
      intro hnodup
      rw [repeatedStage?_of_nodup hnodup fun _ _ => List.not_mem_nil] at hrepeated
      cases hrepeated

theorem usable_iff : Device.Usable d programs ↔ d.Admits programs := by
  constructor
  · rintro ⟨hnonempty, hsupported, haccepted⟩
    obtain ⟨hfound, hstages⟩ := validate_eq_ok_iff.mp haccepted
    exact ⟨hfound, hnonempty, fun p hp => (supports_iff _).mp (hsupported p hp), hstages⟩
  · rintro ⟨hfound, hnonempty, hprofiles, hstages⟩
    exact ⟨hnonempty, fun p hp => (supports_iff _).mpr (hprofiles p hp),
      validate_eq_ok_iff.mpr ⟨hfound, hstages⟩⟩

end HeadlessDevice

namespace GpuDevice

variable {g : GpuDevice} {programs : List Program}

theorem supports_iff (profile : Profile) :
    Device.supports g profile = true ↔ profile.family = .wgsl := decide_eq_true_iff

/-- The two programs of a pass are in step with the stages that the device draws with. -/
theorem stages_of_checkPair {vertex fragment : Program}
    (h : checkPair programs = .ok (vertex, fragment)) :
    (programs.map (·.stage)).Perm [.vertex, .fragment] ∧
      ∀ p ∈ programs, checkTable p = .ok () := by
  obtain ⟨hpair, hv, hf⟩ := checkPair_eq_ok h
  obtain ⟨hvstage, hfstage, hprograms⟩ := pair_eq_ok hpair
  rcases hprograms with rfl | rfl
  · simp [hvstage, hfstage, hv, hf]
  · exact ⟨by simpa [hvstage, hfstage] using List.Perm.swap _ _ _, by simp [hv, hf]⟩

/-- A pair that is let through, of the right family, is one that the device can use. -/
theorem plain_of_checkPair {vertex fragment : Program}
    (h : checkPair programs = .ok (vertex, fragment))
    (hprofiles : ∀ p ∈ programs, p.profile.family = .wgsl) : Plain programs := by
  obtain ⟨hstages, hchecked⟩ := stages_of_checkPair h
  exact ⟨hstages, hprofiles, fun p hp => registerCount_le_of_checkTable (hchecked p hp),
    fun p hp slot => sampler2D_of_checkTable (hchecked p hp)⟩

theorem usable_iff : Device.Usable g programs ↔ g.Admits programs := by
  constructor
  · rintro ⟨_, hsupported, haccepted⟩
    obtain ⟨hfound, ⟨vertex, fragment⟩, hpair⟩ := paired_of_validate haccepted
    exact ⟨hfound, plain_of_checkPair hpair fun p hp => (supports_iff _).mp (hsupported p hp)⟩
  · rintro ⟨hfound, hplain⟩
    obtain ⟨vertex, fragment, hpair⟩ := hplain.checkPair
    have haccepted : (g.validate programs).1 = .ok () := by
      simp only [validate, alive_of_found hfound, hpair]
    refine ⟨?_, fun p hp => (supports_iff _).mpr (hplain.profiles p hp), haccepted⟩
    rintro rfl
    exact absurd hplain.stages.length_eq (by simp)

end GpuDevice

namespace JudgedDevice

/-- What a graphics device accepts it can use, whatever the verdicts are, and if nothing is
refused it accepts what it can use. -/
theorem usable_iff (w : JudgedDevice) (programs : List Program) :
    (Device.Usable w programs → w.device.Admits programs) ∧
      (Kind w.verdicts → w.device.Admits programs → Device.Usable w programs) := by
  constructor
  · rintro ⟨_, hsupported, haccepted⟩
    obtain ⟨hfound, ⟨vertex, fragment⟩, hpair⟩ := paired_of_validate haccepted
    exact ⟨hfound, GpuDevice.plain_of_checkPair hpair fun p hp =>
      (GpuDevice.supports_iff (g := w.device) _).mp (hsupported p hp)⟩
  · intro hkind hadmits
    obtain ⟨hnonempty, hsupported, haccepted⟩ := GpuDevice.usable_iff.mpr hadmits
    obtain ⟨rest, -, heq⟩ := validate_kind hkind w.device programs
    exact ⟨hnonempty, hsupported, (congrArg Prod.fst heq).trans haccepted⟩

end JudgedDevice

/-! ## Devices while effects are linked -/

theorem GpuDevice.lost_of_prepared {g g' : GpuDevice} (h : Device.Prepared g g') :
    g'.lost = g.lost :=
  h.keep (P := fun g' => g'.lost = g.lost)
    (fun g₁ c _ h₁ => ((g₁.perform_moves c).lost c.moveKind_ne_host).trans h₁) rfl

theorem JudgedDevice.lost_of_prepared {w w' : JudgedDevice} (h : Device.Prepared w w') :
    w'.device.lost = w.device.lost :=
  h.keep (P := fun w' => w'.device.lost = w.device.lost)
    (fun w₁ c _ h₁ => ((w₁.perform_moves c).lost c.moveKind_ne_host).trans h₁) rfl

/-! ## What a link finds out -/

/-- A pass of a linked effect: the compiled one, of whose programs it is told whether it can
be drawn. -/
structure Pass.Vetted (tells : List Program → Bool → Prop) (compiled pass : Pass) : Prop where
  name : pass.name = compiled.name
  programs : pass.programs = compiled.programs
  told : tells compiled.programs pass.valid

/-- A technique of a linked effect: it is settled, and it can be drawn if one of its passes
can. -/
structure Technique.Vetted (tells : List Program → Bool → Prop) (compiled t : Technique) :
    Prop where
  name : t.name = compiled.name
  passes : List.Forall₂ (Pass.Vetted tells) compiled.passes t.passes
  settled : t.isValidated = true
  valid : t.isValid = true ↔ ∃ pass ∈ t.passes, pass.valid = true

/-- The technique that is drawn is the first that can be. -/
structure Effect.DrawsFirst (effect : Effect) : Prop where
  found : ∀ i, effect.chosen = some i ↔ ∃ t, effect.techniques[i]? = some t ∧ t.isValid = true ∧
    ∀ j < i, ∀ earlier, effect.techniques[j]? = some earlier → earlier.isValid = false
  absent : effect.chosen = none ↔ ∀ t ∈ effect.techniques, t.isValid = false

/-- An effect that is linked for the first time. -/
structure Effect.Vetted (tells : List Program → Bool → Prop) (compiled : List Technique)
    (effect : Effect) : Prop where
  techniques : List.Forall₂ (Technique.Vetted tells) compiled effect.techniques
  first : effect.DrawsFirst

section mono

variable {tells weaker : List Program → Bool → Prop}
  (htells : ∀ programs valid, tells programs valid → weaker programs valid)

include htells

theorem Pass.Vetted.mono {compiled pass : Pass} (h : compiled.Vetted tells pass) :
    compiled.Vetted weaker pass := ⟨h.name, h.programs, htells _ _ h.told⟩

theorem Technique.Vetted.mono {compiled t : Technique} (h : compiled.Vetted tells t) :
    compiled.Vetted weaker t :=
  ⟨h.name, h.passes.imp fun _ _ hpass => hpass.mono htells,
    h.settled, h.valid⟩

theorem Effect.Vetted.mono {compiled : List Technique} {effect : Effect}
    (h : Effect.Vetted tells compiled effect) : Effect.Vetted weaker compiled effect :=
  ⟨h.techniques.imp fun _ _ ht => ht.mono htells, h.first⟩

end mono

theorem Effect.drawsFirst_of_findIdx? {effect : Effect}
    (h : effect.chosen = effect.techniques.findIdx? (·.isValid)) : effect.DrawsFirst where
  found := fun i => by
    rw [h, List.findIdx?_eq_some_iff_getElem]
    constructor
    · rintro ⟨hlt, hvalid, hearlier⟩
      refine ⟨effect.techniques[i], List.getElem?_eq_getElem hlt, hvalid,
        fun j hj earlier hget => ?_⟩
      obtain ⟨hjlt, rfl⟩ := List.getElem?_eq_some_iff.mp hget
      exact Bool.eq_false_iff.mpr (hearlier j hj)
    · rintro ⟨t, hget, hvalid, hearlier⟩
      obtain ⟨hlt, rfl⟩ := List.getElem?_eq_some_iff.mp hget
      exact ⟨hlt, hvalid, fun j hj => Bool.eq_false_iff.mp
        (hearlier j hj _ (List.getElem?_eq_getElem (Nat.lt_trans hj hlt)))⟩
  absent := by rw [h, List.findIdx?_eq_none_iff]

namespace Linking

variable {D : Type} [Device D]

/-- Programs are found usable just if the device, as it is then, can use them. -/
theorem validate_eq_ok_iff (l : Linking D) (programs : List Program) :
    (l.validate programs).1 = .ok () ↔ Device.Usable l.engine.device programs := by
  unfold validate
  split_ifs with hempty
  · exact ⟨nofun, fun h => absurd (List.isEmpty_iff.mp hempty) h.nonempty⟩
  have hnonempty : programs ≠ [] := fun h => hempty (List.isEmpty_iff.mpr h)
  cases hfind : programs.find? fun p => !Device.supports l.engine.device p.profile with
  | some p =>
    refine ⟨nofun, fun h => ?_⟩
    have hrefused := List.find?_some hfind
    rw [h.supported p (List.mem_of_find?_eq_some hfind)] at hrefused
    cases hrefused
  | none =>
    have hsupported : ∀ p ∈ programs, Device.supports l.engine.device p.profile = true := by
      simpa using hfind
    simp only
    rcases hv : Device.validate l.engine.device programs with ⟨error | _, device⟩
    · refine ⟨nofun, fun h => ?_⟩
      have haccepted := h.accepted
      rw [hv] at haccepted
      cases haccepted
    · exact ⟨fun _ => ⟨hnonempty, hsupported, by rw [hv]⟩, fun _ => rfl⟩

/-- What a link finds of programs: whether the device could use them when it was asked. -/
def Found (d : D) (programs : List Program) (valid : Bool) : Prop :=
  ∃ asked, Device.Prepared d asked ∧ (valid = true ↔ Device.Usable asked programs)

variable {d : D} {l : Linking D}

theorem validatePass_vetted (h : Device.Prepared d l.engine.device) (effect : String)
    (pass : Pass) : pass.Vetted (Found d) (validatePass effect l pass).1 := by
  have hverdict := l.validate_eq_ok_iff pass.programs
  unfold validatePass
  rcases hv : l.validate pass.programs with ⟨fault | _, l'⟩ <;> rw [hv] at hverdict
  · exact ⟨rfl, rfl, l.engine.device, h, by simpa using hverdict⟩
  · exact ⟨rfl, rfl, l.engine.device, h, by simpa using hverdict⟩

theorem validatePasses_vetted (h : Device.Prepared d l.engine.device) (effect : String)
    (passes : List Pass) :
    List.Forall₂ (Pass.Vetted (Found d)) passes (validatePasses effect l passes).1 := by
  induction passes generalizing l with
  | nil => exact .nil
  | cons pass rest ih =>
    exact .cons (validatePass_vetted h effect pass)
      (ih (h.trans (validatePass_steps effect l pass).prepared))

/-- Validating a technique settles it, unless it is settled. -/
theorem validateTechnique_verdict (effect : String) (l : Linking D) (t : Technique) :
    (validateTechnique effect l t).1.name = t.name ∧
      (validateTechnique effect l t).1.verdict =
        some (t.verdict.getD ((validatePasses effect l t.passes).1.any (·.valid))) := by
  unfold validateTechnique
  simp only
  split_ifs <;> exact ⟨rfl, rfl⟩

theorem validateTechnique_vetted (h : Device.Prepared d l.engine.device) (effect : String)
    {t : Technique} (hnew : t.verdict = none) :
    t.Vetted (Found d) (validateTechnique effect l t).1 := by
  obtain ⟨hname, hverdict⟩ := validateTechnique_verdict effect l t
  rw [hnew, Option.getD_none, ← validateTechnique_passes] at hverdict
  refine ⟨hname, ?_, ?_, ?_⟩
  · rw [validateTechnique_passes]
    exact validatePasses_vetted h effect t.passes
  · rw [Technique.isValidated, hverdict]
    rfl
  · rw [Technique.isValid, hverdict, Option.getD_some, List.any_eq_true]

theorem validateTechniques_vetted (h : Device.Prepared d l.engine.device) (effect : String)
    {techniques : List Technique} (hnew : ∀ t ∈ techniques, t.verdict = none) :
    List.Forall₂ (Technique.Vetted (Found d)) techniques
      (validateTechniques effect l techniques).1 := by
  induction techniques generalizing l with
  | nil => exact .nil
  | cons t rest ih =>
    obtain ⟨hfirst, hrest⟩ := List.forall_mem_cons.mp hnew
    exact .cons (validateTechnique_vetted h effect hfirst)
      (ih (h.trans (validateTechnique_steps effect l t).prepared) hrest)

end Linking

/-! ## Linking again -/

/-- What a later link of an effect can make of it, on whatever device and with whatever else is
registered. -/
inductive Effect.Relinked (first : Effect) : Effect → Prop
  | refl : Relinked first first
  | link {D : Type} [Device D] (e : Engine D) {effect : Effect} :
      Relinked first effect → Relinked first (e.link effect).1

/-- The names of an effect's techniques, and which of them are settled to be good or bad. -/
def Effect.verdicts (effect : Effect) : List (String × Option Bool) :=
  effect.techniques.map fun t => (t.name, t.verdict)

/-- The technique that is drawn can be told from the verdicts. -/
theorem findIdx?_isValid (techniques : List Technique) :
    techniques.findIdx? (·.isValid) =
      (techniques.map fun t => (t.name, t.verdict)).findIdx? fun v => v.2.getD false := by
  rw [List.findIdx?_map]
  rfl

namespace Linking

variable {D : Type} [Device D]

/-- What is settled stays as it is. -/
theorem validateTechniques_settled (effect : String) (l : Linking D) {techniques : List Technique}
    (h : ∀ t ∈ techniques, t.isValidated = true) :
    (validateTechniques effect l techniques).1.map (fun t => (t.name, t.verdict)) =
      techniques.map fun t => (t.name, t.verdict) := by
  induction techniques generalizing l with
  | nil => rfl
  | cons t rest ih =>
    obtain ⟨hfirst, hrest⟩ := List.forall_mem_cons.mp h
    obtain ⟨valid, hvalid⟩ := Option.isSome_iff_exists.mp hfirst
    obtain ⟨hname, hverdict⟩ := validateTechnique_verdict effect l t
    rw [hvalid, Option.getD_some] at hverdict
    simp only [validateTechniques, List.map_cons, ih _ hrest, hname, hverdict, hvalid]

end Linking

namespace Engine

variable {D : Type} [Device D] (e : Engine D)

theorem chosen_link (effect : Effect) :
    (e.link effect).1.chosen = (e.link effect).1.techniques.findIdx? (·.isValid) := by
  rw [link_fst, chosen, Linking.choose_fst, List.findIdx?_map]
  rfl

/-- Finding targets says nothing about which techniques can be drawn. -/
theorem verdicts_link (effect : Effect) :
    (e.link effect).1.verdicts =
      (e.chosen effect).1.techniques.map fun t => (t.name, t.verdict) := by
  rw [link_fst, Effect.verdicts, List.map_map]
  rfl

theorem verdicts_link_settled {effect : Effect}
    (h : ∀ t ∈ effect.techniques, t.isValidated = true) :
    (e.link effect).1.verdicts = effect.verdicts := by
  rw [verdicts_link, chosen, Linking.choose_fst]
  exact Linking.validateTechniques_settled _ _ h

/-- The first link of an effect finds out what can be drawn of it. -/
theorem link_vetted {effect : Effect} (hnew : ∀ t ∈ effect.techniques, t.verdict = none) :
    Effect.Vetted (Linking.Found e.device) effect.techniques (e.link effect).1 := by
  refine ⟨?_, Effect.drawsFirst_of_findIdx? (e.chosen_link effect)⟩
  have hsteps := (Linking.linkParameters_steps { engine := e } effect).trans
    (Linking.resolveSamplers_steps _ effect)
  rw [link_fst, chosen, Linking.choose_fst, List.forall₂_map_right_iff]
  refine (Linking.validateTechniques_vetted hsteps.prepared effect.name hnew).imp fun _ t ht => ?_
  refine ⟨ht.name, ?_, ht.settled, ?_⟩
  · exact List.forall₂_map_right_iff.mpr
      (ht.passes.imp fun _ _ hpass => ⟨hpass.name, hpass.programs, hpass.told⟩)
  · exact ht.valid.trans (by simp [Linking.aimTechnique, Linking.aimPass])

end Engine

theorem isValidated_iff_verdicts (techniques : List Technique) :
    (∀ t ∈ techniques, t.isValidated = true) ↔
      ∀ v ∈ techniques.map (fun t => (t.name, t.verdict)), v.2.isSome = true := by
  simp [Technique.isValidated]

theorem Effect.Vetted.settled {tells : List Program → Bool → Prop} {compiled : List Technique}
    {effect : Effect} (h : effect.Vetted tells compiled) :
    ∀ t ∈ effect.techniques, t.isValidated = true := by
  intro t ht
  obtain ⟨_, _, hvetted⟩ := exists_of_forall₂ h.techniques.flip ht
  exact hvetted.settled

/-- Later links of a settled effect change neither the verdicts nor what is drawn. -/
theorem Effect.Relinked.unchanged {first effect : Effect} (h : first.Relinked effect)
    (hsettled : ∀ t ∈ first.techniques, t.isValidated = true)
    (hchosen : first.chosen = first.techniques.findIdx? (·.isValid)) :
    effect.verdicts = first.verdicts ∧ effect.chosen = first.chosen := by
  suffices hsame : effect.verdicts = first.verdicts ∧
      effect.chosen = effect.techniques.findIdx? (·.isValid) by
    refine ⟨hsame.1, ?_⟩
    rw [hsame.2, hchosen, findIdx?_isValid, findIdx?_isValid]
    exact congrArg _ hsame.1
  induction h with
  | refl => exact ⟨rfl, hchosen⟩
  | @link D _ e before _ ih =>
    refine ⟨?_, e.chosen_link before⟩
    rw [← ih.1]
    refine e.verdicts_link_settled ((isValidated_iff_verdicts _).mpr ?_)
    have hfirst := (isValidated_iff_verdicts _).mp hsettled
    rw [← Effect.verdicts, ih.1]
    exact hfirst

/-! ## First links on either device -/

namespace HeadlessDevice

/-- Whenever it is asked during a link, the device says of programs what it said before. -/
theorem admits_of_found {d : HeadlessDevice} {programs : List Program} {valid : Bool}
    (h : Linking.Found d programs valid) : valid = true ↔ d.Admits programs := by
  obtain ⟨asked, hprepared, hvalid⟩ := h
  have hanswers := answersAs_of_prepared hprepared
  rw [hvalid, usable_iff]
  exact ⟨fun ⟨hfound, hne, hprofiles, hstages⟩ =>
      ⟨hanswers.lost ▸ hfound, hne, hanswers.refusedProfiles ▸ hprofiles, hstages⟩,
    fun ⟨hfound, hne, hprofiles, hstages⟩ =>
      ⟨hanswers.lost.symm ▸ hfound, hne, hanswers.refusedProfiles.symm ▸ hprofiles, hstages⟩⟩

end HeadlessDevice

namespace GpuDevice

theorem admits_congr {g g' : GpuDevice} (h : g'.lost = g.lost) (programs : List Program) :
    g'.Admits programs ↔ g.Admits programs :=
  ⟨fun ⟨hfound, hplain⟩ => ⟨h ▸ hfound, hplain⟩, fun ⟨hfound, hplain⟩ => ⟨h.symm ▸ hfound, hplain⟩⟩

theorem admits_of_found {g : GpuDevice} {programs : List Program} {valid : Bool}
    (h : Linking.Found g programs valid) : valid = true ↔ g.Admits programs := by
  obtain ⟨asked, hprepared, hvalid⟩ := h
  rw [hvalid, usable_iff, admits_congr (lost_of_prepared hprepared)]

end GpuDevice

namespace JudgedDevice

/-- Where nothing is going to be refused, nothing will be after a call. -/
theorem kind_of_prepared {w w' : JudgedDevice} (h : Device.Prepared w w')
    (hkind : Kind w.verdicts) : Kind w'.verdicts := by
  refine h.keep (P := fun w' => Kind w'.verdicts) (fun w₁ c hc h₁ => ?_) hkind
  cases c with
  | validate programs =>
    obtain ⟨rest, hrest, heq⟩ := validate_kind h₁ w₁.device programs
    exact (congrArg (·.2.verdicts) heq).symm ▸ hrest
  | createTexture name desc =>
    obtain ⟨rest, hrest, heq⟩ := createTexture_kind h₁ w₁.device name desc
    exact (congrArg (·.2.verdicts) heq).symm ▸ hrest
  | loadTexture => exact h₁
  | loadProgram | bind | unbind | setConstants | setSampler | setTarget | restore
  | enterEffectState | draw | copy => cases hc

theorem admits_of_found {w : JudgedDevice} {programs : List Program} {valid : Bool}
    (h : Linking.Found w programs valid) :
    (valid = true → w.device.Admits programs) ∧
      (w.verdicts = [] → w.device.Admits programs → valid = true) := by
  obtain ⟨asked, hprepared, hvalid⟩ := h
  obtain ⟨hadmitted, husable⟩ := asked.usable_iff programs
  have hsame := GpuDevice.admits_congr (lost_of_prepared hprepared) programs
  refine ⟨fun h => hsame.mp (hadmitted (hvalid.mp h)), fun hnone hadmits => ?_⟩
  have hkind : Kind w.verdicts := hnone ▸ List.forall_mem_nil _
  exact hvalid.mpr (husable (kind_of_prepared hprepared hkind) (hsame.mpr hadmits))

end JudgedDevice

/-- The techniques of an effect that just compiled are settled when it is first linked. A pass
is valid if the device can use its programs together, a technique if it has a valid pass, and
the first valid technique is drawn. A graphics device whose interface refuses something may
find less to be valid. Later links, on whatever devices, leave the techniques as valid as they
are, and the same one is drawn. -/
theorem EffectDraft.first_link_settles {compiler : Compiler} {d : EffectDescription}
    {draft : EffectDraft} (hcompile : compile compiler d = .ok draft) (ps : Parameters) :
    (∀ e : Engine HeadlessDevice,
      Effect.Vetted (fun programs valid => valid = true ↔ e.device.Admits programs)
        draft.techniques (e.link (draft.install ps).1).1) ∧
    (∀ e : Engine GpuDevice,
      Effect.Vetted (fun programs valid => valid = true ↔ e.device.Admits programs)
        draft.techniques (e.link (draft.install ps).1).1) ∧
    (∀ e : Engine JudgedDevice,
      Effect.Vetted (fun programs valid => (valid = true → e.device.device.Admits programs) ∧
          (e.device.verdicts = [] → e.device.device.Admits programs → valid = true))
        draft.techniques (e.link (draft.install ps).1).1) ∧
    ∀ {D : Type} [Device D] (e : Engine D),
      Effect.Vetted (Linking.Found e.device) draft.techniques (e.link (draft.install ps).1).1 ∧
      ∀ later, (e.link (draft.install ps).1).1.Relinked later →
        later.verdicts = (e.link (draft.install ps).1).1.verdicts ∧
        later.chosen = (e.link (draft.install ps).1).1.chosen := by
  have hnew : ∀ t ∈ (draft.install ps).1.techniques, t.verdict = none := compile_unsettled hcompile
  refine ⟨fun e => ?_, fun e => ?_, fun e => ?_, fun {D} _ e => ?_⟩
  · exact (e.link_vetted hnew).mono fun _ _ h => HeadlessDevice.admits_of_found h
  · exact (e.link_vetted hnew).mono fun _ _ h => GpuDevice.admits_of_found h
  · exact (e.link_vetted hnew).mono fun _ _ h => JudgedDevice.admits_of_found h
  · have hvetted : Effect.Vetted (Linking.Found e.device) draft.techniques
        (e.link (draft.install ps).1).1 := e.link_vetted hnew
    exact ⟨hvetted, fun later h => h.unchanged hvetted.settled (e.chosen_link _)⟩

/-- An effect of three techniques: one without a pass, one whose pass has no vertex program,
and one whose pass has both programs. -/
def fallingBack : String :=
  "[\"fx\", [], [[\"bare\", \x7b\x7d, []], " ++
  "[\"half\", \x7b\x7d, [[\"p\", \x7b\x7d, null, [\"wgsl\", \"main\", \"\"]]]], " ++
  "[\"full\", \x7b\x7d, [[\"p\", \x7b\x7d, [\"wgsl\", \"main\", \"\"], " ++
  "[\"wgsl\", \"main\", \"\"]]]]]]"

/-- The device without a screen draws the second technique, a graphics device the third, and
what was linked on the one draws the same technique after a link on the other. -/
theorem EffectDraft.first_link_settles_fallingBack :
    ∃ (d : EffectDescription) (draft : EffectDraft) (e : Engine HeadlessDevice)
      (g : Engine GpuDevice),
      EffectDescription.ofText fallingBack = .ok d ∧
        compile (Session.searching {} {}) d = .ok draft ∧
        (e.link (draft.install e.parameters).1).1.chosen = some 1 ∧
        (g.link (draft.install e.parameters).1).1.chosen = some 2 ∧
        (g.link (e.link (draft.install e.parameters).1).1).1.chosen = some 1 ∧
        (e.link (g.link (draft.install e.parameters).1).1).1.chosen = some 2 := by
  have hchosen : (((EffectDescription.ofText fallingBack).toOption.bind fun d =>
      (compile (Session.searching {} {}) d).toOption).bind fun draft =>
    (Session.create (HeadlessDevice.ofSize 4 4) { builtinParameters := false }
        (Session.searching {} {}) 0).1.toOption.bind fun session =>
    (Session.create (GpuDevice.ofSize .plain 4 4) { builtinParameters := false }
        (Session.searching {} {}) 0).1.toOption.map fun session' =>
      ((session.engine.link (draft.install session.engine.parameters).1).1.chosen,
        (session'.engine.link (draft.install session.engine.parameters).1).1.chosen)) =
      some (some 1, some 2) := by decide +kernel
  obtain ⟨draft, hdraft, hlinked⟩ := Option.bind_eq_some_iff.mp hchosen
  obtain ⟨d, hd, hcompile⟩ := Option.bind_eq_some_iff.mp hdraft
  obtain ⟨session, _, hlinked⟩ := Option.bind_eq_some_iff.mp hlinked
  obtain ⟨session', _, hlinked⟩ := Option.map_eq_some_iff.mp hlinked
  obtain ⟨hheadless, hgpu⟩ := Prod.mk.inj hlinked
  obtain ⟨_, _, _, hany⟩ :=
    first_link_settles (ok_of_toOption hcompile) session.engine.parameters
  refine ⟨d, draft, session.engine, session'.engine, ok_of_toOption hd, ok_of_toOption hcompile,
    hheadless, hgpu, ?_, ?_⟩
  · exact ((hany session.engine).2 _ (.link session'.engine .refl)).2.trans hheadless
  · exact ((hany session'.engine).2 _ (.link session.engine .refl)).2.trans hgpu

end ShaderEffects
