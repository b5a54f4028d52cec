import ShaderEffects.Proofs.ParameterTurns
import ShaderEffects.Proofs.ResolvedSamplers

/-!
# Effects that are new to an engine

The parameters of an effect that just compiled get the next numbers, hold what the
document gives them and are attached to nothing. Linking the effect changes no other
parameter but for the followers that virtual ones get.
-/
namespace ShaderEffects

/-! ## Parameters that come to life -/

namespace EffectDraft

/-- A parameter of an effect, made from a draft. -/
structure Realizes (ps : Parameters) (ep : EffectParameter) (d : ParameterDraft) : Prop where
  name : ep.name = d.cell.name
  type : ep.type = d.cell.type
  directives : ep.directives = d.directives
  cell : ps.get? ep.id = some d.cell

/-- Parameters come to life one behind the other, with the next numbers. -/
theorem settle_cells (ps : Parameters) (drafts : List ParameterDraft) :
    (settle ps drafts).2.names = ps.names ∧
      (settle ps drafts).2.made = ps.made + drafts.length ∧
      (settle ps drafts).1.map (·.id.number) = List.range' ps.made drafts.length ∧
      List.Forall₂ (Realizes (settle ps drafts).2) (settle ps drafts).1 drafts ∧
      ∀ q, q ∉ (settle ps drafts).1.map (·.id) → (settle ps drafts).2.get? q = ps.get? q := by
  induction drafts generalizing ps with
  | nil => exact ⟨rfl, rfl, rfl, .nil, fun _ _ => rfl⟩
  | cons d rest ih =>
    obtain ⟨hnames, hmade, hnumbers, hrow, hothers⟩ := ih (ps.add d.cell).1
    have hnew : ∀ ep ∈ (settle (ps.add d.cell).1 rest).1, ep.id ≠ ⟨ps.made⟩ := by
      intro ep hep heq
      have hmem : ep.id.number ∈ List.range' (ps.made + 1) rest.length := by
        rw [← show (ps.add d.cell).1.made = ps.made + 1 from rfl, ← hnumbers]
        exact List.mem_map_of_mem hep
      have hle := (List.mem_range'_1.mp hmem).1
      rw [heq] at hle
      exact Nat.not_succ_le_self _ hle
    refine ⟨hnames, ?_, ?_, .cons ⟨rfl, rfl, rfl, ?_⟩ hrow, fun q hq => ?_⟩
    · rw [settle, hmade]
      simp only [Parameters.add, List.length_cons]
      omega
    · simp only [settle, List.map_cons, hnumbers, List.length_cons, List.range'_succ]
      rfl
    · change (settle (ps.add d.cell).1 rest).2.get? ⟨ps.made⟩ = some d.cell
      rw [hothers ⟨ps.made⟩, Parameters.get?_add, if_pos rfl]
      intro hmem
      obtain ⟨ep, hep, heq⟩ := List.mem_map.mp hmem
      exact hnew ep hep heq
    · simp only [settle, List.map_cons, List.mem_cons, not_or] at hq ⊢
      rw [hothers q hq.2, Parameters.get?_add]
      exact if_neg hq.1

/-- What bringing an effect to life makes of parameters: those of the effect are new, have
one owner each, no attachments and no texture, and the others are as they were. -/
structure Enters (ps : Parameters) (effect : Effect) (ps' : Parameters) : Prop where
  made_le : ps.made ≤ ps'.made
  names : ps'.names = ps.names
  ids : effect.parameterIds.Nodup
  others : ∀ q, q ∉ effect.parameterIds → ps'.get? q = ps.get? q
  own : ∀ ep ∈ effect.parameters, ps.made ≤ ep.id.number ∧ ep.id.number < ps'.made ∧
    ∃ p, ps'.get? ep.id = some p ∧ p.attached = [] ∧ p.isVirtual = false ∧ p.texture = none ∧
      p.owners = 1

theorem enters_install {compiler : Compiler} {d : EffectDescription} {draft : EffectDraft}
    (hcompile : compile compiler d = .ok draft) (ps : Parameters) :
    Enters ps (draft.install ps).1 (draft.install ps).2 := by
  obtain ⟨hnames, hmade, hnumbers, hrow, hothers⟩ := settle_cells ps draft.parameters
  refine ⟨?_, hnames, ?_, hothers, fun ep hep => ?_⟩
  · exact hmade ▸ Nat.le_add_right _ _
  · have hnodup : ((settle ps draft.parameters).1.map (·.id.number)).Nodup :=
      hnumbers ▸ List.nodup_range'
    have hmap : (settle ps draft.parameters).1.map (·.id.number) =
        ((settle ps draft.parameters).1.map (·.id)).map (·.number) := by
      rw [List.map_map]
      rfl
    rw [hmap] at hnodup
    exact hnodup.of_map _
  · have hnumber : ep.id.number ∈ List.range' ps.made draft.parameters.length :=
      hnumbers ▸ List.mem_map_of_mem hep
    obtain ⟨hle, hlt⟩ := List.mem_range'_1.mp hnumber
    obtain ⟨p, hp, hrealizes⟩ := exists_of_forall₂ hrow hep
    obtain ⟨hleaf, hnot, htexture, howners⟩ := compile_cells hcompile hp
    exact ⟨hle, hmade ▸ hlt, p.cell, hrealizes.cell, hleaf, hnot, htexture, howners⟩

section enters

variable {ps ps' : Parameters} {effect : Effect} (h : Enters ps effect ps')

include h

/-- What was there before is not one of the effect's parameters. -/
theorem Enters.not_mem {q : ParameterId} (hq : q.number < ps.made) : q ∉ effect.parameterIds := by
  intro hmem
  obtain ⟨ep, hep, rfl⟩ := List.mem_map.mp hmem
  exact Nat.lt_irrefl _ (Nat.lt_of_lt_of_le hq (h.own ep hep).1)

theorem Enters.get? {q : ParameterId} (hq : q.number < ps.made) : ps'.get? q = ps.get? q :=
  h.others q (h.not_mem hq)

theorem Enters.alive {q : ParameterId} (hq : q.number < ps.made) : ps'.alive q = ps.alive q :=
  Bool.eq_iff_iff.mpr (by rw [Parameters.alive_iff, Parameters.alive_iff, h.get? hq])

/-- The parameters of the effect are loose. -/
theorem Enters.leaves : ps'.Leaves effect.parameters where
  nodup := h.ids
  leaf := fun ep hep => by
    obtain ⟨_, _, p, hp, hleaf, hnot, _⟩ := h.own ep hep
    exact ⟨p, hp, hleaf, hnot⟩

theorem Enters.loose (hps : ps.Settled) : ps'.Loose effect.parameters where
  toLeaves := h.leaves
  detached := fun ep hep a p hp hmem => by
    by_cases ha : a ∈ effect.parameterIds
    · obtain ⟨ep', hep', rfl⟩ := List.mem_map.mp ha
      obtain ⟨_, _, p', hp', hleaf, _⟩ := h.own ep' hep'
      rw [hp] at hp'
      cases hp'
      rw [hleaf] at hmem
      exact absurd hmem List.not_mem_nil
    · rw [h.others a ha] at hp
      have hlt := hps.attached.attached_lt a p hp ep.id hmem
      exact Nat.lt_irrefl _ (Nat.lt_of_lt_of_le hlt (h.own ep hep).1)

/-- Which virtual parameters there are does not depend on the effect. -/
theorem Enters.find? (hps : ps.Settled) : ps'.find? = ps.find? := by
  funext name type
  unfold Parameters.find? Parameters.named?
  rw [h.names]
  cases hname : ps.names.get? name with
  | none => rfl
  | some id => simp only [h.get? (hps.registered.number_lt name id hname)]

end enters

end EffectDraft

/-! ## Parameters with those of a new effect -/

namespace Parameters

/-- What loading an effect makes of parameters: virtual ones get new followers, nothing
else changes, and the parameters of the effect are new. -/
structure Gains (ps : Parameters) (row : List EffectParameter) (ps' : Parameters) : Prop where
  names : ps'.names = ps.names
  old : ∀ q p, ps.get? q = some p → ps'.get? q = some (ps.joined (ps.followers row q) p)
  fresh : ∀ ep ∈ row, ps.made ≤ ep.id.number
  own : ∀ ep ∈ row, ∃ p, ps'.get? ep.id = some p ∧ p.attached = [] ∧ p.owners = 1
  only : ∀ q, ps'.alive q = true → ps.alive q = true ∨ ∃ ep ∈ row, ep.id = q

theorem gains_of_joins {ps entered ps₁ ps₂ : Parameters} {effect : Effect} (hps : ps.Settled)
    (henters : EffectDraft.Enters ps effect entered)
    (hjoins : entered.Joins effect.parameters ps₁) (hfills : ps₁.Fills effect.parameters ps₂) :
    ps.Gains effect.parameters ps₂ := by
  have hfollowers : entered.followers effect.parameters = ps.followers effect.parameters := by
    funext q
    unfold followers followed?
    rw [henters.find? hps]
  refine ⟨?_, fun q p hp => ?_, fun ep hep => (henters.own ep hep).1, fun ep hep => ?_,
    fun q hq => ?_⟩
  · rw [hfills.names, hjoins.names, henters.names]
  · have hlt := hps.numbered q p hp
    have hnot : ∀ ep ∈ effect.parameters, q ≠ ep.id := fun ep hep heq =>
      henters.not_mem hlt (heq ▸ List.mem_map_of_mem hep)
    rw [hfills.others q hnot, hjoins.others q hnot, henters.get? hlt, hp, Option.map_some,
      hfollowers]
    -- what is attached was made before, so the effect does not bring it back
    have halive : p.attached.filter entered.alive = p.attached.filter ps.alive :=
      List.filter_congr fun b hb => henters.alive (hps.attached.attached_lt q p hp b hb)
    unfold joined
    rw [halive]
  · obtain ⟨_, _, p, hp, hleaf, _, _, howners⟩ := henters.own ep hep
    obtain ⟨_, _, _, hattached, howners'⟩ := taught_keeps entered ep p
    rcases hfills.own ep hep _ (hjoins.own ep hep p hp) with hsame | ⟨texture, _, hgiven⟩
    · exact ⟨_, hsame, hattached.trans hleaf, howners'.trans howners⟩
    · exact ⟨_, hgiven, hattached.trans hleaf, howners'.trans howners⟩
  · by_cases hown : ∃ ep ∈ effect.parameters, ep.id = q
    · exact Or.inr hown
    · have hnot : ∀ ep ∈ effect.parameters, q ≠ ep.id := fun ep hep heq => hown ⟨ep, hep, heq.symm⟩
      have hmem : q ∉ effect.parameterIds := by
        intro hmem
        obtain ⟨ep, hep, heq⟩ := List.mem_map.mp hmem
        exact hown ⟨ep, hep, heq⟩
      obtain ⟨p', hp'⟩ := (alive_iff _ _).mp hq
      rw [hfills.others q hnot, hjoins.others q hnot, henters.others q hmem] at hp'
      obtain ⟨p, hp, _⟩ := Option.map_eq_some_iff.mp hp'
      exact Or.inl (alive_of_get? hp)

section gains

variable {ps ps' : Parameters} {row : List EffectParameter} (h : ps.Gains row ps')

include h

theorem Gains.alive_of_lt {q : ParameterId} (hq : q.number < ps.made) :
    ps'.alive q = ps.alive q := by
  refine Bool.eq_iff_iff.mpr ⟨fun hold => ?_, fun hold => ?_⟩
  · refine (h.only q hold).resolve_right ?_
    rintro ⟨ep, hep, rfl⟩
    exact Nat.lt_irrefl _ (Nat.lt_of_lt_of_le hq (h.fresh ep hep))
  · obtain ⟨p, hp⟩ := (alive_iff _ _).mp hold
    exact alive_of_get? (h.old q p hp)

theorem Gains.alive_iff (q : ParameterId) :
    ps'.alive q = true ↔ ps.alive q = true ∨ ∃ ep ∈ row, ep.id = q := by
  refine ⟨h.only q, ?_⟩
  rintro (hold | ⟨ep, hep, rfl⟩)
  · obtain ⟨p, hp⟩ := (Parameters.alive_iff _ _).mp hold
    exact alive_of_get? (h.old q p hp)
  · obtain ⟨p, hp, _⟩ := h.own ep hep
    exact alive_of_get? hp

/-- A parameter keeps its attachments, and its new followers come behind them. -/
theorem Gains.attachments (hps : ps.WellAttached) {q : ParameterId} {p : Parameter}
    (hp : ps.get? q = some p) :
    ps'.attachments q = ps.attachments q ++ ps.followers row q := by
  have hkept : p.attached.filter ps'.alive = p.attached.filter ps.alive :=
    List.filter_congr fun b hb => h.alive_of_lt (hps.attached_lt q p hp b hb)
  have hnew : (ps.followers row q).filter ps'.alive = ps.followers row q :=
    List.filter_eq_self.mpr fun id hid => by
      obtain ⟨ep, hep, _, rfl⟩ := (ps.mem_followers_iff _ _ _).mp hid
      exact (h.alive_iff ep.id).mpr (Or.inr ⟨ep, hep, rfl⟩)
  rw [attachments_eq (h.old q p hp), attachments_eq hp]
  unfold joined
  split_ifs with hnone
  · rw [hkept, List.isEmpty_iff.mp hnone, List.append_nil]
  · have hagain : (p.attached.filter ps.alive).filter ps'.alive = p.attached.filter ps.alive := by
      rw [← hkept, List.filter_filter]
      simp
    rw [List.filter_append, hnew, hagain]

end gains

end Parameters

/-! ## Techniques and targets -/

/-- The name and the annotations of a pass. -/
def Pass.declared (pass : Pass) : String × List Directive := (pass.name, pass.directives)

/-- The name and the annotations of a technique, and those of its passes. -/
def Technique.declared (t : Technique) :
    String × List Directive × List (String × List Directive) :=
  (t.name, t.directives, t.passes.map (·.declared))

namespace Engine

variable {D : Type}

/-- Only the device and the journal changed. -/
def Tries (e e' : Engine D) : Prop := ∃ device notices, e' = (e.withDevice device).note notices

theorem Tries.refl (e : Engine D) : e.Tries e := ⟨e.device, [], (e.withDevice e.device).note_nil.symm⟩

theorem Tries.trans {e₁ e₂ e₃ : Engine D} (h₁ : e₁.Tries e₂) (h₂ : e₂.Tries e₃) : e₁.Tries e₃ := by
  obtain ⟨device, notices, rfl⟩ := h₁
  obtain ⟨device', notices', rfl⟩ := h₂
  exact ⟨device', notices ++ notices', by simp [note, withDevice, Renderer.note]⟩

theorem tries_note (e : Engine D) (notices : List Notice) : e.Tries (e.note notices) :=
  ⟨e.device, notices, rfl⟩

theorem tries_withDevice (e : Engine D) (device : D) : e.Tries (e.withDevice device) :=
  ⟨device, [], (note_nil _).symm⟩

theorem Tries.parameters {e e' : Engine D} (h : e.Tries e') : e'.parameters = e.parameters := by
  obtain ⟨device, notices, rfl⟩ := h
  rfl

theorem Tries.textures {e e' : Engine D} (h : e.Tries e') : e'.textures = e.textures := by
  obtain ⟨device, notices, rfl⟩ := h
  rfl

end Engine

namespace Linking

variable {D : Type} [Device D]

theorem validate_tries (l : Linking D) (programs : List Program) :
    l.engine.Tries (l.validate programs).2.engine ∧
      (l.validate programs).2.errors = l.errors := by
  unfold validate
  split_ifs
  · exact ⟨.refl _, rfl⟩
  · cases programs.find? fun p => !Device.supports l.engine.device p.profile with
    | some p => exact ⟨.refl _, rfl⟩
    | none =>
      simp only
      rcases Device.validate l.engine.device programs with ⟨e | _, device⟩ <;>
        exact ⟨Engine.tries_withDevice _ _, rfl⟩

theorem validatePass_tries (effect : String) (l : Linking D) (pass : Pass) :
    l.engine.Tries (validatePass effect l pass).2.engine ∧
      (validatePass effect l pass).2.errors = l.errors := by
  have hvalidate := validate_tries l pass.programs
  unfold validatePass
  rcases hv : l.validate pass.programs with ⟨_ | _, l'⟩ <;> rw [hv] at hvalidate
  · exact ⟨hvalidate.1.trans (Engine.tries_note _ _), hvalidate.2⟩
  · exact hvalidate

theorem validatePasses_tries (effect : String) (l : Linking D) (passes : List Pass) :
    l.engine.Tries (validatePasses effect l passes).2.engine ∧
      (validatePasses effect l passes).2.errors = l.errors := by
  induction passes generalizing l with
  | nil => exact ⟨.refl _, rfl⟩
  | cons pass rest ih =>
    obtain ⟨hfirst, herrors⟩ := validatePass_tries effect l pass
    obtain ⟨hrest, herrors'⟩ := ih (validatePass effect l pass).2
    exact ⟨hfirst.trans hrest, herrors'.trans herrors⟩

theorem validateTechniques_tries (effect : String) (l : Linking D) (techniques : List Technique) :
    l.engine.Tries (validateTechniques effect l techniques).2.engine ∧
      (validateTechniques effect l techniques).2.errors = l.errors := by
  induction techniques generalizing l with
  | nil => exact ⟨.refl _, rfl⟩
  | cons t rest ih =>
    have hfirst : l.engine.Tries (validateTechnique effect l t).2.engine ∧
        (validateTechnique effect l t).2.errors = l.errors := by
      obtain ⟨hpasses, herrors⟩ := validatePasses_tries effect l t.passes
      unfold validateTechnique
      simp only
      split_ifs
      · exact ⟨hpasses, herrors⟩
      · exact ⟨hpasses.trans (Engine.tries_note _ _), herrors⟩
    obtain ⟨hrest, herrors⟩ := ih (validateTechnique effect l t).2
    exact ⟨hfirst.1.trans hrest, herrors.trans hfirst.2⟩

/-- What there is to report if no technique can be used. -/
def verdictErrors (effect : String) (techniques : List Technique) : List LinkError :=
  if techniques.any (·.isValid) then [] else [.noValidTechnique effect]

/-- Choosing a technique touches the device alone, and reports if none can be used. -/
theorem choose_tries (l : Linking D) (effect : Effect) :
    l.engine.Tries (l.choose effect).2.engine ∧
      (l.choose effect).2.errors =
        l.errors ++ verdictErrors effect.name (l.choose effect).1.techniques := by
  obtain ⟨htries, herrors⟩ := validateTechniques_tries effect.name l effect.techniques
  unfold choose verdictErrors
  simp only [List.findIdx?_isSome]
  split_ifs with hvalid
  · exact ⟨htries, by simp [herrors]⟩
  · exact ⟨htries.trans (Engine.tries_note _ _), by simp [report, note, herrors]⟩

/-- What is wrong with the annotations of a technique and of its passes. -/
def techniqueErrors (effect : String) (t : Technique) : List LinkError :=
  malformed (effect ++ "/" ++ t.name) t.directives ++
    t.passes.flatMap fun pass =>
      malformed (effect ++ "/" ++ t.name ++ "/" ++ pass.name) pass.directives

omit [Device D] in
theorem foldl_tries {α : Type} {f : Linking D → α → Linking D} {errors : α → List LinkError}
    (hf : ∀ (l : Linking D) (x : α),
      l.engine.Tries (f l x).engine ∧ (f l x).errors = l.errors ++ errors x)
    (l : Linking D) (xs : List α) :
    l.engine.Tries (xs.foldl f l).engine ∧
      (xs.foldl f l).errors = l.errors ++ xs.flatMap errors := by
  induction xs generalizing l with
  | nil => exact ⟨.refl _, by simp⟩
  | cons x rest ih =>
    obtain ⟨hrest, herrors⟩ := ih (f l x)
    refine ⟨(hf l x).1.trans hrest, ?_⟩
    rw [List.foldl_cons, herrors, (hf l x).2, List.append_assoc, List.flatMap_cons]

omit [Device D] in
/-- Finding targets touches nothing, and reports what is wrong with annotations. -/
theorem aim_tries (l : Linking D) (effect : Effect) :
    l.engine.Tries (l.aim effect).2.engine ∧
      (l.aim effect).2.errors =
        l.errors ++ effect.techniques.flatMap (techniqueErrors effect.name) := by
  refine foldl_tries (fun l t => ?_) l effect.techniques
  have hpass (l : Linking D) (pass : Pass) :
      l.engine.Tries (l.reportPass (effect.name ++ "/" ++ t.name) pass).engine ∧
        (l.reportPass (effect.name ++ "/" ++ t.name) pass).errors = l.errors ++
          malformed (effect.name ++ "/" ++ t.name ++ "/" ++ pass.name) pass.directives :=
    ⟨(Engine.tries_note _ _).trans (Engine.tries_note _ _), rfl⟩
  have hpasses := foldl_tries hpass
    (l.reportMalformed (effect.name ++ "/" ++ t.name) t.directives) t.passes
  refine ⟨(Engine.tries_note l.engine _).trans hpasses.1, ?_⟩
  unfold reportTechnique techniqueErrors
  rw [hpasses.2, ← List.append_assoc]
  rfl

/-- Whether passes can be used does not change what the document says of them. -/
theorem declared_validateTechniques (effect : String) (l : Linking D)
    (techniques : List Technique) :
    (validateTechniques effect l techniques).1.map (·.declared) = techniques.map (·.declared) := by
  have hpass : ∀ (l : Linking D) (pass : Pass),
      (validatePass effect l pass).1.declared = pass.declared := by
    intro l pass
    unfold validatePass
    rcases l.validate pass.programs with ⟨_ | _, l'⟩ <;> rfl
  have hpasses : ∀ (passes : List Pass) (l : Linking D),
      (validatePasses effect l passes).1.map (·.declared) = passes.map (·.declared) := by
    intro passes
    induction passes with
    | nil => exact fun _ => rfl
    | cons pass rest ih =>
      intro l
      simp only [validatePasses, List.map_cons, ih, hpass]
  have htechnique : ∀ (l : Linking D) (t : Technique),
      (validateTechnique effect l t).1.declared = t.declared := by
    intro l t
    have hsame : (validateTechnique effect l t).1.name = t.name ∧
        (validateTechnique effect l t).1.directives = t.directives := by
      unfold validateTechnique
      simp only
      split_ifs <;> exact ⟨rfl, rfl⟩
    unfold Technique.declared
    rw [hsame.1, hsame.2, validateTechnique_passes, hpasses]
  induction techniques generalizing l with
  | nil => rfl
  | cons t rest ih => simp only [validateTechniques, List.map_cons, ih, htechnique]

/-- Whether passes can be used does not change what is wrong with their annotations. -/
theorem techniqueErrors_validateTechniques (effect : String) (l : Linking D)
    (techniques : List Technique) :
    (validateTechniques effect l techniques).1.flatMap (techniqueErrors effect) =
      techniques.flatMap (techniqueErrors effect) := by
  -- what is wrong can be told from what the document says
  obtain ⟨told, htold⟩ : ∃ told, ∀ t, techniqueErrors effect t = told t.declared :=
    ⟨fun d => malformed (effect ++ "/" ++ d.1) d.2.1 ++
      d.2.2.flatMap fun pass => malformed (effect ++ "/" ++ d.1 ++ "/" ++ pass.1) pass.2,
      fun t => by simp [techniqueErrors, Technique.declared, Pass.declared, List.flatMap_map]⟩
  have hrow : ∀ row : List Technique, row.flatMap (techniqueErrors effect) =
      (row.map (·.declared)).flatMap told := fun row => by
    rw [List.flatMap_map, funext htold]
  rw [hrow, declared_validateTechniques, ← hrow]

end Linking

/-! ## Linking -/

namespace Engine

variable {D : Type} [Device D] (e : Engine D) (effect : Effect)

/-- Once the samplers of an effect are resolved, linking touches the device and the journal
alone. -/
theorem link_tries :
    ((({ engine := e } : Linking D).linkParameters effect).resolveSamplers effect).engine.Tries
      (e.link effect).2.2 :=
  ((Linking.choose_tries _ effect).1.trans
    (Linking.aim_tries (e.chosen effect).2 (e.chosen effect).1).1).trans (tries_note _ _)

/-- What linking an effect with loose parameters makes of them, and what it reports. -/
theorem link_outcome (hloose : e.parameters.Loose effect.parameters)
    (hregistered : e.parameters.Registered) :
    ∃ mid faults, e.parameters.Joins effect.parameters mid ∧
      mid.Fills effect.parameters (e.link effect).2.2.parameters ∧
      (e.link effect).2.1 =
        effect.parameters.flatMap (Linking.parameterErrors e.parameters) ++ faults ++
          Linking.verdictErrors effect.name (e.link effect).1.techniques ++
          effect.techniques.flatMap (Linking.techniqueErrors effect.name) ∧
      (∀ fault ∈ faults, fault.kind = .texture) ∧
      faults.length = effect.parameters.countP fun ep =>
        (e.link effect).2.2.parameters.Lacks ep := by
  obtain ⟨hjoins, _, herrors₁⟩ :=
    Linking.linkParameters_joins { engine := e } effect hloose hregistered
  obtain ⟨hfills, faults, herrors₂, hkind, hlength⟩ :=
    Linking.resolveSamplers_fills _ effect (hloose.toLeaves.joins hjoins)
  obtain ⟨_, herrors₃⟩ := Linking.choose_tries
    ((({ engine := e } : Linking D).linkParameters effect).resolveSamplers effect) effect
  obtain ⟨_, herrors₄⟩ := Linking.aim_tries (e.chosen effect).2 (e.chosen effect).1
  have hparameters := (e.link_tries effect).parameters
  rw [hparameters]
  refine ⟨_, faults, hjoins, hfills, ?_, hkind, hlength⟩
  change ((e.chosen effect).2.aim (e.chosen effect).1).2.errors = _
  have hname : (e.chosen effect).1.name = effect.name := by rw [chosen, Linking.choose_fst]
  have htechniques : (e.chosen effect).1.techniques.flatMap (Linking.techniqueErrors effect.name) =
      effect.techniques.flatMap (Linking.techniqueErrors effect.name) := by
    rw [chosen, Linking.choose_fst]
    exact Linking.techniqueErrors_validateTechniques _ _ _
  -- where a technique ends does not change whether it can be used
  have hverdict : Linking.verdictErrors effect.name (e.link effect).1.techniques =
      Linking.verdictErrors effect.name (e.chosen effect).1.techniques := by
    rw [link_fst, Linking.verdictErrors, Linking.verdictErrors, List.any_map]
    rfl
  rw [herrors₄, hname, htechniques, hverdict]
  change ((((({ engine := e } : Linking D).linkParameters effect).resolveSamplers effect).choose
    effect).2.errors ++ _) = _
  rw [herrors₃, herrors₂, herrors₁]
  rfl

/-- The engine in which a compiled effect is linked. -/
def entered (notices : List Notice) (draft : EffectDraft) : Engine D :=
  { e.note notices with parameters := (draft.install e.parameters).2 }

/-- Linking a new effect lets virtual parameters gain followers, and brings the parameters
of the effect. -/
theorem link_gains {compiler : Compiler} {d : EffectDescription} {draft : EffectDraft}
    (hcompile : EffectDraft.compile compiler d = .ok draft) (h : e.parameters.Settled)
    (notices : List Notice) :
    e.parameters.Gains (draft.install e.parameters).1.parameters
      ((e.entered notices draft).link (draft.install e.parameters).1).2.2.parameters := by
  have henters := EffectDraft.enters_install hcompile e.parameters
  have hsettled : (draft.install e.parameters).2.Settled :=
    (EffectDraft.turns_install hcompile e.parameters).settled h
  obtain ⟨_, _, hjoins, hfills, _⟩ := (e.entered notices draft).link_outcome
    (draft.install e.parameters).1 (henters.loose h) hsettled.registered
  exact Parameters.gains_of_joins h henters hjoins hfills

/-- An effect that compiles is linked and put behind the others. -/
theorem load_of_compile (name : String) {text : String} {d : EffectDescription}
    {draft : EffectDraft} (hparse : EffectDescription.ofText text = .ok d)
    (hcompile : EffectDraft.compile e.compiler d = .ok draft) :
    let x := (e.entered (EffectDraft.notices e.compiler d) draft).link
      (draft.install e.parameters).1
    e.load name text = (.ok ((x.2.2.insert x.1).1, x.2.1), (x.2.2.insert x.1).2) := by
  have hcompiler : (e.note (EffectDraft.notices e.compiler d)).compiler = e.compiler := rfl
  unfold load prepare
  simp only [hparse, hcompiler, hcompile]
  rfl

/-- Loading changes nothing but the journal, or it compiles an effect, links it and puts it
behind the others. -/
theorem load_outcome (name text : String) :
    (∃ error notices, e.load name text = (.error error, e.note notices)) ∨
      ∃ description draft notices linked errors after,
        EffectDescription.ofText text = .ok description ∧
        EffectDraft.compile e.compiler description = .ok draft ∧
        (e.entered notices draft).link (draft.install e.parameters).1 = (linked, errors, after) ∧
        e.load name text = (.ok ((after.insert linked).1, errors), (after.insert linked).2) := by
  cases hparse : EffectDescription.ofText text with
  | error fault =>
    refine Or.inl ⟨.malformed name fault, [], ?_⟩
    simp only [load, prepare, hparse, note_nil]
  | ok description =>
    cases hcompile : EffectDraft.compile e.compiler description with
    | error fault =>
      refine Or.inl ⟨fault, EffectDraft.notices e.compiler description, ?_⟩
      simp only [load, prepare, hparse, note, hcompile]
    | ok draft =>
      exact Or.inr ⟨description, draft, EffectDraft.notices e.compiler description, _, _, _,
        rfl, hcompile, rfl, e.load_of_compile name hparse hcompile⟩

/-- Loading changes nothing but the journal, or a new effect is linked step by step, its
parameters come in addition, and it is put behind the others. -/
theorem load_gains (h : e.parameters.Settled) (name text : String) :
    (∃ error notices, e.load name text = (.error error, e.note notices)) ∨
      ∃ notices draft linked errors after, (e.entered notices draft).Steps after ∧
        e.parameters.Gains linked.parameters after.parameters ∧
        e.load name text = (.ok ((after.insert linked).1, errors), (after.insert linked).2) := by
  refine (e.load_outcome name text).imp_right ?_
  rintro ⟨d, draft, notices, linked, errors, after, _, hcompile, hlink, heq⟩
  have hgains := e.link_gains hcompile h notices
  have hsteps := link_steps (e.entered notices draft) (draft.install e.parameters).1
  have hparameters := link_parameters (e.entered notices draft) (draft.install e.parameters).1
  rw [hlink] at hgains hsteps hparameters
  rw [← hparameters] at hgains
  exact ⟨notices, draft, linked, errors, after, hsteps, hgains, heq⟩

end Engine

end ShaderEffects
