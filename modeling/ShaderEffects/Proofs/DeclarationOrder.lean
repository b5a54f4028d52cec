import ShaderEffects.Proofs.BroughtTextures

/-!
# Parameters in another order

An effect whose document declares its parameters in another order compiles as well. When it is
linked, its samplers find textures of the same names, but for those that depend on a blank one
that another sampler of the effect brings: these find it if that sampler is declared before them.
-/
namespace ShaderEffects

/-! ## Compiling -/

/-- If each computation of a row succeeds wherever another one does, the row does. -/
theorem exists_mapM_eq_ok {α β γ ε : Type} {f : α → Except ε β} {g : α → Except ε γ}
    (hg : ∀ x y, f x = .ok y → ∃ z, g x = .ok z) {xs : List α} {ys : List β}
    (h : xs.mapM f = .ok ys) : ∃ zs, xs.mapM g = .ok zs := by
  have hrow := mapM_eq_ok_iff.mp h
  clear h
  induction hrow with
  | nil => exact ⟨[], rfl⟩
  | cons hfirst _ ih =>
    obtain ⟨z, hz⟩ := hg _ _ hfirst
    obtain ⟨zs, hzs⟩ := ih
    exact ⟨z :: zs, mapM_eq_ok_iff.mpr (.cons hz (mapM_eq_ok_iff.mp hzs))⟩

/-- A row of computations in another order has the same results in another order. -/
theorem exists_mapM_perm {α β ε : Type} {f : α → Except ε β} {xs xs' : List α} {ys : List β}
    (hperm : xs'.Perm xs) (h : xs.mapM f = .ok ys) :
    ∃ ys', xs'.mapM f = .ok ys' ∧ ys'.Perm ys := by
  obtain ⟨ys', hrow, hys⟩ := List.perm_comp_forall₂ hperm (mapM_eq_ok_iff.mp h)
  exact ⟨ys', mapM_eq_ok_iff.mpr hrow, hys⟩

namespace EffectDraft

theorem exists_compilePass {compiler : Compiler} {effect technique : String}
    {ds : List Declaration} {d : PassDescription} {pass : Pass}
    (h : compilePass compiler effect technique ds d = .ok pass) (ds' : List Declaration) :
    ∃ pass', compilePass compiler effect technique ds' d = .ok pass' := by
  have hstage : ∀ x program, compileStage compiler effect technique d.name ds x = .ok program →
      ∃ program', compileStage compiler effect technique d.name ds' x = .ok program' :=
    fun _ _ hx => ⟨_, compileStage_eq_ok_iff.mpr ((compileStage_eq_ok_iff.mp hx).relaid ds')⟩
  obtain ⟨programs, hprograms⟩ := exists_mapM_eq_ok hstage (compilePass_mapM h)
  exact ⟨_, compilePass_eq_ok_iff.mpr ⟨programs, hprograms, rfl⟩⟩

theorem exists_compileTechnique {compiler : Compiler} {effect : String}
    {ds : List Declaration} {d : TechniqueDescription} {t : Technique}
    (h : compileTechnique compiler effect ds d = .ok t) (ds' : List Declaration) :
    ∃ t', compileTechnique compiler effect ds' d = .ok t' := by
  obtain ⟨passes, hpasses, _⟩ := compileTechnique_eq_ok_iff.mp h
  obtain ⟨passes', hpasses'⟩ :=
    exists_mapM_eq_ok (fun _ _ hpass => exists_compilePass hpass ds') hpasses
  exact ⟨_, compileTechnique_eq_ok_iff.mpr ⟨passes', hpasses', rfl⟩⟩

/-- Parameters of different names are all kept. -/
theorem firstOfEach_eq_self {seen : List String} {parameters : List TypedParameter}
    (hnodup : (parameters.map (·.description.name)).Nodup)
    (hnew : ∀ p ∈ parameters, p.description.name ∉ seen) :
    firstOfEach seen parameters = parameters := by
  induction parameters generalizing seen with
  | nil => rfl
  | cons p rest ih =>
    rw [List.map_cons, List.nodup_cons] at hnodup
    rw [firstOfEach, if_neg (hnew p List.mem_cons_self), ih hnodup.2 fun q hq hmem => ?_]
    rcases List.mem_cons.mp hmem with heq | hseen
    · exact hnodup.1 (heq ▸ List.mem_map_of_mem hq)
    · exact hnew q (List.mem_cons_of_mem p hq) hseen

/-- A document whose parameters differ in their names compiles in any order of them, to the
same parameters in another order. -/
theorem exists_compile_perm {compiler : Compiler} {d : EffectDescription} {draft : EffectDraft}
    (hcompile : compile compiler d = .ok draft) (hdistinct : (d.parameters.map (·.name)).Nodup)
    {row : List ParameterDescription} (hperm : row.Perm d.parameters) :
    ∃ draft', compile compiler { d with parameters := row } = .ok draft' ∧
      draft'.parameters.Perm draft.parameters := by
  obtain ⟨parameters, techniques, htyped, htechniques, rfl⟩ := compile_eq_ok_iff.mp hcompile
  obtain ⟨parameters', htyped', hsame⟩ := exists_mapM_perm hperm htyped
  have hnames : (parameters.map (·.description.name)).Nodup := by
    rw [map_of_mapM_eq_ok (g := (·.name)) (fun _ _ h => by rw [(typed_eq_ok_iff.mp h).1])
      htyped]
    exact hdistinct
  have hnames' : (parameters'.map (·.description.name)).Nodup :=
    ((hsame.map _).nodup_iff).mpr hnames
  have hkept := firstOfEach_eq_self hnames fun _ _ => List.not_mem_nil
  have hkept' := firstOfEach_eq_self hnames' fun _ _ => List.not_mem_nil
  rw [hkept] at htechniques
  obtain ⟨techniques', htechniques'⟩ := exists_mapM_eq_ok
    (fun _ _ h => exists_compileTechnique h (declarations parameters')) htechniques
  rw [← hkept'] at htechniques'
  refine ⟨_, compile_eq_ok_iff.mpr ⟨parameters', techniques', htyped', htechniques', rfl⟩, ?_⟩
  rw [hkept, hkept']
  exact hsame.map _

end EffectDraft

/-! ## Parameters that come to life in another order -/

/-- The same parameter of an effect, perhaps under another number. -/
structure EffectParameter.Alike (ep ep' : EffectParameter) : Prop where
  name : ep'.name = ep.name
  type : ep'.type = ep.type
  directives : ep'.directives = ep.directives

theorem EffectParameter.Alike.symm {ep ep' : EffectParameter} (h : ep.Alike ep') : ep'.Alike ep :=
  ⟨h.name.symm, h.type.symm, h.directives.symm⟩

namespace EffectDraft

variable {draft draft' : EffectDraft} (hperm : draft'.parameters.Perm draft.parameters)

include hperm

/-- Each parameter comes to life in any order. -/
theorem exists_alike (ps : Parameters) :
    ∀ ep ∈ (draft.install ps).1.parameters, ∃ ep' ∈ (draft'.install ps).1.parameters,
      ep.Alike ep' := by
  obtain ⟨_, _, _, hrow, _⟩ := settle_cells ps draft.parameters
  obtain ⟨_, _, _, hrow', _⟩ := settle_cells ps draft'.parameters
  intro ep hep
  obtain ⟨p, hp, hreal⟩ := exists_of_forall₂ hrow hep
  obtain ⟨ep', hep', hreal'⟩ := exists_of_forall₂ hrow'.flip (hperm.mem_iff.mpr hp)
  exact ⟨ep', hep', hreal'.name.trans hreal.name.symm, hreal'.type.trans hreal.type.symm,
    hreal'.directives.trans hreal.directives.symm⟩

/-- Where names differ, parameters of one name are the same. -/
theorem alike_of_name (hnames : (draft.parameters.map (·.cell.name)).Nodup) {ps : Parameters}
    {ep ep' : EffectParameter} (hep : ep ∈ (draft.install ps).1.parameters)
    (hep' : ep' ∈ (draft'.install ps).1.parameters) (hname : ep'.name = ep.name) :
    ep.Alike ep' := by
  obtain ⟨_, _, _, hrow, _⟩ := settle_cells ps draft.parameters
  obtain ⟨_, _, _, hrow', _⟩ := settle_cells ps draft'.parameters
  obtain ⟨p, hp, hreal⟩ := exists_of_forall₂ hrow hep
  obtain ⟨p', hp', hreal'⟩ := exists_of_forall₂ hrow' hep'
  have hcells : p'.cell.name = p.cell.name :=
    hreal'.name.symm.trans (hname.trans hreal.name)
  obtain rfl := List.inj_on_of_nodup_map hnames (hperm.mem_iff.mp hp') hp hcells
  exact ⟨hname, hreal'.type.trans hreal.type.symm, hreal'.directives.trans hreal.directives.symm⟩

/-- The parameters have the same names, in another order. -/
theorem names_perm (ps : Parameters) :
    ((draft'.install ps).1.parameters.map (·.name)).Perm
      ((draft.install ps).1.parameters.map (·.name)) := by
  have hnames : ∀ drafts ps, (settle ps drafts).1.map (·.name) = drafts.map (·.cell.name) := by
    intro drafts
    induction drafts with
    | nil => exact fun _ => rfl
    | cons d rest ih =>
      intro ps
      simp only [settle, List.map_cons, ih]
  change ((settle ps draft'.parameters).1.map (·.name)).Perm
    ((settle ps draft.parameters).1.map (·.name))
  rw [hnames, hnames]
  exact hperm.map _

end EffectDraft

/-! ## What depends on the order -/

namespace Engine

/-- A sampler of a new effect that can only find a texture which another one brings. Its name is
neither registered nor that of an image file that can be loaded, and its own annotations do not
describe a blank target. -/
structure Waits (base : Engine HeadlessDevice) (row : List EffectParameter) (ep : EffectParameter)
    (name : String) : Prop where
  seeks : ∃ blank, base.Seeks ep name blank
  missing : ¬ base.Finds name
  unable : ¬ base.Brings ep name
  brought : ∃ other ∈ row, base.Brings other name

/-- What the order of its parameters means to a new effect once it is linked. A sampler that
waits for a texture has it if one before it brings it. No other sampler is left without a
texture of the name it asks for if there is one. -/
structure Ordered (base after : Engine HeadlessDevice) (row : List EffectParameter) : Prop where
  placed : ∀ earlier ep later name, row = earlier ++ ep :: later → base.Waits row ep name →
    ((∃ other ∈ earlier, base.Brings other name) → after.textureName? ep = some name) ∧
      ((∀ other ∈ earlier, ¬ base.Brings other name) → after.texture? ep = none)
  bare : ∀ ep ∈ row, ∀ name blank, ep.type.category = .sampler →
    Directive.texture? ep.directives = some (name, blank) →
      (after.texture? ep = none ∧ after.textures.contains name = true ↔
        base.Waits row ep name ∧ ∃ earlier later, row = earlier ++ ep :: later ∧
          ∀ other ∈ earlier, ¬ base.Brings other name)

/-- A parameter holds a texture of the same name, or none, in both engines. Or it was handed a
handle without a texture, and holds this handle in both; or it waits for a texture. -/
def SameTexture (base one other : Engine HeadlessDevice) (row : List EffectParameter)
    (ep ep' : EffectParameter) : Prop :=
  other.textureName? ep' = one.textureName? ep ∨
    (∃ texture, base.parameters.handed ep = some texture ∧ base.textures.get? texture = none ∧
      one.texture? ep = some texture ∧ other.texture? ep' = some texture) ∨
    ∃ name, base.Waits row ep name

/-- What linking a new effect comes to if its parameters are declared in one order or in
another. Which samplers wait for a texture does not depend on the order. -/
structure Reordered (base one other : Engine HeadlessDevice) (row row' : List EffectParameter) :
    Prop where
  names : (row'.map (·.name)).Perm (row.map (·.name))
  alike : ∀ ep ∈ row, ∀ ep' ∈ row', ep'.name = ep.name → ep.Alike ep'
  waits : ∀ ep ∈ row, ∀ ep' ∈ row', ep'.name = ep.name → ∀ name,
    (base.Waits row' ep' name ↔ base.Waits row ep name)
  same : ∀ ep ∈ row, ∀ ep' ∈ row', ep'.name = ep.name → base.SameTexture one other row ep ep'
  ordered : base.Ordered one row
  ordered' : base.Ordered other row'

variable {base one other after : Engine HeadlessDevice} {ep ep' : EffectParameter}
  {row earlier earlier' : List EffectParameter}

theorem handed_alike (ps : Parameters) (halike : ep.Alike ep') : ps.handed ep' = ps.handed ep := by
  unfold Parameters.handed Parameters.followed?
  rw [halike.directives, halike.type]

theorem Seeks.alike {name : String} {blank : BlankTarget} (h : base.Seeks ep name blank)
    (halike : ep.Alike ep') : base.Seeks ep' name blank where
  sampler := halike.type ▸ h.sampler
  asks := halike.directives ▸ h.asks
  handed := (handed_alike base.parameters halike).trans h.handed

theorem Brings.alike {name : String} (h : base.Brings ep name) (halike : ep.Alike ep') :
    base.Brings ep' name := by
  obtain ⟨blank, hseeks, hpaints⟩ := h
  exact ⟨blank, hseeks.alike halike, hpaints⟩

/-- A sampler waits in any row in which another one brings what it seeks. -/
theorem Waits.alike {row' : List EffectParameter} {name : String} (h : base.Waits row ep name)
    (halike : ep.Alike ep') (hrow : ∀ o ∈ row, ∃ o' ∈ row', o.Alike o') :
    base.Waits row' ep' name where
  seeks := h.seeks.imp fun _ hseeks => hseeks.alike halike
  missing := h.missing
  unable hbrings := h.unable (hbrings.alike halike.symm)
  brought := by
    obtain ⟨other, hother, hbrings⟩ := h.brought
    obtain ⟨other', hother', hsame⟩ := hrow other hother
    exact ⟨other', hother', hbrings.alike hsame⟩

/-- A sampler that waits is reached by nothing but what comes before it. -/
theorem Waits.reaches_iff {name : String} (h : base.Waits row ep name) :
    base.Reaches (earlier ++ [ep]) name ↔ ∃ other ∈ earlier, base.Brings other name := by
  unfold Reaches
  simp [h.missing, h.unable]

/-- A sampler to which the order makes a difference waits. -/
theorem waits_of_reaches {name : String} {blank : BlankTarget} (hseeks : base.Seeks ep name blank)
    (halike : ep.Alike ep') (hrow : ∀ o ∈ earlier ++ [ep], o ∈ row)
    (hrow' : ∀ o ∈ earlier' ++ [ep'], ∃ o' ∈ row, o.Alike o')
    (hdiffer : ¬ (base.Reaches (earlier ++ [ep]) name ↔ base.Reaches (earlier' ++ [ep']) name)) :
    base.Waits row ep name where
  seeks := ⟨blank, hseeks⟩
  missing := fun hfinds => hdiffer ⟨fun _ => Or.inl hfinds, fun _ => Or.inl hfinds⟩
  unable := fun hbrings => hdiffer
    ⟨fun _ => Or.inr ⟨ep', by simp, hbrings.alike halike⟩, fun _ => Or.inr ⟨ep, by simp, hbrings⟩⟩
  brought := by
    by_contra hnone
    refine hdiffer ⟨fun hreaches => ?_, fun hreaches => ?_⟩
    · refine Or.inl (hreaches.resolve_right ?_)
      rintro ⟨o, ho, hbrings⟩
      exact hnone ⟨o, hrow o ho, hbrings⟩
    · refine Or.inl (hreaches.resolve_right ?_)
      rintro ⟨o, ho, hbrings⟩
      obtain ⟨o', ho', halike'⟩ := hrow' o ho
      exact hnone ⟨o', ho', hbrings.alike halike'⟩

section settles

variable {there there' : String → Prop} {name : String} {blank : BlankTarget}

/-- A sampler that finds the texture it asks for holds one of this name. -/
theorem Settles.textureName?_of (h : base.Settles after there ep)
    (hcoherent : after.textures.Coherent) (hseeks : base.Seeks ep name blank)
    (hthere : there name) : after.textureName? ep = some name := by
  obtain ⟨texture, hfind, hheld⟩ := h.found name blank hseeks hthere
  unfold textureName?
  rw [hheld]
  exact hcoherent.name_of_find? hfind

theorem Settles.textureName?_of_not (h : base.Settles after there ep)
    (hseeks : base.Seeks ep name blank) (hmissing : ¬ there name) :
    after.textureName? ep = none := by
  unfold textureName?
  rw [h.missed name blank hseeks hmissing]
  rfl

/-- A sampler holds a texture of the same name in two engines if its name leads to one in both
or in none. -/
theorem Settles.textureName?_eq (h : base.Settles one there ep) (h' : base.Settles other there' ep')
    (halike : ep.Alike ep') (hcoherent : one.textures.Coherent)
    (hcoherent' : other.textures.Coherent) (hseeks : base.Seeks ep name blank)
    (hsame : there name ↔ there' name) : other.textureName? ep' = one.textureName? ep := by
  have hseeks' := hseeks.alike halike
  by_cases hthere : there name
  · rw [h.textureName?_of hcoherent hseeks hthere,
      h'.textureName?_of hcoherent' hseeks' (hsame.mp hthere)]
  · rw [h.textureName?_of_not hseeks hthere,
      h'.textureName?_of_not hseeks' fun hthere' => hthere (hsame.mpr hthere')]

/-- A parameter that seeks no texture holds what it is handed in both engines. -/
theorem Settles.sameTexture_of_not (h : base.Settles one there ep)
    (h' : base.Settles other there' ep') (halike : ep.Alike ep')
    (hgrows : base.textures.Grows one.textures) (hgrows' : base.textures.Grows other.textures)
    (hnot : ∀ name blank, ¬ base.Seeks ep name blank) (row : List EffectParameter) :
    base.SameTexture one other row ep ep' := by
  have hheld := h.kept hnot
  have hheld' := (h'.kept fun name blank hasked => hnot name blank (hasked.alike halike.symm)).trans
    (handed_alike base.parameters halike)
  cases hhanded : base.parameters.handed ep with
  | none =>
    refine Or.inl ?_
    rw [textureName?, textureName?, hheld, hheld', hhanded]
    rfl
  | some texture =>
    cases hget : base.textures.get? texture with
    | none => exact Or.inr (Or.inl ⟨texture, hhanded, hget, hheld.trans hhanded,
        hheld'.trans hhanded⟩)
    | some known =>
      refine Or.inl ?_
      rw [textureName?, textureName?, hheld, hheld', hhanded, Option.bind_some, Option.bind_some,
        TextureRegistry.name?, TextureRegistry.name?, hgrows.get? hget, hgrows'.get? hget]

end settles

/-! ## Linking -/

section link

variable (hbase : base.parameters.Settled) (hcoherent : base.textures.Coherent)
  {compiler : Compiler} {d : EffectDescription} {draft : EffectDraft}
  (hcompile : EffectDraft.compile compiler d = .ok draft) (notices : List Notice)

include hbase hcoherent hcompile

/-- A new effect that is linked is as the order of its parameters has it. -/
theorem link_ordered :
    base.Ordered ((base.entered notices draft).link (draft.install base.parameters).1).2.2
      (draft.install base.parameters).1.parameters := by
  obtain ⟨hreached, hsettles⟩ := link_settles hbase hcompile notices
  have hlinked := ((base.entered notices draft).link_steps
    (draft.install base.parameters).1).textures_keep
      (fun hr hc => TextureRegistry.Coherent.register hc hr) hcoherent
  generalize ((base.entered notices draft).link (draft.install base.parameters).1).2.2 = after at *
  generalize (draft.install base.parameters).1.parameters = row at *
  refine ⟨fun earlier ep later name hrow hwaits => ?_,
    fun ep hep name blank hsampler hasks => ⟨?_, ?_⟩⟩
  · obtain ⟨blank, hseeks⟩ := hwaits.seeks
    have hsettled := hsettles earlier ep later hrow
    refine ⟨fun hbrought => hsettled.textureName?_of hlinked hseeks (hwaits.reaches_iff.mpr hbrought),
      fun hnone => hsettled.missed name blank hseeks fun hreaches => ?_⟩
    obtain ⟨other, hother, hbrings⟩ := hwaits.reaches_iff.mp hreaches
    exact hnone other hother hbrings
  · rintro ⟨hheld, hcontains⟩
    obtain ⟨earlier, later, hrow⟩ := List.append_of_mem hep
    have hsettled := hsettles earlier ep later hrow
    have hseeks : base.Seeks ep name blank := by
      by_contra hnot
      have hkept := hsettled.kept fun other blank' hother => hnot
        ⟨hsampler, hasks, hother.handed⟩
      exact hnot ⟨hsampler, hasks, hkept.symm.trans hheld⟩
    have hmissing : ¬ base.Reaches (earlier ++ [ep]) name := by
      intro hreaches
      obtain ⟨_, _, hsome⟩ := hsettled.found name blank hseeks hreaches
      rw [hheld] at hsome
      cases hsome
    obtain ⟨hnotFound, hnotBrought⟩ := not_or.mp hmissing
    have hbrought := ((hreached name).mp (Or.inl hcontains)).resolve_left hnotFound
    refine ⟨⟨⟨blank, hseeks⟩, hnotFound, fun hbrings => ?_, hbrought⟩, earlier, later, hrow,
      fun other hother hbrings => ?_⟩
    · exact hnotBrought ⟨ep, by simp, hbrings⟩
    · exact hnotBrought ⟨other, by simp [hother], hbrings⟩
  · rintro ⟨hwaits, earlier, later, hrow, hnone⟩
    obtain ⟨blank', hseeks⟩ := hwaits.seeks
    refine ⟨(hsettles earlier ep later hrow).missed name blank' hseeks fun hreaches => ?_, ?_⟩
    · obtain ⟨other, hother, hbrings⟩ := hwaits.reaches_iff.mp hreaches
      exact hnone other hother hbrings
    · exact ((hreached name).mpr (Or.inr hwaits.brought)).resolve_right fun hloads =>
        hwaits.missing (Or.inr hloads)

/-- Where the parameters of a new effect come in another order, each holds the same but for what
waits. -/
theorem link_sameTexture {compiler' : Compiler} {d' : EffectDescription} {draft' : EffectDraft}
    (hcompile' : EffectDraft.compile compiler' d' = .ok draft')
    (hperm : draft'.parameters.Perm draft.parameters) (notices' : List Notice)
    {ep ep' : EffectParameter} (hep : ep ∈ (draft.install base.parameters).1.parameters)
    (hep' : ep' ∈ (draft'.install base.parameters).1.parameters) (halike : ep.Alike ep') :
    base.SameTexture ((base.entered notices draft).link (draft.install base.parameters).1).2.2
      ((base.entered notices' draft').link (draft'.install base.parameters).1).2.2
      (draft.install base.parameters).1.parameters ep ep' := by
  obtain ⟨_, hsettles⟩ := link_settles hbase hcompile notices
  obtain ⟨_, hsettles'⟩ := link_settles hbase hcompile' notices'
  have hsteps := (base.entered notices draft).link_steps (draft.install base.parameters).1
  have hsteps' := (base.entered notices' draft').link_steps (draft'.install base.parameters).1
  have hkept := hsteps.textures_keep (fun hr hc => TextureRegistry.Coherent.register hc hr)
    hcoherent
  have hkept' := hsteps'.textures_keep (fun hr hc => TextureRegistry.Coherent.register hc hr)
    hcoherent
  obtain ⟨earlier, later, hrow⟩ := List.append_of_mem hep
  obtain ⟨earlier', later', hrow'⟩ := List.append_of_mem hep'
  have hsettled := hsettles earlier ep later hrow
  have hsettled' := hsettles' earlier' ep' later' hrow'
  by_cases hseeks : ∃ name blank, base.Seeks ep name blank
  · obtain ⟨name, blank, hseeks⟩ := hseeks
    by_cases hsame : base.Reaches (earlier ++ [ep]) name ↔ base.Reaches (earlier' ++ [ep']) name
    · exact Or.inl (hsettled.textureName?_eq hsettled' halike hkept hkept' hseeks hsame)
    · refine Or.inr (Or.inr ⟨name, waits_of_reaches hseeks halike (fun o ho => ?_) (fun o ho => ?_)
        hsame⟩)
      · rw [hrow, List.append_cons]
        exact List.mem_append_left later ho
      · refine EffectDraft.exists_alike hperm.symm base.parameters o ?_
        rw [hrow', List.append_cons]
        exact List.mem_append_left later' ho
  · exact hsettled.sameTexture_of_not hsettled' halike hsteps.grows hsteps'.grows
      (fun name blank hasked => hseeks ⟨name, blank, hasked⟩) _

end link

end Engine

namespace Host

variable {A : Type}

/-- Whatever a host did before, a document whose parameters differ in their names compiles in any
order of them, and once it is linked each parameter holds a texture of the same name, or none, in
both orders. Only a sampler that waits for a texture has it or not according to whether one that
brings it is declared before it, and one that is handed a handle without a texture holds this
very handle in both. No other sampler is left without the texture it asks for if there is one. -/
theorem samplers_reordered {device : HeadlessDevice} {settings : Settings} {compiler : Compiler}
    {now : Int} {session : Session HeadlessDevice} {engine : Engine HeadlessDevice}
    (hcreate : Session.create device settings compiler now = (.ok session, engine))
    (act : A → HeadlessDevice → HeadlessDevice) (ops : List (HookOp HeadlessDevice A))
    {host : Host HeadlessDevice}
    (hrun : ({ session } : Host HeadlessDevice).runHooks act ops = host)
    {d : EffectDescription} {draft : EffectDraft}
    (hcompile : EffectDraft.compile host.engine.compiler d = .ok draft)
    (hdistinct : (d.parameters.map (·.name)).Nodup)
    {row : List ParameterDescription} (hperm : row.Perm d.parameters)
    (notices notices' : List Notice) :
    ∃ draft', EffectDraft.compile host.engine.compiler { d with parameters := row } = .ok draft' ∧
      ∀ linked errors one linked' errors' other,
        (host.engine.entered notices draft).link (draft.install host.engine.parameters).1 =
          (linked, errors, one) →
        (host.engine.entered notices' draft').link (draft'.install host.engine.parameters).1 =
          (linked', errors', other) →
        host.engine.Reordered one other linked.parameters linked'.parameters := by
  have hsettled := (runHooks_settled hcreate act ops).1
  have hcoherent := (runHooks_staged hcreate act ops).1
  rw [hrun] at hsettled hcoherent
  obtain ⟨draft', hcompile', hdrafts⟩ :=
    EffectDraft.exists_compile_perm hcompile hdistinct hperm
  refine ⟨draft', hcompile', fun linked errors one linked' errors' other hlink hlink' => ?_⟩
  have hnames := (EffectDraft.compile_spec hcompile).1
  have hrow := Engine.link_parameters (host.engine.entered notices draft)
    (draft.install host.engine.parameters).1
  have hrow' := Engine.link_parameters (host.engine.entered notices' draft')
    (draft'.install host.engine.parameters).1
  have hordered := Engine.link_ordered hsettled hcoherent hcompile notices
  have hordered' := Engine.link_ordered hsettled hcoherent hcompile' notices'
  have hsame : ∀ ep ∈ (draft.install host.engine.parameters).1.parameters,
      ∀ ep' ∈ (draft'.install host.engine.parameters).1.parameters, ep.Alike ep' → _ :=
    fun ep hep ep' hep' => Engine.link_sameTexture hsettled hcoherent hcompile notices hcompile'
      hdrafts notices' hep hep'
  rw [hlink] at hrow hordered hsame
  rw [hlink'] at hrow' hordered' hsame
  simp only at hrow hrow' hordered hordered' hsame
  rw [hrow, hrow']
  have halike : ∀ ep ∈ (draft.install host.engine.parameters).1.parameters,
      ∀ ep' ∈ (draft'.install host.engine.parameters).1.parameters, ep'.name = ep.name →
        ep.Alike ep' := fun ep hep ep' hep' =>
    EffectDraft.alike_of_name hdrafts hnames hep hep'
  have hwaits : ∀ ep ep', ep.Alike ep' → ∀ name,
      (host.engine.Waits (draft'.install host.engine.parameters).1.parameters ep' name ↔
        host.engine.Waits (draft.install host.engine.parameters).1.parameters ep name) :=
    fun ep ep' hsame name =>
      ⟨fun h => h.alike hsame.symm (EffectDraft.exists_alike hdrafts.symm _),
        fun h => h.alike hsame (EffectDraft.exists_alike hdrafts _)⟩
  exact ⟨EffectDraft.names_perm hdrafts _, halike,
    fun ep hep ep' hep' hname => hwaits ep ep' (halike ep hep ep' hep' hname),
    fun ep hep ep' hep' hname => hsame ep hep ep' hep' (halike ep hep ep' hep' hname), hordered,
    hordered'⟩

/-- An effect with a sampler that follows `v`, two samplers of one texture of which only the
second says what it looks like, and a sampler of another texture. -/
def waiting : EffectDescription where
  name := "fx"
  parameters :=
    [{ name := "s", type := "sampler2D", annotations := ⟨[("global", .string "v")]⟩ },
      { name := "a", type := "sampler2D", annotations := ⟨[("texture", .string "x")]⟩ },
      { name := "b", type := "sampler2D", annotations := ⟨[("texture", .string "x"),
          ("size", .ints [2, 2]), ("format", .string "rgba8")]⟩ },
      { name := "c", type := "sampler2D", annotations := ⟨[("texture", .string "y"),
          ("size", .ints [2, 2]), ("format", .string "rgba8")]⟩ }]

/-- It compiles with its parameters the other way round, and is linked as their order has it. -/
theorem samplers_reordered_waiting :
    ∃ (session : Session HeadlessDevice) (engine : Engine HeadlessDevice)
      (host : Host HeadlessDevice) (draft draft' : EffectDraft)
      (linked linked' : Effect) (errors errors' : List LinkError)
      (one other : Engine HeadlessDevice),
      Session.create (HeadlessDevice.ofSize 4 4) { builtinParameters := false }
          (Session.searching {} {}) 0 = (.ok session, engine) ∧
        ({ session } : Host HeadlessDevice).runHooks HeadlessAct.perform dangling = host ∧
        (waiting.parameters.map (·.name)).Nodup ∧
        EffectDraft.compile host.engine.compiler waiting = .ok draft ∧
        EffectDraft.compile host.engine.compiler
          { waiting with parameters := waiting.parameters.reverse } = .ok draft' ∧
        (host.engine.entered [] draft).link (draft.install host.engine.parameters).1 =
          (linked, errors, one) ∧
        (host.engine.entered [] draft').link (draft'.install host.engine.parameters).1 =
          (linked', errors', other) ∧
        host.engine.Reordered one other linked.parameters linked'.parameters := by
  have hcompiled : ((Session.create (HeadlessDevice.ofSize 4 4) { builtinParameters := false }
        (Session.searching {} {}) 0).1.toOption.map fun session =>
      let host := ({ session } : Host HeadlessDevice).runHooks HeadlessAct.perform dangling
      (EffectDraft.compile host.engine.compiler waiting).toOption.isSome) = some true := by
    decide +kernel
  obtain ⟨session, hsession, hsome⟩ := Option.map_eq_some_iff.mp hcompiled
  obtain ⟨draft, hcompile⟩ := Option.isSome_iff_exists.mp hsome
  have hcreate := eq_ok_of_toOption hsession
  have hdistinct : (waiting.parameters.map (·.name)).Nodup := by decide
  obtain ⟨draft', hcompile', hreordered⟩ := samplers_reordered hcreate HeadlessAct.perform
    dangling rfl (ok_of_toOption hcompile) hdistinct waiting.parameters.reverse_perm [] []
  exact ⟨session, _, _, draft, draft', _, _, _, _, _, _, hcreate, rfl, hdistinct,
    ok_of_toOption hcompile, hcompile', rfl, rfl, hreordered _ _ _ _ _ _ rfl rfl⟩

/-- The parameters of an effect, with the names of the textures that they hold. -/
def heldBy (e : Engine HeadlessDevice) (effect : Effect) : List (String × Option String) :=
  effect.parameters.map fun ep => (ep.name, e.textureName? ep)

/-- The first of its two samplers of `x` has no texture, though `x` is there, and what follows `v`
holds the texture that came first. The other way round the former has it, and the latter holds
another one. -/
theorem waiting_bare :
    ∃ (session : Session HeadlessDevice) (engine : Engine HeadlessDevice)
      (host : Host HeadlessDevice) (draft draft' : EffectDraft)
      (linked linked' : Effect) (errors errors' : List LinkError)
      (one other : Engine HeadlessDevice),
      Session.create (HeadlessDevice.ofSize 4 4) { builtinParameters := false }
          (Session.searching {} {}) 0 = (.ok session, engine) ∧
        ({ session } : Host HeadlessDevice).runHooks HeadlessAct.perform dangling = host ∧
        host.engine.device.lost = false ∧
        (waiting.parameters.map (·.name)).Nodup ∧
        waiting.parameters.reverse.Perm waiting.parameters ∧
        EffectDraft.compile host.engine.compiler waiting = .ok draft ∧
        EffectDraft.compile host.engine.compiler
          { waiting with parameters := waiting.parameters.reverse } = .ok draft' ∧
        (host.engine.entered [] draft).link (draft.install host.engine.parameters).1 =
          (linked, errors, one) ∧
        (host.engine.entered [] draft').link (draft'.install host.engine.parameters).1 =
          (linked', errors', other) ∧
        heldBy one linked =
          [("s", some "x"), ("a", none), ("b", some "x"), ("c", some "y")] ∧
        heldBy other linked' =
          [("c", some "y"), ("b", some "x"), ("a", some "x"), ("s", some "y")] ∧
        one.textures.contains "x" = true := by
  have hlinked : ((Session.create (HeadlessDevice.ofSize 4 4) { builtinParameters := false }
        (Session.searching {} {}) 0).1.toOption.bind fun session =>
      let host := ({ session } : Host HeadlessDevice).runHooks HeadlessAct.perform dangling
      (EffectDraft.compile host.engine.compiler waiting).toOption.bind fun draft =>
      (EffectDraft.compile host.engine.compiler
          { waiting with parameters := waiting.parameters.reverse }).toOption.map fun draft' =>
        let x := (host.engine.entered [] draft).link (draft.install host.engine.parameters).1
        let y := (host.engine.entered [] draft').link (draft'.install host.engine.parameters).1
        ([host.engine.device.lost, x.2.2.textures.contains "x"], heldBy x.2.2 x.1,
          heldBy y.2.2 y.1)) =
      some ([false, true], [("s", some "x"), ("a", none), ("b", some "x"), ("c", some "y")],
        [("c", some "y"), ("b", some "x"), ("a", some "x"), ("s", some "y")]) := by
    decide +kernel
  obtain ⟨session, hsession, hdraft⟩ := Option.bind_eq_some_iff.mp hlinked
  obtain ⟨draft, hcompile, hdraft'⟩ := Option.bind_eq_some_iff.mp hdraft
  obtain ⟨draft', hcompile', hseen⟩ := Option.map_eq_some_iff.mp hdraft'
  obtain ⟨hflags, hseen⟩ := Prod.mk.inj hseen
  obtain ⟨hheld, hheld'⟩ := Prod.mk.inj hseen
  obtain ⟨hlost, hrest⟩ := List.cons.inj hflags
  exact ⟨session, _, _, draft, draft', _, _, _, _, _, _, eq_ok_of_toOption hsession, rfl, hlost,
    by decide, waiting.parameters.reverse_perm, ok_of_toOption hcompile,
    ok_of_toOption hcompile', rfl, rfl, hheld, hheld', (List.cons.inj hrest).1⟩

end Host

end ShaderEffects
