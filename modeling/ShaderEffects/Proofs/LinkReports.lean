import ShaderEffects.Proofs.NewEffects

/-!
# What the report of a link says

The problems that linking a new effect reports say exactly what is wrong with it: each
parameter that follows no one though it asks to, each sampler that got no texture, each
malformed annotation, and that no technique can be used. A name that is taken and an
attachment that is refused are never among them.
-/
namespace ShaderEffects

/-- The problems of one kind, in order. -/
def LinkError.ofKind (kind : LinkError.Kind) (errors : List LinkError) : List LinkError :=
  errors.filter fun e => e.kind = kind

/-- The parameter is attached to the virtual one of a name, which has its type. -/
def Parameters.Follows (ps : Parameters) (ep : EffectParameter) (global : String) : Prop :=
  ∃ q t, ps.named? global = some q ∧ ps.get? q = some t ∧ t.isVirtual = true ∧
    t.name = global ∧ t.type = ep.type ∧ ps.Edge q ep.id

/-- The problems of an effect after it was linked say what is wrong with it, no more and
no less. -/
structure Effect.Reports (effect : Effect) (ps : Parameters) (errors : List LinkError) :
    Prop where
  follows : ∀ ep ∈ effect.parameters, ∀ global,
    Directive.globalLink? ep.directives = some global →
      (ps.Follows ep global ↔ LinkError.ofKind (.following ep.name) errors = []) ∧
      (¬ ps.Follows ep global → LinkError.ofKind (.following ep.name) errors =
        [.unresolvedGlobal ep.name global ep.type])
  asked : ∀ e ∈ errors, ∀ name, e.kind = .following name →
    ∃ ep ∈ effect.parameters, ep.name = name ∧
      (Directive.globalLink? ep.directives).isSome = true
  textures : (LinkError.ofKind .texture errors).length =
    effect.parameters.countP fun ep => ps.Lacks ep
  annotations : LinkError.ofKind .directive errors =
    effect.parameters.flatMap (fun ep => Linking.malformed ep.name ep.directives) ++
      effect.techniques.flatMap (Linking.techniqueErrors effect.name)
  choice : LinkError.ofKind .choice errors =
    if effect.techniques.any (·.isValid) then [] else [.noValidTechnique effect.name]
  refusals : ∀ e ∈ errors, e.kind ≠ .refusal

namespace LinkError

theorem mem_ofKind_iff (kind : Kind) (errors : List LinkError) (e : LinkError) :
    e ∈ ofKind kind errors ↔ e ∈ errors ∧ e.kind = kind := by
  simp [ofKind]

theorem ofKind_append (kind : Kind) (xs ys : List LinkError) :
    ofKind kind (xs ++ ys) = ofKind kind xs ++ ofKind kind ys :=
  List.filter_append _ _

theorem ofKind_flatMap {α : Type} (kind : Kind) (f : α → List LinkError) (xs : List α) :
    ofKind kind (xs.flatMap f) = xs.flatMap fun x => ofKind kind (f x) :=
  List.filter_flatMap

/-- Problems that are all of one kind. -/
theorem ofKind_of_kind {known : Kind} {errors : List LinkError}
    (h : ∀ e ∈ errors, e.kind = known) (kind : Kind) :
    ofKind kind errors = if kind = known then errors else [] := by
  unfold ofKind
  split_ifs with hkind
  · exact List.filter_eq_self.mpr fun e he => by simp [h e he, hkind]
  · exact List.filter_eq_nil_iff.mpr fun e he => by simp [h e he, Ne.symm hkind]

end LinkError

namespace Linking

open LinkError

theorem kind_malformed (owner : String) (directives : List Directive) :
    ∀ e ∈ malformed owner directives, e.kind = .directive := by
  intro e he
  obtain ⟨_, _, rfl⟩ := List.mem_map.mp he
  rfl

theorem kind_techniqueErrors (effect : String) (t : Technique) :
    ∀ e ∈ techniqueErrors effect t, e.kind = .directive := by
  intro e he
  rcases List.mem_append.mp he with htechnique | hpass
  · exact kind_malformed _ _ e htechnique
  · obtain ⟨pass, _, hmem⟩ := List.mem_flatMap.mp hpass
    exact kind_malformed _ _ e hmem

theorem kind_globalErrors (ps : Parameters) (ep : EffectParameter) :
    ∀ e ∈ globalErrors ps ep, e.kind = .following ep.name := by
  intro e he
  unfold globalErrors at he
  cases hglobal : Directive.globalLink? ep.directives with
  | none => simp [hglobal] at he
  | some global =>
    simp only [hglobal] at he
    split_ifs at he
    · exact absurd he List.not_mem_nil
    · rw [List.mem_singleton.mp he]
      rfl

theorem kind_verdictErrors (effect : String) (techniques : List Technique) :
    ∀ e ∈ verdictErrors effect techniques, e.kind = .choice := by
  intro e he
  unfold verdictErrors at he
  split_ifs at he
  · exact absurd he List.not_mem_nil
  · rw [List.mem_singleton.mp he]
    rfl

/-- Where the parameters of a row have names of their own, the problems with whom one of
them asks to follow are its own. -/
theorem ofKind_following {row : List EffectParameter} (hnames : (row.map (·.name)).Nodup)
    (ps : Parameters) {ep : EffectParameter} (hep : ep ∈ row) :
    ofKind (.following ep.name) (row.flatMap (parameterErrors ps)) = globalErrors ps ep := by
  have hone : ∀ other, ofKind (.following ep.name) (parameterErrors ps other) =
      if ep.name = other.name then globalErrors ps other else [] := by
    intro other
    unfold parameterErrors
    rw [ofKind_append, ofKind_of_kind (kind_malformed _ _), ofKind_of_kind (kind_globalErrors ps other)]
    simp
  rw [ofKind_flatMap]
  simp only [hone]
  induction row with
  | nil => exact absurd hep List.not_mem_nil
  | cons first rest ih =>
    obtain ⟨hfirst, hrest⟩ := List.nodup_cons.mp hnames
    rw [List.flatMap_cons]
    rcases List.mem_cons.mp hep with rfl | hmem
    · have hnone : (rest.flatMap fun other =>
          if ep.name = other.name then globalErrors ps other else []) = [] := by
        exact List.flatMap_eq_nil_iff.mpr fun other hother => if_neg fun hsame =>
          hfirst (List.mem_map.mpr ⟨other, hother, hsame.symm⟩)
      rw [if_pos rfl, hnone, List.append_nil]
    · have hne : ep.name ≠ first.name := fun hsame =>
        hfirst (List.mem_map.mpr ⟨ep, hmem, hsame⟩)
      rw [if_neg hne, List.nil_append]
      exact ih hrest hmem

/-- What else is reported of a row is what is wrong with the annotations. -/
theorem ofKind_parameterErrors (row : List EffectParameter) (ps : Parameters) {kind : Kind}
    (hkind : ∀ name, kind ≠ .following name) :
    ofKind kind (row.flatMap (parameterErrors ps)) =
      if kind = .directive then row.flatMap fun ep => malformed ep.name ep.directives
      else [] := by
  have hone : ∀ ep, ofKind kind (parameterErrors ps ep) =
      if kind = .directive then malformed ep.name ep.directives else [] := by
    intro ep
    unfold parameterErrors
    rw [ofKind_append, ofKind_of_kind (kind_malformed _ _), ofKind_of_kind (kind_globalErrors ps ep),
      if_neg (hkind ep.name), List.append_nil]
  rw [ofKind_flatMap]
  simp only [hone]
  split_ifs
  · rfl
  · exact List.flatMap_eq_nil_iff.mpr fun _ _ => rfl

/-- Only a parameter that asks to follow someone is reported not to do so. -/
theorem exists_of_kind_following {row : List EffectParameter} {ps : Parameters} {e : LinkError}
    (he : e ∈ row.flatMap (parameterErrors ps)) {name : String} (hkind : e.kind = .following name) :
    ∃ ep ∈ row, ep.name = name ∧ (Directive.globalLink? ep.directives).isSome = true := by
  obtain ⟨ep, hep, hmem⟩ := List.mem_flatMap.mp he
  rcases List.mem_append.mp hmem with hmalformed | hglobal
  · rw [kind_malformed _ _ e hmalformed] at hkind
    cases hkind
  · have hsame := kind_globalErrors ps ep e hglobal
    rw [hkind] at hsame
    cases hsame
    refine ⟨ep, hep, rfl, ?_⟩
    unfold globalErrors at hglobal
    cases hasks : Directive.globalLink? ep.directives with
    | none => simp [hasks] at hglobal
    | some global => rfl

/-- Where a technique ends does not change what is wrong with its annotations. -/
theorem techniqueErrors_aimTechnique (textures : TextureRegistry) (effect : String)
    (t : Technique) : techniqueErrors effect (aimTechnique textures t) = techniqueErrors effect t := by
  simp [techniqueErrors, aimTechnique, aimPass, List.flatMap_map]

end Linking

namespace Parameters

/-- A parameter of a new effect follows the virtual one of a name if there is one of its
type. -/
theorem Gains.follows_iff {ps ps' : Parameters} {row : List EffectParameter}
    (h : ps.Gains row ps') (hps : ps.Settled) {ep : EffectParameter} (hep : ep ∈ row)
    {global : String} (hglobal : Directive.globalLink? ep.directives = some global) :
    ps'.Follows ep global ↔ (ps.find? global ep.type).isSome = true := by
  constructor
  · rintro ⟨q, t, hname, ht, _, _, htype, _⟩
    have hname' : ps.named? global = some q := by rwa [named?, h.names] at hname
    have halive : ps.alive q = true :=
      h.alive_of_lt (hps.registered.number_lt global q hname') ▸ alive_of_get? ht
    obtain ⟨p, hp⟩ := (ps.alive_iff q).mp halive
    rw [h.old q p hp] at ht
    cases ht
    rw [joined_eq] at htype
    rw [(ps.find?_eq_some_iff _ _ _).mpr ⟨hname', p, hp, htype⟩]
    rfl
  · intro hfind
    obtain ⟨q, hq⟩ := Option.isSome_iff_exists.mp hfind
    obtain ⟨hname, p, hp, htype⟩ := (ps.find?_eq_some_iff _ _ _).mp hq
    obtain ⟨hvirtual, hcalled⟩ := hps.registered.named global q p hname hp
    have hfollows : ep.id ∈ ps.followers row q :=
      (ps.mem_followers_iff _ _ _).mpr ⟨ep, hep, by simp [followed?, hglobal, hq], rfl⟩
    have hjoined := joined_eq ps (ps.followers row q) p
    refine ⟨q, _, by rw [named?, h.names]; exact hname, h.old q p hp, ?_, ?_, ?_, ?_⟩
    · rw [hjoined]
      exact hvirtual
    · rw [hjoined]
      exact hcalled
    · rw [hjoined]
      exact htype
    · rw [Edge, h.attachments hps.attached hp]
      exact List.mem_append_right _ hfollows

end Parameters

namespace Engine

variable {D : Type} [Device D]

theorem link_techniqueErrors (e : Engine D) (effect : Effect) :
    (e.link effect).1.techniques.flatMap (Linking.techniqueErrors effect.name) =
      effect.techniques.flatMap (Linking.techniqueErrors effect.name) := by
  rw [link_fst, List.flatMap_map]
  simp only [Linking.techniqueErrors_aimTechnique]
  rw [chosen, Linking.choose_fst]
  exact Linking.techniqueErrors_validateTechniques _ _ _

/-- What a new effect reports when it is linked is what is wrong with it. -/
theorem link_reports {e : Engine D} (h : e.parameters.Settled) {compiler : Compiler}
    {d : EffectDescription} {draft : EffectDraft}
    (hcompile : EffectDraft.compile compiler d = .ok draft) (notices : List Notice)
    {linked : Effect} {errors : List LinkError} {after : Engine D}
    (hlink : (e.entered notices draft).link (draft.install e.parameters).1 =
      (linked, errors, after)) :
    linked.Reports after.parameters errors := by
  have henters := EffectDraft.enters_install hcompile e.parameters
  have hnames := (EffectDraft.installed_install hcompile h.numbered).names
  have hsettled : (draft.install e.parameters).2.Settled :=
    (EffectDraft.turns_install hcompile e.parameters).settled h
  have hgains := e.link_gains hcompile h notices
  obtain ⟨_, faults, _, _, herrors, hfaults, hlength⟩ := (e.entered notices draft).link_outcome
    (draft.install e.parameters).1 (henters.loose h) hsettled.registered
  have hfind : (e.entered notices draft).parameters.find? = e.parameters.find? := henters.find? h
  have hparameters := link_parameters (e.entered notices draft) (draft.install e.parameters).1
  have hname := link_name (e.entered notices draft) (draft.install e.parameters).1
  have htechniques := link_techniqueErrors (e.entered notices draft) (draft.install e.parameters).1
  generalize (draft.install e.parameters).1 = effect at *
  rw [hlink] at hgains herrors hlength hparameters hname htechniques
  simp only at hgains herrors hlength hparameters hname htechniques
  rw [← hparameters] at hnames hgains herrors hlength
  rw [← hname] at herrors htechniques
  rw [← htechniques] at herrors
  have hverdict := Linking.kind_verdictErrors linked.name linked.techniques
  have hannotations : ∀ fault ∈ linked.techniques.flatMap (Linking.techniqueErrors linked.name),
      fault.kind = .directive := fun fault hfault => by
    obtain ⟨t, _, hmem⟩ := List.mem_flatMap.mp hfault
    exact Linking.kind_techniqueErrors linked.name t fault hmem
  -- each part of the report is of a kind of its own, but for that of the parameters
  have hofKind : ∀ kind, LinkError.ofKind kind errors =
      LinkError.ofKind kind (linked.parameters.flatMap
        (Linking.parameterErrors (e.entered notices draft).parameters)) ++
      (if kind = .texture then faults else []) ++
      (if kind = .choice then Linking.verdictErrors linked.name linked.techniques else []) ++
      (if kind = .directive then
        linked.techniques.flatMap (Linking.techniqueErrors linked.name) else []) := fun kind => by
    rw [herrors, LinkError.ofKind_append, LinkError.ofKind_append, LinkError.ofKind_append,
      LinkError.ofKind_of_kind hfaults, LinkError.ofKind_of_kind hverdict,
      LinkError.ofKind_of_kind hannotations]
  refine ⟨fun ep hep global hglobal => ?_, fun fault hfault name hkind => ?_, ?_, ?_, ?_,
    fun fault hfault hkind => ?_⟩
  · have hown : LinkError.ofKind (.following ep.name) errors =
        if (e.parameters.find? global ep.type).isSome then []
        else [.unresolvedGlobal ep.name global ep.type] := by
      rw [hofKind, Linking.ofKind_following hnames _ hep]
      simp [Linking.globalErrors, hglobal, hfind]
    rw [hown, hgains.follows_iff h hep hglobal]
    split_ifs with hsome <;> simp [hsome]
  · have hmem := (LinkError.mem_ofKind_iff _ errors fault).mpr ⟨hfault, hkind⟩
    rw [hofKind] at hmem
    simp only [reduceCtorEq, if_false, List.append_nil] at hmem
    exact Linking.exists_of_kind_following ((LinkError.mem_ofKind_iff _ _ _).mp hmem).1 hkind
  · rw [hofKind, Linking.ofKind_parameterErrors _ _ (by simp)]
    simpa using hlength
  · rw [hofKind, Linking.ofKind_parameterErrors _ _ (by simp)]
    simp
  · rw [hofKind, Linking.ofKind_parameterErrors _ _ (by simp)]
    simp [Linking.verdictErrors]
  · have hmem := (LinkError.mem_ofKind_iff _ errors fault).mpr ⟨hfault, hkind⟩
    rw [hofKind, Linking.ofKind_parameterErrors _ _ (by simp)] at hmem
    simp at hmem

end Engine

namespace Host

variable {D A : Type} [Device D]

/-- Whatever a host did before, what a new effect reports when it is linked is what is
wrong with it: it says which of its parameters follow no one though they ask to, how many
samplers got no texture, which annotations are malformed and whether no technique can be
used, and it says nothing else. -/
theorem link_reports_sound {device : D} {settings : Settings} {compiler : Compiler} {now : Int}
    {session : Session D} {engine : Engine D}
    (hcreate : Session.create device settings compiler now = (.ok session, engine))
    (act : A → D → D) (ops : List (HookOp D A)) {host : Host D}
    (hrun : ({ session } : Host D).runHooks act ops = host) {d : EffectDescription}
    {draft : EffectDraft} {other : Compiler} (hcompile : EffectDraft.compile other d = .ok draft)
    (notices : List Notice) {linked : Effect} {errors : List LinkError} {after : Engine D}
    (hlink : (host.engine.entered notices draft).link (draft.install host.engine.parameters).1 =
      (linked, errors, after)) :
    linked.Reports after.parameters errors :=
  Engine.link_reports (hrun ▸ (runHooks_settled hcreate act ops).1) hcompile notices hlink

/-- An effect with much that is wrong: `b` follows no one, the annotation of `m` is
malformed, `s` cannot be given a texture, and there is no technique. -/
def wanting : String :=
  "[\"fx\", [[\"a\", \"float\", [], \x7b\"global\": \"v\"\x7d], " ++
  "[\"b\", \"float\", [], \x7b\"global\": \"w\"\x7d], " ++
  "[\"m\", \"float\", [], \x7b\"global\": 1\x7d], " ++
  "[\"s\", \"sampler2D\", [], \x7b\"texture\": \"glow\"\x7d]], []]"

/-- Each of these is reported once, and that `a` follows someone is not reported. -/
theorem link_reports_sound_wanting :
    ∃ (session : Session HeadlessDevice) (engine : Engine HeadlessDevice)
      (host : Host HeadlessDevice) (draft : EffectDraft) (linked : Effect)
      (errors : List LinkError) (after : Engine HeadlessDevice),
      Session.create (HeadlessDevice.ofSize 4 4) { builtinParameters := false }
          (Session.searching {} {}) 0 = (.ok session, engine) ∧
        ({ session } : Host HeadlessDevice).runHooks HeadlessAct.perform
          [.session (.createVirtual "v" .float1)] = host ∧
        (host.engine.entered [] draft).link (draft.install host.engine.parameters).1 =
          (linked, errors, after) ∧
        errors = [.unresolvedGlobal "b" "w" .float1, .malformedValue "m" .global,
          .unresolvedSampler "s" "glow" .missingSize, .noValidTechnique "fx"] ∧
        linked.Reports after.parameters errors := by
  have hcompiled : (((EffectDescription.ofText wanting).toOption.bind fun d =>
      (EffectDraft.compile (Session.searching {} {}) d).toOption).bind fun draft =>
    (Session.create (HeadlessDevice.ofSize 4 4) { builtinParameters := false }
        (Session.searching {} {}) 0).1.toOption.map fun session =>
      let host := ({ session } : Host HeadlessDevice).runHooks HeadlessAct.perform
        [.session (.createVirtual "v" .float1)]
      ((host.engine.entered [] draft).link (draft.install host.engine.parameters).1).2.1) =
      some [.unresolvedGlobal "b" "w" .float1, .malformedValue "m" .global,
        .unresolvedSampler "s" "glow" .missingSize, .noValidTechnique "fx"] := by decide +kernel
  obtain ⟨draft, hdraft, hlinked⟩ := Option.bind_eq_some_iff.mp hcompiled
  obtain ⟨d, _, hcompile⟩ := Option.bind_eq_some_iff.mp hdraft
  obtain ⟨session, hsession, herrors⟩ := Option.map_eq_some_iff.mp hlinked
  have hcreate := eq_ok_of_toOption hsession
  exact ⟨session, _, _, draft, _, _, _, hcreate, rfl, rfl, herrors,
    link_reports_sound hcreate HeadlessAct.perform _ rfl (ok_of_toOption hcompile) [] rfl⟩

end Host

end ShaderEffects
