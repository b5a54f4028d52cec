import ShaderEffects.Proofs.IssuedHandles
import ShaderEffects.Proofs.UndisturbedDevices

/-!
# Loading an effect only adds

An effect that cannot be read or compiled leaves a session as it was. One that is loaded
takes its place behind the others and brings its parameters, virtual parameters get new
followers among these, and new textures are registered behind the old ones. Nothing else of
the session, of its parameters or of its device changes.
-/
namespace ShaderEffects

namespace TextureRegistry

/-- Textures were registered behind those of a registry, under names that were free. -/
structure Extends (before after : TextureRegistry)
    (added : List (Handle Texture × Texture)) : Prop where
  grows : before.Grows after
  toList : after.toList = before.toList ++ added
  free : ∀ entry ∈ added, before.find? entry.2.name = none
  find? : ∀ name, after.find? name = before.find? name ∨
    ∃ entry ∈ added, entry.2.name = name ∧ after.find? name = some entry.1

theorem Extends.refl (registry : TextureRegistry) : registry.Extends registry [] where
  grows := .refl registry
  toList := (List.append_nil _).symm
  free := fun _ h => absurd h List.not_mem_nil
  find? := fun _ => Or.inl rfl

theorem Extends.trans {r₁ r₂ r₃ : TextureRegistry} {added later : List (Handle Texture × Texture)}
    (h₁ : r₁.Extends r₂ added) (h₂ : r₂.Extends r₃ later) : r₁.Extends r₃ (added ++ later) where
  grows := h₁.grows.trans h₂.grows
  toList := by rw [h₂.toList, h₁.toList, List.append_assoc]
  free := fun entry hentry => by
    rcases List.mem_append.mp hentry with hfirst | hlater
    · exact h₁.free entry hfirst
    · cases hfind : r₁.find? entry.2.name with
      | none => rfl
      | some handle =>
        have hkept := h₁.grows.find? hfind
        rw [h₂.free entry hlater] at hkept
        cases hkept
  find? := fun name => by
    rcases h₂.find? name with hsame | ⟨entry, hentry, hname, hfind⟩
    · rcases h₁.find? name with hsame' | ⟨entry, hentry, hname, hfind⟩
      · exact Or.inl (hsame.trans hsame')
      · exact Or.inr ⟨entry, List.mem_append_left _ hentry, hname, hsame.trans hfind⟩
    · exact Or.inr ⟨entry, List.mem_append_right _ hentry, hname, hfind⟩

theorem extends_register {registry registry' : TextureRegistry} {name : String}
    {backing : TextureId} {desc : TextureDesc} {handle : Handle Texture}
    (h : registry.register name backing desc = .ok (handle, registry')) :
    registry.Extends registry' [(handle, ⟨name, backing, desc⟩)] := by
  have hfind := find?_register_iff h
  have hgrows := grows_register h
  obtain ⟨hfree, rfl, rfl⟩ := (register_eq_ok_iff _ _ _ _ _ _).mp h
  refine ⟨hgrows, Arena.toList_insert _ _, fun entry hentry => ?_, fun other => ?_⟩
  · obtain rfl := List.mem_singleton.mp hentry
    exact (contains_eq_false_iff _ _).mp hfree
  · by_cases hother : other = name
    · exact Or.inr ⟨_, List.mem_cons_self, hother.symm, by rw [hfind, if_pos hother]⟩
    · exact Or.inl (by rw [hfind, if_neg hother])

end TextureRegistry

namespace Engine

/-! ## What the steps of a link leave -/

section steps

variable {D : Type} [Device D] {e e' : Engine D}

/-- A step registers textures behind those that are there. -/
theorem Step.extends (h : e.Step e') : ∃ added, e.textures.Extends e'.textures added := by
  cases h with
  | note | call | attach | give => exact ⟨[], .refl _⟩
  | create _ hregister | load _ hregister => exact ⟨_, TextureRegistry.extends_register hregister⟩

theorem Steps.extends (h : e.Steps e') : ∃ added, e.textures.Extends e'.textures added :=
  h.keep (P := fun e' => ∃ added, e.textures.Extends e'.textures added)
    (fun _ _ hstep ⟨_, hadded⟩ =>
      have ⟨_, hlater⟩ := hstep.extends
      ⟨_, hadded.trans hlater⟩) ⟨[], .refl _⟩

/-- Of the renderer the steps of a link change the device and the journal alone. -/
theorem Steps.renderer (h : e.Steps e') :
    ∃ device journal, e'.renderer = { e.renderer with device, journal } := by
  refine h.keep (P := fun e' => ∃ device journal,
    e'.renderer = { e.renderer with device, journal }) (fun _ _ hstep hsame => ?_) ⟨_, _, rfl⟩
  obtain ⟨device, journal, hsame⟩ := hsame
  rcases hstep.renderer_cases with heq | ⟨notices, heq⟩ | ⟨c, _, heq⟩ <;> rw [heq, hsame]
  · exact ⟨_, _, rfl⟩
  · exact ⟨_, _, rfl⟩
  · exact ⟨_, _, rfl⟩

/-- The steps of a link leave what the device has. -/
theorem Steps.undisturbed [Undisturbing D] (h : e.Steps e')
    (hnumbered : Undisturbing.Numbered e.device) :
    Undisturbing.Undisturbed e.device e'.device ∧ Undisturbing.Numbered e'.device := by
  refine h.keep (P := fun e' => Undisturbing.Undisturbed e.device e'.device ∧
    Undisturbing.Numbered e'.device) (fun e₁ e₂ hstep h₁ => ?_)
    ⟨Undisturbing.refl _, hnumbered⟩
  unfold device at h₁ ⊢
  rcases hstep.renderer_cases with heq | ⟨notices, heq⟩ | ⟨c, hc, heq⟩ <;> rw [heq]
  · exact h₁
  · exact h₁
  · exact ⟨Undisturbing.trans h₁.1 (Undisturbing.prepare hc h₁.2), Undisturbing.numbered c h₁.2⟩

end steps

/-! ## Loading -/

variable {D : Type} [Device D] [Undisturbing D]

/-- What loading an effect adds to an engine: the effect behind those that are loaded, its
parameters, attachments of these to virtual parameters, and textures behind those that are
registered. Of a parameter that was there no more than what is attached to it changes, and
only if it is virtual. -/
structure Adds (before after : Engine D) (handle : Handle Effect) (effect : Effect) : Prop where
  effects : after.effects.toList = before.effects.toList ++ [(handle, effect)]
  new : ∀ id ∈ effect.parameterIds, before.parameters.made ≤ id.number
  alive : ∀ id, after.parameters.alive id = true ↔
    before.parameters.alive id = true ∨ id ∈ effect.parameterIds
  names : after.parameters.names = before.parameters.names
  parameters : ∀ id p, before.parameters.get? id = some p →
    ∃ attached, after.parameters.get? id = some { p with attached } ∧
      (p.isVirtual = false → attached = p.attached)
  attachments : ∀ id p, before.parameters.get? id = some p →
    ∃ followers, after.parameters.attachments id = before.parameters.attachments id ++ followers ∧
      (∀ follower ∈ followers, follower ∈ effect.parameterIds) ∧
      (p.isVirtual = false → followers = [])
  textures : ∃ added, before.textures.Extends after.textures added
  compiler : after.compiler = before.compiler
  renderer : ∃ device journal, after.renderer = { before.renderer with device, journal }
  device : Undisturbing.Undisturbed before.device after.device

/-- Loading an effect changes nothing but the journal, or only adds. -/
theorem load_adds (e : Engine D) (hsettled : e.parameters.Settled)
    (hnumbered : Undisturbing.Numbered e.device) (name text : String) :
    (∃ error notices, e.load name text = (.error error, e.note notices)) ∨
      ∃ handle errors effect after, e.load name text = (.ok (handle, errors), after) ∧
        e.Adds after handle effect := by
  rcases e.load_gains hsettled name text with hfailed |
    ⟨notices, draft, linked, errors, after, hsteps, hgains, heq⟩
  · exact Or.inl hfailed
  refine Or.inr ⟨_, _, linked, _, heq, ?_⟩
  obtain ⟨device, journal, hrenderer⟩ := hsteps.renderer
  have heffects : after.effects = e.effects := hsteps.effects
  refine
    { effects := ?_, new := fun id hid => ?_, alive := fun id => ?_, names := hgains.names
      parameters := fun id p hp => ?_, attachments := fun id p hp => ?_
      textures := hsteps.extends, compiler := hsteps.compiler
      renderer := ⟨device, journal, hrenderer⟩
      device := (hsteps.undisturbed hnumbered).1 }
  · simp only [insert, heffects]
    exact Arena.toList_insert e.effects linked
  · obtain ⟨ep, hep, rfl⟩ := List.mem_map.mp hid
    exact hgains.fresh ep hep
  · simp only [insert, hgains.alive_iff, Effect.parameterIds, List.mem_map]
  · refine ⟨(e.parameters.joined (e.parameters.followers linked.parameters id) p).attached, ?_,
      fun hnot => ?_⟩
    · rw [← Parameters.joined_eq]
      exact hgains.old id p hp
    · rw [hsettled.registered.followers_eq_nil _ hp hnot, Parameters.joined_nil]
  · refine ⟨_, hgains.attachments hsettled.attached hp, fun follower hfollower => ?_,
      hsettled.registered.followers_eq_nil _ hp⟩
    obtain ⟨ep, hep, _, rfl⟩ := (Parameters.mem_followers_iff _ _ _ _).mp hfollower
    exact List.mem_map_of_mem hep

end Engine

namespace Host

variable {D A : Type} [Device D]

/-- What every call keeps of a device, everything a host does keeps. -/
theorem stepHook_device_keep {P : D → Prop} {act : A → D → D}
    (hcall : ∀ (c : DeviceCall D) d, P d → P (c.perform d)) (hact : ∀ a d, P d → P (act a d))
    (host : Host D) (op : HookOp D A) (h : P host.engine.device) :
    P (host.stepHook act op).engine.device := by
  cases op with
  | hook hook =>
    exact (host.engine.hook_steps hook).device_keep (fun d c _ hd => hcall c d hd) h
  | session op =>
    have hany : op.calls (fun _ : DeviceCall D => true) = true := by cases op <;> rfl
    rcases host.step_renderer (fun _ _ => rfl) act hany (Or.inl trivial) with hsteps | ⟨a, _, heq⟩
    · exact hsteps.device_keep (fun d c _ hd => hcall c d hd) h
    · have hacted := hact a host.engine.renderer.device h
      rw [stepHook, Engine.device, heq]
      exact hacted

/-- Whatever a host does after a session was set up, the textures of its device are numbered
in order. -/
theorem runHooks_numbered [Undisturbing D] {device : D} {settings : Settings}
    {compiler : Compiler} {now : Int} {session : Session D} {engine : Engine D}
    (hcreate : Session.create device settings compiler now = (.ok session, engine))
    (hdevice : Undisturbing.Numbered device) {act : A → D → D}
    (hact : ∀ a d, Undisturbing.Numbered d → Undisturbing.Numbered (act a d))
    (ops : List (HookOp D A)) :
    Undisturbing.Numbered (({ session } : Host D).runHooks act ops).engine.device := by
  refine runHooks_keep (P := fun host => Undisturbing.Numbered host.engine.device)
    (fun host op _ h => stepHook_device_keep Undisturbing.numbered hact host op h) ?_
  refine Session.create_keep (P := fun e => Undisturbing.Numbered e.device)
    (fun e _ hstep h => (hstep.steps.undisturbed h).2) (fun e name type h => ?_) hcreate hdevice
  obtain ⟨parameters, notices, heq⟩ := e.tunes_createVirtual name type
  rw [heq]
  exact h

/-- Whatever a host did before, loading an effect that cannot be read or compiled changes
nothing of its session but the journal. Any other load returns a handle that no load of the
run returned, and only adds to the engine. -/
theorem load_additive [Undisturbing D] {device : D} {settings : Settings} {compiler : Compiler}
    {now : Int} {session : Session D} {engine : Engine D}
    (hcreate : Session.create device settings compiler now = (.ok session, engine))
    (hdevice : Undisturbing.Numbered device) {act : A → D → D}
    (hact : ∀ a d, Undisturbing.Numbered d → Undisturbing.Numbered (act a d))
    {ops : List (HookOp D A)} {host : Host D}
    (hrun : ({ session } : Host D).runHooks act ops = host) (name text : String) :
    (∃ error notices, host.session.load name text =
        (.error error, { host.session with engine := host.engine.note notices })) ∨
      ∃ handle errors effect after, host.session.load name text =
          (.ok (handle, errors), { host.session with engine := after }) ∧
        handle ∉ ({ session } : Host D).issued act ops ∧ host.engine.Adds after handle effect := by
  have hsettled : host.engine.parameters.Settled := hrun ▸ (runHooks_settled hcreate act ops).1
  have hnumbered : Undisturbing.Numbered host.engine.device :=
    hrun ▸ runHooks_numbered hcreate hdevice hact ops
  unfold Session.load
  rcases host.engine.load_adds hsettled hnumbered name text with ⟨error, notices, heq⟩ |
    ⟨handle, errors, effect, after, heq, hadds⟩
  · exact Or.inl ⟨error, notices, by rw [← Host.engine, heq]⟩
  · refine Or.inr ⟨handle, errors, effect, after, by rw [← Host.engine, heq], fun hmem => ?_, hadds⟩
    have hlt := (lt_of_mem_issued act hmem).2
    rw [hrun, (Engine.load_handle heq).1] at hlt
    exact Nat.lt_irrefl _ hlt

/-- An effect with a parameter that follows `v`, and a sampler for which a blank texture is
made. -/
def additional : String :=
  "[\"fx\", [[\"a\", \"float\", [], \x7b\"global\": \"v\"\x7d], " ++
  "[\"s\", \"sampler2D\", [], \x7b\"texture\": \"glow\", \"size\": [2, 2], " ++
  "\"format\": \"rgba8\"\x7d]], []]"

/-- A session with the virtual parameter `v`, in which an effect was loaded and removed. -/
def prelude : List (HookOp HeadlessDevice HeadlessAct) :=
  [.session (.createVirtual "v" .float1), .session (.load "fx.json" "[\"fx\", [], []]"),
    .session (.unload ⟨0⟩)]

/-- The second effect gets a handle of its own, and brings its two parameters, one of them
attached to `v`, and its texture. -/
theorem load_additive_following :
    ∃ (session : Session HeadlessDevice) (engine : Engine HeadlessDevice)
      (host : Host HeadlessDevice) (errors : List LinkError) (effect : Effect)
      (after : Engine HeadlessDevice),
      Session.create (HeadlessDevice.ofSize 4 4) { builtinParameters := false }
          (Session.searching {} {}) 0 = (.ok session, engine) ∧
        ({ session } : Host HeadlessDevice).runHooks HeadlessAct.perform prelude = host ∧
        host.session.load "fx.json" additional =
          (.ok (⟨1⟩, errors), { host.session with engine := after }) ∧
        after.parameters.attachments ⟨0⟩ = [⟨1⟩] ∧
        after.textures.toList.map (·.2.name) = Staging.all ++ ["glow"] ∧
        (⟨1⟩ : Handle Effect) ∉
          ({ session } : Host HeadlessDevice).issued HeadlessAct.perform prelude ∧
        host.engine.Adds after ⟨1⟩ effect := by
  have hmade : ((Session.create (HeadlessDevice.ofSize 4 4) { builtinParameters := false }
        (Session.searching {} {}) 0).1.toOption.map fun session =>
      let host := ({ session } : Host HeadlessDevice).runHooks HeadlessAct.perform prelude
      let result := host.session.load "fx.json" additional
      (result.1.toOption.map (·.1.index), result.2.engine.parameters.attachments ⟨0⟩,
        result.2.engine.textures.toList.map (·.2.name))) =
      some (some 1, [⟨1⟩], Staging.all ++ ["glow"]) := by decide +kernel
  obtain ⟨session, hsession, hseen⟩ := Option.map_eq_some_iff.mp hmade
  obtain ⟨hindex, hseen⟩ := Prod.mk.inj hseen
  obtain ⟨hattachments, htextures⟩ := Prod.mk.inj hseen
  have hcreate := eq_ok_of_toOption hsession
  have hact : ∀ (a : HeadlessAct) (d : HeadlessDevice), Undisturbing.Numbered d →
      Undisturbing.Numbered (a.perform d) := fun a _ h => a.numbered h
  have hrun : ({ session } : Host HeadlessDevice).runHooks HeadlessAct.perform prelude = _ := rfl
  rcases load_additive hcreate (HeadlessDevice.numbered_ofSize 4 4) hact hrun "fx.json" additional
    with ⟨error, notices, heq⟩ | ⟨handle, errors, effect, after, heq, hnew, hadds⟩
  · simp only [heq] at hindex
    cases hindex
  · simp only [heq] at hindex hattachments htextures
    obtain rfl : handle = ⟨1⟩ := Handle.eq_of_index_eq (Option.some.inj hindex)
    exact ⟨session, _, _, errors, effect, after, hcreate, rfl, heq, hattachments, htextures,
      hnew, hadds⟩

end Host

end ShaderEffects
