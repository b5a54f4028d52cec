import ShaderEffects.Proofs.OwnedEffects
import ShaderEffects.Proofs.TwinSessions

/-!
# Hosts on two devices

A host is told something about each thing it does. Two hosts that do the same things, each
by its own clock, to sessions on devices that answer alike are told the same, and what they
have in hand stays alike.
-/
namespace ShaderEffects

/-- What a host does with a session and its renderer, on whatever device. -/
inductive SessionOp where
  | load (name text : String)
  | loadFile (path : String)
  | unload (handle : Handle Effect)
  | connect (handle : Handle Effect) (parameter texture : String)
  | createTexture (name : String) (desc : TextureDesc)
  | createVirtual (name : String) (type : ParameterType)
  | attach (target source : ParameterId)
  | detach (target source : ParameterId)
  | write (id : ParameterId) (w : Write)
  | hold (id : ParameterId)
  | drop (id : ParameterId)
  | frame (geometry : Option Geometry)
  | hook (h : Hook)

/-- What the host is told. -/
inductive Reply where
  | loaded (result : Except EffectError (Handle Effect × List LinkError))
  | unloaded (effect : Option Effect)
  | connected (done : Bool)
  | texture (result : Except LinkError (Handle Texture))
  | parameter (result : Except LinkError ParameterId)
  | attached (problem : Option LinkError)
  | drawn (result : Except DeviceError (List FrameReport))
  | bound (result : Except BindError Unit)
  | reported (result : Except DeviceError FrameReport)
  | done

namespace SessionOp

/-- The operation at an instant, on one kind of device. -/
def onDevice {D : Type} [Device D] (now : Int) : SessionOp → HookOp D Empty
  | load name text => .session (.load name text)
  | loadFile path => .session (.loadFile path)
  | unload handle => .session (.unload handle)
  | connect handle parameter texture => .session (.connect handle parameter texture)
  | createTexture name desc => .session (.createTexture name desc)
  | createVirtual name type => .session (.createVirtual name type)
  | attach target source => .session (.attach target source)
  | detach target source => .session (.detach target source)
  | write id w => .session (.write id w)
  | hold id => .session (.hold id)
  | drop id => .session (.drop id)
  | frame geometry => .session (.frame now geometry)
  | hook h => .hook h

/-- Only what is allowed is drawn by a hook. -/
def HookModest (ok : Pass → Prop) (drawn : Geometry → Prop) : Hook → Prop
  | .drawEffect _ effect geometry => (∀ g ∈ geometry, drawn g) ∧
    ∀ t ∈ effect.techniques, ∀ pass ∈ t.passes, pass.valid = true → ok pass
  | .drawTechnique _ _ technique geometry => (∀ g ∈ geometry, drawn g) ∧
    ∀ pass ∈ technique.passes, pass.valid = true → ok pass
  | _ => True

/-- An operation asks for nothing but what is allowed. -/
def Modest (fit : List Program → Prop) (blank : TextureDesc → Prop) (loads : Prop)
    (ok : Pass → Prop) (drawn : Geometry → Prop) (compiler : Compiler) : SessionOp → Prop
  | load _ text => ModestText fit blank loads compiler text
  | loadFile path => ∀ text, Session.textAt compiler path = .ok text →
    ModestText fit blank loads compiler text
  | createTexture _ desc => blank desc
  | frame geometry => ∀ g ∈ geometry, drawn g
  | hook h => HookModest ok drawn h
  | _ => True

end SessionOp

/-! ## Talking to a host -/

namespace Engine

variable {D : Type} [Device D]

/-- What the host is told about a hook. -/
def hookReply (e : Engine D) : Hook → Reply
  | .loadPass pass => .bound (e.renderer.loadPass pass).1
  | .bindPass scene effect pass => .bound (e.renderer.bindPass scene effect pass).1
  | .connectTexture textures id texture =>
    let e := e.write id (.texture (some texture))
    .connected (e.renderer.connected ⟨e.parameters, textures⟩ id).1
  | .drawEffect scene effect geometry => .reported (e.renderer.drawEffect scene effect geometry).1
  | .drawTechnique scene effect technique geometry =>
    .reported (e.renderer.drawTechnique scene effect technique geometry).1
  | .unbindPass | .applyParameter .. => .done

end Engine

namespace Host

variable {D : Type} [Device D]

/-- What the host is told about an operation at an instant. -/
def reply (host : Host D) (now : Int) : SessionOp → Reply
  | .load name text => .loaded (host.session.load name text).1
  | .loadFile path => .loaded (host.session.loadFile path).1
  | .unload handle => .unloaded (host.session.unload handle).1
  | .connect handle parameter texture =>
    .connected (host.session.connect handle parameter texture).1
  | .createTexture name desc => .texture (host.engine.createTexture name desc).1
  | .createVirtual name type => .parameter (host.engine.createVirtual name type).1
  | .attach target source =>
    .attached <| match host.engine.parameters.attach target source with
      | .ok _ => none
      | .error e => some e
  | .frame geometry => .drawn (host.session.renderFrame now geometry).1
  | .hook h => host.engine.hookReply h
  | .detach .. | .write .. | .hold _ | .drop _ => .done

/-- What the host is told about an operation at an instant, and what comes of it. -/
def tell (host : Host D) (x : SessionOp × Int) : Reply × Host D :=
  (host.reply x.2 x.1, host.stepHook Empty.elim (x.1.onDevice x.2))

/-- What the host is told about operations one after the other, and what comes of them. -/
def converse (host : Host D) : List (SessionOp × Int) → List Reply × Host D
  | [] => ([], host)
  | x :: rest =>
    let (reply, host) := host.tell x
    let (replies, host) := host.converse rest
    (reply :: replies, host)

/-- What comes about on the way. -/
def trace (host : Host D) : List (SessionOp × Int) → List (Host D)
  | [] => [host]
  | x :: rest => host :: (host.tell x).2.trace rest

theorem mem_trace_self (host : Host D) (steps : List (SessionOp × Int)) :
    host ∈ host.trace steps := by
  cases steps <;> exact List.mem_cons_self

end Host

/-! ## What stays as it is -/

namespace Engine

variable {D : Type} [Device D]

theorem load_compiler (e : Engine D) (name text : String) :
    (e.load name text).2.compiler = e.compiler := by
  rcases e.load_cases name text with hsteps | ⟨_, draft, e₁, _, hsteps, _, heq⟩
  · exact hsteps.compiler
  · rw [heq]
    exact (link_steps _ _).compiler.trans hsteps.compiler

end Engine

namespace Host

variable {D A : Type} [Device D]

theorem stepHook_compiler (host : Host D) (act : A → D → D) (op : HookOp D A) :
    (host.stepHook act op).engine.compiler = host.engine.compiler := by
  cases op with
  | hook h => cases h <;> rfl
  | session op =>
    have hchange := host.step_change act op
    simp only [stepHook]
    generalize (host.step act op).engine = e', (host.step act op).held = held' at hchange ⊢
    cases hchange with
    | steps hsteps => exact hsteps.compiler
    | load notices name text => exact (host.engine.note notices).load_compiler name text
    | unload handle notices =>
      simp only [Engine.unload, Engine.note]
      split <;> rfl
    | createVirtual name type =>
      obtain ⟨parameters, notices, heq⟩ := host.engine.tunes_createVirtual name type
      rw [heq]
      rfl
    | draw _ writes geometry =>
      obtain ⟨renderer, heq, _⟩ := Session.drawFrame_steps
        { host.engine with parameters := Session.written host.engine.parameters writes } geometry
      rw [heq]
    | connect | stays | retain | release | call | act => rfl

end Host

/-! ## Two hosts -/

variable {D₁ D₂ : Type} [Device D₁] [Device D₂] {fed : Set ParameterId}
  {Same : D₁ → D₂ → Prop} {good : FullscreenQuad → Prop} {ok : Pass → Prop}
  {drawn : Geometry → Prop} {fit : List Program → Prop} {blank : TextureDesc → Prop}
  {loads : Prop}

namespace Engine

variable {e : Engine D₁} {e' : Engine D₂}

omit [Device D₁] [Device D₂] in
theorem scene_alike (scene : Scene) : scene.Alike fed scene :=
  ⟨Parameters.alike_refl fed scene.parameters, rfl⟩

/-- A hook of the renderer has the same result, and leaves the engines alike. -/
theorem hook_mirrors (T : DrawTwins fed Same good ok drawn) (h : e.Alike fed Same good e')
    {hook : Hook} (hhook : SessionOp.HookModest ok drawn hook) :
    e.hookReply hook = e'.hookReply hook ∧ (e.hook hook).Alike fed Same good (e'.hook hook) := by
  have hr := h.renderer
  have hmirrors : ∀ {α : Type} {x : α × Renderer D₁} {y : α × Renderer D₂},
      Mirrors (Renderer.Alike Same good) x y → ∀ tell : α → Reply, tell x.1 = tell y.1 ∧
        ({ e with renderer := x.2 } : Engine D₁).Alike fed Same good { e' with renderer := y.2 } :=
    fun hxy tell => ⟨congrArg tell hxy.1, h.withRenderer hxy.2⟩
  cases hook with
  | loadPass pass =>
    exact hmirrors (Renderer.loadPrograms_mirrors T.toTwins hr pass.programs) .bound
  | bindPass scene effect pass =>
    exact hmirrors (Renderer.bindPass_mirrors T.toTwins hr (scene_alike scene) effect pass) .bound
  | unbindPass => exact ⟨rfl, h.withRenderer (Renderer.unbindPass_alike T.toTwins hr)⟩
  | applyParameter scene id =>
    exact ⟨rfl, h.withRenderer (Renderer.applyParameter_alike T.toTwins hr (scene_alike scene) id)⟩
  | connectTexture textures id texture =>
    have hwritten := write_alike h id (.texture (some texture))
    have hscene : Scene.Alike fed ⟨(e.write id (.texture (some texture))).parameters, textures⟩
        ⟨(e'.write id (.texture (some texture))).parameters, textures⟩ :=
      ⟨hwritten.parameters, rfl⟩
    obtain ⟨hresult, halike⟩ := Renderer.connected_mirrors T.toTwins hwritten.renderer hscene id
    exact ⟨congrArg Reply.connected hresult, hwritten.withRenderer halike⟩
  | drawEffect scene effect geometry =>
    refine hmirrors (Renderer.drawEffect_mirrors T hr (scene_alike scene) hhook.1 ?_) .reported
    intro t ht
    obtain ⟨index, _, hget⟩ := Option.bind_eq_some_iff.mp ht
    exact hhook.2 t (List.mem_of_getElem? hget)
  | drawTechnique scene effect technique geometry =>
    exact hmirrors (Renderer.drawTechnique_mirrors T hr (scene_alike scene) effect hhook.1 hhook.2)
      .reported

end Engine

namespace Host

/-- Two hosts whose sessions are alike, and that keep the same parameters alive. -/
structure Alike (fed : Set ParameterId) (Same : D₁ → D₂ → Prop) (good : FullscreenQuad → Prop)
    (host : Host D₁) (host' : Host D₂) : Prop where
  session : host.session.Alike fed Same good host'.session
  held : host'.held = host.held

variable {host : Host D₁} {host' : Host D₂}

omit [Device D₁] [Device D₂] in
theorem Alike.engine (h : host.Alike fed Same good host') :
    host.engine.Alike fed Same good host'.engine := h.session.engine

omit [Device D₁] [Device D₂] in
theorem Alike.withSession (h : host.Alike fed Same good host') {s : Session D₁} {s' : Session D₂}
    (hs : s.Alike fed Same good s') :
    Alike fed Same good { host with session := s } { host' with session := s' } := ⟨hs, h.held⟩

omit [Device D₁] [Device D₂] in
theorem Alike.withEngine (h : host.Alike fed Same good host') {e : Engine D₁} {e' : Engine D₂}
    (he : e.Alike fed Same good e') :
    (host.withEngine e).Alike fed Same good (host'.withEngine e') :=
  ⟨h.session.withEngine he, h.held⟩

omit [Device D₁] [Device D₂] in
theorem Alike.withParameters (h : host.Alike fed Same good host') {ps ps' : Parameters}
    (hps : ps.Alike fed ps') :
    (host.withEngine { host.engine with parameters := ps }).Alike fed Same good
      (host'.withEngine { host'.engine with parameters := ps' }) :=
  h.withEngine (h.engine.withParameters hps)

/-- Two hosts that do the same are told the same, and stay alike. -/
theorem tell_mirrors (T : DrawTwins fed Same good ok drawn) (L : LinkTwins Same fit blank loads)
    (h : host.Alike fed Same good host') {op : SessionOp} {now now' : Int}
    (hop : op.Modest fit blank loads ok drawn host.engine.compiler)
    (hvetted : Session.Vetted ok host.effects) (hfeeds : host.session.Feeds fed now now')
    (hclosed : (host.tell (op, now)).2.engine.parameters.Closed fed) :
    Mirrors (Alike fed Same good) (host.tell (op, now)) (host'.tell (op, now')) := by
  have hsession : ∀ {α : Type} {x : α × Session D₁} {y : α × Session D₂},
      Mirrors (Session.Alike fed Same good) x y → ∀ tell : α → Reply,
        Mirrors (Alike fed Same good) (tell x.1, { host with session := x.2 })
          (tell y.1, { host' with session := y.2 }) :=
    fun hxy tell => ⟨congrArg tell hxy.1, h.withSession hxy.2⟩
  have hengine : ∀ {α : Type} {x : α × Engine D₁} {y : α × Engine D₂},
      Mirrors (Engine.Alike fed Same good) x y → ∀ tell : α → Reply,
        Mirrors (Alike fed Same good) (tell x.1, host.withEngine x.2)
          (tell y.1, host'.withEngine y.2) :=
    fun hxy tell => ⟨congrArg tell hxy.1, h.withEngine hxy.2⟩
  cases op with
  | load name text => exact hsession (Session.load_mirrors L h.session name hop hclosed) .loaded
  | loadFile path => exact hsession (Session.loadFile_mirrors L h.session hop hclosed) .loaded
  | unload handle => exact hsession (Session.unload_mirrors T.toTwins h.session handle) .unloaded
  | connect handle parameter texture =>
    exact hsession (Session.connect_mirrors T.toTwins h.session handle parameter texture) .connected
  | createTexture name desc =>
    exact hengine (Engine.createTexture_mirrors L h.engine name hop) .texture
  | createVirtual name type =>
    exact hengine (Engine.createVirtual_mirrors h.engine name type) .parameter
  | attach target source =>
    have hattach := h.engine.parameters.attach target source fun qs hqs => by
      simp only [tell, SessionOp.onDevice, stepHook, step, Parameters.perform, hqs] at hclosed
      exact hclosed
    rcases hattach with ⟨error, ha, ha'⟩ | ⟨qs, qs', ha, ha', halike⟩ <;>
      simp only [tell, reply, SessionOp.onDevice, stepHook, step, Parameters.perform, ha, ha']
    · exact ⟨rfl, h.withParameters h.engine.parameters⟩
    · exact ⟨rfl, h.withParameters halike⟩
  | detach target source => exact ⟨rfl, h.withParameters (h.engine.parameters.detach target source)⟩
  | write id w => exact ⟨rfl, h.withEngine (Engine.write_alike h.engine id w)⟩
  | hold id =>
    refine ⟨rfl, ?_⟩
    simp only [tell, SessionOp.onDevice, stepHook, step, h.engine.parameters.alive]
    split_ifs
    · have hretained := h.withParameters (h.engine.parameters.retain id)
      exact ⟨hretained.session, congrArg (id :: ·) h.held⟩
    · exact h
  | drop id =>
    refine ⟨rfl, ?_⟩
    simp only [tell, SessionOp.onDevice, stepHook, step, h.held]
    split_ifs
    · have hreleased := h.withParameters (h.engine.parameters.release id)
      exact ⟨hreleased.session, rfl⟩
    · exact h
  | frame geometry =>
    exact hsession (Session.renderFrame_mirrors T h.session hfeeds hop hvetted) .drawn
  | hook hook =>
    obtain ⟨hreply, halike⟩ := Engine.hook_mirrors T h.engine hop
    exact ⟨hreply, h.withEngine halike⟩

/-- Nothing is fed and the instants are the same, or the time is fed all along. -/
def Feeds (fed : Set ParameterId) (host : Host D₁) (steps steps' : List (SessionOp × Int)) : Prop :=
  fed = ∅ ∧ steps' = steps ∨ ∀ host₁ ∈ host.trace steps, host₁.session.FeedsTime fed

omit [Device D₁] in
theorem vetted_of_owned (h : host.Alike fed Same good host')
    (howned : host'.engine.Owned host'.held) :
    Session.Vetted (fun pass => Accepted D₂ pass.programs) host.effects := by
  intro effect heffect
  unfold effects at heffect
  rw [← h.engine.effects] at heffect
  exact (howned.compiled_of_mem heffect).accepted

/-- Two hosts that do the same one after the other, each by its own clock, are told the
same, and stay alike. -/
theorem converse_mirrors (T : DrawTwins fed Same good (fun pass => Accepted D₂ pass.programs) drawn)
    (L : LinkTwins Same fit blank loads) (h : host.Alike fed Same good host')
    (howned : host'.engine.Owned host'.held) {steps steps' : List (SessionOp × Int)}
    (hsteps : steps'.map Prod.fst = steps.map Prod.fst)
    (hmodest : ∀ x ∈ steps, x.1.Modest fit blank loads (fun pass => Accepted D₂ pass.programs)
      drawn host.engine.compiler)
    (hfeeds : host.Feeds fed steps steps') :
    Mirrors (Alike fed Same good) (host.converse steps) (host'.converse steps') := by
  induction steps generalizing host host' steps' with
  | nil =>
    obtain rfl := List.map_eq_nil_iff.mp hsteps
    exact ⟨rfl, h⟩
  | cons x rest ih =>
    obtain ⟨y, rest', rfl, hop, hrest⟩ := List.map_eq_cons_iff.mp hsteps
    obtain ⟨_, now⟩ := x
    obtain ⟨op, now'⟩ := y
    obtain rfl : op = _ := hop
    -- the first operation, and those that follow it, are fed as the whole is
    have hfirst : host.session.Feeds fed now now' := by
      rcases hfeeds with ⟨hnothing, hsame⟩ | hfed
      · cases hsame
        exact Or.inl ⟨hnothing, rfl⟩
      · exact Or.inr (hfed host (host.mem_trace_self _))
    have hothers : (host.tell (op, now)).2.Feeds fed rest rest' := by
      rcases hfeeds with ⟨hnothing, hsame⟩ | hfed
      · cases hsame
        exact Or.inl ⟨hnothing, rfl⟩
      · exact Or.inr fun host₁ hmem => hfed host₁ (List.mem_cons_of_mem host hmem)
    have hclosed : (host.tell (op, now)).2.engine.parameters.Closed fed := by
      rcases hothers with ⟨hnothing, _⟩ | hfed
      · rw [hnothing]
        exact fun a _ ha => absurd ha (Set.notMem_empty a)
      · exact (hfed _ (mem_trace_self _ rest)).closed
    obtain ⟨reply, host₁, host₁', h₁, h₁', halike⟩ := (tell_mirrors T L h
      (hmodest _ List.mem_cons_self) (vetted_of_owned h howned) hfirst hclosed).split
    have howned' := stepHook_owned howned Empty.elim (op.onDevice now')
    have hcompiler := host.stepHook_compiler Empty.elim (op.onDevice now)
    obtain rfl : (host.tell (op, now)).2 = host₁ := congrArg Prod.snd h₁
    obtain rfl : (host'.tell (op, now')).2 = host₁' := congrArg Prod.snd h₁'
    obtain ⟨replies, host₂, host₂', h₂, h₂', hlast⟩ := (ih halike howned' hrest (fun z hz => by
      rw [show (host.tell (op, now)).2.engine.compiler = host.engine.compiler from hcompiler]
      exact hmodest z (List.mem_cons_of_mem _ hz)) hothers).split
    rw [converse, converse, h₁, h₁']
    simp only [h₂, h₂']
    exact ⟨rfl, hlast⟩

end Host

/-! ## What the time is handed on to -/

/-- The parameter for the time, and what at some point was attached to one that the time
had been handed on to. -/
inductive FedByTime {D : Type} (hosts : List (Host D)) : ParameterId → Prop
  | time {host : Host D} {builtins : Builtins} (hhost : host ∈ hosts)
    (h : host.session.builtins = some builtins) : FedByTime hosts builtins.time
  | handedOn {host : Host D} {a b : ParameterId} (ha : FedByTime hosts a) (hhost : host ∈ hosts)
    (h : host.engine.parameters.Edge a b) : FedByTime hosts b

theorem feeds_fedByTime (host : Host D₁) (steps steps' : List (SessionOp × Int)) :
    host.Feeds {id | FedByTime (host.trace steps) id} steps steps' :=
  Or.inr fun _ hhost => ⟨fun _ _ ha hab => .handedOn ha hhost hab, fun _ h => .time hhost h⟩

end ShaderEffects
