import ShaderEffects.Proofs.BlankTargets

/-!
# What directives stand for

Annotations give at most one directive on each of three matters: the parameter to follow, the
texture to sample and the texture to draw into. Each is there exactly if a key for it is, and
says what stands under the first such key. A texture to sample comes with a blank target exactly
if size and format describe one, and with the first thing that is wrong with them otherwise.
-/
namespace ShaderEffects

/-- What a directive is about. -/
inductive Matter where
  | link
  | texture
  | target
deriving DecidableEq

/-- The matters in the order of their directives. -/
def Matter.all : List Matter := [.link, .texture, .target]

/-- What a key is for. -/
def NameKey.matter : NameKey → Matter
  | .global | .parameter => .link
  | .texture => .texture
  | .target => .target

theorem NameKey.exists_iff {P : NameKey → Prop} :
    (∃ key, P key) ↔ P .global ∨ P .parameter ∨ P .texture ∨ P .target := by
  constructor
  · rintro ⟨key, h⟩
    cases key <;> simp [h]
  · rintro (h | h | h | h) <;> exact ⟨_, h⟩

/-- What a directive is about. -/
def Directive.matter : Directive → Matter
  | .globalLink _ => .link
  | .texture _ _ => .texture
  | .target _ => .target
  | .malformed key => key.matter

/-- What a key asks for under which a name stands. -/
def Directive.named (annotations : Annotations) : NameKey → String → Directive
  | .global, name | .parameter, name => .globalLink name
  | .texture, name => .texture name (blankTarget annotations)
  | .target, name => .target name

theorem Directive.matter_named (annotations : Annotations) (key : NameKey) (name : String) :
    (named annotations key name).matter = key.matter := by
  cases key <;> rfl

namespace Annotations

variable {annotations : Annotations}

/-- The value under a key counts: a link is asked for under `parameter` only where there is no
`global`. -/
structure Counts (annotations : Annotations) (key : NameKey) (value : AnnotationValue) : Prop where
  stands : annotations.get? key.text = some value
  first : key = .parameter → annotations.get? NameKey.global.text = none

theorem counts_iff {key : NameKey} {value : AnnotationValue} :
    annotations.Counts key value ↔ annotations.get? key.text = some value ∧
      (key = .parameter → annotations.get? NameKey.global.text = none) :=
  ⟨fun h => ⟨h.stands, h.first⟩, fun h => ⟨h.1, h.2⟩⟩

/-- What annotations ask for: what a key asks for with the string that stands under it, or
nothing that can be told from a value that is no string. -/
inductive Asks (annotations : Annotations) : Directive → Prop where
  | named {key : NameKey} {name : String} (h : annotations.Counts key (.string name)) :
      Asks annotations (.named annotations key name)
  | malformed {key : NameKey} {value : AnnotationValue} (h : annotations.Counts key value)
      (hno : ∀ name, value ≠ .string name) : Asks annotations (.malformed key)

end Annotations

namespace Directive

variable {annotations : Annotations} {directive : Directive}

/-! ## One directive for each matter -/

/-- What stands under a key, as a directive. -/
def reading (annotations : Annotations) (key : NameKey) : AnnotationValue → Directive
  | .string name => .named annotations key name
  | _ => .malformed key

theorem matter_reading (annotations : Annotations) (key : NameKey) (value : AnnotationValue) :
    (reading annotations key value).matter = key.matter := by
  cases value <;> first | exact matter_named annotations key _ | rfl

theorem asks_iff : annotations.Asks directive ↔
    ∃ key value, annotations.Counts key value ∧ directive = reading annotations key value := by
  constructor
  · rintro (⟨h⟩ | ⟨h, hno⟩)
    · exact ⟨_, _, h, rfl⟩
    · refine ⟨_, _, h, ?_⟩
      unfold reading
      split
      · exact absurd rfl (hno _)
      · rfl
  · rintro ⟨key, value, h, rfl⟩
    cases value with
    | string name => exact .named h
    | _ => exact .malformed h (by simp)

/-- The directive on a matter. -/
def on? (annotations : Annotations) : Matter → Option Directive
  | .link => (under .global).or (under .parameter)
  | .texture => under .texture
  | .target => under .target
where
  under (key : NameKey) : Option Directive :=
    (annotations.get? key.text).map (reading annotations key)

theorem underKey_eq (annotations : Annotations) (key : NameKey) :
    underKey annotations key (named annotations key) = on?.under annotations key := by
  unfold underKey on?.under
  congr 1
  funext value
  cases value <;> rfl

theorem ofAnnotations_eq (annotations : Annotations) :
    ofAnnotations annotations = Matter.all.filterMap (on? annotations) := by
  have hlink : (underKey annotations .global .globalLink
      <|> underKey annotations .parameter .globalLink) = on? annotations .link := by
    rw [on?, ← underKey_eq, ← underKey_eq]
    exact Option.orElse_eq_or
  have htexture : (underKey annotations .texture fun name =>
      .texture name (blankTarget annotations)) = on? annotations .texture :=
    underKey_eq annotations .texture
  have htarget : underKey annotations .target .target = on? annotations .target :=
    underKey_eq annotations .target
  rw [ofAnnotations, hlink, htexture, htarget]
  rfl

/-- A directive is what a key says that counts for its matter. -/
theorem matter_and_asks_iff {matter : Matter} :
    directive.matter = matter ∧ annotations.Asks directive ↔
      ∃ key value, key.matter = matter ∧ annotations.Counts key value ∧
        directive = reading annotations key value := by
  rw [asks_iff]
  constructor
  · rintro ⟨rfl, key, value, h, rfl⟩
    exact ⟨key, value, (matter_reading annotations key value).symm, h, rfl⟩
  · rintro ⟨key, value, rfl, h, rfl⟩
    exact ⟨matter_reading annotations key value, key, value, h, rfl⟩

theorem on?_eq_some_iff {matter : Matter} :
    on? annotations matter = some directive ↔
      directive.matter = matter ∧ annotations.Asks directive := by
  rw [matter_and_asks_iff, NameKey.exists_iff]
  cases matter with
  | link =>
    cases hglobal : annotations.get? NameKey.global.text <;>
      simp [on?, on?.under, NameKey.matter, Annotations.counts_iff, hglobal,
        eq_comm (a := directive)]
  | texture | target =>
    simp [on?, on?.under, NameKey.matter, Annotations.counts_iff, eq_comm (a := directive)]

/-- The first directive that a question about one matter finds is the one on it. -/
theorem findSome?_ofAnnotations {β : Type} (matter : Matter) {select : Directive → Option β}
    (h : ∀ directive, directive.matter ≠ matter → select directive = none) :
    (ofAnnotations annotations).findSome? select = (on? annotations matter).bind select := by
  have hother : ∀ other, other ≠ matter → (on? annotations other).bind select = none := by
    intro other hne
    refine Option.bind_eq_none_iff.mpr fun directive hon => h directive ?_
    rw [(on?_eq_some_iff.mp hon).1]
    exact hne
  rw [ofAnnotations_eq, ← List.head?_filterMap, List.filterMap_filterMap, List.head?_filterMap]
  simp only [Matter.all, List.findSome?_cons, List.findSome?_nil]
  cases matter with
  | link =>
    rw [hother .texture nofun, hother .target nofun]
    cases (on? annotations .link).bind select <;> rfl
  | texture =>
    rw [hother .link nofun, hother .target nofun]
    cases (on? annotations .texture).bind select <;> rfl
  | target =>
    rw [hother .link nofun, hother .texture nofun]
    cases (on? annotations .target).bind select <;> rfl

theorem mem_ofAnnotations_iff :
    directive ∈ ofAnnotations annotations ↔ annotations.Asks directive := by
  rw [ofAnnotations_eq, List.mem_filterMap]
  constructor
  · rintro ⟨matter, -, hon⟩
    exact (on?_eq_some_iff.mp hon).2
  · intro h
    exact ⟨directive.matter, by cases directive.matter <;> decide, on?_eq_some_iff.mpr ⟨rfl, h⟩⟩

/-- The matters on which there is a directive stand in their order. -/
theorem map_matter_ofAnnotations (annotations : Annotations) :
    (ofAnnotations annotations).map matter =
      Matter.all.filter fun matter => (on? annotations matter).isSome := by
  rw [ofAnnotations_eq, List.map_filterMap, ← List.filterMap_eq_filter]
  refine List.filterMap_congr fun matter _ => ?_
  cases hon : on? annotations matter with
  | none => simp [Option.guard, hon]
  | some directive => simp [Option.guard, hon, (on?_eq_some_iff.mp hon).1]

/-- If there is a key for a matter, one of them counts. -/
theorem exists_counts_iff {matter : Matter} :
    (∃ key value, NameKey.matter key = matter ∧ annotations.Counts key value) ↔
      ∃ key value, NameKey.matter key = matter ∧ annotations.get? key.text = some value := by
  constructor
  · rintro ⟨key, value, hkey, h⟩
    exact ⟨key, value, hkey, h.stands⟩
  · rintro ⟨key, value, hkey, h⟩
    cases hglobal : annotations.get? NameKey.global.text with
    | none => exact ⟨key, value, hkey, h, fun _ => hglobal⟩
    | some global =>
      by_cases hparameter : key = .parameter
      · subst hparameter
        exact ⟨.global, global, hkey, hglobal, nofun⟩
      · exact ⟨key, value, hkey, h, fun heq => absurd heq hparameter⟩

/-- A question that one kind of directive answers finds the one that annotations ask for. -/
theorem findSome?_eq_some_iff {β : Type} {select : Directive → Option β} (make : β → Directive)
    (matter : Matter) (hselect : ∀ directive b, select directive = some b ↔ directive = make b)
    (hmatter : ∀ b, (make b).matter = matter) {b : β} :
    (ofAnnotations annotations).findSome? select = some b ↔ annotations.Asks (make b) := by
  rw [findSome?_ofAnnotations matter]
  · constructor
    · intro h
      obtain ⟨directive, hon, hb⟩ := Option.bind_eq_some_iff.mp h
      rw [← (hselect directive b).mp hb]
      exact (on?_eq_some_iff.mp hon).2
    · intro h
      exact Option.bind_eq_some_iff.mpr
        ⟨make b, on?_eq_some_iff.mpr ⟨hmatter b, h⟩, (hselect _ _).mpr rfl⟩
  · intro directive hne
    refine Option.eq_none_iff_forall_not_mem.mpr fun b hb => hne ?_
    rw [(hselect directive b).mp hb, hmatter]

theorem globalLink?_eq_some_iff {name : String} :
    globalLink? (ofAnnotations annotations) = some name ↔
      ∃ key, NameKey.matter key = .link ∧ annotations.Counts key (.string name) := by
  unfold globalLink?
  rw [findSome?_eq_some_iff .globalLink .link, asks_iff]
  · have hreading : ∀ key value, .globalLink name = reading annotations key value ↔
        NameKey.matter key = .link ∧ value = .string name := by
      intro key value
      cases key <;> cases value <;> simp [reading, named, NameKey.matter, eq_comm]
    simp only [hreading]
    constructor
    · rintro ⟨key, value, h, hkey, rfl⟩
      exact ⟨key, hkey, h⟩
    · rintro ⟨key, hkey, h⟩
      exact ⟨key, _, h, hkey, rfl⟩
  · intro directive b
    cases directive <;> simp
  · exact fun _ => rfl

theorem texture?_eq_some_iff {name : String} {blank : BlankTarget} :
    texture? (ofAnnotations annotations) = some (name, blank) ↔
      annotations.get? "texture" = some (.string name) ∧ blank = blankTarget annotations := by
  unfold texture?
  rw [findSome?_eq_some_iff (fun found => .texture found.1 found.2) .texture, asks_iff]
  · have hreading : ∀ key value, .texture name blank = reading annotations key value ↔
        key = .texture ∧ value = .string name ∧ blank = blankTarget annotations := by
      intro key value
      cases key <;> cases value <;> simp [reading, named, eq_comm]
    simp only [hreading]
    constructor
    · rintro ⟨key, value, h, rfl, rfl, hblank⟩
      exact ⟨h.stands, hblank⟩
    · rintro ⟨h, hblank⟩
      exact ⟨.texture, _, ⟨h, fun hkey => absurd hkey (by decide)⟩, rfl, rfl, hblank⟩
  · intro directive b
    cases directive <;> simp [Prod.ext_iff]
  · exact fun _ => rfl

theorem target?_eq_some_iff {name : String} :
    target? (ofAnnotations annotations) = some name ↔
      annotations.get? "target" = some (.string name) := by
  unfold target?
  rw [findSome?_eq_some_iff .target .target, asks_iff]
  · have hreading : ∀ key value, .target name = reading annotations key value ↔
        key = .target ∧ value = .string name := by
      intro key value
      cases key <;> cases value <;> simp [reading, named, eq_comm]
    simp only [hreading]
    constructor
    · rintro ⟨key, value, h, rfl, rfl⟩
      exact h.stands
    · intro h
      exact ⟨.target, _, ⟨h, fun hkey => absurd hkey (by decide)⟩, rfl, rfl⟩
  · intro directive b
    cases directive <;> simp
  · exact fun _ => rfl

/-! ## What annotations parse to -/

/-- The keys that directives are read from. -/
def keys : List String := ["global", "parameter", "texture", "target", "size", "format"]

theorem blankTarget_congr {other : Annotations}
    (h : ∀ key ∈ keys, annotations.get? key = other.get? key) :
    blankTarget annotations = blankTarget other := by
  rw [blankTarget, blankTarget, h "size" (by decide), h "format" (by decide)]

theorem ofAnnotations_congr {other : Annotations}
    (h : ∀ key ∈ keys, annotations.get? key = other.get? key) :
    ofAnnotations annotations = ofAnnotations other := by
  have hkey : ∀ key : NameKey, annotations.get? key.text = other.get? key.text := by
    intro key
    cases key <;> exact h _ (by decide)
  simp only [ofAnnotations, underKey, hkey, blankTarget_congr h]

/-- The directives that annotations parse to. -/
structure Parses (annotations : Annotations) (directives : List Directive) : Prop where
  /-- There is one for each matter at most, in this order. -/
  order : (directives.map matter).Sublist [.link, .texture, .target]
  present : ∀ matter, matter ∈ directives.map Directive.matter ↔
    ∃ key value, NameKey.matter key = matter ∧ annotations.get? key.text = some value
  asked : ∀ directive, directive ∈ directives ↔ annotations.Asks directive
  globalLink? : ∀ name, globalLink? directives = some name ↔
    ∃ key, NameKey.matter key = .link ∧ annotations.Counts key (.string name)
  texture? : ∀ name blank, texture? directives = some (name, blank) ↔
    annotations.get? "texture" = some (.string name) ∧ blank = blankTarget annotations
  target? : ∀ name, target? directives = some name ↔
    annotations.get? "target" = some (.string name)

theorem parses_ofAnnotations (annotations : Annotations) :
    Parses annotations (ofAnnotations annotations) where
  order := by
    rw [map_matter_ofAnnotations]
    exact List.filter_sublist
  present := by
    intro matter
    rw [← exists_counts_iff, map_matter_ofAnnotations, List.mem_filter, Option.isSome_iff_exists]
    simp only [on?_eq_some_iff, matter_and_asks_iff]
    constructor
    · rintro ⟨-, directive, key, value, hkey, h, -⟩
      exact ⟨key, value, hkey, h⟩
    · rintro ⟨key, value, hkey, h⟩
      exact ⟨by cases matter <;> decide, _, key, value, hkey, h, rfl⟩
  asked := fun _ => mem_ofAnnotations_iff
  globalLink? := fun _ => globalLink?_eq_some_iff
  texture? := fun _ _ => texture?_eq_some_iff
  target? := fun _ => target?_eq_some_iff

/-- What annotations parse to, whatever stands under keys that directives are not read from, and
when a texture to sample comes with a blank target. -/
theorem directives_parsed (annotations : Annotations) :
    Parses annotations (ofAnnotations annotations) ∧
      (∀ other : Annotations, (∀ key ∈ keys, annotations.get? key = other.get? key) →
        ofAnnotations annotations = ofAnnotations other) ∧
      (∀ desc, blankTarget annotations = .ok desc ↔ annotations.Describes desc) ∧
      ∀ fault, blankTarget annotations = .error fault ↔ annotations.Blames fault :=
  ⟨parses_ofAnnotations annotations, fun _ h => ofAnnotations_congr h,
    fun _ => blankTarget_eq_ok_iff, fun _ => blankTarget_eq_error_iff⟩

/-- Annotations that name a texture and describe it. What stands under `global` is no name, and
hides what stands under `parameter`. -/
def bloom : Annotations :=
  ⟨[("global", .int 3), ("parameter", .string "time"), ("texture", .string "bloom"),
    ("size", .ints [256, 128]), ("format", .string "rgba16f")]⟩

theorem directives_parsed_bloom :
    (∀ key ∈ keys, bloom.get? key = (bloom.insert "note" (.bool true)).get? key) ∧
      ofAnnotations bloom = ofAnnotations (bloom.insert "note" (.bool true)) ∧
      .malformed .global ∈ ofAnnotations bloom ∧ globalLink? (ofAnnotations bloom) = none ∧
      texture? (ofAnnotations bloom) = some ("bloom", .ok ⟨256, 128, 1, false, .rgba16F⟩) := by
  obtain ⟨hparses, hsame, hdescribes, -⟩ := directives_parsed bloom
  have hkeys : ∀ key ∈ keys, bloom.get? key = (bloom.insert "note" (.bool true)).get? key := by
    intro key hkey
    have hne : key ≠ "note" := by
      rintro rfl
      exact absurd hkey (by decide)
    rw [Table.get?_insert, if_neg hne]
  have hglobal : bloom.Counts .global (.int 3) := ⟨rfl, nofun⟩
  have hsize : AnnotationValue.Gives (.ints [256, 128]) [256, 128] :=
    AnnotationValue.dimensions?_eq_some_iff.mp (by decide)
  refine ⟨hkeys, hsame _ hkeys, (hparses.asked _).mpr (.malformed hglobal nofun), ?_, ?_⟩
  · refine Option.eq_none_iff_forall_not_mem.mpr fun name hname => ?_
    obtain ⟨key, hkey, hcounts⟩ := (hparses.globalLink? name).mp hname
    cases key with
    | global => exact absurd (Option.some.inj hcounts.stands) nofun
    | parameter => exact absurd (hcounts.first rfl) nofun
    | texture | target => cases hkey
  · refine (hparses.texture? _ _).mpr ⟨rfl, ((hdescribes _).mpr ?_).symm⟩
    exact ⟨[256, 128], .rgba16F, ⟨_, rfl, hsize⟩, ⟨"rgba16f", rfl, by decide +kernel⟩,
      by decide, by decide, rfl⟩

end Directive

end ShaderEffects
