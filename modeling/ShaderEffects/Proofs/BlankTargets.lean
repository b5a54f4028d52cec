import Mathlib.Algebra.Ring.Nat
import Mathlib.Data.List.Basic
import ShaderEffects.Annotation.Directive

/-!
# What size and format describe

Size and format describe a blank target exactly if the size is an integer or a list of one to
three of them, each a word of 32 bits that is not zero, and the format has a spelling that is
known. Otherwise the first thing that is wrong is reported: the size comes before the format, and
the number of components and a zero among them come last.
-/
namespace ShaderEffects

/-- The sizes that a value gives: an integer or a list of integers, each a word of 32 bits. -/
inductive AnnotationValue.Gives : AnnotationValue → List Nat → Prop where
  | one {n : Nat} (h : n < 2 ^ 32) : Gives (.int n) [n]
  | list {ns : List Nat} (h : ∀ n ∈ ns, n < 2 ^ 32) : Gives (.ints (ns.map (↑))) ns

namespace AnnotationValue

theorem word?_eq_some_iff {n : Int} {w : Nat} : word? n = some w ↔ n = w ∧ w < 2 ^ 32 := by
  have hpow : (Nat.pow 2 32 : Nat) = 2 ^ 32 := rfl
  unfold word?
  rw [hpow]
  split_ifs with h
  · rw [Option.some.injEq]
    omega
  · simp only [false_iff]
    omega

theorem mapM_word?_eq_some_iff {ns : List Int} {size : List Nat} :
    ns.mapM word? = some size ↔ ns = size.map (↑) ∧ ∀ n ∈ size, n < 2 ^ 32 := by
  induction ns generalizing size with
  | nil => cases size <;> simp
  | cons n ns ih =>
    simp only [List.mapM_cons, Option.bind_eq_bind, Option.bind_eq_some_iff, word?_eq_some_iff, ih,
      Option.pure_def, Option.some.injEq]
    constructor
    · rintro ⟨w, ⟨rfl, hw⟩, rest, ⟨rfl, hrest⟩, rfl⟩
      exact ⟨rfl, List.forall_mem_cons.mpr ⟨hw, hrest⟩⟩
    · rintro ⟨hns, hsize⟩
      cases size with
      | nil => cases hns
      | cons w rest =>
        obtain ⟨rfl, rfl⟩ := List.cons.inj hns
        obtain ⟨hw, hrest⟩ := List.forall_mem_cons.mp hsize
        exact ⟨w, ⟨rfl, hw⟩, rest, ⟨rfl, hrest⟩, rfl⟩

theorem dimensions?_eq_some_iff {value : AnnotationValue} {size : List Nat} :
    value.dimensions? = some size ↔ value.Gives size := by
  constructor
  · intro h
    cases value with
    | int n =>
      obtain ⟨w, hw, hsize⟩ := Option.map_eq_some_iff.mp h
      obtain ⟨rfl, hlt⟩ := word?_eq_some_iff.mp hw
      subst hsize
      exact .one hlt
    | ints ns =>
      obtain ⟨rfl, hlt⟩ := mapM_word?_eq_some_iff.mp h
      exact .list hlt
    | bool | float | string | floats => cases h
  · rintro (h | h)
    · rw [dimensions?, word?_eq_some_iff.mpr ⟨rfl, h⟩, Option.map_some]
    · exact mapM_word?_eq_some_iff.mpr ⟨rfl, h⟩

theorem text?_eq_none {value : AnnotationValue} (h : ∀ text, value ≠ .string text) :
    value.text? = none := by
  cases value with
  | string text => exact absurd rfl (h text)
  | _ => rfl

end AnnotationValue

namespace TextureDesc

/-- One to three components, none of them zero, make a description, where what is left out counts
as one. -/
theorem ofSize?_eq_some_iff_padded {size : List Nat} {format : TextureFormat}
    {desc : TextureDesc} :
    ofSize? size format = some desc ↔
      (1 ≤ size.length ∧ size.length ≤ 3) ∧ (∀ n ∈ size, 1 ≤ n) ∧
        desc = ⟨size.getD 0 1, size.getD 1 1, size.getD 2 1, false, format⟩ := by
  rw [ofSize?_eq_some_iff]
  match size with
  | [] => simp [extent?]
  | [w] | [w, h] | [w, h, d] => simp [extent?, Nat.one_le_iff_ne_zero, and_assoc]
  | _ :: _ :: _ :: _ :: rest => simp [extent?]

theorem ofSize?_eq_none_iff {size : List Nat} {format : TextureFormat} :
    ofSize? size format = none ↔ size = [] ∨ 3 < size.length ∨ 0 ∈ size := by
  rw [← Option.not_isSome_iff_eq_none, Option.isSome_iff_exists]
  simp only [ofSize?_eq_some_iff_padded, ← and_assoc, exists_and_left, exists_eq, and_true,
    ← List.length_eq_zero_iff]
  have hzero : (∀ n ∈ size, 1 ≤ n) ↔ 0 ∉ size :=
    ⟨fun h hmem => absurd (h 0 hmem) (by decide),
      fun h n hn => Nat.one_le_iff_ne_zero.mpr fun heq => h (heq ▸ hn)⟩
  rw [hzero]
  by_cases hmem : 0 ∈ size <;> simp only [hmem, not_true_eq_false, not_false_eq_true, and_true,
    and_false, or_true, or_false]
  omega

end TextureDesc

namespace Annotations

variable {annotations : Annotations}

/-- What stands under `size` gives these components. -/
def Sizes (annotations : Annotations) (size : List Nat) : Prop :=
  ∃ value, annotations.get? "size" = some value ∧ value.Gives size

/-- What stands under `format` is a spelling of this format. -/
def Formats (annotations : Annotations) (format : TextureFormat) : Prop :=
  ∃ spelling, annotations.get? "format" = some (.string spelling) ∧
    TextureFormat.ofSpelling? spelling = some format

/-- Size and format describe a blank target. -/
def Describes (annotations : Annotations) (desc : TextureDesc) : Prop :=
  ∃ size format, annotations.Sizes size ∧ annotations.Formats format ∧
    (1 ≤ size.length ∧ size.length ≤ 3) ∧ (∀ n ∈ size, 1 ≤ n) ∧
      desc = ⟨size.getD 0 1, size.getD 1 1, size.getD 2 1, false, format⟩

/-- What is wrong with size and format. Nothing is said of a format as long as the size gives no
components, and nothing of their number before the format is known. -/
inductive Blames (annotations : Annotations) : BlankFault → Prop where
  | missingSize (h : annotations.get? "size" = none) : Blames annotations .missingSize
  | badSize {value : AnnotationValue} (h : annotations.get? "size" = some value)
      (hno : ∀ size, ¬ value.Gives size) : Blames annotations .badSize
  | missingFormat {size : List Nat} (hsize : annotations.Sizes size)
      (h : annotations.get? "format" = none) : Blames annotations .missingFormat
  | badFormat {size : List Nat} {value : AnnotationValue} (hsize : annotations.Sizes size)
      (h : annotations.get? "format" = some value) (hno : ∀ spelling, value ≠ .string spelling) :
      Blames annotations .badFormat
  | unknownFormat {size : List Nat} {spelling : String} (hsize : annotations.Sizes size)
      (h : annotations.get? "format" = some (.string spelling))
      (hno : TextureFormat.ofSpelling? spelling = none) :
      Blames annotations (.unknownFormat spelling)
  | invalidSize {size : List Nat} {format : TextureFormat} (hsize : annotations.Sizes size)
      (hformat : annotations.Formats format)
      (h : size = [] ∨ 3 < size.length ∨ 0 ∈ size) : Blames annotations (.invalidSize size)

end Annotations

namespace Directive

variable {annotations : Annotations}

theorem blankTarget_of_describes {desc : TextureDesc} (h : annotations.Describes desc) :
    blankTarget annotations = .ok desc := by
  obtain ⟨size, format, ⟨value, hvalue, hgives⟩, ⟨spelling, hformat, hspelling⟩, hdesc⟩ := h
  have hsize := AnnotationValue.dimensions?_eq_some_iff.mpr hgives
  have hmade := TextureDesc.ofSize?_eq_some_iff_padded.mpr hdesc
  simp only [blankTarget, hvalue, hsize, hformat, AnnotationValue.text?, hspelling, hmade]

theorem blankTarget_of_blames {fault : BlankFault} (h : annotations.Blames fault) :
    blankTarget annotations = .error fault := by
  cases h with
  | missingSize h => simp only [blankTarget, h]
  | badSize h hno =>
    have hsize : AnnotationValue.dimensions? _ = none := Option.eq_none_iff_forall_not_mem.mpr
      fun size hmem => hno size (AnnotationValue.dimensions?_eq_some_iff.mp hmem)
    simp only [blankTarget, h, hsize]
  | missingFormat hsize h =>
    obtain ⟨value, hvalue, hgives⟩ := hsize
    simp only [blankTarget, hvalue, AnnotationValue.dimensions?_eq_some_iff.mpr hgives, h]
  | badFormat hsize h hno =>
    obtain ⟨value, hvalue, hgives⟩ := hsize
    simp only [blankTarget, hvalue, AnnotationValue.dimensions?_eq_some_iff.mpr hgives, h,
      AnnotationValue.text?_eq_none hno]
  | unknownFormat hsize h hno =>
    obtain ⟨value, hvalue, hgives⟩ := hsize
    simp only [blankTarget, hvalue, AnnotationValue.dimensions?_eq_some_iff.mpr hgives, h,
      AnnotationValue.text?, hno]
  | invalidSize hsize hformat h =>
    obtain ⟨value, hvalue, hgives⟩ := hsize
    obtain ⟨spelling, hformat, hspelling⟩ := hformat
    simp only [blankTarget, hvalue, AnnotationValue.dimensions?_eq_some_iff.mpr hgives, hformat,
      AnnotationValue.text?, hspelling, TextureDesc.ofSize?_eq_none_iff.mpr h]

theorem describes_or_blames_of_sizes {size : List Nat} (hsize : annotations.Sizes size) :
    (∃ desc, annotations.Describes desc) ∨ ∃ fault, annotations.Blames fault := by
  cases hformat : annotations.get? "format" with
  | none => exact Or.inr ⟨_, .missingFormat hsize hformat⟩
  | some value =>
    by_cases htext : ∃ spelling, value = .string spelling
    · obtain ⟨spelling, rfl⟩ := htext
      cases hspelling : TextureFormat.ofSpelling? spelling with
      | none => exact Or.inr ⟨_, .unknownFormat hsize hformat hspelling⟩
      | some format =>
        have hformats : annotations.Formats format := ⟨spelling, hformat, hspelling⟩
        cases hmade : TextureDesc.ofSize? size format with
        | none =>
          exact Or.inr ⟨_, .invalidSize hsize hformats (TextureDesc.ofSize?_eq_none_iff.mp hmade)⟩
        | some desc =>
          exact Or.inl ⟨desc, size, format, hsize, hformats,
            TextureDesc.ofSize?_eq_some_iff_padded.mp hmade⟩
    · exact Or.inr ⟨_, .badFormat hsize hformat (not_exists.mp htext)⟩

/-- Either a target is described or something is wrong. -/
theorem describes_or_blames (annotations : Annotations) :
    (∃ desc, annotations.Describes desc) ∨ ∃ fault, annotations.Blames fault := by
  cases hsize : annotations.get? "size" with
  | none => exact Or.inr ⟨_, .missingSize hsize⟩
  | some value =>
    by_cases hgives : ∃ size, value.Gives size
    · obtain ⟨size, hgives⟩ := hgives
      exact describes_or_blames_of_sizes ⟨value, hsize, hgives⟩
    · exact Or.inr ⟨_, .badSize hsize (not_exists.mp hgives)⟩

theorem blankTarget_eq_ok_iff {desc : TextureDesc} :
    blankTarget annotations = .ok desc ↔ annotations.Describes desc := by
  refine ⟨fun h => ?_, blankTarget_of_describes⟩
  rcases describes_or_blames annotations with ⟨desc', hdesc⟩ | ⟨fault, hfault⟩
  · obtain rfl := Except.ok.inj (h.symm.trans (blankTarget_of_describes hdesc))
    exact hdesc
  · exact absurd (h.symm.trans (blankTarget_of_blames hfault)) nofun

theorem blankTarget_eq_error_iff {fault : BlankFault} :
    blankTarget annotations = .error fault ↔ annotations.Blames fault := by
  refine ⟨fun h => ?_, blankTarget_of_blames⟩
  rcases describes_or_blames annotations with ⟨desc, hdesc⟩ | ⟨fault', hfault⟩
  · exact absurd (h.symm.trans (blankTarget_of_describes hdesc)) nofun
  · obtain rfl := Except.error.inj (h.symm.trans (blankTarget_of_blames hfault))
    exact hfault

end Directive

end ShaderEffects
