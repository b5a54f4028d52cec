import Mathlib.Data.List.Forall2
import Mathlib.Tactic.SplitIfs
import ShaderEffects.Json.Reader

/-!
# Records and their images

Two readers of records may differ in nothing but what they store. If a function takes what the one
stores to what the other stores, it takes what the one reads from a text to what the other reads
from it, and both refuse the same texts for the same reasons.
-/
namespace ShaderEffects.Json

variable {α β γ : Type} {φ : α → β}

namespace Reader

/-- A field of a record, and one of its image that reads the same and stores the image. -/
structure Field.Maps (φ : α → β) (f : Field α) (g : Field β) : Prop where
  name : f.name = g.name
  required : f.required = g.required
  read : ∀ depth a, g.read depth (φ a) = φ <$> f.read depth a

theorem Field.Maps.of {name : String} {required : Bool} {read : Reader γ} {store : γ → α → α}
    {store' : γ → β → β} (h : ∀ c a, store' c (φ a) = φ (store c a)) :
    Field.Maps φ (.of name required read store) (.of name required read store') where
  name := rfl
  required := rfl
  read depth a := by
    simp only [Field.of, h, map_bind, map_pure]

/-- The first field that a property of its name and necessity singles out is mapped to the first
such image, if there is one. -/
theorem find?_maps {fields : List (Field α)} {images : List (Field β)}
    (h : List.Forall₂ (Field.Maps φ) fields images) (p : String → Bool → Bool) :
    ((fields.find? fun f => p f.name f.required) = none ∧
        (images.find? fun g => p g.name g.required) = none) ∨
      ∃ f g, (fields.find? fun f => p f.name f.required) = some f ∧
        (images.find? fun g => p g.name g.required) = some g ∧ Field.Maps φ f g := by
  induction h with
  | nil => exact .inl ⟨rfl, rfl⟩
  | @cons f g fields images hfg _ ih =>
    rw [List.find?_cons, List.find?_cons, hfg.name, hfg.required]
    cases p g.name g.required with
    | true => exact .inr ⟨f, g, rfl, rfl, hfg⟩
    | false => exact ih

theorem map_refuseKey (mismatch : Mismatch) :
    φ <$> (refuseKey mismatch : Scan α) = refuseKey mismatch := by
  simp only [refuseKey, map_bind]
  congr 1
  funext next
  split_ifs
  · simp only [map_bind]
    rfl
  · rfl

theorem fieldsByName_map {fields : List (Field α)} {images : List (Field β)}
    (h : List.Forall₂ (Field.Maps φ) fields images) (depth : Nat) (bound : List Char)
    (first : Bool) (seen : List String) (a : α) :
    fieldsByName images depth bound first seen (φ a)
      = φ <$> fieldsByName fields depth bound first seen a := by
  induction bound generalizing first seen a with
  | nil => rfl
  | cons _ bound ih =>
    -- What is scanned up to the choice of a field is the same; from there on the two differ in
    -- the record under construction alone, which is general in the induction.
    simp only [fieldsByName, map_bind]
    congr 1
    funext more
    cases more with
    | false =>
      simp only [Bool.false_eq_true, if_false, map_bind]
      congr 1
      funext _
      obtain ⟨hf, hg⟩ | ⟨f, g, hf, hg, hfg⟩ :=
        find?_maps h fun name required => required && !seen.contains name
      · simp only [hf, hg, map_pure]
      · simp only [hf, hg, hfg.name]
        rfl
    | true =>
      simp only [if_true, map_bind]
      congr 1
      funext name
      obtain ⟨hf, hg⟩ | ⟨f, g, hf, hg, hfg⟩ := find?_maps h fun other _ => other = name
      · simp only [hf, hg, ih, map_bind]
      · simp only [hf, hg]
        split_ifs
        · exact (map_refuseKey _).symm
        · simp only [hfg.read, ih, map_bind, bind_map_left]

theorem fieldsInOrder_map {fields : List (Field α)} {images : List (Field β)}
    (h : List.Forall₂ (Field.Maps φ) fields images) (type : String) (count depth index : Nat)
    (a : α) :
    fieldsInOrder type count depth index images (φ a)
      = φ <$> fieldsInOrder type count depth index fields a := by
  induction h generalizing index a with
  | nil => simp only [fieldsInOrder, map_bind, map_pure]
  | @cons f g fields images hfg _ ih =>
    simp only [fieldsInOrder, map_bind, hfg.required]
    congr 1
    funext more
    split_ifs
    · simp only [hfg.read, ih, map_bind, bind_map_left]
    · simp only [map_bind]
      rfl
    · exact ih (index + 1) a

/-- Fields that are mapped to each other read a record and its image from the same texts. -/
theorem record_map {fields : List (Field α)} {images : List (Field β)}
    (h : List.Forall₂ (Field.Maps φ) fields images) (type : String) (a : α) (depth : Nat) :
    record type images (φ a) depth = φ <$> record type fields a depth := by
  simp only [record, map_bind]
  congr 1
  funext c
  split
  · cases depth with
    | zero => rfl
    | succ depth => simp only [Scan.descend, fieldsByName_map h, map_bind]
  · cases depth with
    | zero => rfl
    | succ depth => simp only [Scan.descend, h.length_eq, fieldsInOrder_map h, map_bind]
  · simp only [Scan.expect, map_bind]
    rfl

end Reader

/-- A reader of images reads the images of what is read, and refuses what is refused. -/
theorem read_map {reader : Reader α} {image : Reader β}
    (h : ∀ depth, image depth = φ <$> reader depth) (text : String) :
    read image text = (read reader text).map φ := by
  change _ = φ <$> read reader text
  simp only [read, h, bind_map_left, StateT.run'_eq, StateT.run_bind, map_bind]
  congr 1
  funext a
  congr 1
  funext next
  cases next.1 <;> rfl

end ShaderEffects.Json
