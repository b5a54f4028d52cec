import ShaderEffects.Texture.Format

/-!
# Texture descriptions

The extent and format of a texture, and how a description is made from the
components of an annotation.
-/

namespace ShaderEffects

/-- The extent of a texture in texels, and the format of each of them. -/
structure TextureDesc where
  width : Nat
  height : Nat
  depth : Nat
  mipmaps : Bool
  format : TextureFormat
deriving DecidableEq, Repr

namespace TextureDesc

/-- A target of one level and two dimensions, at least one texel wide and high. -/
def target (width height : Nat) (format : TextureFormat) : TextureDesc :=
  ⟨max width 1, max height 1, 1, false, format⟩

/-- The width, height and depth that one to three components stand for. A
component that is left out counts as one. -/
def extent? : List Nat → Option (Nat × Nat × Nat)
  | [w] => some (w, 1, 1)
  | [w, h] => some (w, h, 1)
  | [w, h, d] => some (w, h, d)
  | _ => none

/-- The description of a target with the given components, none of which may be
zero. -/
def ofSize? (size : List Nat) (format : TextureFormat) : Option TextureDesc :=
  match extent? size with
  | none => none
  | some (w, h, d) => if w = 0 ∨ h = 0 ∨ d = 0 then none else some ⟨w, h, d, false, format⟩

/-- The description as messages show it. -/
def text (desc : TextureDesc) : String :=
  "TextureDesc \x7b width: " ++ toString desc.width ++ ", height: " ++ toString desc.height
    ++ ", depth: " ++ toString desc.depth ++ ", mipmaps: " ++ toString desc.mipmaps
    ++ ", format: " ++ desc.format.name ++ " \x7d"

theorem ofSize?_eq_some_iff {size : List Nat} {format : TextureFormat} {desc : TextureDesc} :
    ofSize? size format = some desc ↔
      ∃ w h d, extent? size = some (w, h, d) ∧ w ≠ 0 ∧ h ≠ 0 ∧ d ≠ 0 ∧
        desc = ⟨w, h, d, false, format⟩ := by
  unfold ofSize?
  cases e : extent? size with
  | none => simp
  | some p =>
    obtain ⟨w, h, d⟩ := p
    by_cases hz : w = 0 ∨ h = 0 ∨ d = 0
    · simp only [if_pos hz]
      constructor
      · intro h; cases h
      · rintro ⟨w', h', d', he, h₁, h₂, h₃, -⟩
        simp only [Option.some.injEq, Prod.mk.injEq] at he
        obtain ⟨rfl, rfl, rfl⟩ := he
        rcases hz with hz | hz | hz
        · exact absurd hz h₁
        · exact absurd hz h₂
        · exact absurd hz h₃
    · simp only [if_neg hz, Option.some.injEq]
      constructor
      · rintro rfl
        simp only [not_or] at hz
        exact ⟨w, h, d, rfl, hz.1, hz.2.1, hz.2.2, rfl⟩
      · rintro ⟨w', h', d', he, -, -, -, rfl⟩
        simp only [Prod.mk.injEq] at he
        obtain ⟨rfl, rfl, rfl⟩ := he
        rfl

end TextureDesc

end ShaderEffects
