import ShaderEffects.Proofs.BindGroups
import ShaderEffects.Proofs.JudgedDevices

/-!
# The buffers of a draw

A draw puts the vertices of a geometry into a buffer, and its indices into another one if it
has any. A buffer is read from end to end, so there must be something in it. That there are
vertices is checked; a list of indices that is there, but empty, makes an empty buffer.
-/
namespace ShaderEffects

open Gpu

/-- A geometry has vertices if and only if they have bytes. -/
theorem Geometry.vertexBytes_pos_iff {geometry : Geometry} :
    0 < geometry.vertexBytes ↔ geometry.vertices ≠ [] := by
  rw [vertexBytes, Vertex.stride, ← List.length_pos_iff]
  omega

/-- Indices that are there, but are none, have no bytes. -/
theorem Geometry.indexBytes?_eq_zero_iff {geometry : Geometry} :
    geometry.indexBytes? = some 0 ↔ geometry.indices = some [] := by
  rw [indexBytes?, Option.map_eq_some_iff]
  constructor
  · rintro ⟨indices, hindices, hzero⟩
    have hnone : indices.length = 0 := by omega
    rw [hindices, List.length_eq_zero_iff.mp hnone]
  · exact fun h => ⟨[], h, rfl⟩

namespace GpuDevice

theorem corners_drawCall (geometry : Geometry) :
    (drawCall geometry).corners = geometry.indexCount := by
  unfold drawCall Geometry.indexCount
  cases geometry.indices <;> rfl

/-- Behind the scenes nothing is drawn. -/
theorem Prepares.no_draw {g g' : GpuDevice} (h : g.Prepares g') :
    Appends (fun request => ∀ pass, request ≠ .draw pass) g.requests g'.requests := by
  refine h.appends fun g₁ k request hk hmay pass hdraw => ?_
  subst hk hdraw
  exact absurd hmay.1 nofun

end GpuDevice

namespace JudgedDevice

variable {w w' : JudgedDevice}

/-- A draw that does not fail is left out for want of vertices, or is recorded once, behind all
else, with a buffer for all vertices and one for all indices. None of them is empty, unless
there is an empty list of indices. -/
theorem draw_buffers {geometry : Geometry} (h : w.draw geometry = (.ok (), w')) :
    geometry.vertices = [] ∧ w' = w ∨
    geometry.vertices ≠ [] ∧ ∃ asked pass,
      w'.device.requests = w.device.requests ++ (asked ++ [.draw pass]) ∧
      (∀ request ∈ asked, ∀ other, request ≠ .draw other) ∧
      pass.call.corners = geometry.indexCount ∧
      pass.vertexBytes = Vertex.stride * geometry.vertices.length ∧ 0 < pass.vertexBytes ∧
      pass.indexBytes = geometry.indices.map (4 * ·.length) ∧
      (0 ∈ pass.buffers ↔ geometry.indices = some []) := by
  rcases draw_cases w geometry with ⟨e, heq⟩ | ⟨hnone, heq⟩ |
    ⟨vertex, fragment, hvertex, hfragment, hsome, heq⟩ <;> rw [heq] at h
  · cases h
  · exact Or.inl ⟨hnone, (Prod.mk.inj h).2.symm⟩
  · refine Or.inr ⟨hsome, ?_⟩
    rcases drawWith_spec hvertex hfragment geometry with ⟨e, w₁, hwith, -⟩ |
      ⟨w₁, vs, fs, target, pass, hmoves, -, hvertices, hindices, hcall, hwith⟩ <;> rw [hwith] at h
    · cases h
    · obtain rfl := (Prod.mk.inj h).2
      obtain ⟨asked, hasked, hnot⟩ := GpuDevice.Prepares.no_draw hmoves
      have hpos : 0 < pass.vertexBytes := hvertices ▸ Geometry.vertexBytes_pos_iff.mpr hsome
      refine ⟨asked, pass, ?_, hnot, ?_, hvertices, hpos, hindices, ?_⟩
      · rw [← List.append_assoc, ← hasked]
        rfl
      · rw [hcall, GpuDevice.corners_drawCall]
      · rw [← Geometry.indexBytes?_eq_zero_iff, ← hindices, DrawPass.buffers, List.mem_cons,
          Option.mem_toList, or_iff_right (Nat.ne_of_lt hpos)]

/-- A device on which a vertex and a fragment program are bound. -/
def shaded : JudgedDevice := ⟨GpuDevice.shadedDevice, []⟩

/-- A triangle, whose corners may be picked by index. -/
def triangle (indices : Option (List Nat)) : Geometry :=
  { vertices := [⟨-1, -1, 0, 1, 0, 1⟩, ⟨3, -1, 0, 1, 2, 1⟩, ⟨-1, 3, 0, 1, 0, -1⟩], indices }

/-- The buffers of a triangle whose corners are picked in turn. -/
theorem draw_buffers_triangle :
    ∃ w', shaded.draw (triangle (some [0, 1, 2])) = (.ok (), w') ∧
      ∃ asked pass, w'.device.requests = shaded.device.requests ++ (asked ++ [.draw pass]) ∧
        pass.call.corners = 3 ∧ pass.buffers = [72, 12] ∧ 0 ∉ pass.buffers := by
  have hdraw : shaded.draw (triangle (some [0, 1, 2])) = (.ok (), _) := Prod.ext rfl rfl
  obtain ⟨hnone, -⟩ | ⟨-, asked, pass, hrequests, -, hcorners, hvertices, -, hindices, hempty⟩ :=
    draw_buffers hdraw
  · cases hnone
  · have hbuffers : pass.buffers = [72, 12] := by
      rw [DrawPass.buffers, hvertices, hindices]
      rfl
    exact ⟨_, hdraw, asked, pass, hrequests, hcorners, hbuffers,
      fun hmem => absurd (hempty.mp hmem) nofun⟩

/-- A triangle with an empty list of indices is drawn, from an empty buffer. -/
theorem not_draw_buffers_empty :
    ∃ w' pass, shaded.draw (triangle (some [])) = (.ok (), w') ∧
      w'.device.requests.getLast? = some (.draw pass) ∧ pass.buffers = [72, 0] ∧
      (Request.draw pass).isFatal = true :=
  ⟨_, _, Prod.ext rfl rfl, rfl, rfl, rfl⟩

end JudgedDevice

end ShaderEffects
