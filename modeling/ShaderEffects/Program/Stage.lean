/-!
# Stages

The five programmable stages of a draw, and sets of them.
-/

namespace ShaderEffects

/-- A programmable stage. -/
inductive Stage where
  | vertex
  | fragment
  | geometry
  | domain
  | hull
deriving DecidableEq, Repr

namespace Stage

/-- Every stage, in the order in which programs are listed, compiled and bound. -/
def all : List Stage := [.vertex, .fragment, .geometry, .domain, .hull]

/-- The place of a stage in that order. -/
def index : Stage → Nat
  | .vertex => 0
  | .fragment => 1
  | .geometry => 2
  | .domain => 3
  | .hull => 4

/-- The name of a stage in messages and program labels. -/
def name : Stage → String
  | .vertex => "Vertex"
  | .fragment => "Fragment"
  | .geometry => "Geometry"
  | .domain => "Domain"
  | .hull => "Hull"

/-- The name of a stage in effect documents. -/
def key : Stage → String
  | .vertex => "vertex"
  | .fragment => "fragment"
  | .geometry => "geometry"
  | .domain => "domain"
  | .hull => "hull"

/-- The stage with a name of that kind. -/
def ofKey? (key : String) : Option Stage :=
  all.find? fun stage => stage.key = key

theorem mem_all (stage : Stage) : stage ∈ all := by
  cases stage <;> decide

theorem eq_of_index_eq {s t : Stage} (h : s.index = t.index) : s = t := by
  cases s <;> cases t <;> first | rfl | exact absurd h (by decide)

end Stage

/-- A set of stages, one bit for each. -/
structure StageMask where
  bits : BitVec 5
deriving DecidableEq, Repr

namespace StageMask

/-- The set of no stage. -/
def none : StageMask := ⟨0#5⟩

/-- The set of all stages. -/
def full : StageMask := ⟨BitVec.allOnes 5⟩

/-- The set of one stage. -/
def single (stage : Stage) : StageMask := ⟨1#5 <<< stage.index⟩

/-- The stages of two sets. -/
def union (a b : StageMask) : StageMask := ⟨a.bits ||| b.bits⟩

/-- The set of the stages in a list. -/
def ofList (stages : List Stage) : StageMask :=
  stages.foldl (fun mask stage => mask.union (single stage)) none

/-- Whether a stage is in the set. -/
def contains (mask : StageMask) (stage : Stage) : Bool :=
  mask.bits.getLsbD stage.index

/-- The stages in the set, in order. -/
def toList (mask : StageMask) : List Stage :=
  Stage.all.filter mask.contains

@[simp] theorem contains_none (stage : Stage) : none.contains stage = false := by
  cases stage <;> rfl

@[simp] theorem contains_full (stage : Stage) : full.contains stage = true := by
  cases stage <;> rfl

@[simp] theorem contains_single (s t : Stage) : (single s).contains t = decide (t = s) := by
  cases s <;> cases t <;> rfl

@[simp] theorem contains_union (a b : StageMask) (stage : Stage) :
    (a.union b).contains stage = (a.contains stage || b.contains stage) := by
  simp [contains, union]

end StageMask

end ShaderEffects
