import ShaderEffects.Parameter.Basic
import ShaderEffects.Table

/-!
# The parameters of a session

All living parameters, and the names of the virtual ones. A parameter lives as
long as it has an owner: the name under which it is registered, the effect that
declared it, or the host. A write reaches every parameter that can be reached
over attachments, and attaching keeps the attachments free of cycles.
-/

namespace ShaderEffects

/-- The living parameters, and the names of the virtual ones. -/
structure Parameters where
  cells : Table ParameterId Parameter := ∅
  /-- The number of parameters made so far. -/
  made : Nat := 0
  names : Table String ParameterId := ∅

namespace Parameters

/-- A parameter that is still alive. -/
def get? (ps : Parameters) (id : ParameterId) : Option Parameter := ps.cells.get? id

/-- Whether a parameter is still alive. -/
def alive (ps : Parameters) (id : ParameterId) : Bool := ps.cells.contains id

/-- The numbers of the living parameters. -/
def ids (ps : Parameters) : List ParameterId := ps.cells.entries.map (·.1)

/-- Makes a parameter, which has one owner. -/
def add (ps : Parameters) (p : Parameter) : Parameters × ParameterId :=
  let id : ParameterId := ⟨ps.made⟩
  ({ ps with cells := ps.cells.insert id p, made := ps.made + 1 }, id)

/-- Gives a parameter one more owner. -/
def retain (ps : Parameters) (id : ParameterId) : Parameters :=
  { ps with cells := ps.cells.modify id fun p => { p with owners := p.owners + 1 } }

/-- Takes one owner from a parameter. A parameter without an owner is gone. -/
def release (ps : Parameters) (id : ParameterId) : Parameters :=
  match ps.get? id with
  | none => ps
  | some p =>
    if p.owners ≤ 1 then { ps with cells := ps.cells.erase id }
    else { ps with cells := ps.cells.insert id { p with owners := p.owners - 1 } }

/-- The attached parameters that are alive. -/
def attachments (ps : Parameters) (id : ParameterId) : List ParameterId :=
  match ps.get? id with
  | none => []
  | some p => p.attached.filter ps.alive

/-- The members of `unseen` that can be reached from `todo`. -/
def gather (ps : Parameters) (unseen todo : List ParameterId) : List ParameterId :=
  match todo with
  | [] => []
  | id :: rest =>
    if id ∈ unseen then id :: ps.gather (unseen.erase id) (ps.attachments id ++ rest)
    else ps.gather unseen rest
termination_by (unseen.flatMap ps.attachments).length + unseen.length + todo.length
decreasing_by
  · have hperm := List.perm_cons_erase ‹id ∈ unseen›
    have hlength := hperm.length_eq
    have hattached := (hperm.flatMap_right ps.attachments).length_eq
    simp only [List.flatMap_cons, List.length_append, List.length_cons] at hlength hattached ⊢
    omega
  · exact Nat.add_lt_add_left (Nat.lt_succ_self rest.length) _

/-- The living parameters that a write to `id` reaches, `id` among them. -/
def downstream (ps : Parameters) (id : ParameterId) : List ParameterId :=
  ps.gather ps.ids [id]

/-- Forgets attached parameters that are gone. -/
def pruned (ps : Parameters) (p : Parameter) : Parameter :=
  { p with attached := p.attached.filter ps.alive }

/-- Writes to a parameter and to all that can be reached from it. -/
def write (ps : Parameters) (id : ParameterId) (w : Write) : Parameters :=
  let reached := ps.downstream id
  { ps with
    cells := ⟨ps.cells.entries.map fun (i, p) =>
      if i ∈ reached then (i, ps.pruned (w.apply p)) else (i, p)⟩ }

/-- Writes numbers. -/
def setScalars (ps : Parameters) (id : ParameterId) (values : List Float32) : Parameters :=
  ps.write id (.scalars (.ofList values))

/-- Writes a texture, or takes it away. -/
def setTexture (ps : Parameters) (id : ParameterId) (texture : Option (Handle Texture)) :
    Parameters :=
  ps.write id (.texture texture)

/-- Hands on to `source` what was written to `target` before. -/
def catchUp (ps : Parameters) (target : Parameter) (source : ParameterId) : Parameters :=
  if target.written then
    let ps := ps.write source (.scalars target.scalars)
    match target.texture with
    | none => ps
    | some handle => ps.write source (.texture (some handle))
  else ps

/-- Attaches `source` to `target`, so that it receives what is written there.
Only a virtual parameter takes attachments, and none that lead back to it. A
parameter that is attached already stays as it is. -/
def attach (ps : Parameters) (target source : ParameterId) : Except LinkError Parameters :=
  match ps.get? target, ps.get? source with
  | some t, some s =>
    if !t.isVirtual then .error (.notVirtual t.name s.name)
    else if target ∈ ps.downstream source then .error (.attachCycle t.name s.name)
    else
      let t := ps.pruned t
      if source ∈ t.attached then .ok { ps with cells := ps.cells.insert target t }
      else
        let t := { t with attached := t.attached ++ [source] }
        .ok (catchUp { ps with cells := ps.cells.insert target t } t source)
  | _, _ => .ok ps

/-- Detaches `source` from `target`. -/
def detach (ps : Parameters) (target source : ParameterId) : Parameters :=
  { ps with
    cells := ps.cells.modify target fun t =>
      { t with attached := t.attached.filter (· ≠ source) } }

/-- Whether `source` is attached to `target`. -/
def isAttached (ps : Parameters) (target source : ParameterId) : Bool :=
  match ps.get? target with
  | none => false
  | some t => t.attached.contains source

/-- Makes a virtual parameter under a name that is still free. -/
def createVirtual (ps : Parameters) (name : String) (type : ParameterType) :
    Except LinkError (ParameterId × Parameters) :=
  match ps.names.get? name with
  | some _ => .error (.duplicateParameter name)
  | none =>
    let (ps, id) := ps.add { name, type, origin := .virtual }
    .ok (id, { ps with names := ps.names.insert name id })

/-- The virtual parameter of a name. -/
def named? (ps : Parameters) (name : String) : Option ParameterId := ps.names.get? name

/-- The virtual parameter of a name, if it has the given type. -/
def find? (ps : Parameters) (name : String) (type : ParameterType) : Option ParameterId :=
  match ps.named? name with
  | none => none
  | some id => if (ps.get? id).map (·.type) = some type then some id else none

/-- Frees the name of a virtual parameter, which loses an owner. -/
def removeVirtual (ps : Parameters) (name : String) : Parameters :=
  match ps.named? name with
  | none => ps
  | some id => { ps with names := ps.names.erase name }.release id

/-- Takes one owner from each of several parameters. -/
def releaseAll (ps : Parameters) (ids : List ParameterId) : Parameters :=
  ids.foldl release ps

end Parameters

end ShaderEffects
