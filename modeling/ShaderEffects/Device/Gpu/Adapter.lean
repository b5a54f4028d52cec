import ShaderEffects.Text.Quoted

/-!
# Adapters

What stands behind a graphics interface, as it describes itself.
-/

namespace ShaderEffects.Gpu

/-- The hardware or software that does the work of a graphics interface. -/
structure Adapter where
  name : String
  vendor : Nat
  device : Nat
  /-- What kind of processor it runs on. -/
  kind : String
  driver : String
  driverInfo : String
  /-- The interface it is reached through. -/
  backend : String
deriving DecidableEq, Repr

/-- The adapter that accepts everything and draws nothing. -/
def Adapter.idle : Adapter where
  name := "noop wgpu backend"
  vendor := 0
  device := 0
  kind := "Cpu"
  driver := "wgpu"
  driverInfo := ""
  backend := "Noop"

/-- An adapter with all that it tells of itself. -/
def Adapter.text (a : Adapter) : String :=
  "AdapterInfo \x7b name: " ++ Text.quoted a.name ++ ", vendor: " ++ toString a.vendor
    ++ ", device: " ++ toString a.device ++ ", device_type: " ++ a.kind ++ ", driver: "
    ++ Text.quoted a.driver ++ ", driver_info: " ++ Text.quoted a.driverInfo ++ ", backend: "
    ++ a.backend ++ " \x7d"

end ShaderEffects.Gpu
