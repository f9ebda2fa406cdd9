/-
Laying one value over another.

Where both are mappings, the entries of the one on top are laid over those below, and new ones
come behind.  Anywhere else the value on top hides the one below.
-/
import RetrievalTelemetry.Yaml.Value

namespace RetrievalTelemetry.Yaml

mutual

/-- `base` with a value laid over it. -/
def overlay (base : Yaml) : (top : Yaml) → Yaml
  | mapping top =>
    match base with
    | mapping entries => mapping (overlayEntries entries top)
    | _ => mapping top
  | other => other

/-- The entries of a mapping with others laid over them. -/
def overlayEntries (base : List (Atom × Yaml)) : (top : List (Atom × Yaml)) → List (Atom × Yaml)
  | [] => base
  | (key, value) :: rest =>
    let value := match base.lookup key with
      | some old => overlay old value
      | none => value
    overlayEntries (putField key value base) rest

end

end RetrievalTelemetry.Yaml
