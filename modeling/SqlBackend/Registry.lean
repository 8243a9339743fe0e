import SqlBackend.Connection

/-!
# Registries of engines

A registry knows, for each dialect, how to make an unconnected handle in a world `ω`. Once shut down
it makes none any more.
-/

namespace SqlBackend

/-- Makes an unconnected handle with the given options. -/
abbrev Factory (ω σ : Type) := ConnectionOptions → ω → Except DriverError σ

structure Registry (ω σ : Type) where
  factories : List (Dialect × Factory ω σ) := []
  active : Bool := true

namespace Registry

variable {ω σ : Type}

def empty : Registry ω σ := {}

def factory? (r : Registry ω σ) (d : Dialect) : Option (Factory ω σ) := r.factories.lookup d

/-- Registers a factory in place of an earlier one. -/
def register (r : Registry ω σ) (d : Dialect) (f : Factory ω σ) : Registry ω σ :=
  { r with factories := (d, f) :: r.factories.filter (·.1 != d) }

/-- The dialects that a handle can be made for. -/
def available (r : Registry ω σ) : List Dialect :=
  if r.active then Dialect.all.filter fun d => (r.factory? d).isSome else []

def shutdown (r : Registry ω σ) : Registry ω σ :=
  if r.active then { factories := [], active := false } else r

/-- An unconnected handle. -/
def handle (r : Registry ω σ) (d : Dialect) (o : ConnectionOptions) (w : ω) :
    Except BackendError σ :=
  if r.active then
    match r.factory? d with
    | none => .error (.driverUnavailable ("no driver registered for " ++ d.name))
    | some make =>
      match make o w with
      | .ok s => .ok s
      | .error e => .error (.driverUnavailable (d.name ++ ": " ++ e.message))
  else .error (.driverUnavailable "driver context has been shut down")

end Registry

end SqlBackend
