import HostView.Geometry

/-!
# Errors

Surfaces fail in three ways, and the set-up of a view in four.  Every error has one text, and the
texts of the errors behind it are its `sources`.
-/

namespace HostView

/-- Why a surface could not be made or changed. -/
inductive SurfaceError
  | missing
  | createFailed (reason : String)
  | resizeFailed (size : Size) (reason : String)
deriving DecidableEq

def SurfaceError.message : SurfaceError → String
  | missing => "no live surface"
  | createFailed reason => s!"surface creation failed: {reason}"
  | resizeFailed size reason => s!"surface resize to {size.text} failed: {reason}"

/-- Why a view could not be set up. -/
inductive ViewError
  | surface (error : SurfaceError)
  | config (reason : String)
  | platform (reason : String)
  | collaborator (name : String) (reason : String)
deriving DecidableEq

namespace ViewError

def message : ViewError → String
  | surface error => s!"surface error: {error.message}"
  | config reason => s!"config error: {reason}"
  | platform reason => s!"platform error: {reason}"
  | collaborator name reason => s!"collaborator error [{name}]: {reason}"

/-- The texts of the errors that this one was caused by. -/
def sources : ViewError → List String
  | surface error => [error.message]
  | collaborator _ reason => [reason]
  | config _ | platform _ => []

end ViewError

end HostView
