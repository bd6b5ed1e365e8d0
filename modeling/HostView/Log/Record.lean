/-!
# Log records

Every part of the program reports what it does as a list of `Record`s.  A record names its
level, the `Area` that it comes from and its text; who writes records out, and which of them,
is decided in `HostView.Log.Filter` and `HostView.Log.Format`.
-/

namespace HostView.Log

/-- How much a record matters, the most serious first. -/
inductive Level
  | error | warn | info | debug | trace
deriving DecidableEq, Inhabited

namespace Level

/-- The name that records and filters use. -/
def name : Level → String
  | error => "ERROR"
  | warn => "WARN"
  | info => "INFO"
  | debug => "DEBUG"
  | trace => "TRACE"

/-- A larger number stands for a less serious level; zero is left for "nothing at all". -/
def rank : Level → Nat
  | error => 1
  | warn => 2
  | info => 3
  | debug => 4
  | trace => 5

def all : List Level := [error, warn, info, debug, trace]

end Level

/-- The part of the program that a record comes from. -/
inductive Area
  | bus | pointer | surface | resize | headless | render | host | viewer | typing
deriving DecidableEq

/-- The name under which filters select the records of an area. -/
def Area.target : Area → String
  | bus => "embedview_core::bus"
  | pointer => "embedview_core::pointer"
  | surface => "embedview_core::surface"
  | resize => "embedview_core::resize"
  | headless => "embedview_platform_winit::headless"
  | render => "embedview_platform_winit::render_loop"
  | host => "embedview_platform_winit::app"
  | viewer => "viewer"
  | typing => "text"

/-- One line of the log, before anything is known about where it goes. -/
structure Record where
  level : Level
  target : String
  message : String
deriving DecidableEq

/-- A record of one of the program's own areas. -/
def Area.record (area : Area) (level : Level) (message : String) : Record :=
  ⟨level, area.target, message⟩

end HostView.Log
