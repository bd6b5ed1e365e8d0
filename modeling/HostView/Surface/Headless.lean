import HostView.Surface.Device

/-!
# The headless surface

A surface without pixels: it keeps its size, whether its context is current, and counts the
frames that were presented and the resizes that were made.
-/

namespace HostView

/-- What a headless surface counts; it outlives the surface itself. -/
structure HeadlessStats where
  framesPresented : Nat := 0
  resizes : Nat := 0
  size : Size := .zero
deriving DecidableEq

/-- A headless surface, `target` being what it was created for. -/
structure Headless where
  target : Option RenderTarget := none
  current : Bool := false
  stats : HeadlessStats := {}
deriving DecidableEq

namespace Headless

/-- A size with a zero side is refused and changes nothing. -/
def create (h : Headless) (target : RenderTarget) (size : Size) :
    Except SurfaceError Unit × Headless :=
  if size.isEmpty then (.error (.createFailed s!"zero-sized target {size.text}"), h)
  else
    (.ok (), { target := some target, current := false, stats := { h.stats with size } })

/-- Only the surface that exists can be resized, and only to a size that is not empty. -/
def resize (h : Headless) (target : RenderTarget) (size : Size) :
    Except SurfaceError Unit × Headless :=
  if h.target ≠ some target then (.error .missing, h)
  else if size.isEmpty then (.error (.resizeFailed size "zero-sized"), h)
  else
    (.ok (), { h with stats := { h.stats with size, resizes := h.stats.resizes + 1 } })

/-- The context becomes current exactly if there is a surface. -/
def makeCurrent (h : Headless) : Bool × Headless :=
  (h.target.isSome, { h with current := h.target.isSome })

/-- Presents a frame if the context is current. -/
def swap (h : Headless) : Bool × Headless :=
  if h.current then
    (true, { h with stats := { h.stats with framesPresented := h.stats.framesPresented + 1 } })
  else (false, h)

/-- The target in messages. -/
def targetText (h : Headless) : String :=
  match h.target with
  | none => "None"
  | some target => s!"Some({target.text})"

/-- The log of a surface that is about to be destroyed. -/
def farewell (h : Headless) : Log.Record :=
  let counts := s!"{h.stats.framesPresented} frames, {h.stats.resizes} resizes"
  Log.Area.headless.record .debug s!"headless: destroying {h.targetText} after {counts}"

/-- The surface is gone, and nothing is current; the counts remain. -/
def destroy (h : Headless) : Headless := { h with target := none, current := false }

/-- The log of a swap that had no current context. -/
def noContext : Log.Record :=
  Log.Area.headless.record .trace "headless: swap without a current context"

end Headless

instance : SurfaceDevice Headless where
  perform
    | .create target size => fun h =>
      let r := h.create target size
      ⟨.returned r.1, r.2, []⟩
    | .resize target size => fun h =>
      let r := h.resize target size
      ⟨.returned r.1, r.2, []⟩
    | .makeCurrent => fun h => ⟨.returned h.makeCurrent.1, h.makeCurrent.2, []⟩
    | .makeResourceCurrent => fun h => ⟨.returned h.target.isSome, h, []⟩
    | .clearContext => fun h => ⟨.returned true, { h with current := false }, []⟩
    | .swap => fun h =>
      ⟨.returned h.swap.1, h.swap.2, if h.current then [] else [Headless.noContext]⟩
    | .dimensions => fun h => ⟨.returned h.stats.size, h, []⟩
    | .destroy => fun h => ⟨.returned (), h.destroy, [h.farewell]⟩

end HostView
