import HostView.Proofs.Since
import HostView.Surface.Device

/-!
# What has become of a surface

The calls to a surface device, with their answers, are its history.  Whether there is a surface,
and for which target, is decided by the latest of the creations that succeeded and of the
destructions (`Survives`, `Gone`); whether a context is current, by what came after the last call
that takes it away (`Current`).  Each of them has one lemma for a history that is longer by a call.
-/

namespace HostView

namespace DeviceEvent

/-- The target that a surface was created for. -/
def created : DeviceEvent → Option RenderTarget
  | ⟨.create target _, .returned (.ok _)⟩ => some target
  | _ => none

/-- The surface is destroyed. -/
def destroys : DeviceEvent → Bool
  | ⟨.destroy, _⟩ => true
  | _ => false

/-- The surface is told to take on another size, whatever comes of it. -/
def triesResize : DeviceEvent → Bool
  | ⟨.resize _ _, _⟩ => true
  | _ => false

/-- The surface takes on another size. -/
def resizes : DeviceEvent → Bool
  | ⟨.resize _ _, .returned (.ok _)⟩ => true
  | _ => false

/-- The context becomes current. -/
def makesCurrent : DeviceEvent → Bool
  | ⟨.makeCurrent, .returned true⟩ => true
  | _ => false

/-- The context is cleared. -/
def clears : DeviceEvent → Bool
  | ⟨.clearContext, _⟩ => true
  | _ => false

/-- A frame is presented. -/
def presents : DeviceEvent → Bool
  | ⟨.swap, .returned true⟩ => true
  | _ => false

end DeviceEvent

variable {history : List DeviceEvent} {e : DeviceEvent} {target : RenderTarget}

/-- The latest of the creations that succeeded and of the destructions is a creation for the
target. -/
def Survives (target : RenderTarget) (history : List DeviceEvent) : Prop :=
  Since (fun e => e.created = some target) (fun e => e.created = none ∧ e.destroys = false) history

/-- The latest of the creations that succeeded and of the destructions is a destruction. -/
def Gone (history : List DeviceEvent) : Prop :=
  Since (fun e => e.destroys = true) (fun e => e.created = none) history

/-- The context was made current, and since then no surface was created or destroyed and the
context was not cleared. -/
def Current (history : List DeviceEvent) : Prop :=
  Since (fun e => e.makesCurrent = true)
    (fun e => e.created = none ∧ e.destroys = false ∧ e.clears = false) history

/-- Makes calls to a device, one after the other: what it answers, and what becomes of it. -/
def SurfaceDevice.askAll {σ : Type} [SurfaceDevice σ] (device : σ) :
    List DeviceCall → List DeviceEvent × σ
  | [] => ([], device)
  | call :: calls =>
    let r := perform call device
    let rest := askAll r.state calls
    (⟨call, r.outcome⟩ :: rest.1, rest.2)

@[simp] theorem not_survives_nil : ¬ Survives target [] := not_since_nil

@[simp] theorem not_gone_nil : ¬ Gone [] := not_since_nil

@[simp] theorem not_current_nil : ¬ Current [] := not_since_nil

theorem survives_snoc : Survives target (history ++ [e]) ↔
    e.created = some target ∨ Survives target history ∧ e.created = none ∧ e.destroys = false :=
  since_snoc

theorem gone_snoc : Gone (history ++ [e]) ↔ e.destroys = true ∨ Gone history ∧ e.created = none :=
  since_snoc

theorem current_snoc : Current (history ++ [e]) ↔
    e.makesCurrent = true ∨
      Current history ∧ e.created = none ∧ e.destroys = false ∧ e.clears = false :=
  since_snoc

end HostView
