/-!
# Mouse buttons

The set of pressed buttons is a mask of sixty-four bits.  Five bits have names; the others are
carried along unchanged.
-/

namespace HostView

/-- A set of mouse buttons, bit `k` standing for button `k`. -/
structure Buttons where
  mask : BitVec 64
deriving DecidableEq, Inhabited

namespace Buttons

def none : Buttons := ⟨0⟩

def primary : Buttons := ⟨1⟩
def secondary : Buttons := ⟨2⟩
def middle : Buttons := ⟨4⟩
def back : Buttons := ⟨8⟩
def forward : Buttons := ⟨16⟩

/-- The buttons that have a name, in the order of their bits. -/
def named : List (String × Buttons) :=
  [("PRIMARY", primary), ("SECONDARY", secondary), ("MIDDLE", middle), ("BACK", back),
    ("FORWARD", forward)]

/-- No button is in the set. -/
def isEmpty (b : Buttons) : Bool := b.mask == 0

/-- The buttons of either set. -/
def union (a b : Buttons) : Buttons := ⟨a.mask ||| b.mask⟩

/-- The buttons of the first set that are not in the second. -/
def diff (a b : Buttons) : Buttons := ⟨a.mask &&& ~~~b.mask⟩

/-- Whether button `k` is in the set. -/
def contains (b : Buttons) (k : Nat) : Bool := b.mask.getLsbD k

@[simp] theorem contains_none (k : Nat) : none.contains k = false := by
  simp [contains, none]

@[simp] theorem contains_union (a b : Buttons) (k : Nat) :
    (a.union b).contains k = (a.contains k || b.contains k) := by
  simp [contains, union]

@[simp] theorem contains_diff (a b : Buttons) (k : Nat) :
    (a.diff b).contains k = (a.contains k && !b.contains k) := by
  by_cases h : k < 64
  · simp [contains, diff, h]
  · simp [contains, diff, BitVec.getLsbD_of_ge _ _ (Nat.le_of_not_lt h)]

@[simp] theorem isEmpty_none : none.isEmpty = true := rfl

theorem isEmpty_iff {b : Buttons} : b.isEmpty = true ↔ b = none := by
  cases b; simp [isEmpty, none]

/-- The buttons that have no name. -/
def unnamed (b : Buttons) : Buttons := named.foldl (fun rest n => rest.diff n.2) b

/-- The set as it appears in messages: the names of its buttons, then the other bits as one
hexadecimal number. -/
def text (b : Buttons) : String :=
  let names := (named.filter fun n => (n.2.diff b).isEmpty).map (·.1)
  let rest := b.unnamed
  let hex := "0x" ++ String.ofList (Nat.toDigits 16 rest.mask.toNat)
  let parts := if rest.isEmpty && !names.isEmpty then names else names ++ [hex]
  "MouseButtons(" ++ " | ".intercalate parts ++ ")"

end Buttons

end HostView
