import HostView.Error

/-!
# Shutdown tokens

A token is a share in a flag that can be raised and never lowered.  A copy of a token shares its
flag; a new token has a flag of its own.  The interrupt of the process can be routed into one
token, once.
-/

namespace HostView

/-- All tokens that were made: for each the number of its flag, and the flags that were raised. -/
structure ShutdownTokens where
  flags : List Nat := [0]
  flagCount : Nat := 1
  raised : List Nat := []

namespace ShutdownTokens

/-- How many tokens there are. -/
def size (t : ShutdownTokens) : Nat := t.flags.length

/-- Whether the flag of a token was raised. -/
def isRequested (t : ShutdownTokens) (token : Nat) : Bool :=
  match t.flags[token]? with
  | none => false
  | some flag => t.raised.contains flag

/-- Makes a token with a flag of its own. -/
def new (t : ShutdownTokens) : ShutdownTokens :=
  { t with flags := t.flags ++ [t.flagCount], flagCount := t.flagCount + 1 }

/-- Copies a token. -/
def clone (t : ShutdownTokens) (token : Nat) : ShutdownTokens :=
  match t.flags[token]? with
  | none => t
  | some flag => { t with flags := t.flags ++ [flag] }

/-- Raises the flag of a token. -/
def request (t : ShutdownTokens) (token : Nat) : ShutdownTokens :=
  match t.flags[token]? with
  | none => t
  | some flag => { t with raised := flag :: t.raised }

/-- Whether each token's flag was raised. -/
def states (t : ShutdownTokens) : List Bool := (List.range t.size).map t.isRequested

end ShutdownTokens

/-- What became of the interrupt of a process that already has a handler for it. -/
def interruptTaken : ViewError :=
  .collaborator "ctrlc" "Ctrl-C error: Ctrl-C signal handler already registered"

end HostView
