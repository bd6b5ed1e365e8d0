import HostView.Toml.Value

/-!
# Building tables

A table is built entry by entry.  A path of keys leads from a table to one further in; tables
that are missing on the way are made.  No key is defined twice, and which tables a path may enter
depends on how they came into being.
-/

namespace HostView.Toml

/-- What leads along a path: the header of a table, or a dotted key. -/
inductive Way
  | header
  | dotted
deriving DecidableEq

/-- How a table comes into being that is missing on the way. -/
def Way.origin : Way → Origin
  | header => .implied
  | dotted => .dotted

/-- Whether a table may be entered: nothing enters braces, and a dotted key enters no table that
has a header. -/
def Way.enters : Way → Origin → Bool
  | _, .braces => false
  | dotted, .header => false
  | _, _ => true

/-- A change to the entries of a table, if it is allowed; the origin is that of the table. -/
abbrev Change := Origin → List Entry → Option (List Entry)

/-- A change to the last item of an array of tables. -/
def changeLast (change : List Entry → Option (List Entry)) : List Item → Option (List Item)
  | [] => none
  | [.mk span (.table origin entries)] =>
    (change entries).map fun entries => [.mk span (.table origin entries)]
  | [_] => none
  | item :: items => (changeLast change items).map (item :: ·)

/-- Makes a change to the table at the end of a path. -/
def changeAt (way : Way) (change : Change) : List Key → Change
  | [], origin, entries => change origin entries
  | key :: path, _, entries =>
    match lookup key.name entries with
    | none =>
      (changeAt way change path way.origin []).map fun inner =>
        entries ++ [.mk key (.mk none (.table way.origin inner))]
    | some (.mk span (.table origin inner)) =>
      if way.enters origin then
        (changeAt way change path origin inner).map fun inner =>
          replace key.name (.mk span (.table origin inner)) entries
      else none
    | some (.mk span (.tables items)) =>
      (changeLast (changeAt way change path .header) items).map fun items =>
        replace key.name (.mk span (.tables items)) entries
    | some _ => none

/-- A key with the path before it, and its value. -/
structure Pair where
  path : List Key
  key : Key
  item : Item

/-- Adds a pair to a table.  A dotted key adds only to tables that dotted keys have made. -/
def addPair (p : Pair) (entries : List Entry) : Option (List Entry) :=
  let add : Change := fun origin entries =>
    if (lookup p.key.name entries).isSome then none
    else if p.path.isEmpty || origin == .dotted then some (entries ++ [.mk p.key p.item])
    else none
  changeAt .dotted add p.path .header entries

/-- Adds pairs to a table, one after the other. -/
def addPairs (entries : List Entry) (pairs : List Pair) : Option (List Entry) :=
  pairs.foldlM (fun entries p => addPair p entries) entries

/-- The part of a document under one header. -/
structure Section where
  path : List Key
  key : Key
  /-- The header stands in double brackets. -/
  repeated : Bool
  span : Span
  pairs : List Pair

/-- The bytes of a section: from its header to its last value. -/
def Section.extent (s : Section) : Span :=
  match s.pairs.getLast?.bind fun p => p.item.span with
  | none => s.span
  | some last => { s.span with stop := last.stop }

/-- The bytes from the first of some items to the last. -/
def covering (items : List Item) : Option Span := do
  let first ← items.head? >>= Item.span
  let last ← items.getLast? >>= Item.span
  return ⟨first.start, last.stop⟩

/-- The entries that a section adds to the table its header names.  A table that was only implied
so far is moved to the end when it gets its header. -/
def Section.add (s : Section) : Change := fun _ entries =>
  let found := lookup s.key.name entries
  let table (start : List Entry) : Option Item :=
    (addPairs start s.pairs).map fun inner => .mk (some s.extent) (.table .header inner)
  if s.repeated then
    match found with
    | none => do
      let item ← table []
      return entries ++ [.mk s.key (.mk item.span (.tables [item]))]
    | some (.mk _ (.tables items)) => do
      let items := items ++ [← table []]
      return replace s.key.name (.mk (covering items) (.tables items)) entries
    | some _ => none
  else
    match found with
    | none => do return entries ++ [.mk s.key (← table [])]
    | some (.mk _ (.table .implied inner)) => do
      return erase s.key.name entries ++ [.mk s.key (← table inner)]
    | some _ => none

/-- Adds a section to a document. -/
def addSection (entries : List Entry) (s : Section) : Option (List Entry) :=
  changeAt .header s.add s.path .header entries

end HostView.Toml
