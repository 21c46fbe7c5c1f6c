import SearchRequest.Value.Key

/-!
# Layers of configuration

A configuration laid over another. Where both have a mapping under a key the two are merged, anywhere else
the upper one replaces the lower; keys of the lower one keep their places and new keys follow. Where both have
mappings that contain themselves, the merging comes to no end.
-/

namespace SearchRequest.Config

mutual

/-- A value laid over another. -/
def overlay : Value → Value → Value
  | .dict upper, .dict lower => .dict (mergeEntries upper lower)
  | v, _ => v

/-- The entries of the upper mapping set one after another in the lower one. -/
def mergeEntries : List (Value × Value) → Entries → Entries
  | [], lower => lower
  | (k, v) :: rest, lower =>
    mergeEntries rest (Entries.insert lower k
      (match Entries.get? lower k with
        | some old => overlay v old
        | none => v))

end

/-- The mapping `upper` laid over `lower`. -/
def merge (lower upper : Entries) : Entries := mergeEntries upper lower

mutual

/-- Whether laying a value over another leads on without end. -/
def overlaysEndlessly : Value → Value → Bool
  | .dict upper, .dict lower => mergesEndlessly lower upper
  | .enclosing, _ | _, .enclosing => true
  | _, _ => false

/-- Whether the values of the upper mapping are laid without end over those of the lower one. -/
def mergesEndlessly (lower : Entries) : List (Value × Value) → Bool
  | [] => false
  | (k, v) :: rest =>
    (match Entries.get? lower k with
      | some old => overlaysEndlessly v old
      | none => false) || mergesEndlessly lower rest

end

end SearchRequest.Config
