/-!
# Tags

A tag says what a node of a document is. The tags with a meaning are those of the
types of YAML 1.1; all of them begin alike. A node without a tag gets one by what
it looks like.
-/

namespace DecoratorSets

namespace Yaml

/-- What a node is. -/
inductive Tag where
  | null
  | bool
  | int
  | float
  | binary
  | timestamp
  /-- A list of entries in order. -/
  | omap
  /-- A list of entries in order, of which several may have one key. -/
  | pairs
  | set
  | str
  | seq
  | map
  /-- The key under which other mappings are merged. -/
  | merge
  /-- The key of a default value. -/
  | default
  /-- Any other tag. -/
  | other
deriving DecidableEq

namespace Tag

/-- The part that the tags with a meaning begin with. -/
def standardPrefix : String := "tag:yaml.org,2002:"

/-- The names of the tags with a meaning, behind the common part. -/
def names : List (String × Tag) :=
  [("null", .null), ("bool", .bool), ("int", .int), ("float", .float), ("binary", .binary),
   ("timestamp", .timestamp), ("omap", .omap), ("pairs", .pairs), ("set", .set), ("str", .str),
   ("seq", .seq), ("map", .map), ("merge", .merge), ("value", .default)]

/-- The tag of a name in full. -/
def ofName (name : String) : Tag :=
  match names.find? fun entry => standardPrefix ++ entry.1 == name with
  | some entry => entry.2
  | none => .other

end Tag

end Yaml

end DecoratorSets
