import StreamPriority.Field.Name

/-!
# Fields

`Fields` is what a message carries beside its content: named values, in the order they were added. A name may have any
number of values. Every operation that goes by a name concerns all its values, and leaves the others as they stand.
-/

namespace StreamPriority

/-- One value under a name. -/
structure Field where
  name : FieldName
  value : String
deriving DecidableEq

/-- Named values in order. -/
@[ext] structure Fields where
  entries : List Field
deriving DecidableEq

namespace Fields

/-- No fields. -/
def empty : Fields := ⟨[]⟩

/-- Adds a value after all others. -/
def add (fs : Fields) (n : FieldName) (value : String) : Fields :=
  ⟨fs.entries ++ [⟨n, value⟩]⟩

/-- Drops every value of a name. -/
def remove (fs : Fields) (n : FieldName) : Fields :=
  ⟨fs.entries.filter (·.name != n)⟩

/-- The number of values, over all names. -/
def size (fs : Fields) : Nat :=
  fs.entries.length

/-- Whether there are no values at all. -/
def isEmpty (fs : Fields) : Bool :=
  fs.entries.isEmpty

/-- Whether dropping a name drops anything. -/
def removes (fs : Fields) (n : FieldName) : Bool :=
  (fs.remove n).size != fs.size

/-- Makes a value the only one of its name. -/
def set (fs : Fields) (n : FieldName) (value : String) : Fields :=
  (fs.remove n).add n value

/-- The values of a name, in order. -/
def values (fs : Fields) (n : FieldName) : List String :=
  (fs.entries.filter (·.name == n)).map (·.value)

/-- The first value of a name. -/
def get? (fs : Fields) (n : FieldName) : Option String :=
  (fs.values n).head?

/-- Whether a name has a value. -/
def contains (fs : Fields) (n : FieldName) : Bool :=
  fs.entries.any (·.name == n)

/-- Lays other fields over these: every name that the others use loses its values here, and the others follow in their
order. -/
def overlay (fs other : Fields) : Fields :=
  ⟨(other.entries.foldl (fun acc f => acc.remove f.name) fs).entries ++ other.entries⟩

/-- The fields of a list of spelled names and values. -/
def ofList (l : List (String × String)) : Fields :=
  l.foldl (fun fs p => fs.add (.ofString p.1) p.2) empty

/-- The names in their kept spelling, with the values. -/
def toList (fs : Fields) : List (String × String) :=
  fs.entries.map fun f => (f.name.text, f.value)

/-- A single field. -/
def single (n : FieldName) (value : String) : Fields :=
  empty.set n value

end Fields

end StreamPriority
