import StreamPriority.Field.Basic

/-!
# Blocks of headers

A block is what a HEADERS frame carries: up to three pseudo-headers, and fields. It is put together step by step; a
pseudo-header that is given again replaces the one before, and fields add up.
-/

namespace StreamPriority

/-- The headers of one frame. -/
structure Block where
  method : Option String := none
  path : Option String := none
  status : Option UInt16 := none
  fields : Fields := .empty
deriving DecidableEq

/-- One thing to put into a block. -/
inductive Block.Step where
  | method (value : String)
  | path (value : String)
  | status (code : UInt16)
  /-- A field; its name is spelled in any case, and may be that of a pseudo-header. -/
  | field (name value : String)
deriving DecidableEq

namespace Block

/-- A block without anything. -/
def empty : Block := {}

/-- A request for the root of a server, without fields. -/
def plainRequest : Block :=
  { method := some "GET", path := some "/" }

/-- Puts one more thing in. -/
def apply (b : Block) : Step → Block
  | .method s => { b with method := some s }
  | .path s => { b with path := some s }
  | .status n => { b with status := some n }
  | .field n v => { b with fields := b.fields.add (.ofString n) v }

/-- Puts things in one after another. -/
def build (b : Block) (steps : List Step) : Block :=
  steps.foldl apply b

@[simp] theorem build_nil (b : Block) : b.build [] = b :=
  rfl

@[simp] theorem build_cons (b : Block) (s : Step) (l : List Step) : b.build (s :: l) = (b.apply s).build l :=
  rfl

theorem build_append (b : Block) (l l' : List Step) : b.build (l ++ l') = (b.build l).build l' :=
  List.foldl_append

end Block

end StreamPriority
