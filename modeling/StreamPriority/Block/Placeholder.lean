import StreamPriority.Block.Basic
import StreamPriority.Config

/-!
# Placeholder blocks

Priority may have to be passed on for a stream that has no message. The message that carries it is made from a block that
stands for nothing else: a server reads a request without a target, a client a plain success.
-/

namespace StreamPriority.Block

/-- The method of a request that carries only priority. -/
def placeholderMethod : String := "OPTIONS"

/-- The path of a request that carries only priority. -/
def placeholderPath : String := ""

/-- The status of a response that carries only priority. -/
def placeholderStatus : UInt16 := 200

/-- The block of a message that says nothing, as the peer of the given end would send it. -/
def placeholder : Role → Block
  | .server => { method := some placeholderMethod, path := some placeholderPath }
  | .client => { status := some placeholderStatus }

/-- The placeholder block with fields put in, in their order. -/
def synthetic (role : Role) (fs : Fields) : Block :=
  (placeholder role).build (fs.entries.map fun f => .field f.name.text f.value)

/-- Fields that are put in one after another follow those that are there, and change nothing else. -/
theorem build_fields (b : Block) (l : List Field) :
    b.build (l.map fun f => .field f.name.text f.value) = { b with fields := ⟨b.fields.entries ++ l⟩ } := by
  induction l generalizing b with
  | nil => simp
  | cons f l ih =>
    rw [List.map_cons, build_cons, ih]
    simp [apply, Fields.add, FieldName.ofString_text]

/-- The placeholder block is completed by the fields that are put in. -/
theorem synthetic_eq (role : Role) (fs : Fields) : synthetic role fs = { placeholder role with fields := fs } := by
  rw [synthetic, build_fields]
  cases role <;> rfl

/-- The placeholder block has exactly the fields that were put in. -/
theorem fields_synthetic (role : Role) (fs : Fields) : (synthetic role fs).fields = fs := by
  rw [synthetic_eq]

end StreamPriority.Block
