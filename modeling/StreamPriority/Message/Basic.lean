import StreamPriority.Block.Basic

/-!
# Messages

A message is one request or response: its head, the fields before the content, the content, and the fields after it. As
long as no content has arrived, fields that come in belong before it; from the first octet on they belong after it.
-/

namespace StreamPriority

/-- The line a message opens with. -/
inductive Head where
  | request (method path : String)
  | response (status : UInt16)
deriving DecidableEq

/-- The two places for the fields of a message. -/
inductive Part where
  /-- Before the content. -/
  | headers
  /-- After the content. -/
  | trailing
deriving DecidableEq

/-- One request or response. -/
structure Message where
  head : Head
  headers : Fields := .empty
  trailing : Fields := .empty
  content : List UInt8 := []
deriving DecidableEq

namespace Message

/-- A request for the root of a server, without fields. -/
def plainRequest : Message :=
  { head := .request "GET" "/" }

/-- Whether any octet of content has arrived. -/
def hasContent (m : Message) : Bool :=
  !m.content.isEmpty

/-- Adds octets to the content. -/
def append (m : Message) (data : List UInt8) : Message :=
  { m with content := m.content ++ data }

/-- The fields in one place. -/
def fields (m : Message) : Part → Fields
  | .headers => m.headers
  | .trailing => m.trailing

/-- Changes the fields in one place. -/
def modify (m : Message) (p : Part) (f : Fields → Fields) : Message :=
  match p with
  | .headers => { m with headers := f m.headers }
  | .trailing => { m with trailing := f m.trailing }

/-- Changes the fields in both places. -/
def modifyBoth (m : Message) (f : Fields → Fields) : Message :=
  { m with headers := f m.headers, trailing := f m.trailing }

/-- The place where fields that come in now belong. -/
def activePart (m : Message) : Part :=
  if m.hasContent then .trailing else .headers

/-- The fields that further ones are laid over now. -/
def active (m : Message) : Fields :=
  m.fields m.activePart

/-- Changes the fields that further ones are laid over now. -/
def modifyActive (m : Message) (f : Fields → Fields) : Message :=
  m.modify m.activePart f

@[simp] theorem fields_modify_self (m : Message) (p : Part) (f : Fields → Fields) :
    (m.modify p f).fields p = f (m.fields p) := by
  cases p <;> rfl

theorem fields_modify_of_ne (m : Message) {p q : Part} (h : p ≠ q) (f : Fields → Fields) :
    (m.modify p f).fields q = m.fields q := by
  match p, q, h with
  | .headers, .trailing, _ => rfl
  | .trailing, .headers, _ => rfl

@[simp] theorem head_modify (m : Message) (p : Part) (f : Fields → Fields) : (m.modify p f).head = m.head := by
  cases p <;> rfl

@[simp] theorem content_modify (m : Message) (p : Part) (f : Fields → Fields) :
    (m.modify p f).content = m.content := by
  cases p <;> rfl

/-- A change of fields does not change where further ones belong. -/
@[simp] theorem activePart_modify (m : Message) (p : Part) (f : Fields → Fields) :
    (m.modify p f).activePart = m.activePart := by
  simp [activePart, hasContent]

@[simp] theorem modifyActive_id (m : Message) : m.modifyActive (fun fs => fs) = m := by
  unfold modifyActive
  cases m.activePart <;> rfl

/-- Two changes of the active fields are one. -/
theorem modifyActive_modifyActive (m : Message) (f g : Fields → Fields) :
    (m.modifyActive f).modifyActive g = m.modifyActive fun fs => g (f fs) := by
  have hp : (m.modifyActive f).activePart = m.activePart := activePart_modify m _ f
  rw [modifyActive, hp, modifyActive, modifyActive]
  cases m.activePart <;> rfl

theorem active_modifyActive (m : Message) (f : Fields → Fields) : (m.modifyActive f).active = f m.active := by
  simp [modifyActive, active]

end Message

end StreamPriority
