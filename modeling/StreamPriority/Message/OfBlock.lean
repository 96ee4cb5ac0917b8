import StreamPriority.Failure
import StreamPriority.Field.Valid
import StreamPriority.Message.Basic

/-!
# From a block to a message

The pseudo-headers of a block become the head, its fields those before the content. A status makes a response, whatever
else there is; without one, a request needs a method and a path. Where fields are checked, the first that is not valid is
reported, but only if the head is there.
-/

namespace StreamPriority

/-- The head that the pseudo-headers of a block make. -/
def Head.ofBlock (stream : StreamId) (b : Block) : Except Rejection Head :=
  match b.status, b.method, b.path with
  | some n, _, _ => .ok (.response n)
  | none, none, _ => .error (.missingPseudo stream ":method")
  | none, some _, none => .error (.missingPseudo stream ":path")
  | none, some m, some p => .ok (.request m p)

/-- Refuses fields one of which is not valid. -/
def Fields.check (stream : StreamId) (fs : Fields) : Except Rejection Unit :=
  match fs.firstInvalid? with
  | some f => .error (.invalidField stream f.name.text)
  | none => .ok ()

/-- The message that a block opens. -/
def Message.ofBlock (stream : StreamId) (b : Block) (validate : Bool) : Except Rejection Message := do
  let head ← Head.ofBlock stream b
  if validate then b.fields.check stream
  return { head, headers := b.fields }

/-- A block opens a message if there is a head and, where fields are checked, none is refused. The message has that head, the
fields of the block before the content, and nothing else. -/
theorem Message.ofBlock_eq_ok_iff {stream : StreamId} {b : Block} {validate : Bool} {m : Message} :
    ofBlock stream b validate = .ok m ↔
      Head.ofBlock stream b = .ok m.head ∧ (validate = true → b.fields.check stream = .ok ()) ∧
        m = { head := m.head, headers := b.fields } := by
  have hopened : ∀ head, (.ok { head, headers := b.fields } : Except Rejection Message) = .ok m ↔
      (.ok head : Except Rejection Head) = .ok m.head ∧ m = { head := m.head, headers := b.fields } := by
    intro head
    constructor
    · intro h
      cases h
      exact ⟨rfl, rfl⟩
    · rintro ⟨hhead, hm⟩
      rw [hm, Except.ok.inj hhead]
  unfold ofBlock
  cases Head.ofBlock stream b with
  | error why => simp [bind, Except.bind]
  | ok head =>
    cases validate with
    | false =>
      refine (hopened head).trans ?_
      simp
    | true =>
      cases b.fields.check stream with
      | error why => simp [bind, Except.bind]
      | ok u =>
        refine (hopened head).trans ?_
        simp

end StreamPriority
