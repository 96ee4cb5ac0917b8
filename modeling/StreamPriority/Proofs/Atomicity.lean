import StreamPriority.Relay.Step

/-!
# All or nothing

An operation can fail in five ways (`Relay.Fails`), each known from the relay before it. One that failed did nothing: what is
under way, delivered, given up and kept is as it was, whether or not it was the last of its stream. There is one exception. A
PRIORITY frame takes the record of its stream before it asks for a message, so that the record is gone when the message is
refused (`Op.spends`).
-/

namespace StreamPriority

/-! ## What the assembler refuses -/

namespace Assembly

/-- A block is refused if it has to open a message and does not make one. -/
theorem takeBlock_eq_error_iff (a : Assembly) (s : StreamId) (b : Block) (validate : Bool) (why : Rejection) :
    a.takeBlock s b validate = .error why ↔ a.live.get? s = none ∧ Message.ofBlock s b validate = .error why := by
  unfold takeBlock
  cases a.live.get? s with
  | some m => simp
  | none => cases Message.ofBlock s b validate <;> simp [Except.map]

theorem exceeded?_eq_some_iff (a : Assembly) (length : Nat) (limit : SizeLimit) :
    a.exceeded? length = some limit ↔ a.limit = some limit ∧ limit.octets < length := by
  simp [exceeded?, Option.filter_eq_some_iff]

/-- Content is refused without a message to put it in, and where it would grow beyond the limit. -/
theorem takeData_eq_error_iff (a : Assembly) (s : StreamId) (octets : List UInt8) (why : Rejection) :
    a.takeData s octets = .error why ↔
      (a.live.get? s = none ∧ why = .noMessage s) ∨
        ∃ m limit, a.live.get? s = some m ∧ a.limit = some limit ∧ limit.octets < m.content.length + octets.length ∧
          why = .oversized s (m.content.length + octets.length) limit.octets := by
  unfold takeData
  cases hl : a.live.get? s with
  | none => simp [eq_comm]
  | some m =>
    cases hx : a.exceeded? (m.content.length + octets.length) with
    | none =>
      have hfits : ∀ limit, ¬(a.limit = some limit ∧ limit.octets < m.content.length + octets.length) := by
        intro limit h
        rw [← exceeded?_eq_some_iff, hx] at h
        cases h
      simp only [hx, reduceCtorEq, false_and, false_or, false_iff]
      rintro ⟨m', limit, hm, hlimit, hlt, -⟩
      cases hm
      exact hfits limit ⟨hlimit, hlt⟩
    | some limit =>
      obtain ⟨hlimit, hlt⟩ := (a.exceeded?_eq_some_iff _ _).mp hx
      simp only [hx, hlimit, Except.error.injEq, reduceCtorEq, false_and, false_or]
      constructor
      · rintro rfl
        exact ⟨m, limit, rfl, rfl, hlt, rfl⟩
      · rintro ⟨m', limit', hm, hlimit', -, rfl⟩
        cases hm
        cases hlimit'
        rfl

end Assembly

/-! ## The ways to fail -/

/-- Whether an operation that failed has used a record up: a PRIORITY frame has, if the message for it was refused. -/
def Op.spends : Op → Failure → Bool
  | .signal (.frame _), .rejected _ => true
  | _, _ => false

namespace Relay

/-- An operation fails on a relay, and why. -/
inductive Fails (r : Relay) : Op → Failure → Prop where
  /-- A block has to open a message, and does not make one. -/
  | unopened {s : StreamId} {b : Block} {last : Bool} {why : Rejection} (hlive : r.assembly.live.get? s = none)
      (h : Message.ofBlock s b r.config.validate = .error why) : Fails r (.block s b last) (.rejected why)
  /-- Content has no message to be put in. -/
  | noMessage {s : StreamId} {octets : List UInt8} {last : Bool} (hlive : r.assembly.live.get? s = none) :
      Fails r (.data s octets last) (.rejected (.noMessage s))
  /-- Content would grow beyond the limit. -/
  | oversized {s : StreamId} {octets : List UInt8} {last : Bool} {m : Message} {limit : SizeLimit}
      (hlive : r.assembly.live.get? s = some m) (hlimit : r.assembly.limit = some limit)
      (h : limit.octets < m.content.length + octets.length) :
      Fails r (.data s octets last) (.rejected (.oversized s (m.content.length + octets.length) limit.octets))
  /-- A PRIORITY frame finds neither a message nor a record. -/
  | unknown {f : PriorityFrame} (hlive : r.assembly.live.get? f.stream = none) (hrecord : r.records.get? f.stream = none) :
      Fails r (.signal (.frame f)) (.unknownStream f.stream)
  /-- A PRIORITY frame finds a record, and no message can be made of it. -/
  | unmade {f : PriorityFrame} {record : Fields} {why : Rejection} (hlive : r.assembly.live.get? f.stream = none)
      (hrecord : r.records.get? f.stream = some record)
      (h : r.assembly.construct f.stream (.synthetic r.config.role record) r.config.validate = .error why) :
      Fails r (.signal (.frame f)) (.rejected why)

variable {r : Relay} {op : Op} {why : Failure}

/-! ## What the single operations answer -/

/-- What was taken was taken: the rest of the operation does not fail. -/
theorem failure_taken (r : Relay) (s : StreamId) (last : Bool) (call : Note) : (r.taken s last call).failure = none := by
  cases last <;> rfl

theorem isLive_eq_false_iff (r : Relay) (s : StreamId) : r.isLive s = false ↔ r.assembly.live.get? s = none := by
  unfold isLive Table.contains
  simp

theorem Fails.of_readBlock {s : StreamId} {b : Block} {last : Bool} (h : (r.readBlock s b last).failure = some why) :
    r.Fails (.block s b last) why := by
  cases ht : r.assembly.takeBlock s b r.config.validate with
  | ok a =>
    simp only [readBlock, afterBlock, ht, failure_taken, reduceCtorEq] at h
  | error refusal =>
    simp only [readBlock, afterBlock, ht, Option.some.injEq] at h
    obtain ⟨hlive, hb⟩ := (r.assembly.takeBlock_eq_error_iff s b _ refusal).mp ht
    rw [← h]
    exact .unopened hlive hb

theorem Fails.of_readData {s : StreamId} {octets : List UInt8} {last : Bool}
    (h : (r.readData s octets last).failure = some why) : r.Fails (.data s octets last) why := by
  cases ht : r.assembly.takeData s octets with
  | ok a =>
    simp only [readData, ht, failure_taken, reduceCtorEq] at h
  | error refusal =>
    simp only [readData, ht, Option.some.injEq] at h
    rw [← h]
    rcases (r.assembly.takeData_eq_error_iff s octets refusal).mp ht with
      ⟨hlive, rfl⟩ | ⟨m, limit, hlive, hlimit, hlt, rfl⟩
    · exact .noMessage hlive
    · exact .oversized hlive hlimit hlt

theorem Fails.of_readFrame {f : PriorityFrame} (h : (r.readFrame f.stream).failure = some why) :
    r.Fails (.signal (.frame f)) why := by
  cases hl : r.isLive f.stream with
  | true => simp [readFrame, hl] at h
  | false =>
    have hlive := (r.isLive_eq_false_iff f.stream).mp hl
    cases hrecord : r.records.get? f.stream with
    | none =>
      simp only [readFrame, hl, hrecord, Bool.false_eq_true, if_false, Option.some.injEq] at h
      rw [← h]
      exact .unknown hlive hrecord
    | some record =>
      simp only [readFrame, hl, hrecord, Bool.false_eq_true, if_false, synthesize] at h
      cases hc : r.assembly.construct f.stream (.synthetic r.config.role record) r.config.validate with
      | ok made => simp only [hc, reduceCtorEq] at h
      | error refusal =>
        simp only [hc, Option.some.injEq] at h
        rw [← h]
        exact .unmade hlive hrecord hc

/-! ## Exactly these ways, and what they leave -/

/-- An operation that failed did so in one of these ways. -/
theorem Fails.of_step (h : (r.step op).failure = some why) : r.Fails op why := by
  cases op with
  | block s b last => exact Fails.of_readBlock h
  | data s octets last => exact Fails.of_readData h
  | remove s => cases h
  | announce s => cases h
  | deliver s m => cases h
  | hold s m => cases h
  | signal sig =>
    cases sig with
    | moved n old => cases h
    | reweighted n old => cases h
    | frame f => exact Fails.of_readFrame h

/-- In each of these ways an operation fails, and leaves the relay as it was but for a record that is used up. -/
theorem Fails.step (h : r.Fails op why) :
    (r.step op).failure = some why ∧
      (r.step op).after = if op.spends why then { r with records := r.records.drop op.stream } else r := by
  cases h with
  | @unopened s b last why hlive h =>
    have ht := (r.assembly.takeBlock_eq_error_iff s b _ why).mpr ⟨hlive, h⟩
    simp only [Relay.step, readBlock, afterBlock, ht]
    exact ⟨trivial, rfl⟩
  | @noMessage s octets last hlive =>
    have ht := (r.assembly.takeData_eq_error_iff s octets _).mpr (Or.inl ⟨hlive, rfl⟩)
    simp only [Relay.step, readData, ht]
    exact ⟨trivial, rfl⟩
  | @oversized s octets last m limit hlive hlimit h =>
    have ht := (r.assembly.takeData_eq_error_iff s octets _).mpr (Or.inr ⟨_, _, hlive, hlimit, h, rfl⟩)
    simp only [Relay.step, readData, ht]
    exact ⟨trivial, rfl⟩
  | unknown hlive hrecord =>
    simp only [Relay.step, hear, readFrame, (r.isLive_eq_false_iff _).mpr hlive, hrecord, Bool.false_eq_true, if_false]
    exact ⟨trivial, rfl⟩
  | unmade hlive hrecord h =>
    simp only [Relay.step, hear, readFrame, (r.isLive_eq_false_iff _).mpr hlive, hrecord, Bool.false_eq_true, if_false,
      synthesize, h]
    exact ⟨trivial, rfl⟩

/-- A block that is only tried out fails exactly if it does not make a message. -/
theorem failure_screenBlock_iff (r : Relay) (s : StreamId) (b : Block) (last : Bool) :
    (r.screenBlock s b last).failure = some why ↔
      ∃ refusal, Message.ofBlock s b r.config.validate = .error refusal ∧ why = .rejected refusal := by
  unfold screenBlock afterBlock
  cases Message.ofBlock s b r.config.validate with
  | ok m => simp [Except.map, failure_taken]
  | error refusal => simp [Except.map, eq_comm]

/-- Without a message under way, trying a block out fails as reading it would, and changes nothing. -/
theorem screenBlock_of_idle {s : StreamId} (hlive : r.assembly.live.get? s = none) (b : Block) (last : Bool) :
    (r.screenBlock s b last).failure = (r.readBlock s b last).failure ∧ (r.screenBlock s b last).after = r := by
  have hkept : r.announce s = r := by simp only [announce, Assembly.adjust, Table.adjust, hlive]
  have hcomplete : r.complete s = r := by simp only [complete, hlive]
  unfold screenBlock readBlock afterBlock Assembly.takeBlock
  cases Message.ofBlock s b r.config.validate with
  | error refusal => simp [hlive, Except.map]
  | ok m =>
    simp only [hlive, Except.map, failure_taken, hkept, true_and]
    cases last with
    | true => exact hcomplete
    | false => rfl

/-- Of the failures only that of priority for an unknown stream is the peer's fault, and it names the stream. -/
theorem Fails.isProtocolError_iff (h : r.Fails op why) :
    why.isProtocolError = true ↔ why = .unknownStream op.stream := by
  cases h with
  | unopened | noMessage | oversized | unmade => simp [Failure.isProtocolError]
  | unknown => simp [Failure.isProtocolError, Op.stream, Signal.stream]

/-- When an operation fails, and what that leaves, on any relay. A change of the tree never fails. Any other operation fails
in exactly the five ways of `Fails`, with the failure given there; of these only priority for an unknown stream breaks the
protocol. An operation that failed leaves the relay as it was, with the exception of the record of its stream where a PRIORITY
frame could not make a message of it: that is gone. -/
theorem all_or_nothing (r : Relay) :
    (∀ n old, (r.step (.signal (.moved n old))).failure = none) ∧
      (∀ n old, (r.step (.signal (.reweighted n old))).failure = none) ∧
      ∀ op why,
        ((r.step op).failure = some why ↔ r.Fails op why) ∧
          ((r.step op).failure = some why →
            (why.isProtocolError = true ↔ why = .unknownStream op.stream) ∧
              (r.step op).after = if op.spends why then { r with records := r.records.drop op.stream } else r) := by
  refine ⟨fun _ _ => rfl, fun _ _ => rfl, fun op why => ⟨⟨Fails.of_step, fun h => h.step.1⟩, fun h => ?_⟩⟩
  have hfails : r.Fails op why := Fails.of_step h
  exact ⟨hfails.isProtocolError_iff, hfails.step.2⟩

/-- A relay that may make no messages, with a record for one stream. -/
def refusing : Relay :=
  (new {} none true).run [.signal (.moved { id := ⟨7⟩, parent := .stream ⟨5⟩ } .root)]

/-- A PRIORITY frame for the stream fails on it, and leaves it without the record. A second one finds nothing. -/
theorem all_or_nothing_refusing :
    let op : Op := .signal (.frame { stream := ⟨7⟩ })
    let r : Relay := { refusing with records := refusing.records.drop ⟨7⟩ }
    refusing.Fails op (.rejected (.missingPseudo ⟨7⟩ ":method")) ∧ (refusing.step op).after = r ∧
      r.Fails op (.unknownStream ⟨7⟩) ∧ (r.step op).after = r := by
  intro op r
  have hfirst : (refusing.step op).failure = some (.rejected (.missingPseudo ⟨7⟩ ":method")) := by decide
  have hsecond : (r.step op).failure = some (.unknownStream ⟨7⟩) := by decide
  obtain ⟨hiff, hleft⟩ := (all_or_nothing refusing).2.2 op (.rejected (.missingPseudo ⟨7⟩ ":method"))
  obtain ⟨hiff', hleft'⟩ := (all_or_nothing r).2.2 op (.unknownStream ⟨7⟩)
  exact ⟨hiff.mp hfirst, (hleft hfirst).2, hiff'.mp hsecond, (hleft' hsecond).2⟩

end Relay

end StreamPriority
