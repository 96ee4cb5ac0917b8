import StreamPriority.Relay.Step

/-!
# One stream of a relay

A relay serves many streams, but an operation is about one. A strand is what the relay holds of one stream: its message
under way and its record. `Strand.step` says what an operation does to the strand of its stream; it sees nothing but that
strand and the setup, which never changes. `Relay.step_shows` is the one statement about `Relay.step` that everything on
whole runs is drawn from: an operation has on its own stream the effect that `Strand.step` says, and none on another.
-/

namespace StreamPriority

/-- What is settled before a relay starts. -/
structure Setup where
  config : Config
  limit : Option SizeLimit
  refusesNew : Bool
deriving DecidableEq

/-- What a relay holds of one stream. -/
structure Strand where
  live : Option Message := none
  record : Option Fields := none
deriving DecidableEq

/-- What an operation does to its stream. -/
structure Effect where
  /-- The strand afterwards. -/
  after : Strand
  /-- Why the operation failed, if it did. -/
  failure : Option Failure := none
  /-- The message it delivered, if it did. -/
  delivered : Option Message := none
  /-- Whether it gave the stream up. -/
  givenUp : Bool := false
deriving DecidableEq

/-- The setup of a relay. -/
def Relay.setup (r : Relay) : Setup :=
  ⟨r.config, r.assembly.limit, r.assembly.refusesNew⟩

/-- The strand of a stream. -/
def Relay.strand (r : Relay) (s : StreamId) : Strand :=
  ⟨r.assembly.live.get? s, r.records.get? s⟩

/-! ## The effect of an operation on a strand -/

namespace Strand

/-- Lays the record, if there is one, over other fields. -/
def layOver (k : Strand) (fs : Fields) : Fields :=
  match k.record with
  | some record => fs.overlay record
  | none => fs

/-- A message with the record laid over the fields that further ones are laid over now. -/
def dress (k : Strand) (m : Message) : Message :=
  m.modifyActive k.layOver

/-- The strand once its message is dressed. -/
def announce (k : Strand) : Strand :=
  { k with live := k.live.map k.dress }

/-- The strand once it was told fields: a message and the record there is have them laid over, and with neither they are
the record. -/
def told (k : Strand) (fs : Fields) : Strand where
  live := k.live.map (·.modifyActive (·.overlay fs))
  record :=
    match k.live, k.record with
    | none, none => some fs
    | _, record => record.map (·.overlay fs)

/-- The strand without what no longer holds at a place. -/
def stripped (k : Strand) (p : Parent) : Strand where
  live := k.live.map (·.modifyBoth (·.strippedAt p))
  record := k.record.map (·.strippedAt p)

/-- The strand of a stream that has moved. -/
def moved (k : Strand) (p : Parent) : Strand :=
  match p.dependency with
  | some d => k.told (.ofDependency d)
  | none => k.stripped p

/-- The message under way once a block is read. -/
def takeBlock (k : Strand) (c : Setup) (s : StreamId) (b : Block) : Except Rejection Message :=
  match k.live with
  | some m => .ok (m.modifyActive (·.overlay b.fields))
  | none => Message.ofBlock s b c.config.validate

/-- The message under way once content is read. -/
def takeData (k : Strand) (c : Setup) (s : StreamId) (data : List UInt8) : Except Rejection Message :=
  match k.live with
  | none => .error (.noMessage s)
  | some m =>
    match c.limit.filter (·.octets < m.content.length + data.length) with
    | some limit => .error (.oversized s (m.content.length + data.length) limit.octets)
    | none => .ok (m.append data)

/-- The effect of delivering a message. -/
def delivering (k : Strand) (m : Message) : Effect :=
  { after := {}, delivered := some (k.dress m), givenUp := true }

/-- The effect of taking what came in: there is a message under way, and it is complete if that was the last of its stream.
-/
def taken (k : Strand) (last : Bool) (m : Message) : Effect :=
  if last then k.delivering m else { after := { k with live := some m } }

/-- The effect of failing to take what came in. -/
def refused (k : Strand) (why : Rejection) : Effect :=
  { after := k, failure := some (.rejected why) }

/-- The message that is made of a record. -/
def synthesis (c : Setup) (s : StreamId) (record : Fields) : Except Rejection Message :=
  if c.refusesNew then .error (.missingPseudo s ":method")
  else Message.ofBlock s (.synthetic c.config.role record) c.config.validate

/-- The effect of reading a PRIORITY frame. -/
def readFrame (k : Strand) (c : Setup) (s : StreamId) : Effect :=
  match k.live, k.record with
  | some _, _ => { after := k }
  | none, none => { after := k, failure := some (.unknownStream s) }
  | none, some record =>
    match synthesis c s record with
    | .error why => { after := {}, failure := some (.rejected why) }
    | .ok m => ({} : Strand).delivering m

/-- The effect of an operation on the strand of its stream. -/
def step (k : Strand) (c : Setup) : Op → Effect
  | .block s b last =>
    match k.takeBlock c s b with
    | .error why => k.refused why
    | .ok m => k.taken last (k.dress m)
  | .data s octets last =>
    match k.takeData c s octets with
    | .error why => k.refused why
    | .ok m => k.taken last m
  | .remove _ => { after := {}, givenUp := true }
  | .announce _ => { after := k.announce }
  | .deliver _ m => k.delivering m
  | .signal (.moved n _) => { after := k.moved n.parent }
  | .signal (.reweighted n _) => { after := k.told (.ofWeight n.weight) }
  | .signal (.frame f) => k.readFrame c f.stream
  | .hold _ m => { after := { k with live := some m } }

theorem announce_of_none {k : Strand} (h : k.live = none) : k.announce = k := by
  rw [announce, h, Option.map_none, ← h]

theorem announce_of_some {k : Strand} {m : Message} (h : k.live = some m) :
    k.announce = { k with live := some (k.dress m) } := by
  rw [announce, h, Option.map_some]

/-- A block is refused, or it is taken and the message dressed. -/
theorem step_block_cases (k : Strand) (c : Setup) (s : StreamId) (b : Block) (last : Bool) :
    (∃ why, k.takeBlock c s b = .error why ∧ k.step c (.block s b last) = k.refused why) ∨
      ∃ m, k.takeBlock c s b = .ok m ∧ k.step c (.block s b last) = k.taken last (k.dress m) := by
  cases h : k.takeBlock c s b with
  | error why => exact Or.inl ⟨why, rfl, by simp only [step, h]⟩
  | ok m => exact Or.inr ⟨m, rfl, by simp only [step, h]⟩

/-- Content is refused, or it is added to the message under way. -/
theorem step_data_cases (k : Strand) (c : Setup) (s : StreamId) (octets : List UInt8) (last : Bool) :
    (∃ why, k.takeData c s octets = .error why ∧ k.step c (.data s octets last) = k.refused why) ∨
      ∃ m, k.live = some m ∧ k.takeData c s octets = .ok (m.append octets) ∧
        k.step c (.data s octets last) = k.taken last (m.append octets) := by
  cases h : k.takeData c s octets with
  | error why => exact Or.inl ⟨why, rfl, by simp only [step, h]⟩
  | ok m =>
    have hm : ∃ m₀, k.live = some m₀ ∧ m = m₀.append octets := by
      unfold takeData at h
      split at h
      · cases h
      · next m₀ hl =>
        split at h
        · cases h
        · cases h
          exact ⟨m₀, hl, rfl⟩
    obtain ⟨m₀, hl, rfl⟩ := hm
    exact Or.inr ⟨m₀, hl, rfl, by simp only [step, h]⟩

/-- A PRIORITY frame says nothing to a strand with a message and fails for one without anything. A record is used up, for a
message that is delivered or cannot be made. -/
theorem readFrame_cases (k : Strand) (c : Setup) (s : StreamId) :
    (k.live.isSome ∧ k.readFrame c s = { after := k }) ∨
      (k = {} ∧ k.readFrame c s = { after := k, failure := some (.unknownStream s) }) ∨
      ∃ record, k = { record := some record } ∧
        ((∃ why, synthesis c s record = .error why ∧
            k.readFrame c s = { after := {}, failure := some (.rejected why) }) ∨
          ∃ m, synthesis c s record = .ok m ∧ k.readFrame c s = ({} : Strand).delivering m) := by
  obtain ⟨live, record⟩ := k
  cases live with
  | some m => exact Or.inl ⟨rfl, rfl⟩
  | none =>
    cases record with
    | none => exact Or.inr (Or.inl ⟨rfl, rfl⟩)
    | some record =>
      refine Or.inr (Or.inr ⟨record, rfl, ?_⟩)
      cases h : synthesis c s record with
      | error why => exact Or.inl ⟨why, rfl, by simp only [readFrame, h]⟩
      | ok m => exact Or.inr ⟨m, rfl, by simp only [readFrame, h]⟩

/-- A PRIORITY frame leaves a strand with a message as it is, and empties one without. -/
theorem after_readFrame (k : Strand) (c : Setup) (s : StreamId) :
    (k.readFrame c s).after = if k.live.isSome then k else {} := by
  rcases k.readFrame_cases c s with ⟨hl, he⟩ | ⟨rfl, he⟩ | ⟨record, rfl, ⟨why, -, he⟩ | ⟨m, -, he⟩⟩
  · rw [he, if_pos hl]
  · rw [he]
    rfl
  · rw [he]
    rfl
  · rw [he]
    rfl

/-- What was taken is delivered, dressed, if it was the last of its stream. -/
theorem delivered_taken {k : Strand} {last : Bool} {m m' : Message} (h : (k.taken last m).delivered = some m') :
    last = true ∧ m' = k.dress m := by
  cases last with
  | true => exact ⟨rfl, (Option.some.inj h).symm⟩
  | false => cases h

end Strand

/-! ## The operations of a relay have these effects -/

namespace Relay

/-- One relay came out of another by an effect on a stream; all it holds of other streams is as it was. -/
structure Became (r q : Relay) (s : StreamId) (e : Effect) : Prop where
  setup : q.setup = r.setup
  own : q.strand s = e.after
  other : ∀ t, s ≠ t → q.strand t = r.strand t
  delivered : q.assembly.delivered = r.assembly.delivered ++ (e.delivered.map (s, ·)).toList
  removed : q.assembly.removed = r.assembly.removed ++ if e.givenUp then [s] else []

variable {r q p : Relay} {s : StreamId}

/-- Nothing happened, whether or not that is a failure. -/
theorem Became.refl (r : Relay) (s : StreamId) (failure : Option Failure) :
    r.Became r s { after := r.strand s, failure } :=
  ⟨rfl, rfl, fun _ _ => rfl, by simp, by simp⟩

/-- An effect after one that only changed the strand. -/
theorem Became.trans {k : Strand} {e : Effect} (h : r.Became q s { after := k }) (h' : q.Became p s e) :
    r.Became p s e where
  setup := h'.setup.trans h.setup
  own := h'.own
  other t ht := (h'.other t ht).trans (h.other t ht)
  delivered := by rw [h'.delivered, h.delivered]; simp
  removed := by rw [h'.removed, h.removed]; simp

theorem isLive_eq (r : Relay) (s : StreamId) : r.isLive s = (r.strand s).live.isSome :=
  rfl

/-- The relay lays over what the strand does. -/
theorem layOver_records (r : Relay) (s : StreamId) : r.records.layOver s = (r.strand s).layOver := by
  funext fs
  rfl

theorem hold_became (r : Relay) (s : StreamId) (m : Message) :
    r.Became { r with assembly := r.assembly.hold s m } s { after := { r.strand s with live := some m } } where
  setup := rfl
  own := by simp [strand, Assembly.hold]
  other t ht := by simp [strand, Assembly.hold, Table.get?_insert_of_ne _ ht]
  delivered := by simp [Assembly.hold]
  removed := by simp [Assembly.hold]

/-- Only records were changed, and only that of the stream. -/
theorem records_became (r : Relay) (s : StreamId) (records : Records)
    (h : ∀ t, s ≠ t → records.get? t = r.records.get? t) :
    r.Became { r with records } s { after := { r.strand s with record := records.get? s } } where
  setup := rfl
  own := rfl
  other t ht := by simp [strand, h t ht]
  delivered := by simp
  removed := by simp

/-- The message of the stream was changed, and its record. -/
theorem adjust_became (r : Relay) (s : StreamId) (f : Message → Message) (records : Records)
    (h : ∀ t, s ≠ t → records.get? t = r.records.get? t) :
    r.Became { r with assembly := r.assembly.adjust s f, records } s
      { after := ⟨(r.strand s).live.map f, records.get? s⟩ } where
  setup := rfl
  own := by simp [strand, Assembly.adjust, Table.get?_adjust]
  other t ht := by simp [strand, Assembly.adjust, Table.get?_adjust, ht, h t ht]
  delivered := by simp [Assembly.adjust]
  removed := by simp [Assembly.adjust]

theorem announce_became (r : Relay) (s : StreamId) : r.Became (r.announce s) s { after := (r.strand s).announce } :=
  r.adjust_became s _ r.records fun _ _ => rfl

theorem remove_became (r : Relay) (s : StreamId) : r.Became (r.remove s) s { after := {}, givenUp := true } where
  setup := rfl
  own := by simp [strand, remove, Assembly.remove, Records.get?_drop]
  other t ht := by simp [strand, remove, Assembly.remove, Records.get?_drop, Table.get?_erase, ht]
  delivered := by simp [remove, Assembly.remove]
  removed := by simp [remove, Assembly.remove]

theorem deliver_became (r : Relay) (s : StreamId) (m : Message) :
    r.Became (r.deliver s m) s ((r.strand s).delivering m) where
  setup := rfl
  own := (r.remove_became s).own
  other := (r.remove_became s).other
  delivered := by
    simp only [deliver, Assembly.deliver, Assembly.remove, layOver_records]
    rfl
  removed := (r.remove_became s).removed

/-- Completing a stream delivers its message; that the message was let go of before makes no difference. -/
theorem complete_became {m : Message} (h : (r.strand s).live = some m) :
    r.Became (r.complete s) s ((r.strand s).delivering m) := by
  have hget : r.assembly.live.get? s = some m := h
  have hd := deliver_became { r with assembly := r.assembly.handOut s } s m
  simp only [complete, hget]
  refine ⟨hd.setup, hd.own, fun t ht => (hd.other t ht).trans ?_, hd.delivered, hd.removed⟩
  simp [strand, Assembly.handOut, Table.get?_erase, ht]

/-- What is told to a relay is told to the strand. -/
theorem told_became (r : Relay) (s : StreamId) (fs : Fields) :
    r.Became
      (if r.isLive s then
        { r with
          assembly := r.assembly.adjust s (·.modifyActive (·.overlay fs))
          records := r.records.refresh s fs }
      else { r with records := r.records.keep s fs })
      s { after := (r.strand s).told fs } := by
  rw [isLive_eq]
  cases hl : (r.strand s).live with
  | some m =>
    have h := r.adjust_became s (·.modifyActive (·.overlay fs)) (r.records.refresh s fs) fun t ht => by
      rw [Records.get?_refresh, if_neg ht]
    rw [Records.get?_refresh, if_pos rfl] at h
    have hk : (r.strand s).told fs =
        ⟨(r.strand s).live.map (·.modifyActive (·.overlay fs)), (r.records.get? s).map (·.overlay fs)⟩ := by
      simp only [Strand.told, hl]
      rfl
    rw [hk]
    exact h
  | none =>
    have h := r.records_became s (r.records.keep s fs) fun t ht => by rw [Records.get?_keep, if_neg ht]
    rw [Records.get?_keep, if_pos rfl] at h
    have hk : (r.strand s).told fs =
        { r.strand s with record := some (((r.records.get? s).map (·.overlay fs)).getD fs) } := by
      have hrecord : (r.strand s).record = r.records.get? s := rfl
      cases hr : r.records.get? s <;> simp [Strand.told, hl, hrecord, hr]
    rw [hk]
    exact h

/-- What is stripped off a relay is stripped off the strand. -/
theorem stripped_became (r : Relay) (s : StreamId) (p : Parent) :
    r.Became
      (if r.isLive s then
        { r with
          assembly := r.assembly.adjust s (·.modifyBoth (·.strippedAt p))
          records := r.records.strip s p }
      else { r with records := r.records.strip s p })
      s { after := (r.strand s).stripped p } := by
  have hother : ∀ t, s ≠ t → (r.records.strip s p).get? t = r.records.get? t := fun t ht => by
    rw [Records.get?_strip, if_neg ht]
  rw [isLive_eq]
  cases hl : (r.strand s).live with
  | some m =>
    have h := r.adjust_became s (·.modifyBoth (·.strippedAt p)) (r.records.strip s p) hother
    rw [Records.get?_strip, if_pos rfl] at h
    exact h
  | none =>
    have h := r.records_became s (r.records.strip s p) hother
    rw [Records.get?_strip, if_pos rfl] at h
    have hk : (r.strand s).stripped p = { r.strand s with record := (r.records.get? s).map (·.strippedAt p) } := by
      simp only [Strand.stripped, hl]
      rfl
    rw [hk]
    exact h

theorem moved_became (r : Relay) (s : StreamId) (p : Parent) :
    r.Became (r.moved s p) s { after := (r.strand s).moved p } := by
  cases hd : p.dependency with
  | some d =>
    have h := r.told_became s (.ofDependency d)
    cases hl : r.isLive s <;> simpa [moved, Strand.moved, hd, hl] using h
  | none =>
    have h := r.stripped_became s p
    cases hl : r.isLive s <;> simpa [moved, Strand.moved, hd, hl] using h

/-- An outcome shows an effect: the relay came out by it, and the failure is the same. -/
structure Shows (r : Relay) (out : Outcome) (s : StreamId) (e : Effect) : Prop where
  became : r.Became out.after s e
  failure : out.failure = e.failure

/-- An outcome that shows an effect also shows it after a change of nothing but the strand. -/
theorem Shows.after {k : Strand} {out : Outcome} {e : Effect} (h : r.Became q s { after := k }) (h' : q.Shows out s e) :
    r.Shows out s e :=
  ⟨h.trans h'.became, h'.failure⟩

/-- Ending an operation that took what came in shows that it was taken. -/
theorem taken_shows {k : Strand} {m : Message} (h : r.strand s = { k with live := some m }) (last : Bool) (call : Note) :
    r.Shows (r.taken s last call) s (k.taken last m) := by
  cases last with
  | true =>
    have hc := complete_became (r := r) (s := s) (m := m) (by rw [h])
    rw [h] at hc
    exact ⟨hc, rfl⟩
  | false =>
    have hr := Became.refl r s none
    rw [h] at hr
    exact ⟨hr, rfl⟩

theorem refused_shows (r : Relay) (s : StreamId) (why : Rejection) (notes : List Note) :
    r.Shows ⟨r, some (.rejected why), notes⟩ s ((r.strand s).refused why) :=
  ⟨Became.refl r s _, rfl⟩

theorem readBlock_shows (r : Relay) (s : StreamId) (b : Block) (last : Bool) :
    r.Shows (r.readBlock s b last) s ((r.strand s).step r.setup (.block s b last)) := by
  have hb : r.assembly.takeBlock s b r.config.validate =
      ((r.strand s).takeBlock r.setup s b).map (r.assembly.hold s) := by
    unfold Assembly.takeBlock Strand.takeBlock strand
    cases r.assembly.live.get? s <;> rfl
  simp only [readBlock, hb, Strand.step]
  cases (r.strand s).takeBlock r.setup s b with
  | error why => exact r.refused_shows s why _
  | ok m =>
    have hh := r.hold_became s m
    have ha := hh.trans (announce_became _ s)
    refine Shows.after ha (taken_shows ?_ last _)
    rw [ha.own, hh.own]
    rfl

theorem readData_shows (r : Relay) (s : StreamId) (octets : List UInt8) (last : Bool) :
    r.Shows (r.readData s octets last) s ((r.strand s).step r.setup (.data s octets last)) := by
  have hd : r.assembly.takeData s octets =
      ((r.strand s).takeData r.setup s octets).map (r.assembly.hold s) := by
    unfold Assembly.takeData Strand.takeData Assembly.exceeded? strand setup
    cases r.assembly.live.get? s with
    | none => rfl
    | some m => cases hx : r.assembly.limit.filter (·.octets < m.content.length + octets.length) <;> simp [hx] <;> rfl
  simp only [readData, hd, Strand.step]
  cases (r.strand s).takeData r.setup s octets with
  | error why => exact r.refused_shows s why _
  | ok m =>
    have hh := r.hold_became s m
    exact Shows.after hh (taken_shows hh.own last _)

/-- A record is gone before the message that is made of it is delivered. -/
theorem synthesize_shows {record : Fields} (hl : (r.strand s).live = none) (hr : (r.strand s).record = some record) :
    r.Shows (r.synthesize s record) s ((r.strand s).readFrame r.setup s) := by
  have hown : ∀ n, strand { r with
      assembly := { r.assembly with constructed := n }, records := r.records.drop s } s = {} := by
    have hget : r.assembly.live.get? s = none := hl
    simp [strand, Records.get?_drop, hget]
  have hother : ∀ t, s ≠ t → strand { r with records := r.records.drop s } t = r.strand t := by
    intro t ht
    simp [strand, Records.get?_drop, ht]
  have hc : r.assembly.construct s (.synthetic r.config.role record) r.config.validate =
      (Strand.synthesis r.setup s record).map fun m =>
        (m, { r.assembly with constructed := r.assembly.constructed + 1 }) := by
    cases hn : r.assembly.refusesNew <;> simp [Assembly.construct, Strand.synthesis, setup, hn, Except.map]
  simp only [synthesize, hc, Strand.readFrame, hl, hr]
  cases Strand.synthesis r.setup s record with
  | error why => exact ⟨⟨rfl, hown _, hother, by simp [Except.map], by simp [Except.map]⟩, rfl⟩
  | ok m =>
    have hd := deliver_became { r with
      assembly := { r.assembly with constructed := r.assembly.constructed + 1 }, records := r.records.drop s } s m
    rw [hown] at hd
    exact ⟨⟨rfl, hd.own, fun t ht => (hd.other t ht).trans (hother t ht), hd.delivered, hd.removed⟩, rfl⟩

theorem readFrame_shows (r : Relay) (s : StreamId) :
    r.Shows (r.readFrame s) s ((r.strand s).readFrame r.setup s) := by
  cases hl : (r.strand s).live with
  | some m =>
    have hlive : r.isLive s = true := by rw [isLive_eq, hl]; rfl
    simp only [readFrame, hlive, if_true, Strand.readFrame, hl]
    exact ⟨Became.refl r s none, rfl⟩
  | none =>
    have hlive : r.isLive s = false := by rw [isLive_eq, hl]; rfl
    cases hr : (r.strand s).record with
    | some record =>
      have hget : r.records.get? s = some record := hr
      simp only [readFrame, hlive, hget, Bool.false_eq_true, if_false]
      exact synthesize_shows hl hr
    | none =>
      have hget : r.records.get? s = none := hr
      simp only [readFrame, hlive, hget, Bool.false_eq_true, if_false, Strand.readFrame, hl, hr]
      exact ⟨Became.refl r s _, rfl⟩

/-- An operation has on the strand of its stream the effect that `Strand.step` says, and none on another. -/
theorem step_shows (r : Relay) (op : Op) :
    r.Shows (r.step op) op.stream ((r.strand op.stream).step r.setup op) := by
  cases op with
  | block s b last => exact r.readBlock_shows s b last
  | data s octets last => exact r.readData_shows s octets last
  | remove s => exact ⟨r.remove_became s, rfl⟩
  | announce s => exact ⟨r.announce_became s, rfl⟩
  | deliver s m => exact ⟨r.deliver_became s m, rfl⟩
  | hold s m => exact ⟨r.hold_became s m, rfl⟩
  | signal sig =>
    cases sig with
    | moved n old => exact ⟨r.moved_became n.id n.parent, rfl⟩
    | reweighted n old => exact ⟨r.told_became n.id (.ofWeight n.weight), rfl⟩
    | frame f =>
      have h := r.readFrame_shows f.stream
      exact ⟨h.became, h.failure⟩

/-! ## Single operations and runs -/

/-- A relay keeps its setup. -/
theorem setup_step (r : Relay) (op : Op) : (r.step op).after.setup = r.setup :=
  (r.step_shows op).became.setup

/-- What an operation does to its own stream. -/
theorem strand_step (r : Relay) {op : Op} (h : op.stream = s) :
    (r.step op).after.strand s = ((r.strand s).step r.setup op).after := by
  subst h
  exact (r.step_shows op).became.own

/-- An operation does nothing to another stream. -/
theorem strand_step_of_ne (r : Relay) {op : Op} (h : op.stream ≠ s) : (r.step op).after.strand s = r.strand s :=
  (r.step_shows op).became.other s h

/-- What an operation delivers. -/
def deliveries (r : Relay) (op : Op) : List (StreamId × Message) :=
  (r.step op).after.assembly.delivered.drop r.assembly.delivered.length

theorem deliveries_eq (r : Relay) (op : Op) :
    r.deliveries op = (((r.strand op.stream).step r.setup op).delivered.map (op.stream, ·)).toList := by
  rw [deliveries, (r.step_shows op).became.delivered, List.drop_left]

/-- An operation adds to what was delivered, and takes nothing back. -/
theorem delivered_step (r : Relay) (op : Op) :
    (r.step op).after.assembly.delivered = r.assembly.delivered ++ r.deliveries op := by
  rw [deliveries_eq, (r.step_shows op).became.delivered]

/-- The operations of a run, each with the relay that met it. -/
def met (r : Relay) : List Op → List (Relay × Op)
  | [] => []
  | op :: ops => (r, op) :: met (r.step op).after ops

theorem met_append (r : Relay) (ops ops' : List Op) : r.met (ops ++ ops') = r.met ops ++ (r.run ops).met ops' := by
  induction ops generalizing r with
  | nil => rfl
  | cons op ops ih => rw [List.cons_append, met, ih, met, run_cons, List.cons_append]

/-- What was delivered is what the single operations delivered, in their order. -/
theorem delivered_run (r : Relay) (ops : List Op) :
    (r.run ops).assembly.delivered = r.assembly.delivered ++ (r.met ops).flatMap fun x => x.1.deliveries x.2 := by
  induction ops generalizing r with
  | nil => simp [met]
  | cons op ops ih => rw [run_cons, ih, delivered_step, met, List.flatMap_cons, List.append_assoc]

theorem setup_run (r : Relay) (ops : List Op) : (r.run ops).setup = r.setup := by
  induction ops generalizing r with
  | nil => rfl
  | cons op ops ih => rw [run_cons, ih, setup_step]

/-- An operation that a run meets is one of its operations, met by what the ones before it leave. -/
theorem exists_of_mem_met {r : Relay} {ops : List Op} {x : Relay × Op} (h : x ∈ r.met ops) :
    ∃ before after, ops = before ++ x.2 :: after ∧ x.1 = r.run before := by
  induction ops generalizing r with
  | nil => cases h
  | cons op ops ih =>
    rcases List.mem_cons.mp h with rfl | h
    · exact ⟨[], ops, rfl, rfl⟩
    · obtain ⟨before, after, he, hx⟩ := ih h
      exact ⟨op :: before, after, by rw [he, List.cons_append], by rw [hx, run_cons]⟩

/-- What holds of a strand and is kept by the operations on its stream where a run meets them holds all along the run. -/
theorem strand_met {P : Strand → Prop} (r : Relay) (s : StreamId) (ops : List Op) (h : P (r.strand s))
    (hstep : ∀ x ∈ r.met ops, x.2.stream = s → P (x.1.strand s) → P ((x.1.step x.2).after.strand s)) :
    P ((r.run ops).strand s) ∧ ∀ x ∈ r.met ops, P (x.1.strand s) := by
  induction ops generalizing r with
  | nil => exact ⟨h, fun x hx => nomatch hx⟩
  | cons op ops ih =>
    have hafter : P ((r.step op).after.strand s) := by
      by_cases hs : op.stream = s
      · exact hstep (r, op) List.mem_cons_self hs h
      · rw [strand_step_of_ne r hs]
        exact h
    obtain ⟨hrun, hmet⟩ := ih _ hafter fun x hx => hstep x (List.mem_cons_of_mem _ hx)
    refine ⟨hrun, fun x hx => ?_⟩
    rcases List.mem_cons.mp hx with rfl | hx
    · exact h
    · exact hmet x hx

/-- What holds of a strand and is kept by every operation on its stream holds after a run. -/
theorem strand_run {P : Strand → Prop} (r : Relay) (s : StreamId) (ops : List Op) (h : P (r.strand s))
    (hstep : ∀ op ∈ ops, op.stream = s → ∀ k, P k → P (k.step r.setup op).after) : P ((r.run ops).strand s) := by
  refine (strand_met r s ops h fun x hx hs hk => ?_).1
  obtain ⟨before, after, he, hbefore⟩ := exists_of_mem_met hx
  have hop : x.2 ∈ ops := by rw [he]; simp
  have hsetup : x.1.setup = r.setup := by rw [hbefore, setup_run]
  rw [strand_step x.1 hs, hsetup]
  exact hstep x.2 hop hs _ hk

/-- What an operation delivers is on its stream. -/
theorem mem_deliveries_iff (r : Relay) (op : Op) (s : StreamId) (m : Message) :
    (s, m) ∈ r.deliveries op ↔ op.stream = s ∧ ((r.strand op.stream).step r.setup op).delivered = some m := by
  rw [deliveries_eq, Option.mem_toList, Option.map_eq_some_iff]
  constructor
  · rintro ⟨m', hm', he⟩
    obtain ⟨hs, rfl⟩ := Prod.mk.inj he
    exact ⟨hs, hm'⟩
  · rintro ⟨rfl, hm⟩
    exact ⟨m, hm, rfl⟩

theorem run_concat (r : Relay) (ops : List Op) (op : Op) : r.run (ops ++ [op]) = ((r.run ops).step op).after := by
  rw [run_append]
  rfl

@[simp] theorem strand_new (config : Config) (limit : Option SizeLimit) (refusesNew : Bool) (s : StreamId) :
    (new config limit refusesNew).strand s = {} :=
  rfl

end Relay

end StreamPriority
