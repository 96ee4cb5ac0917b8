import StreamPriority.Proofs.Isolation

/-!
# Every message is delivered once

A message under way ends in one of two ways. It is complete and delivered, or it is dropped, because its stream is given up
or a message from elsewhere is delivered on it. Each of these is done by one operation and leaves nothing of the stream
(`Relay.EndsOnce`), so that messages can be counted: as many were opened on a stream as were delivered complete, were
dropped, and are under way (`Relay.balance_run`).
-/

namespace StreamPriority

/-- Whether an operation asks for nothing but to give its stream up. -/
def Op.isRemove : Op → Bool
  | .remove _ => true
  | _ => false

/-- Whether a call ends a stream for the assembler: it gives the stream up, or delivers a message on it. -/
def Call.isEnd : Call → Bool
  | .remove _ => true
  | .deliver _ => true
  | _ => false

/-- The calls among some notes that end a stream. -/
def Note.ends (notes : List Note) : List Call :=
  (calls notes).filter Call.isEnd

namespace Relay

/-- Whether an operation completes its stream: it takes the last thing that comes in on it. -/
def completes (x : Relay × Op) : Bool :=
  match x.2 with
  | .block _ _ last => last && (x.1.step x.2).failure.isNone
  | .data _ _ last => last && (x.1.step x.2).failure.isNone
  | _ => false

/-- Whether an operation delivers: it completes its stream, brings the message along, or is a PRIORITY frame that succeeds
without a message under way. -/
def delivers (x : Relay × Op) : Bool :=
  match x.2 with
  | .deliver _ _ => true
  | .signal (.frame f) => !x.1.isLive f.stream && (x.1.step x.2).failure.isNone
  | _ => completes x

/-- Whether an operation opens a message: it is taken on a stream that has none under way. -/
def opens (x : Relay × Op) : Bool :=
  match x.2 with
  | .block s _ _ => !x.1.isLive s && (x.1.step x.2).failure.isNone
  | .hold s _ => !x.1.isLive s
  | _ => false

/-- Whether an operation drops the message under way. -/
def drops (x : Relay × Op) : Bool :=
  match x.2 with
  | .remove s => x.1.isLive s
  | .deliver s _ => x.1.isLive s
  | _ => false

/-- Whether an operation leaves nothing of its stream: it delivers, or gives the stream up. -/
def givesUp (x : Relay × Op) : Bool :=
  delivers x || x.2.isRemove

/-- What an operation adds to the messages delivered and to the streams given up is settled by what it is and whether it
succeeds. -/
structure EndsOnce (r : Relay) (op : Op) : Prop where
  /-- One message is delivered, on the stream of the operation, or none. -/
  delivered : ∃ l, (r.step op).after.assembly.delivered = r.assembly.delivered ++ l ∧
    l.map Prod.fst = if delivers (r, op) then [op.stream] else []
  /-- The stream is given up once, or not at all. -/
  removed : (r.step op).after.assembly.removed =
    r.assembly.removed ++ if givesUp (r, op) then [op.stream] else []
  /-- It is given up before the message is delivered. -/
  order : Note.ends (r.step op).notes =
    if delivers (r, op) then [.remove op.stream, .deliver op.stream]
    else if op.isRemove then [.remove op.stream] else []
  /-- Nothing is left of a stream that was given up. -/
  gone : givesUp (r, op) = true →
    (r.step op).after.assembly.live.get? op.stream = none ∧ (r.step op).after.records.get? op.stream = none

end Relay

/-! ## Effects -/

namespace Strand

/-- An effect of reading what came in, perhaps the last thing of its stream: it is refused, or taken. -/
def Reads (k : Strand) (last : Bool) (e : Effect) : Prop :=
  (∃ why, e = k.refused why) ∨ ∃ m, e = k.taken last m

theorem reads_block (k : Strand) (c : Setup) (s : StreamId) (b : Block) (last : Bool) :
    k.Reads last (k.step c (.block s b last)) :=
  (k.step_block_cases c s b last).imp (fun ⟨why, _, he⟩ => ⟨why, he⟩) fun ⟨m, _, he⟩ => ⟨k.dress m, he⟩

theorem reads_data (k : Strand) (c : Setup) (s : StreamId) (octets : List UInt8) (last : Bool) :
    k.Reads last (k.step c (.data s octets last)) :=
  (k.step_data_cases c s octets last).imp (fun ⟨why, _, he⟩ => ⟨why, he⟩) fun ⟨m, _, _, he⟩ => ⟨m.append octets, he⟩

/-- What was read is delivered exactly if it was the last of its stream and not refused. -/
theorem Reads.isSome_delivered {k : Strand} {last : Bool} {e : Effect} (h : k.Reads last e) :
    e.delivered.isSome = (last && e.failure.isNone) := by
  rcases h with ⟨why, rfl⟩ | ⟨m, rfl⟩
  · exact (Bool.and_false last).symm
  · cases last <;> rfl

/-- Reading gives a stream up only to deliver on it. -/
theorem Reads.givenUp {k : Strand} {last : Bool} {e : Effect} (h : k.Reads last e) :
    e.givenUp = e.delivered.isSome := by
  rcases h with ⟨why, rfl⟩ | ⟨m, rfl⟩
  · rfl
  · cases last <;> rfl

/-- A stream is given up by an operation that delivers on it, and by one that asks for nothing else. -/
theorem givenUp_step (k : Strand) (c : Setup) (op : Op) :
    (k.step c op).givenUp = ((k.step c op).delivered.isSome || op.isRemove) := by
  cases op with
  | block s b last => exact (k.reads_block c s b last).givenUp.trans (Bool.or_false _).symm
  | data s octets last => exact (k.reads_data c s octets last).givenUp.trans (Bool.or_false _).symm
  | remove s => rfl
  | announce s => rfl
  | deliver s m => rfl
  | hold s m => rfl
  | signal sig =>
    cases sig with
    | moved n old => rfl
    | reweighted n old => rfl
    | frame f =>
      show (k.readFrame c f.stream).givenUp = ((k.readFrame c f.stream).delivered.isSome || false)
      rcases k.readFrame_cases c f.stream with ⟨-, he⟩ | ⟨-, he⟩ | ⟨record, -, ⟨why, -, he⟩ | ⟨m, -, he⟩⟩ <;>
        rw [he] <;> rfl

end Strand

namespace Relay

variable {s : StreamId}

/-- An operation has a message delivered exactly if it is one that delivers. -/
theorem isSome_delivered_step (r : Relay) (op : Op) :
    ((r.strand op.stream).step r.setup op).delivered.isSome = delivers (r, op) := by
  have hf := (r.step_shows op).failure
  cases op with
  | block s b last =>
    simp only [delivers, completes, hf]
    exact (Strand.reads_block _ r.setup s b last).isSome_delivered
  | data s octets last =>
    simp only [delivers, completes, hf]
    exact (Strand.reads_data _ r.setup s octets last).isSome_delivered
  | remove s => rfl
  | announce s => rfl
  | deliver s m => rfl
  | hold s m => rfl
  | signal sig =>
    cases sig with
    | moved n old => rfl
    | reweighted n old => rfl
    | frame f =>
      simp only [delivers, hf, isLive_eq]
      show ((r.strand f.stream).readFrame r.setup f.stream).delivered.isSome =
        (!(r.strand f.stream).live.isSome && ((r.strand f.stream).readFrame r.setup f.stream).failure.isNone)
      rcases (r.strand f.stream).readFrame_cases r.setup f.stream with
        ⟨hl, he⟩ | ⟨hk, he⟩ | ⟨record, hk, ⟨why, -, he⟩ | ⟨m, -, he⟩⟩ <;> rw [he]
      · rw [hl]
        rfl
      · exact (Bool.and_false _).symm
      · exact (Bool.and_false _).symm
      · rw [hk]
        rfl

theorem givenUp_step (r : Relay) (op : Op) : ((r.strand op.stream).step r.setup op).givenUp = givesUp (r, op) := by
  rw [Strand.givenUp_step, isSome_delivered_step, givesUp]

/-- An operation delivers one message on its stream, or none. -/
theorem map_fst_deliveries (r : Relay) (op : Op) :
    (r.deliveries op).map Prod.fst = if delivers (r, op) then [op.stream] else [] := by
  rw [deliveries_eq, ← isSome_delivered_step]
  cases ((r.strand op.stream).step r.setup op).delivered <;> rfl

/-- An operation that gives its stream up leaves an empty strand. -/
theorem strand_of_givesUp {r : Relay} {op : Op} (h : givesUp (r, op) = true) : (r.step op).after.strand op.stream = {} := by
  rw [strand_step r rfl]
  rcases Bool.or_eq_true _ _ ▸ h with hd | hr
  · rw [← isSome_delivered_step] at hd
    obtain ⟨m, hm⟩ := Option.isSome_iff_exists.mp hd
    exact after_of_delivered hm
  · cases op with
    | remove s => rfl
    | _ => cases hr

/-! ## Calls to the assembler -/

theorem ends_append (l l' : List Note) : Note.ends (l ++ l') = Note.ends l ++ Note.ends l' := by
  simp only [Note.ends, Note.calls, List.filterMap_append, List.filter_append]

theorem ends_dropNotes (records : Records) (s : StreamId) : Note.ends (records.dropNotes s) = [] := by
  unfold Records.dropNotes
  split <;> rfl

theorem ends_keepNotes (records : Records) (s : StreamId) : Note.ends (records.keepNotes s) = [] := by
  unfold Records.keepNotes
  split <;> rfl

theorem ends_removeNotes (r : Relay) (s : StreamId) : Note.ends (r.removeNotes s) = [.remove s] := by
  have h : Note.ends (r.removeNotes s) = .remove s :: Note.ends (r.records.dropNotes s) := rfl
  rw [h, ends_dropNotes]

/-- A stream is given up before a message is delivered on it. -/
theorem ends_deliverNotes (r : Relay) (s : StreamId) : Note.ends (r.deliverNotes s) = [.remove s, .deliver s] := by
  rw [deliverNotes, ends_append, ends_removeNotes]
  rfl

/-- A stream with a message under way is ended once its last frame is taken. -/
theorem ends_taken {r : Relay} (h : r.isLive s = true) (last : Bool) {call : Call} (hcall : call.isEnd = false) :
    Note.ends (r.taken s last (.call call)).notes = if last then [.remove s, .deliver s] else [] := by
  have hnil : Note.ends [.call call] = [] := by simp [Note.ends, Note.calls, hcall]
  cases last with
  | true =>
    have hnotes : (r.taken s true (.call call)).notes = [.call call] ++ ([.call (.handOut s)] ++ r.deliverNotes s) := by
      simp only [taken, completeNotes, h, if_true, List.cons_append, List.nil_append]
    rw [hnotes, ends_append, ends_append, hnil, ends_deliverNotes]
    rfl
  | false => exact hnil

/-- What the assembler makes of a block is that it holds a message, unless it rejects the block. -/
theorem takeBlock_cases (a : Assembly) (s : StreamId) (b : Block) (validate : Bool) :
    (∃ why, a.takeBlock s b validate = .error why) ∨ ∃ m, a.takeBlock s b validate = .ok (a.hold s m) := by
  unfold Assembly.takeBlock
  split
  · exact Or.inr ⟨_, rfl⟩
  · cases Message.ofBlock s b validate with
    | error why => exact Or.inl ⟨why, rfl⟩
    | ok m => exact Or.inr ⟨m, rfl⟩

/-- What the assembler makes of content is that it holds a message, unless it rejects the content. -/
theorem takeData_cases (a : Assembly) (s : StreamId) (octets : List UInt8) :
    (∃ why, a.takeData s octets = .error why) ∨ ∃ m, a.takeData s octets = .ok (a.hold s m) := by
  unfold Assembly.takeData
  split
  · exact Or.inl ⟨_, rfl⟩
  · simp only
    split
    · exact Or.inl ⟨_, rfl⟩
    · exact Or.inr ⟨_, rfl⟩

theorem isLive_hold (r : Relay) (s : StreamId) (m : Message) :
    isLive { r with assembly := r.assembly.hold s m } s = true := by
  rw [isLive_eq, (r.hold_became s m).own]
  rfl

theorem isLive_announce (r : Relay) (s : StreamId) : (r.announce s).isLive s = r.isLive s := by
  rw [isLive_eq, (r.announce_became s).own, Strand.announce, Option.isSome_map, isLive_eq]

/-- A message that is made of a record ends its stream, unless it cannot be made. -/
theorem ends_synthesize (r : Relay) (s : StreamId) (record : Fields) :
    Note.ends (r.synthesize s record).notes =
      if (r.synthesize s record).failure.isNone then [.remove s, .deliver s] else [] := by
  have hdrop := ends_dropNotes r.records s
  cases hm : r.assembly.construct s (.synthetic r.config.role record) r.config.validate with
  | error why =>
    simp only [synthesize, hm, ends_append, hdrop]
    rfl
  | ok made =>
    simp only [synthesize, hm, ends_append, hdrop, ends_deliverNotes]
    rfl

/-- A PRIORITY frame ends its stream if it succeeds without a message under way. -/
theorem ends_readFrame (r : Relay) (s : StreamId) :
    Note.ends (r.readFrame s).notes =
      if !r.isLive s && (r.readFrame s).failure.isNone then [.remove s, .deliver s] else [] := by
  unfold readFrame
  cases r.isLive s with
  | true => rfl
  | false =>
    cases r.records.get? s with
    | none => rfl
    | some record => exact r.ends_synthesize s record

/-- What an operation asks of the assembler to end a stream. -/
theorem ends_step (r : Relay) (op : Op) :
    Note.ends (r.step op).notes =
      if delivers (r, op) then [.remove op.stream, .deliver op.stream]
      else if op.isRemove then [.remove op.stream] else [] := by
  cases op with
  | block s b last =>
    simp only [delivers, completes, step, readBlock, afterBlock]
    rcases takeBlock_cases r.assembly s b r.config.validate with ⟨why, ha⟩ | ⟨m, ha⟩ <;> simp only [ha]
    · cases last <;> rfl
    · have hl : (announce { r with assembly := r.assembly.hold s m } s).isLive s = true := by
        rw [isLive_announce, isLive_hold]
      rw [ends_taken hl last rfl]
      cases last <;> rfl
  | data s octets last =>
    simp only [delivers, completes, step, readData]
    rcases takeData_cases r.assembly s octets with ⟨why, ha⟩ | ⟨m, ha⟩ <;> simp only [ha]
    · cases last <;> rfl
    · rw [ends_taken (r.isLive_hold s m) last rfl]
      cases last <;> rfl
  | remove s => exact r.ends_removeNotes s
  | announce s => rfl
  | deliver s m => exact r.ends_deliverNotes s
  | hold s m => rfl
  | signal sig =>
    cases sig with
    | moved n old =>
      show Note.ends (r.movedNotes n.id n.parent) = []
      unfold movedNotes
      split
      · rfl
      · exact ends_keepNotes r.records n.id
    | reweighted n old =>
      show Note.ends (r.reweightedNotes n.id) = []
      unfold reweightedNotes
      split
      · rfl
      · exact ends_keepNotes r.records n.id
    | frame f => exact r.ends_readFrame f.stream

/-- Whatever its state, a relay ends streams one by one. -/
theorem endsOnce (r : Relay) (op : Op) : r.EndsOnce op where
  delivered := ⟨r.deliveries op, r.delivered_step op, r.map_fst_deliveries op⟩
  removed := by rw [(r.step_shows op).became.removed, givenUp_step]
  order := r.ends_step op
  gone h := by
    have hk := strand_of_givesUp h
    exact ⟨congrArg Strand.live hk, congrArg Strand.record hk⟩

/-! ## Counting messages -/

/-- An operation on a stream keeps the balance of messages: what was under way and what it opens is completed, dropped or
under way afterwards. -/
theorem balance_step (r : Relay) (op : Op) :
    (opens (r, op)).toNat + (r.isLive op.stream).toNat =
      (completes (r, op)).toNat + (drops (r, op)).toNat + ((r.step op).after.isLive op.stream).toNat := by
  have hf := (r.step_shows op).failure
  have hlive : (r.step op).after.isLive op.stream = ((r.strand op.stream).step r.setup op).after.live.isSome := by
    rw [isLive_eq, strand_step r rfl]
  rw [hlive, isLive_eq]
  cases op with
  | block s b last =>
    simp only [opens, completes, drops, hf, isLive_eq, Op.stream]
    rcases (r.strand s).step_block_cases r.setup s b last with ⟨why, -, he⟩ | ⟨m, -, he⟩ <;> rw [he]
    · cases last <;> simp [Strand.refused]
    · cases last <;> cases (r.strand s).live <;> rfl
  | data s octets last =>
    simp only [opens, completes, drops, hf, Op.stream]
    rcases (r.strand s).step_data_cases r.setup s octets last with ⟨why, -, he⟩ | ⟨m, hl, -, he⟩ <;> rw [he]
    · cases last <;> simp [Strand.refused]
    · rw [hl]
      cases last <;> rfl
  | remove s => simp [opens, completes, drops, isLive_eq, Strand.step, Op.stream]
  | announce s => simp [opens, completes, drops, Strand.step, Strand.announce, Op.stream]
  | deliver s m => simp [opens, completes, drops, isLive_eq, Strand.step, Strand.delivering, Op.stream]
  | hold s m => cases h : (r.strand s).live <;> simp [opens, completes, drops, isLive_eq, Strand.step, Op.stream, h]
  | signal sig =>
    have hkeep : ((r.strand sig.stream).step r.setup (.signal sig)).after.live.isSome =
        (r.strand sig.stream).live.isSome := by
      cases sig with
      | moved n old =>
        simp only [Strand.step, Strand.moved, Signal.stream]
        cases n.parent.dependency <;> simp [Strand.told, Strand.stripped]
      | reweighted n old => simp [Strand.step, Strand.told, Signal.stream]
      | frame f =>
        simp only [Strand.step, Strand.after_readFrame, Signal.stream]
        cases h : (r.strand f.stream).live <;> simp [h]
    simp only [opens, completes, drops, Op.stream, hkeep, Bool.toNat_false, Nat.zero_add]

theorem countP_cons_toNat (p : Relay × Op → Bool) (x : Relay × Op) (l : List (Relay × Op)) :
    (x :: l).countP p = l.countP p + (p x).toNat := by
  rw [List.countP_cons]
  cases p x <;> rfl

/-- Along a run, messages on a stream balance. -/
theorem balance_run (r : Relay) (s : StreamId) (ops : List Op) :
    (r.metOn s ops).countP opens + (r.isLive s).toNat =
      (r.metOn s ops).countP completes + (r.metOn s ops).countP drops + ((r.run ops).isLive s).toNat := by
  induction ops generalizing r with
  | nil => simp [metOn, met]
  | cons op ops ih =>
    have hrest := ih (r.step op).after
    rw [run_cons]
    by_cases hs : op.stream = s
    · have hop := r.balance_step op
      rw [hs] at hop
      rw [metOn_cons_self r ops hs, countP_cons_toNat, countP_cons_toNat, countP_cons_toNat]
      omega
    · have hkeep : (r.step op).after.isLive s = r.isLive s := by
        rw [isLive_eq, isLive_eq, strand_step_of_ne r hs]
      rw [metOn_cons_of_ne r ops hs, ← hkeep]
      exact hrest

/-! ## Runs -/

/-- What was delivered and what was given up stays so. -/
theorem prefix_run (r : Relay) (ops : List Op) :
    r.assembly.delivered <+: (r.run ops).assembly.delivered ∧ r.assembly.removed <+: (r.run ops).assembly.removed := by
  induction ops generalizing r with
  | nil => exact ⟨List.prefix_rfl, List.prefix_rfl⟩
  | cons op ops ih =>
    obtain ⟨hdelivered, hremoved⟩ := ih (r.step op).after
    refine ⟨?_, ?_⟩
    · refine List.IsPrefix.trans ?_ hdelivered
      rw [delivered_step]
      exact List.prefix_append _ _
    · refine List.IsPrefix.trans ?_ hremoved
      rw [(r.endsOnce op).removed]
      exact List.prefix_append _ _

/-- Messages are neither lost nor delivered twice. After every run, what was delivered and what was given up stays so; every
further operation delivers at most one message, gives its stream up with it, and leaves nothing of that stream behind; and
on every stream as many messages were opened as were delivered complete, were dropped, and are under way. -/
theorem delivered_once (config : Config) (limit : Option SizeLimit) (refusesNew : Bool) (ops : List Op) :
    let r := new config limit refusesNew
    let q := r.run ops
    (∀ rest, q.assembly.delivered <+: (q.run rest).assembly.delivered ∧
      q.assembly.removed <+: (q.run rest).assembly.removed) ∧
    (∀ op, q.EndsOnce op) ∧
    ∀ s, (r.metOn s ops).countP opens =
      (r.metOn s ops).countP completes + (r.metOn s ops).countP drops + (q.isLive s).toNat := by
  intro r q
  refine ⟨q.prefix_run, q.endsOnce, fun s => ?_⟩
  have hbalance := r.balance_run s ops
  have hnew : r.isLive s = false := rfl
  rw [hnew, Bool.toNat_false, Nat.add_zero] at hbalance
  exact hbalance

end Relay

end StreamPriority
