import StreamPriority.Proofs.Overlay

/-!
# Announcing once more

A relay may be asked at any time to tell a message what is kept for its stream. That can change the message: once there is
content, what is kept stands after it earlier than it would otherwise. Still nobody who reads records, failures and delivered
messages can tell whether a relay was asked, since every message is dressed before it is delivered.

Two strands are taken for the same if they are once they are announced. An operation on a strand then comes to the same
whether or not it was announced before (`Strand.Settled.step_announce`), as long as a message without content is dressed
already (`Strand.Settled`): what stands before the content stays as it is from the first octet on.
-/

namespace StreamPriority

/-- Whether an operation only has a message told what is kept for its stream. -/
def Op.isAnnounce : Op → Bool
  | .announce _ => true
  | _ => false

/-- An effect with the strand it leaves announced. -/
def Effect.announced (e : Effect) : Effect :=
  { e with after := e.after.announce }

/-- A change of the active fields may come before or after more content, if there is some already. -/
theorem Message.append_modifyActive {m : Message} (h : m.content ≠ []) (f : Fields → Fields) (data : List UInt8) :
    (m.modifyActive f).append data = (m.append data).modifyActive f := by
  have happend : (m.append data).content ≠ [] := List.append_ne_nil_of_left_ne_nil h data
  rw [modifyActive, modifyActive, activePart_of_content h, activePart_of_content happend]
  rfl

namespace Strand

/-! ## Announced strands -/

theorem announce_announce (k : Strand) : k.announce.announce = k.announce := by
  have h : ∀ m, k.announce.dress (k.dress m) = k.dress m := k.dress_dress
  cases hl : k.live with
  | none => rw [announce_of_none hl, announce_of_none hl]
  | some m =>
    have hlive : k.announce.live = some (k.dress m) := by rw [announce_of_some hl]
    rw [announce_of_some hlive, h, ← hlive]

/-- Messages that are the same once they are dressed make the same effect, but for an announcement. -/
theorem announced_taken (k : Strand) {m m' : Message} (h : k.dress m = k.dress m') (last : Bool) :
    (k.announce.taken last m).announced = (k.taken last m').announced := by
  cases last with
  | true =>
    show ({ after := {}, delivered := some (k.dress m), givenUp := true } : Effect) =
      { after := {}, delivered := some (k.dress m'), givenUp := true }
    rw [h]
  | false =>
    show ({ after := { k with live := some (k.dress m) } } : Effect) = { after := { k with live := some (k.dress m') } }
    rw [h]

/-- What only leaves strands that are the same once they are announced is the same, but for an announcement. -/
theorem announced_unchanged (k : Strand) (failure : Option Failure) :
    Effect.announced { after := k.announce, failure } = Effect.announced { after := k, failure } := by
  simp only [Effect.announced, announce_announce]

/-- What a strand is told may be told once it is announced. -/
theorem announce_told (k : Strand) (fs : Fields) : (k.announce.told fs).announce = (k.told fs).announce := by
  cases hl : k.live with
  | none => rw [announce_of_none hl]
  | some m =>
    have hkept : ∀ n, k.kept.contains n = true → (k.told fs).kept.contains n = true := by
      intro n hn
      cases hr : k.record with
      | none =>
        rw [kept, hr, Option.getD_none] at hn
        cases hn
      | some record =>
        rw [kept, hr, Option.getD_some] at hn
        simp only [kept, told, hl, hr, Option.map_some, Option.getD_some, Fields.contains_overlay, hn, Bool.or_true]
    have hover : ∀ gs : Fields, ((gs.overlay k.kept).overlay fs).overlay (k.told fs).kept =
        (gs.overlay fs).overlay (k.told fs).kept :=
      fun gs => gs.overlay_overlay_overlay_of_contains fun n hn => Or.inr (hkept n hn)
    have hdress : (k.told fs).dress ((k.dress m).modifyActive (·.overlay fs)) =
        (k.told fs).dress (m.modifyActive (·.overlay fs)) := by
      simp only [dress_eq_overlay_kept, Message.modifyActive_modifyActive, hover]
    have htold : k.announce.told fs = { k.told fs with live := some ((k.dress m).modifyActive (·.overlay fs)) } := by
      simp only [announce_of_some hl, told, Option.map_some, hl]
    have hlive : (k.told fs).live = some (m.modifyActive (·.overlay fs)) := by rw [told, hl, Option.map_some]
    rw [htold, announce_of_some hlive, ← hdress]
    rfl

/-- A message that was dressed is dressed when it is stripped together with its record. -/
theorem strippedAt_dress (k : Strand) (m : Message) (p : Parent) :
    (k.dress m).modifyBoth (·.strippedAt p) = (k.stripped p).dress (m.modifyBoth (·.strippedAt p)) := by
  rw [dress_eq_overlay_kept, dress_eq_overlay_kept, kept_stripped]
  exact m.strippedAt_overlay k.kept p

/-- A strand may be stripped once it is announced. -/
theorem announce_stripped (k : Strand) (p : Parent) : (k.announce.stripped p).announce = (k.stripped p).announce := by
  cases hl : k.live with
  | none => rw [announce_of_none hl]
  | some m =>
    have hlive : (k.stripped p).live = some (m.modifyBoth (·.strippedAt p)) := by rw [stripped, hl, Option.map_some]
    have hself : k.announce.stripped p = (k.stripped p).announce := by
      rw [announce_of_some hlive, ← strippedAt_dress]
      simp only [announce_of_some hl, stripped, Option.map_some]
    rw [hself, announce_announce]

theorem announce_moved (k : Strand) (p : Parent) : (k.announce.moved p).announce = (k.moved p).announce := by
  unfold moved
  cases p.dependency with
  | some d => exact k.announce_told _
  | none => exact k.announce_stripped p

/-! ## Operations on announced strands -/

/-- A message without content is dressed already. -/
def Settled (k : Strand) : Prop :=
  ∀ m, k.live = some m → m.content = [] → k.dress m = m

/-- An operation comes to the same whether or not its stream was announced before, but for an announcement. -/
theorem Settled.step_announce {k : Strand} (h : k.Settled) (c : Setup) (op : Op) :
    (k.announce.step c op).announced = (k.step c op).announced := by
  cases hl : k.live with
  | none => rw [announce_of_none hl]
  | some m =>
    have hlive : k.announce.live = some (k.dress m) := by rw [announce_of_some hl]
    cases op with
    | block s b last =>
      simp only [step, takeBlock, hl, hlive]
      have hdress : k.dress (k.announce.dress ((k.dress m).modifyActive (·.overlay b.fields))) =
          k.dress (k.dress (m.modifyActive (·.overlay b.fields))) :=
        congrArg k.dress (k.dress_overlay_dress m b.fields)
      exact k.announced_taken hdress last
    | data s octets last =>
      by_cases hc : m.content = []
      · have hself : k.announce = k := by rw [announce_of_some hl, h m hl hc, ← hl]
        rw [hself]
      · have hcontent : (k.dress m).content = m.content := Message.content_modify m _ _
        have happend : (k.dress m).append octets = k.dress (m.append octets) :=
          Message.append_modifyActive hc k.layOver octets
        have hdress : k.dress ((k.dress m).append octets) = k.dress (m.append octets) := by rw [happend, dress_dress]
        simp only [step, takeData, hl, hlive, hcontent]
        cases c.limit.filter (·.octets < m.content.length + octets.length) with
        | some limit => exact k.announced_unchanged _
        | none => exact k.announced_taken hdress last
    | remove s => rfl
    | announce s => exact k.announce.announced_unchanged none
    | deliver s m' => rfl
    | hold s m' => rfl
    | signal sig =>
      cases sig with
      | moved n old => exact congrArg (fun k' => ({ after := k' } : Effect)) (k.announce_moved n.parent)
      | reweighted n old => exact congrArg (fun k' => ({ after := k' } : Effect)) (k.announce_told _)
      | frame f =>
        simp only [step, readFrame, hl, hlive]
        exact k.announced_unchanged none

/-! ## Messages without content -/

theorem settled_empty : ({} : Strand).Settled :=
  fun _ h => nomatch h

theorem settled_dressed (k : Strand) (m : Message) : Settled { k with live := some (k.dress m) } := by
  intro m' hm' _
  cases hm'
  exact k.dress_dress m

theorem Settled.taken {k : Strand} {m : Message} (h : Settled { k with live := some m }) (last : Bool) :
    (k.taken last m).after.Settled := by
  cases last with
  | true => exact settled_empty
  | false => exact h

theorem Settled.append {k : Strand} (h : k.Settled) {m : Message} (hm : k.live = some m) (data : List UInt8) :
    Settled { k with live := some (m.append data) } := by
  intro m' hm' hc
  cases hm'
  obtain ⟨hcontent, rfl⟩ := List.append_eq_nil_iff.mp hc
  have happend : m.append [] = m := by rw [Message.append, List.append_nil]
  rw [happend]
  exact h m hm hcontent

theorem Settled.told {k : Strand} (h : k.Settled) (fs : Fields) : (k.told fs).Settled := by
  intro m' hm' hc
  obtain ⟨m, hm, rfl⟩ := Option.map_eq_some_iff.mp hm'
  have hself : k.dress m = m := h m hm ((Message.content_modify m _ _).symm.trans hc)
  cases hr : k.record with
  | none =>
    have hnone : (k.told fs).record = none := by simp only [Strand.told, hm, hr, Option.map_none]
    rw [dress_eq_self hnone]
  | some record =>
    have hsome : (k.told fs).record = some (record.overlay fs) := by simp only [Strand.told, hm, hr, Option.map_some]
    have hdressed : m.modifyActive (·.overlay fs) = (k.told fs).dress m := by
      calc m.modifyActive (·.overlay fs)
          = (k.dress m).modifyActive (·.overlay fs) := by rw [hself]
        _ = (k.told fs).dress m := by
          simp only [dress_eq_overlay hr, dress_eq_overlay hsome, Message.modifyActive_modifyActive,
            Fields.overlay_assoc]
    rw [hdressed, dress_dress]

theorem Settled.stripped {k : Strand} (h : k.Settled) (p : Parent) : (k.stripped p).Settled := by
  intro m' hm' hc
  obtain ⟨m, hm, rfl⟩ := Option.map_eq_some_iff.mp hm'
  have hself : k.dress m = m := h m hm hc
  rw [← strippedAt_dress, hself]

theorem Settled.moved {k : Strand} (h : k.Settled) (p : Parent) : (k.moved p).Settled := by
  unfold Strand.moved
  cases p.dependency with
  | some d => exact h.told _
  | none => exact h.stripped p

/-- Every operation but one that goes past the relay leaves a message without content dressed. -/
theorem Settled.step {k : Strand} (h : k.Settled) (c : Setup) {op : Op} (hop : op.isHold = false) :
    (k.step c op).after.Settled := by
  cases op with
  | block s b last =>
    rcases k.step_block_cases c s b last with ⟨why, -, he⟩ | ⟨m, -, he⟩ <;> rw [he]
    · exact h
    · exact (k.settled_dressed m).taken last
  | data s octets last =>
    rcases k.step_data_cases c s octets last with ⟨why, -, he⟩ | ⟨m, hm, -, he⟩ <;> rw [he]
    · exact h
    · exact (h.append hm octets).taken last
  | remove s => exact settled_empty
  | announce s =>
    show k.announce.Settled
    cases hl : k.live with
    | none =>
      rw [announce_of_none hl]
      exact h
    | some m =>
      rw [announce_of_some hl]
      exact k.settled_dressed m
  | deliver s m => exact settled_empty
  | hold s m => cases hop
  | signal sig =>
    cases sig with
    | moved n old => exact h.moved n.parent
    | reweighted n old => exact h.told _
    | frame f =>
      simp only [Strand.step, after_readFrame]
      split
      · exact h
      · exact settled_empty

end Strand

/-! ## Runs -/

/-- What is seen of an operation from outside: why it failed if it did, the records afterwards, and what was delivered up to
then. -/
structure Sighting where
  failure : Option Failure
  records : Records
  delivered : List (StreamId × Message)
deriving DecidableEq

namespace Relay

/-- What is seen of an operation that a relay answers. -/
def sighting (x : Relay × Op) : Sighting :=
  let out := x.1.step x.2
  ⟨out.failure, out.after.records, out.after.assembly.delivered⟩

/-- What is seen of the operations of a run other than announcements. -/
def sightings (r : Relay) (ops : List Op) : List Sighting :=
  ((r.met ops).filter fun x => !x.2.isAnnounce).map sighting

/-- Two relays that are the same once all their streams are announced. -/
structure Akin (r q : Relay) : Prop where
  setup : r.setup = q.setup
  strand : ∀ s, (r.strand s).announce = (q.strand s).announce
  delivered : r.assembly.delivered = q.assembly.delivered
  settled : ∀ s, (r.strand s).Settled
  settled' : ∀ s, (q.strand s).Settled

variable {r q : Relay}

theorem Akin.records (h : r.Akin q) : r.records = q.records :=
  Records.ext_get? fun s => congrArg Strand.record (h.strand s)

/-- An operation has the same effect on both, but for an announcement. -/
theorem Akin.effect (h : r.Akin q) (op : Op) :
    let e := (r.strand op.stream).step r.setup op
    let e' := (q.strand op.stream).step q.setup op
    e.failure = e'.failure ∧ e.delivered = e'.delivered ∧ e.after.announce = e'.after.announce := by
  intro e e'
  have he : e.announced = e'.announced := by
    rw [← (h.settled op.stream).step_announce, ← (h.settled' op.stream).step_announce, h.strand, h.setup]
  have hfailure := congrArg Effect.failure he
  have hdelivered := congrArg Effect.delivered he
  have hafter := congrArg Effect.after he
  exact ⟨hfailure, hdelivered, hafter⟩

theorem settled_step (hr : ∀ s, (r.strand s).Settled) {op : Op} (hop : op.isHold = false) (s : StreamId) :
    ((r.step op).after.strand s).Settled := by
  by_cases hs : op.stream = s
  · rw [strand_step r hs]
    exact (hr s).step r.setup hop
  · rw [strand_step_of_ne r hs]
    exact hr s

theorem Akin.step (h : r.Akin q) {op : Op} (hop : op.isHold = false) :
    (r.step op).failure = (q.step op).failure ∧ (r.step op).after.Akin (q.step op).after := by
  obtain ⟨hfailure, hdelivered, hafter⟩ := h.effect op
  refine ⟨?_, by rw [setup_step, setup_step, h.setup], fun s => ?_, ?_, settled_step h.settled hop,
    settled_step h.settled' hop⟩
  · rw [(r.step_shows op).failure, (q.step_shows op).failure, hfailure]
  · by_cases hs : op.stream = s
    · subst hs
      rw [strand_step r rfl, strand_step q rfl]
      exact hafter
    · rw [strand_step_of_ne r hs, strand_step_of_ne q hs]
      exact h.strand s
  · rw [delivered_step, delivered_step, deliveries_eq, deliveries_eq, hdelivered, h.delivered]

/-- An announcement to one of the two makes no difference. -/
theorem Akin.announce (h : r.Akin q) (s : StreamId) : (r.step (.announce s)).after.Akin q where
  setup := (setup_step r _).trans h.setup
  strand t := by
    rw [← h.strand t]
    by_cases hs : (Op.announce s).stream = t
    · rw [strand_step r hs]
      exact (r.strand t).announce_announce
    · rw [strand_step_of_ne r hs]
  delivered := h.delivered
  settled := settled_step h.settled rfl
  settled' := h.settled'

/-- Along a run and the run without its announcements the same is seen. -/
theorem Akin.run (h : r.Akin q) {ops : List Op} (hops : ∀ op ∈ ops, op.isHold = false) :
    r.sightings ops = q.sightings (ops.filter fun op => !op.isAnnounce) ∧
      (r.run ops).Akin (q.run (ops.filter fun op => !op.isAnnounce)) := by
  induction ops generalizing r q with
  | nil => exact ⟨rfl, h⟩
  | cons op ops ih =>
    have hrest : ∀ op' ∈ ops, op'.isHold = false := fun op' hop => hops op' (List.mem_cons_of_mem op hop)
    cases hop : op.isAnnounce with
    | true =>
      obtain ⟨s, rfl⟩ : ∃ s, op = .announce s := by
        cases op with
        | announce s => exact ⟨s, rfl⟩
        | _ => cases hop
      exact ih (h.announce s) hrest
    | false =>
      obtain ⟨hfailure, hakin⟩ := h.step (hops op List.mem_cons_self)
      obtain ⟨hsight, hrun⟩ := ih hakin hrest
      have hkeep : (op :: ops).filter (fun op => !op.isAnnounce) = op :: ops.filter fun op => !op.isAnnounce := by
        rw [List.filter_cons, hop]
        rfl
      have hone : sighting (r, op) = sighting (q, op) := by
        simp only [sighting, hfailure, hakin.records, hakin.delivered]
      have hcons : ∀ (p : Relay) (l : List Op), p.sightings (op :: l) =
          sighting (p, op) :: (p.step op).after.sightings l := by
        intro p l
        simp only [sightings, met, List.filter_cons, hop, Bool.not_false, if_true, List.map_cons]
      rw [hkeep, hcons, hcons, hone, hsight]
      exact ⟨rfl, hrun⟩

theorem akin_new (config : Config) (limit : Option SizeLimit) (refusesNew : Bool) :
    (new config limit refusesNew).Akin (new config limit refusesNew) :=
  ⟨rfl, fun _ => rfl, rfl, fun _ => Strand.settled_empty, fun _ => Strand.settled_empty⟩

/-- Nobody can tell how often a relay was asked to announce. Of two runs that differ only in announcements, of whatever
streams and wherever in the run, the same is seen: the other operations fail for the same reasons, and leave the same records
and the same messages delivered, entry by entry. An announcement itself changes no record and delivers nothing. -/
theorem announcements_unseen (config : Config) (limit : Option SizeLimit) (refusesNew : Bool) (ops ops' : List Op)
    (hsame : (ops.filter fun op => !op.isAnnounce) = ops'.filter fun op => !op.isAnnounce)
    (hops : ∀ op ∈ ops ++ ops', op.isHold = false) :
    let r := new config limit refusesNew
    r.sightings ops = r.sightings ops' ∧
      (r.run ops).records = (r.run ops').records ∧
      (r.run ops).assembly.delivered = (r.run ops').assembly.delivered ∧
      ∀ q s, (step q (.announce s)).after.records = q.records ∧
        (step q (.announce s)).after.assembly.delivered = q.assembly.delivered := by
  intro r
  have hnew : r.Akin r := akin_new config limit refusesNew
  obtain ⟨hsight, hrun⟩ := hnew.run fun op hop => hops op (List.mem_append_left ops' hop)
  obtain ⟨hsight', hrun'⟩ := hnew.run fun op hop => hops op (List.mem_append_right ops hop)
  rw [← hsame] at hsight' hrun'
  exact ⟨hsight.trans hsight'.symm, hrun.records.trans hrun'.records.symm, hrun.delivered.trans hrun'.delivered.symm,
    fun _ _ => ⟨rfl, rfl⟩⟩

/-- A request with content, trailers in which the peer names a stream itself, and more content; something may be asked of the
relay before the trailers and after them. -/
def trailerRun (asked : List Op) : List Op :=
  let s : StreamId := ⟨3⟩
  let trailers : Block := Block.empty.build [.field "x-http2-stream-dependency-id" "9", .field "checksum" "f00"]
  [.signal (.moved { id := s, parent := .stream ⟨5⟩ } .root), .block s Block.plainRequest false, .data s [1] false] ++
    asked ++ [.block s trailers false] ++ asked ++ [.data s [2] true]

/-- Announcements change the message under way, and not what is delivered. -/
theorem announcements_unseen_trailerRun :
    let ops := trailerRun []
    let ops' := trailerRun [.announce ⟨3⟩, .announce ⟨5⟩]
    ((ops.filter fun op => !op.isAnnounce) = ops'.filter fun op => !op.isAnnounce) ∧
      (∀ op ∈ ops ++ ops', op.isHold = false) ∧
      ((new {} none false).run (ops.take 3)).assembly.live.get? ⟨3⟩ ≠
        ((new {} none false).run (ops'.take 4)).assembly.live.get? ⟨3⟩ ∧
      ((new {} none false).run ops).assembly.delivered = ((new {} none false).run ops').assembly.delivered ∧
      ((new {} none false).run ops).assembly.delivered.map (fun d => d.2.trailing.toList) =
        [[("checksum", "f00"), ("x-http2-stream-dependency-id", "5")]] := by
  intro ops ops'
  have hsame : (ops.filter fun op => !op.isAnnounce) = ops'.filter fun op => !op.isAnnounce := by
    simp [ops, ops', trailerRun, Op.isAnnounce]
  have hops : ∀ op ∈ ops ++ ops', op.isHold = false := by decide
  obtain ⟨-, -, hdelivered, -⟩ := announcements_unseen {} none false ops ops' hsame hops
  exact ⟨hsame, hops, by decide, hdelivered, by decide⟩

end Relay

end StreamPriority
