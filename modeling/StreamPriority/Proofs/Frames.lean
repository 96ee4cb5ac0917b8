import Mathlib.Data.List.DropRight
import StreamPriority.Proofs.Delivery
import StreamPriority.Proofs.Overlay
import StreamPriority.Proofs.Transparency

/-!
# A message is what its frames make

The frames that were taken on a stream since it was last given up (`Relay.frames`) determine its message, but for the two
fields that tell priority: the first block makes the head, the content is all content in its order, and the fields of the
blocks are merged, before the content up to the first octet and after it from then on (`Message.MadeOf`). Nothing else that
a relay does is seen in it: what is told to a message, laid over it or stripped off it tells priority
(`Message.MadeOf.congr`).
-/

namespace StreamPriority

namespace Op

/-- The block that an operation reads, if it reads one. -/
def block? : Op → Option Block
  | .block _ b _ => some b
  | _ => none

/-- The octets that an operation reads. -/
def octets : Op → List UInt8
  | .data _ octets _ => octets
  | _ => []

/-- Whether an operation reads a frame of a message: a block or content. -/
def isFrame : Op → Bool
  | .block _ _ _ => true
  | .data _ _ _ => true
  | _ => false

/-- Whether an operation brings content. A frame of no octets brings none. -/
def bringsContent (op : Op) : Bool :=
  !op.octets.isEmpty

/-- The blocks that are read before there is content. -/
def blocksBefore (ops : List Op) : List Block :=
  (ops.takeWhile (!·.bringsContent)).filterMap block?

/-- The blocks that are read once there is content. -/
def blocksAfter (ops : List Op) : List Block :=
  (ops.dropWhile (!·.bringsContent)).filterMap block?

/-- What brings content is no block. -/
theorem block?_of_bringsContent {op : Op} (h : op.bringsContent = true) : op.block? = none := by
  cases op with
  | block s b last => cases h
  | _ => rfl

theorem filterMap_block?_singleton (op : Op) : [op].filterMap block? = op.block?.toList := by
  cases h : op.block? <;> simp [h]

/-- A further block belongs before the content as long as there is none. -/
theorem blocksBefore_concat (ops : List Op) (op : Op) :
    blocksBefore (ops ++ [op]) = blocksBefore ops ++ if ops.any bringsContent then [] else op.block?.toList := by
  induction ops with
  | nil =>
    cases h : op.bringsContent with
    | true => simp [blocksBefore, h, block?_of_bringsContent h]
    | false => simpa [blocksBefore, h] using filterMap_block?_singleton op
  | cons x ops ih =>
    unfold blocksBefore at ih ⊢
    cases hx : x.bringsContent with
    | true => simp [hx]
    | false =>
      cases hb : x.block? <;>
        simp only [List.cons_append, List.takeWhile_cons, hx, Bool.not_false, if_true, List.filterMap_cons, hb, ih,
          List.any_cons, Bool.false_or]

/-- A further block belongs after the content once there is some. -/
theorem blocksAfter_concat (ops : List Op) (op : Op) :
    blocksAfter (ops ++ [op]) = blocksAfter ops ++ if ops.any bringsContent then op.block?.toList else [] := by
  induction ops with
  | nil =>
    cases h : op.bringsContent with
    | true => simp [blocksAfter, h, block?_of_bringsContent h]
    | false => simp [blocksAfter, h]
  | cons x ops ih =>
    unfold blocksAfter at ih ⊢
    cases hx : x.bringsContent with
    | true =>
      have hdrop : ∀ l : List Op, (x :: l).dropWhile (!·.bringsContent) = x :: l := by simp [hx]
      have hany : (x :: ops).any bringsContent = true := by simp [hx]
      rw [List.cons_append, hdrop, hdrop, hany, if_pos rfl, ← List.cons_append, List.filterMap_append,
        filterMap_block?_singleton]
    | false =>
      simp only [List.cons_append, List.dropWhile_cons, hx, Bool.not_false, if_true, ih, List.any_cons, Bool.false_or]

end Op

/-- Fields with those of some blocks laid over them, one block after another. -/
def Fields.merged (fs : Fields) (blocks : List Block) : Fields :=
  blocks.foldl (fun acc b => acc.overlay b.fields) fs

theorem Fields.merged_append (fs : Fields) (l l' : List Block) : fs.merged (l ++ l') = (fs.merged l).merged l' :=
  List.foldl_append

/-! ## Messages made of frames -/

/-- A message is made of a block and the frames after it, but for the fields that tell priority. -/
structure Message.MadeOf (m : Message) (c : Setup) (s : StreamId) (first : Block) (later : List Op) : Prop where
  /-- The head is that of the message that the first block opens. -/
  head : ∃ m₀, Message.ofBlock s first c.config.validate = .ok m₀ ∧ m.head = m₀.head
  /-- The content is all that was read, in order. -/
  content : m.content = later.flatMap Op.octets
  fits : ∀ limit, c.limit = some limit → m.content.length ≤ limit.octets
  /-- Blocks that come before there is content are merged into the first. -/
  headers : m.headers.without FieldName.isPriority =
    (first.fields.merged (Op.blocksBefore later)).without FieldName.isPriority
  /-- Blocks that come later are merged among themselves. -/
  trailing : m.trailing.without FieldName.isPriority =
    (Fields.empty.merged (Op.blocksAfter later)).without FieldName.isPriority

/-- A message is made of some frames: the first is a block that opens it. -/
def Message.MadeOfFrames (m : Message) (c : Setup) (s : StreamId) (frames : List Op) : Prop :=
  ∃ first last later, frames = .block s first last :: later ∧ m.MadeOf c s first later

namespace Message

variable {m m' : Message} {c : Setup} {s : StreamId} {first : Block} {later frames : List Op}

/-- Of two messages that are the same in all but priority, both are made of the same frames. -/
theorem MadeOf.congr (h : m.MadeOf c s first later)
    (hm : m'.without FieldName.isPriority = m.without FieldName.isPriority) : m'.MadeOf c s first later := by
  obtain ⟨hhead, hheaders, htrailing, hcontent⟩ : m'.head = m.head ∧
      m'.headers.without FieldName.isPriority = m.headers.without FieldName.isPriority ∧
      m'.trailing.without FieldName.isPriority = m.trailing.without FieldName.isPriority ∧ m'.content = m.content :=
    Message.mk.inj hm
  refine ⟨?_, hcontent.trans h.content, ?_, hheaders.trans h.headers, htrailing.trans h.trailing⟩
  · rw [hhead]
    exact h.head
  · rw [hcontent]
    exact h.fits

theorem MadeOfFrames.congr (h : m.MadeOfFrames c s frames)
    (hm : m'.without FieldName.isPriority = m.without FieldName.isPriority) : m'.MadeOfFrames c s frames := by
  obtain ⟨first, last, later, hframes, h⟩ := h
  exact ⟨first, last, later, hframes, h.congr hm⟩

/-- There is content once a frame brought some. -/
theorem MadeOf.hasContent (h : m.MadeOf c s first later) : m.hasContent = later.any Op.bringsContent := by
  rw [Bool.eq_iff_iff, ← Bool.not_eq_false, hasContent_eq_false_iff, h.content, List.flatMap_eq_nil_iff]
  simp [Op.bringsContent]

/-- A block opens a message that is made of it. -/
theorem madeOf_of_ofBlock (h : ofBlock s first c.config.validate = .ok m) : m.MadeOf c s first [] := by
  have hm : m = { head := m.head, headers := first.fields } := eq_of_ofBlock h
  refine ⟨⟨m, h, rfl⟩, ?_, ?_, ?_, ?_⟩
  · rw [hm]
    rfl
  · intro limit _
    rw [hm]
    exact Nat.zero_le _
  · rw [hm]
    rfl
  · rw [hm]
    rfl

/-- A further block is merged with the blocks on its side of the content. -/
theorem MadeOf.block (h : m.MadeOf c s first later) (b : Block) (last : Bool) :
    (m.modifyActive (·.overlay b.fields)).MadeOf c s first (later ++ [.block s b last]) := by
  have hcontent : (later ++ [Op.block s b last]).flatMap Op.octets = later.flatMap Op.octets := by
    rw [List.flatMap_append, List.flatMap_singleton]
    exact List.append_nil _
  have hkeep : ∀ fs : Fields, fs.merged [] = fs := fun _ => rfl
  have hlay : ∀ fs : Fields, fs.merged (Op.block s b last).block?.toList = fs.overlay b.fields := fun _ => rfl
  have hphase := h.hasContent
  refine ⟨?_, ?_, ?_, ?_, ?_⟩
  · rw [modifyActive, head_modify]
    exact h.head
  · rw [modifyActive, content_modify, hcontent]
    exact h.content
  · rw [modifyActive, content_modify]
    exact h.fits
  · rw [Op.blocksBefore_concat, Fields.merged_append, ← hphase, modifyActive, activePart]
    cases m.hasContent with
    | true => exact h.headers
    | false =>
      simp only [Bool.false_eq_true, if_false, modify, hlay, Fields.without_overlay, h.headers]
  · rw [Op.blocksAfter_concat, Fields.merged_append, ← hphase, modifyActive, activePart]
    cases m.hasContent with
    | true => simp only [if_true, modify, hlay, Fields.without_overlay, h.trailing]
    | false => exact h.trailing

/-- Further content is added to the content, and changes no fields. -/
theorem MadeOf.data (h : m.MadeOf c s first later) (octets : List UInt8) (last : Bool)
    (hfits : ∀ limit, c.limit = some limit → m.content.length + octets.length ≤ limit.octets) :
    (m.append octets).MadeOf c s first (later ++ [.data s octets last]) := by
  refine ⟨h.head, ?_, ?_, ?_, ?_⟩
  · rw [List.flatMap_append, List.flatMap_singleton, ← h.content]
    rfl
  · intro limit hlimit
    rw [append, List.length_append]
    exact hfits limit hlimit
  · rw [Op.blocksBefore_concat]
    simp only [Op.block?, Option.toList_none, ite_self, List.append_nil]
    exact h.headers
  · rw [Op.blocksAfter_concat]
    simp only [Op.block?, Option.toList_none, ite_self, List.append_nil]
    exact h.trailing

end Message

/-! ## Strands made of frames -/

namespace Strand

variable {k : Strand} {c : Setup} {s : StreamId} {frames : List Op} {m : Message}

/-- The message under way is made of some frames; without one, there are none. -/
structure MadeOfFrames (k : Strand) (c : Setup) (s : StreamId) (frames : List Op) : Prop where
  proper : k.Proper
  idle : k.live = none → frames = []
  live : ∀ m, k.live = some m → m.MadeOfFrames c s frames

theorem madeOfFrames_empty (c : Setup) (s : StreamId) : ({} : Strand).MadeOfFrames c s [] where
  proper := proper_empty
  idle _ := rfl
  live _ h := nomatch h

/-- The strand has a message that is made of frames. -/
theorem MadeOfFrames.withLive (h : k.Proper) (hm : m.MadeOfFrames c s frames) :
    MadeOfFrames { k with live := some m } c s frames where
  proper := h
  idle hl := nomatch hl
  live m' hm' := by
    cases hm'
    exact hm

/-- What changes nothing but priority leaves a strand made of the same frames. -/
theorem MadeOfFrames.congr {k' : Strand} (h : k.MadeOfFrames c s frames) (hk : k'.Proper)
    (hlive : k'.live.map (Message.without · FieldName.isPriority) =
      k.live.map (Message.without · FieldName.isPriority)) : k'.MadeOfFrames c s frames := by
  rcases Option.cases_of_map_eq hlive with ⟨hl', hl⟩ | ⟨m', m, hl', hl, hm⟩
  · refine ⟨hk, fun _ => h.idle hl, ?_⟩
    intro m' hm'
    rw [hl'] at hm'
    cases hm'
  · refine ⟨hk, ?_, ?_⟩
    · intro hnone
      rw [hl'] at hnone
      cases hnone
    · intro m'' hm''
      obtain rfl : m' = m'' := Option.some.inj (hl'.symm.trans hm'')
      exact (h.live m hl).congr hm

/-- A block that is taken is the first of the message, or a further one. -/
theorem MadeOfFrames.takeBlock (h : k.MadeOfFrames c s frames) {b : Block} (hm : k.takeBlock c s b = .ok m)
    (last : Bool) : (k.dress m).MadeOfFrames c s (frames ++ [.block s b last]) := by
  refine Message.MadeOfFrames.congr (m := m) ?_ (h.proper.without_isPriority_dress m)
  unfold Strand.takeBlock at hm
  cases hl : k.live with
  | none =>
    simp only [hl] at hm
    rw [h.idle hl]
    exact ⟨b, last, [], rfl, Message.madeOf_of_ofBlock hm⟩
  | some m₀ =>
    simp only [hl] at hm
    cases hm
    obtain ⟨first, last', later, rfl, hmade⟩ := h.live m₀ hl
    exact ⟨first, last', later ++ [.block s b last], rfl, hmade.block b last⟩

/-- Content that is taken fits. -/
theorem le_limit_of_takeData {octets : List UInt8} {m' : Message} (hl : k.live = some m)
    (hm : k.takeData c s octets = .ok m') {limit : SizeLimit} (hlimit : c.limit = some limit) :
    m.content.length + octets.length ≤ limit.octets := by
  simp only [takeData, hl, hlimit, Option.filter_some] at hm
  by_contra hlt
  rw [decide_eq_true (Nat.not_le.mp hlt)] at hm
  cases hm

theorem MadeOfFrames.takeData (h : k.MadeOfFrames c s frames) {octets : List UInt8} (hl : k.live = some m)
    (hm : k.takeData c s octets = .ok (m.append octets)) (last : Bool) :
    (m.append octets).MadeOfFrames c s (frames ++ [.data s octets last]) := by
  obtain ⟨first, last', later, rfl, hmade⟩ := h.live m hl
  refine ⟨first, last', later ++ [.data s octets last], rfl, hmade.data octets last ?_⟩
  exact fun limit => le_limit_of_takeData hl hm

end Strand

/-- The frames of a stream after an operation on it with a given effect. -/
def Effect.frames (e : Effect) (frames : List Op) (op : Op) : List Op :=
  if e.givenUp then [] else frames ++ if op.isFrame && e.failure.isNone then [op] else []

/-- An operation that is no frame of a message adds nothing to the frames. -/
theorem Effect.frames_of_kept {e : Effect} {frames : List Op} {op : Op} (hup : e.givenUp = false)
    (hop : op.isFrame = false) : e.frames frames op = frames := by
  simp [Effect.frames, hup, hop]

namespace Strand

variable {k : Strand} {c : Setup} {s : StreamId} {frames : List Op} {m : Message} {op : Op}

theorem MadeOfFrames.refused (h : k.MadeOfFrames c s frames) (why : Rejection) (op : Op) :
    (k.refused why).after.MadeOfFrames c s ((k.refused why).frames frames op) := by
  have hframes : (k.refused why).frames frames op = frames := by simp [Strand.refused, Effect.frames]
  rw [hframes]
  exact h

theorem MadeOfFrames.taken (h : k.Proper) (hop : op.isFrame = true) (hm : m.MadeOfFrames c s (frames ++ [op]))
    (last : Bool) : (k.taken last m).after.MadeOfFrames c s ((k.taken last m).frames frames op) := by
  cases last with
  | true => exact madeOfFrames_empty c s
  | false =>
    have hframes : (k.taken false m).frames frames op = frames ++ [op] := by simp [Strand.taken, Effect.frames, hop]
    rw [hframes]
    exact withLive h hm

/-- What an operation on a stream leaves is made of the frames that are left: none if the stream was given up, and
otherwise those there were, with that of the operation if it was one and was taken. -/
theorem MadeOfFrames.step (h : k.MadeOfFrames c s frames) (hs : op.stream = s) (hop : op.isHold = false) :
    (k.step c op).after.MadeOfFrames c s ((k.step c op).frames frames op) := by
  subst hs
  have hproper : (k.step c op).after.Proper := h.proper.step c op
  cases op with
  | block s b last =>
    rcases k.step_block_cases c s b last with ⟨why, -, he⟩ | ⟨m, hm, he⟩ <;> rw [he]
    · exact h.refused why _
    · exact MadeOfFrames.taken h.proper rfl (h.takeBlock hm last) last
  | data s octets last =>
    rcases k.step_data_cases c s octets last with ⟨why, -, he⟩ | ⟨m, hl, hm, he⟩ <;> rw [he]
    · exact h.refused why _
    · exact MadeOfFrames.taken h.proper rfl (h.takeData hl hm last) last
  | remove s => exact madeOfFrames_empty c s
  | deliver s m => exact madeOfFrames_empty c s
  | hold s m => cases hop
  | announce s =>
    rw [Effect.frames_of_kept rfl rfl]
    exact h.congr hproper h.proper.map_live_announce
  | signal sig =>
    cases sig with
    | moved n old =>
      rw [Effect.frames_of_kept rfl rfl]
      refine h.congr hproper ?_
      simp only [Strand.step, Strand.moved]
      cases n.parent.dependency with
      | some d => exact k.map_live_told (Fields.isRecord_ofDependency d)
      | none => exact k.map_live_stripped n.parent
    | reweighted n old =>
      rw [Effect.frames_of_kept rfl rfl]
      exact h.congr hproper (k.map_live_told (Fields.isRecord_ofWeight n.weight))
    | frame f =>
      have hstep : k.step c (.signal (.frame f)) = k.readFrame c f.stream := rfl
      rw [hstep]
      rcases k.readFrame_cases c f.stream with ⟨-, he⟩ | ⟨-, he⟩ | ⟨record, hk, ⟨why, -, he⟩ | ⟨m, -, he⟩⟩ <;> rw [he]
      · rw [Effect.frames_of_kept rfl rfl]
        exact h
      · rw [Effect.frames_of_kept rfl rfl]
        exact h
      · rw [Effect.frames_of_kept rfl rfl, h.idle (by rw [hk])]
        exact madeOfFrames_empty c _
      · exact madeOfFrames_empty c _

/-- A message that is delivered because its last frame was taken is made of the frames up to that. -/
theorem MadeOfFrames.delivered (h : k.MadeOfFrames c s frames) (hs : op.stream = s) (hop : op.isFrame = true)
    (hm : (k.step c op).delivered = some m) : m.MadeOfFrames c s (frames ++ [op]) := by
  subst hs
  cases op with
  | block s b last =>
    rcases k.step_block_cases c s b last with ⟨why, -, he⟩ | ⟨m₀, hb, he⟩ <;> rw [he] at hm
    · cases hm
    · obtain ⟨-, rfl⟩ := delivered_taken hm
      exact (h.takeBlock hb last).congr (h.proper.without_isPriority_dress _)
  | data s octets last =>
    rcases k.step_data_cases c s octets last with ⟨why, -, he⟩ | ⟨m₀, hl, hd, he⟩ <;> rw [he] at hm
    · cases hm
    · obtain ⟨-, rfl⟩ := delivered_taken hm
      exact (h.takeData hl hd last).congr (h.proper.without_isPriority_dress _)
  | remove | announce | deliver | signal | hold => cases hop

end Strand

/-! ## Runs -/

namespace Relay

/-- Whether an operation takes a frame in: it reads one, and does not fail. -/
def takesIn (x : Relay × Op) : Bool :=
  x.2.isFrame && (x.1.step x.2).failure.isNone

/-- The frames that a run took in on a stream since the stream was last given up, or all if it never was. -/
def frames (r : Relay) (s : StreamId) (ops : List Op) : List Op :=
  (((r.metOn s ops).rtakeWhile fun x => !givesUp x).filter takesIn).map fun x => x.2

variable {s : StreamId} {op : Op}

theorem frames_concat_of_ne (r : Relay) (ops : List Op) (h : op.stream ≠ s) :
    r.frames s (ops ++ [op]) = r.frames s ops := by
  rw [frames, frames, metOn_concat_of_ne r ops h]

/-- The frames of a stream after one more operation on it are those that its effect leaves. -/
theorem frames_concat_self (r : Relay) (ops : List Op) (h : op.stream = s) :
    r.frames s (ops ++ [op]) =
      (((r.run ops).strand s).step (r.run ops).setup op).frames (r.frames s ops) op := by
  subst h
  have hup := (r.run ops).givenUp_step op
  have hfailure := ((r.run ops).step_shows op).failure
  rw [frames, metOn_concat_self r ops rfl, List.rtakeWhile_concat, Effect.frames, hup, ← hfailure]
  cases givesUp (r.run ops, op) with
  | true => rfl
  | false =>
    rw [Bool.not_false, if_pos rfl, List.filter_append, List.map_append]
    cases htake : takesIn (r.run ops, op) with
    | true =>
      have hin : (op.isFrame && ((r.run ops).step op).failure.isNone) = true := htake
      simp [frames, htake, hin]
    | false =>
      have hout : (op.isFrame && ((r.run ops).step op).failure.isNone) = false := htake
      simp [frames, htake, hout]

/-- Along a run, the message of a stream is made of the frames that were taken on it since it was last given up. -/
theorem madeOfFrames_run {r : Relay} (hr : r.strand s = {}) {ops : List Op} (hops : ∀ op ∈ ops, op.isHold = false) :
    ((r.run ops).strand s).MadeOfFrames r.setup s (r.frames s ops) := by
  induction ops using List.reverseRecOn with
  | nil =>
    rw [run_nil, hr]
    exact Strand.madeOfFrames_empty r.setup s
  | append_singleton ops op ih =>
    have hbefore := ih fun op' hop => hops op' (List.mem_append_left [op] hop)
    rw [run_concat]
    by_cases hs : op.stream = s
    · have hstep := hbefore.step hs (hops op (by simp))
      rw [strand_step _ hs, frames_concat_self r ops hs, setup_run]
      exact hstep
    · rw [strand_step_of_ne _ hs, frames_concat_of_ne r ops hs]
      exact hbefore

/-- Only a frame completes a stream. -/
theorem isFrame_of_completes {r : Relay} (h : completes (r, op) = true) : op.isFrame = true := by
  cases op with
  | block | data => rfl
  | remove | announce | deliver | signal | hold => cases h

/-- A message is what its frames make it, but for the fields that tell priority. Be it under way or delivered because its
stream is complete, its frames are those that were taken on its stream since that was last given up: no other stream, no
refused frame and no earlier life of the stream has a part in it. The first is a block and makes the head; the content is
all content in order, and within the limit if there is one; and the fields of the blocks are merged in order, on the one
side of the content those that came before the first octet, on the other those that came after it. -/
theorem made_of_frames (config : Config) (limit : Option SizeLimit) (refusesNew : Bool) (ops : List Op)
    (h : ∀ op ∈ ops, op.isHold = false) (s : StreamId) :
    let r := new config limit refusesNew
    (∀ m, (r.run ops).assembly.live.get? s = some m → m.MadeOfFrames r.setup s (r.frames s ops)) ∧
      ∀ op m, completes (r.run ops, op) = true → (s, m) ∈ (r.run ops).deliveries op →
        m.MadeOfFrames r.setup s (r.frames s ops ++ [op]) := by
  intro r
  have hmade : ((r.run ops).strand s).MadeOfFrames r.setup s (r.frames s ops) := madeOfFrames_run rfl h
  refine ⟨hmade.live, ?_⟩
  intro op m hop hm
  obtain ⟨hs, hdelivered⟩ := ((r.run ops).mem_deliveries_iff op s m).mp hm
  rw [setup_run, hs] at hdelivered
  exact hmade.delivered hs (isFrame_of_completes hop) hdelivered

/-- A stream is moved, gets a request and is complete. In its second life a field is given twice and replaced after a frame
of no octets, content beyond the limit and content on another stream are refused, and the weight is told after the first
trailer. -/
def mixedRun : List Op :=
  let s : StreamId := ⟨3⟩
  [.signal (.moved { id := s, parent := .stream ⟨5⟩ } .root), .block s Block.plainRequest true,
    .block s (Block.plainRequest.build [.field "a" "1", .field "a" "2"]) false, .data s [] false,
    .block s (Block.empty.build [.status 204, .field "b" "3", .field "A" "4"]) false, .data ⟨5⟩ [9] false,
    .data s [1, 2] false, .data s [3, 4, 5] false, .block s (Block.empty.build [.field "t" "5"]) false,
    .signal (.reweighted { id := s, weight := .max } .default)]

/-- The message that the second trailer completes is made of the five frames of the second life, and of that trailer. -/
theorem made_of_frames_mixedRun :
    let s : StreamId := ⟨3⟩
    let r := new {} (SizeLimit.ofNat? 4) false
    let op : Op := .block s (Block.empty.build [.field "t" "6"]) true
    let m : Message := {
      head := .request "GET" "/"
      headers := .ofList [("b", "3"), ("a", "4")]
      trailing := .ofList [("x-http2-stream-weight", "256"), ("t", "6")]
      content := [1, 2] }
    (∀ op ∈ mixedRun, op.isHold = false) ∧ completes (r.run mixedRun, op) = true ∧
      (s, m) ∈ (r.run mixedRun).deliveries op ∧
      m.MadeOfFrames r.setup s
        [.block s (Block.plainRequest.build [.field "a" "1", .field "a" "2"]) false, .data s [] false,
          .block s (Block.empty.build [.status 204, .field "b" "3", .field "A" "4"]) false, .data s [1, 2] false,
          .block s (Block.empty.build [.field "t" "5"]) false, op] := by
  intro s r op m
  have h : ∀ op ∈ mixedRun, op.isHold = false := by decide
  have hop : completes (r.run mixedRun, op) = true := by decide
  have hm : (s, m) ∈ (r.run mixedRun).deliveries op := by decide
  have hframes : r.frames s mixedRun ++ [op] =
      [.block s (Block.plainRequest.build [.field "a" "1", .field "a" "2"]) false, .data s [] false,
        .block s (Block.empty.build [.status 204, .field "b" "3", .field "A" "4"]) false, .data s [1, 2] false,
        .block s (Block.empty.build [.field "t" "5"]) false, op] := by decide
  have hmade := (made_of_frames {} (SizeLimit.ofNat? 4) false mixedRun h s).2 op m hop hm
  exact ⟨h, hop, hm, hframes ▸ hmade⟩

end Relay

end StreamPriority
