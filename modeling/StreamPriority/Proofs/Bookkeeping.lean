import Mathlib.Data.Set.Card.Arithmetic
import StreamPriority.Journal.Meter
import StreamPriority.Proofs.Lifetime
import StreamPriority.Proofs.Surfacing
import StreamPriority.Proofs.TreeChange

/-!
# What the notes tell of the state

A relay notes down what it does, and never looks at its notes. Still they can be audited: all that is noted of records and
counters in a step is settled by what the step is (`Relay.booked`, `Relay.booked_step`), and so the notes of a whole run say
which streams have a record and how often each counter was ticked. The lines on the record of one stream take turns
(`Relay.turns_run`), as it is noted neither that a record was created where there is one nor that one was removed where there
is none.
-/

namespace StreamPriority

/-! ## Lines are told apart by their text -/

/-- Streams with the same text are the same. -/
theorem StreamId.eq_of_text_eq {s t : StreamId} (h : s.text = t.text) : s = t := by
  have hdigits : Nat.toDigits 10 s.val.toNat = Nat.toDigits 10 t.val.toNat := by
    rw [← Nat.toList_repr, ← Nat.toList_repr]
    exact congrArg String.toList h
  have hnat : s.val.toNat = t.val.toNat := by
    rw [← Nat.ofDigitChars_ten_toDigits (n := s.val.toNat), hdigits, Nat.ofDigitChars_ten_toDigits]
  obtain ⟨a⟩ := s
  obtain ⟨b⟩ := t
  exact congrArg StreamId.mk (UInt32.toNat_inj.mp hnat)

namespace Line

/-- How every line of a kind begins. -/
def opening : Line → String
  | signal _ => "DEBUG priority event: stream="
  | recordCreated _ => "DEBUG pending priority record created: stream="
  | recordRemoved _ => "DEBUG pending priority record removed: stream="
  | frameIgnored _ => "DEBUG priority frame ignored for stream with live message: stream="
  | frameUnknown _ => "WARN priority frame received for unknown stream stream="
  | synthesized _ _ => "DEBUG synthesized message from priority frame stream="

/-- The openings of all kinds. -/
def openings : List String :=
  ["DEBUG priority event: stream=", "DEBUG pending priority record created: stream=",
    "DEBUG pending priority record removed: stream=", "DEBUG priority frame ignored for stream with live message: stream=",
    "WARN priority frame received for unknown stream stream=", "DEBUG synthesized message from priority frame stream="]

/-- Whether a line says of a stream that it got a record or lost one. -/
def turns (s : StreamId) (l : Line) : Bool :=
  l == recordCreated s || l == recordRemoved s

/-- Whether a line says that a message was made to carry a record. -/
def isSynthesized : Line → Bool
  | synthesized _ _ => true
  | _ => false

theorem turns_recordCreated (s : StreamId) : (recordCreated s).turns s = true := by
  rw [turns, beq_self_eq_true, Bool.true_or]

theorem turns_recordRemoved (s : StreamId) : (recordRemoved s).turns s = true := by
  rw [turns, beq_self_eq_true, Bool.or_true]

theorem opening_mem (l : Line) : l.opening ∈ openings := by
  cases l <;> simp [opening, openings]

theorem opening_begins (l : Line) : l.opening.toList <+: l.text.toList := by
  have h : ∃ rest, l.text = l.opening ++ rest := by
    cases l with
    | signal s => exact ⟨s.stream.text ++ ", event=" ++ s.text, rfl⟩
    | recordCreated s => exact ⟨s.text, rfl⟩
    | recordRemoved s => exact ⟨s.text, rfl⟩
    | frameIgnored s => exact ⟨s.text, rfl⟩
    | frameUnknown s => exact ⟨s.text, rfl⟩
    | synthesized s role => exact ⟨s.text ++ " role=" ++ role.text, rfl⟩
  obtain ⟨rest, hrest⟩ := h
  rw [hrest, String.toList_append]
  exact List.prefix_append _ _

/-- No opening is the beginning of another one. -/
theorem opening_inj : ∀ a ∈ openings, ∀ b ∈ openings, a.toList <+: b.toList → a = b := by
  decide

/-- Lines that read alike are of one kind. -/
theorem opening_eq_of_text_eq {l l' : Line} (h : l.text = l'.text) : l.opening = l'.opening := by
  have hl : l.opening.toList <+: l'.text.toList := h ▸ l.opening_begins
  rcases List.prefix_or_prefix_of_prefix hl l'.opening_begins with hp | hp
  · exact opening_inj _ l.opening_mem _ l'.opening_mem hp
  · exact (opening_inj _ l'.opening_mem _ l.opening_mem hp).symm

/-- No other line reads like one that says of a stream that it got a record or lost one. -/
theorem text_eq_iff_of_turns {l l' : Line} {s : StreamId} (h : l'.turns s = true) : l.text = l'.text ↔ l = l' := by
  refine ⟨?_, congrArg text⟩
  intro htext
  have hkind := opening_eq_of_text_eq htext
  have hstream : ∀ {o : String} {t : StreamId}, o ++ t.text = o ++ s.text → t = s := by
    intro o t ho
    exact StreamId.eq_of_text_eq ((String.append_right_inj o).mp ho)
  rcases Bool.or_eq_true _ _ ▸ h with hl' | hl'
  · obtain rfl := beq_iff_eq.mp hl'
    cases l with
    | recordCreated t => rw [hstream (o := "DEBUG pending priority record created: stream=") htext]
    | _ => simp [opening] at hkind
  · obtain rfl := beq_iff_eq.mp hl'
    cases l with
    | recordRemoved t => rw [hstream (o := "DEBUG pending priority record removed: stream=") htext]
    | _ => simp [opening] at hkind

/-- The lines on the record of a stream are known by their text. -/
theorem text_beq_or (s : StreamId) (l : Line) :
    (l.text == (recordCreated s).text || l.text == (recordRemoved s).text) = l.turns s := by
  rw [Bool.eq_iff_iff, turns, Bool.or_eq_true, Bool.or_eq_true]
  simp only [beq_iff_eq, text_eq_iff_of_turns (turns_recordCreated s), text_eq_iff_of_turns (turns_recordRemoved s)]

/-- Exactly the lines on messages made to carry a record begin like that. -/
theorem isSynthesized_iff (l : Line) : l.isSynthesized = true ↔ "DEBUG synthesized message".toList <+: l.text.toList := by
  have hkind : l.isSynthesized = true ↔ l.opening = "DEBUG synthesized message from priority frame stream=" := by
    cases l <;> simp [isSynthesized, opening]
  have hopening : ∀ o ∈ openings, o = "DEBUG synthesized message from priority frame stream=" ↔
      "DEBUG synthesized message".toList <+: o.toList := by decide
  have hshort : ∀ o ∈ openings, ¬o.toList <+: "DEBUG synthesized message".toList := by decide
  rw [hkind, hopening l.opening l.opening_mem]
  refine ⟨fun h => h.trans l.opening_begins, ?_⟩
  intro h
  exact (List.prefix_or_prefix_of_prefix h l.opening_begins).resolve_right (hshort l.opening l.opening_mem)

end Line

/-! ## One step -/

/-- Whether a note is one of the books: it ticks a counter, or is a line on a record, a message made or an unknown stream. -/
def Note.isBooked : Note → Bool
  | .line (.signal _) => false
  | .line (.frameIgnored _) => false
  | .call _ => false
  | _ => true

/-- Whether something failed as nothing is known of a stream. -/
def Failure.isUnknownStream : Failure → Bool
  | .unknownStream _ => true
  | .rejected _ => false

namespace Relay

/-- Whether an operation is a PRIORITY frame that delivers a message. -/
def surfaces (x : Relay × Op) : Bool :=
  match x.2 with
  | .signal (.frame _) => !(x.1.deliveries x.2).isEmpty
  | _ => false

/-- Whether an operation fails as nothing is known of its stream. -/
def misses (x : Relay × Op) : Bool :=
  (x.1.step x.2).failure.any Failure.isUnknownStream

/-- What is noted in the books when a message is made to carry a record. -/
def surfaceNotes (r : Relay) (s : StreamId) : List Note :=
  [.line (.synthesized s r.config.role), .tick .synthesized]

/-- What is noted in the books when nothing is known of a stream. -/
def missNotes (s : StreamId) : List Note :=
  [.tick .unknownStream, .line (.frameUnknown s)]

/-- What is noted in the books when an operation is answered. -/
def booked (x : Relay × Op) : List Note :=
  (if parks x then x.1.records.keepNotes x.2.stream else []) ++ (if clears x then x.1.records.dropNotes x.2.stream else []) ++
    (if surfaces x then x.1.surfaceNotes x.2.stream else []) ++ if misses x then missNotes x.2.stream else []

/-- An operation delivers exactly if something is delivered. -/
theorem delivers_eq (r : Relay) (op : Op) : delivers (r, op) = !(r.deliveries op).isEmpty := by
  rw [← isSome_delivered_step, deliveries_eq]
  cases ((r.strand op.stream).step r.setup op).delivered <;> rfl

/-- A PRIORITY frame delivers a message if it succeeds without one under way. -/
theorem surfaces_frame (r : Relay) (f : PriorityFrame) :
    surfaces (r, .signal (.frame f)) = (!r.isLive f.stream && (r.readFrame f.stream).failure.isNone) :=
  (r.delivers_eq (.signal (.frame f))).symm

theorem filter_dropNotes (records : Records) (s : StreamId) :
    (records.dropNotes s).filter Note.isBooked = records.dropNotes s := by
  unfold Records.dropNotes
  split <;> rfl

theorem filter_keepNotes (records : Records) (s : StreamId) :
    (records.keepNotes s).filter Note.isBooked = records.keepNotes s := by
  unfold Records.keepNotes
  split <;> rfl

theorem filter_removeNotes (r : Relay) (s : StreamId) :
    (r.removeNotes s).filter Note.isBooked = r.records.dropNotes s :=
  filter_dropNotes r.records s

theorem filter_deliverNotes (r : Relay) (s : StreamId) :
    (r.deliverNotes s).filter Note.isBooked = r.records.dropNotes s := by
  rw [deliverNotes, List.filter_append, filter_removeNotes]
  exact List.append_nil _

/-- Of a stream with a message under way the record goes once the last frame is taken. -/
theorem filter_taken {r : Relay} {s : StreamId} (h : r.isLive s = true) (last : Bool) (call : Call) :
    (r.taken s last (.call call)).notes.filter Note.isBooked = if last then r.records.dropNotes s else [] := by
  cases last with
  | true =>
    have hnotes : (r.taken s true (.call call)).notes = .call call :: .call (.handOut s) :: r.deliverNotes s := by
      simp only [taken, completeNotes, h, if_true]
    rw [hnotes]
    exact r.filter_deliverNotes s
  | false => rfl

/-- Of a record that is gone it is not noted again that it goes. -/
theorem dropNotes_drop (records : Records) (s : StreamId) : (records.drop s).dropNotes s = [] := by
  have h : (records.drop s).contains s = false := by
    rw [Records.contains_eq_isSome, Records.get?_drop, if_pos rfl]
    rfl
  rw [Records.dropNotes, h]
  rfl

theorem filter_synthesize (r : Relay) (s : StreamId) (record : Fields) :
    (r.synthesize s record).notes.filter Note.isBooked =
      r.records.dropNotes s ++ if (r.synthesize s record).failure.isNone then r.surfaceNotes s else [] := by
  have hdrop := filter_dropNotes r.records s
  cases hm : r.assembly.construct s (.synthetic r.config.role record) r.config.validate with
  | error why =>
    simp only [synthesize, hm, List.filter_append, hdrop]
    rfl
  | ok made =>
    simp only [synthesize, hm, List.filter_append, hdrop, filter_deliverNotes, dropNotes_drop, List.append_assoc]
    rfl

/-- If no message can be made of a record, that is not because its stream is unknown. -/
theorem failure_synthesize (r : Relay) (s : StreamId) (record : Fields) :
    (r.synthesize s record).failure.any Failure.isUnknownStream = false := by
  cases hm : r.assembly.construct s (.synthetic r.config.role record) r.config.validate with
  | error why => simp only [synthesize, hm]; rfl
  | ok made => simp only [synthesize, hm]; rfl

/-- What is noted in the books of a PRIORITY frame. -/
theorem filter_readFrame (r : Relay) (s : StreamId) :
    (r.readFrame s).notes.filter Note.isBooked =
      (if !r.isLive s then r.records.dropNotes s else []) ++
        (if !r.isLive s && (r.readFrame s).failure.isNone then r.surfaceNotes s else []) ++
        if (r.readFrame s).failure.any Failure.isUnknownStream then missNotes s else [] := by
  cases hl : r.isLive s with
  | true =>
    rw [readFrame_of_isLive hl]
    rfl
  | false =>
    cases hr : r.records.get? s with
    | none =>
      have hdrop : r.records.dropNotes s = [] := by
        rw [Records.dropNotes, Records.contains_eq_isSome, hr]
        rfl
      rw [readFrame_of_unknown hl hr, hdrop]
      rfl
    | some record =>
      have hsynthesize : r.readFrame s = r.synthesize s record := by
        rw [readFrame, hl, if_neg Bool.false_ne_true, hr]
      rw [hsynthesize, filter_synthesize, failure_synthesize]
      simp

/-- What is noted in the books of a step is settled by what the step is. -/
theorem booked_step (r : Relay) (op : Op) : (r.step op).notes.filter Note.isBooked = booked (r, op) := by
  cases op with
  | block s b last =>
    simp only [booked, parks, clears, completes, surfaces, misses, step, readBlock, afterBlock]
    rcases takeBlock_cases r.assembly s b r.config.validate with ⟨why, ha⟩ | ⟨m, ha⟩ <;> simp only [ha]
    · cases last <;> rfl
    · have hl : (announce { r with assembly := r.assembly.hold s m } s).isLive s = true := by
        rw [isLive_announce, isLive_hold]
      rw [filter_taken hl last, failure_taken]
      cases last <;> simp [announce, Op.stream]
  | data s octets last =>
    simp only [booked, parks, clears, completes, surfaces, misses, step, readData]
    rcases takeData_cases r.assembly s octets with ⟨why, ha⟩ | ⟨m, ha⟩ <;> simp only [ha]
    · cases last <;> rfl
    · rw [filter_taken (r.isLive_hold s m) last, failure_taken]
      cases last <;> simp [Op.stream]
  | remove s => simp [booked, parks, clears, surfaces, misses, step, Op.stream, filter_removeNotes]
  | announce s => rfl
  | deliver s m => simp [booked, parks, clears, surfaces, misses, step, Op.stream, filter_deliverNotes]
  | hold s m => rfl
  | signal sig =>
    cases sig with
    | moved n old =>
      show (r.movedNotes n.id n.parent).filter Note.isBooked = _
      unfold movedNotes
      cases hl : r.isLive n.id <;> cases hd : n.parent.dependency <;>
        simp [booked, parks, clears, completes, surfaces, misses, step, hear, Op.stream, Signal.stream, filter_keepNotes, hl, hd]
    | reweighted n old =>
      show (r.reweightedNotes n.id).filter Note.isBooked = _
      unfold reweightedNotes
      cases hl : r.isLive n.id <;>
        simp [booked, parks, clears, completes, surfaces, misses, step, hear, Op.stream, Signal.stream, filter_keepNotes, hl]
    | frame f =>
      simp only [booked, surfaces_frame]
      exact r.filter_readFrame f.stream

end Relay

/-! ## Lines and ticks -/

namespace Note

theorem lines_append (l l' : List Note) : lines (l ++ l') = lines l ++ lines l' :=
  List.filterMap_append

theorem ticks_append (l l' : List Note) (c : Counter) : ticks (l ++ l') c = ticks l c + ticks l' c :=
  List.count_append

/-- If all lines that count are in the books, it is enough to look there. -/
theorem filter_lines_booked {p : Line → Bool} (h : ∀ l, p l = true → isBooked (line l) = true) (notes : List Note) :
    (lines (notes.filter isBooked)).filter p = (lines notes).filter p := by
  induction notes with
  | nil => rfl
  | cons n notes ih =>
    have happend : ∀ rest, lines (n :: rest) = lines [n] ++ lines rest := fun rest => lines_append [n] rest
    rw [List.filter_cons, happend notes, List.filter_append, ← ih]
    split
    · rw [happend, List.filter_append]
    · next hn =>
      have hnil : (lines [n]).filter p = [] := by
        cases n with
        | line l =>
          have hp : p l = false := Bool.eq_false_iff.mpr fun hl => hn (h l hl)
          show [l].filter p = []
          rw [List.filter_singleton, hp]
          rfl
        | tick c => rfl
        | call c => rfl
      rw [hnil, List.nil_append]

theorem ticks_booked (notes : List Note) (c : Counter) : ticks (notes.filter isBooked) c = ticks notes c :=
  List.count_filter rfl

theorem ticks_ite (b : Bool) (l : List Note) (c : Counter) : ticks (if b then l else []) c = b.toNat * ticks l c := by
  cases b with
  | true => exact (Nat.one_mul _).symm
  | false => exact (Nat.zero_mul _).symm

end Note

/-- The operations that tick a counter. -/
def Counter.counts (c : Counter) (x : Relay × Op) : Bool :=
  match c with
  | kept => Relay.parks x
  | synthesized => Relay.surfaces x
  | unknownStream => Relay.misses x

namespace Relay

theorem ticks_keepNotes (records : Records) (s : StreamId) (c : Counter) :
    Note.ticks (records.keepNotes s) c = if c = .kept then 1 else 0 := by
  unfold Records.keepNotes
  split <;> cases c <;> rfl

theorem ticks_dropNotes (records : Records) (s : StreamId) (c : Counter) : Note.ticks (records.dropNotes s) c = 0 := by
  unfold Records.dropNotes
  split <;> rfl

theorem ticks_surfaceNotes (r : Relay) (s : StreamId) (c : Counter) :
    Note.ticks (r.surfaceNotes s) c = if c = .synthesized then 1 else 0 := by
  cases c <;> rfl

theorem ticks_missNotes (s : StreamId) (c : Counter) : Note.ticks (missNotes s) c = if c = .unknownStream then 1 else 0 := by
  cases c <;> rfl

/-- A step ticks each counter once or not at all. -/
theorem ticks_step (r : Relay) (op : Op) (c : Counter) : Note.ticks (r.step op).notes c = (c.counts (r, op)).toNat := by
  rw [← Note.ticks_booked, booked_step]
  simp only [booked, Note.ticks_append, Note.ticks_ite, ticks_keepNotes, ticks_dropNotes, ticks_surfaceNotes, ticks_missNotes]
  cases c <;> simp [Counter.counts]

/-- What parks something clears nothing. -/
theorem clears_of_parks {x : Relay × Op} (h : parks x = true) : clears x = false := by
  obtain ⟨r, op⟩ := x
  cases op with
  | signal sig =>
    cases sig with
    | frame f => cases h
    | moved n old => rfl
    | reweighted n old => rfl
  | _ => cases h

/-- The lines in the books of a step. -/
theorem lines_booked (x : Relay × Op) :
    Note.lines (booked x) =
      (if parks x && !x.1.records.contains x.2.stream then [.recordCreated x.2.stream] else []) ++
        (if clears x && x.1.records.contains x.2.stream then [.recordRemoved x.2.stream] else []) ++
        (if surfaces x then [.synthesized x.2.stream x.1.config.role] else []) ++
        if misses x then [.frameUnknown x.2.stream] else [] := by
  have hparks : Note.lines (if parks x then x.1.records.keepNotes x.2.stream else []) =
      if parks x && !x.1.records.contains x.2.stream then [.recordCreated x.2.stream] else [] := by
    unfold Records.keepNotes
    cases parks x <;> cases x.1.records.contains x.2.stream <;> rfl
  have hclears : Note.lines (if clears x then x.1.records.dropNotes x.2.stream else []) =
      if clears x && x.1.records.contains x.2.stream then [.recordRemoved x.2.stream] else [] := by
    unfold Records.dropNotes
    cases clears x <;> cases x.1.records.contains x.2.stream <;> rfl
  rw [booked, Note.lines_append, Note.lines_append, Note.lines_append, hparks, hclears]
  cases surfaces x <;> cases misses x <;> rfl

theorem filter_ite_singleton {α : Type} (p : α → Bool) (b : Bool) (a : α) :
    (if b then [a] else []).filter p = if b && p a then [a] else [] := by
  cases b with
  | true =>
    rw [if_pos rfl, List.filter_singleton, Bool.true_and]
    cases p a <;> rfl
  | false => rfl

/-- The lines of a step that count, if only such in the books do. -/
theorem filter_lines_step {p : Line → Bool} (h : ∀ l, p l = true → Note.isBooked (.line l) = true) (r : Relay) (op : Op) :
    (Note.lines (r.step op).notes).filter p =
      (if (parks (r, op) && !r.records.contains op.stream) && p (.recordCreated op.stream) then
          [.recordCreated op.stream] else []) ++
        (if (clears (r, op) && r.records.contains op.stream) && p (.recordRemoved op.stream) then
          [.recordRemoved op.stream] else []) ++
        (if surfaces (r, op) && p (.synthesized op.stream r.config.role) then
          [.synthesized op.stream r.config.role] else []) ++
        if misses (r, op) && p (.frameUnknown op.stream) then [.frameUnknown op.stream] else [] := by
  rw [← Note.filter_lines_booked h, booked_step, lines_booked]
  simp only [List.filter_append, filter_ite_singleton]

/-- A step notes that a message was made to carry a record if it is a PRIORITY frame that delivers one. -/
theorem countP_isSynthesized_step (r : Relay) (op : Op) :
    (Note.lines (r.step op).notes).countP Line.isSynthesized = (surfaces (r, op)).toNat := by
  have hbooked : ∀ l, Line.isSynthesized l = true → Note.isBooked (.line l) = true := by
    intro l hl
    cases l with
    | synthesized s role => rfl
    | _ => cases hl
  rw [List.countP_eq_length_filter, filter_lines_step hbooked]
  cases h : surfaces (r, op) <;> simp [Line.isSynthesized]

/-- A step warns if it fails as nothing is known of its stream. -/
theorem countP_warn_step (r : Relay) (op : Op) :
    (Note.lines (r.step op).notes).countP (·.level == .warn) = (misses (r, op)).toNat := by
  have hbooked : ∀ l : Line, (l.level == .warn) = true → Note.isBooked (.line l) = true := by
    intro l hl
    cases l with
    | frameUnknown s => rfl
    | _ => cases hl
  rw [List.countP_eq_length_filter, filter_lines_step hbooked]
  cases h : misses (r, op) <;> simp [Line.level]

/-- The lines of a step on the record of a stream. -/
theorem turns_step (r : Relay) (op : Op) (s : StreamId) :
    (Note.lines (r.step op).notes).filter (Line.turns s) =
      if op.stream = s then
        (if parks (r, op) && !r.records.contains s then [.recordCreated s] else []) ++
          if clears (r, op) && r.records.contains s then [.recordRemoved s] else []
      else [] := by
  have hbooked : ∀ l, Line.turns s l = true → Note.isBooked (.line l) = true := by
    intro l hl
    rcases Bool.or_eq_true _ _ ▸ hl with h | h <;> rw [beq_iff_eq.mp h] <;> rfl
  rw [filter_lines_step hbooked]
  by_cases hs : op.stream = s
  · subst hs
    simp [Line.turns]
  · simp [Line.turns, hs]

theorem constructed_taken (r : Relay) (s : StreamId) (last : Bool) (call : Note) :
    (r.taken s last call).after.assembly.constructed = r.assembly.constructed := by
  cases last with
  | true => exact r.constructed_complete s
  | false => rfl

/-- A step makes a message that no frame opened exactly if it is a PRIORITY frame that delivers one. -/
theorem constructed_step (r : Relay) (op : Op) :
    (r.step op).after.assembly.constructed = r.assembly.constructed + (surfaces (r, op)).toNat := by
  cases op with
  | block s b last =>
    simp only [step, readBlock, afterBlock]
    rcases takeBlock_cases r.assembly s b r.config.validate with ⟨why, ha⟩ | ⟨m, ha⟩ <;> simp only [ha]
    · rfl
    · exact constructed_taken (announce { r with assembly := r.assembly.hold s m } s) s last _
  | data s octets last =>
    simp only [step, readData]
    rcases takeData_cases r.assembly s octets with ⟨why, ha⟩ | ⟨m, ha⟩ <;> simp only [ha]
    · rfl
    · exact constructed_taken { r with assembly := r.assembly.hold s m } s last _
  | remove s => rfl
  | announce s => rfl
  | deliver s m => rfl
  | hold s m => rfl
  | signal sig =>
    cases sig with
    | moved n old =>
      have hkeep := congrArg Assembly.constructed (r.sameElsewhere_moved n.id n.parent).assembly
      exact hkeep
    | reweighted n old =>
      have hkeep := congrArg Assembly.constructed (r.sameElsewhere_reweighted n.id n.weight).assembly
      exact hkeep
    | frame f =>
      rw [surfaces_frame]
      exact r.constructed_readFrame f.stream

/-! ## Runs -/

/-- All that is noted along a run. -/
def journal (r : Relay) (ops : List Op) : List Note :=
  (r.trace ops).flatMap (·.notes)

theorem journal_cons (r : Relay) (op : Op) (ops : List Op) :
    r.journal (op :: ops) = (r.step op).notes ++ (r.step op).after.journal ops :=
  rfl

theorem journal_append (r : Relay) (ops ops' : List Op) :
    r.journal (ops ++ ops') = r.journal ops ++ (r.run ops).journal ops' := by
  induction ops generalizing r with
  | nil => rfl
  | cons op ops ih => rw [List.cons_append, journal_cons, ih, journal_cons, run_cons, List.append_assoc]

/-- What is counted in the notes of each step like the operations of a kind is counted so along a run. -/
theorem count_journal {f : List Note → Nat} {q : Relay × Op → Bool} (hnil : f [] = 0)
    (happend : ∀ l l', f (l ++ l') = f l + f l') (hstep : ∀ r op, f (r.step op).notes = (q (r, op)).toNat) (r : Relay)
    (ops : List Op) : f (r.journal ops) = (r.met ops).countP q := by
  induction ops generalizing r with
  | nil => exact hnil
  | cons op ops ih =>
    rw [journal_cons, happend, hstep, ih, met, countP_cons_toNat, Nat.add_comm]

theorem constructed_run (r : Relay) (ops : List Op) :
    (r.run ops).assembly.constructed = r.assembly.constructed + (r.met ops).countP surfaces := by
  induction ops generalizing r with
  | nil => rfl
  | cons op ops ih =>
    rw [run_cons, ih, constructed_step, met, countP_cons_toNat]
    omega

end Relay

/-- The meter after some notes. -/
def Meter.record (m : Meter) : List Note → Meter
  | [] => m
  | .tick c :: notes => record (m.tick c) notes
  | _ :: notes => record m notes

/-- A meter stands higher by as often as a counter was ticked. -/
theorem Meter.getD_record (m : Meter) (notes : List Note) (c : Counter) :
    ((m.record notes).get? c).getD 0 = (m.get? c).getD 0 + Note.ticks notes c := by
  induction notes generalizing m with
  | nil => rfl
  | cons n notes ih =>
    have hcons : Note.ticks (n :: notes) c = Note.ticks [n] c + Note.ticks notes c := Note.ticks_append [n] notes c
    rw [hcons]
    cases n with
    | line l =>
      rw [show Note.ticks [.line l] c = 0 from rfl, Nat.zero_add]
      exact ih m
    | call l =>
      rw [show Note.ticks [.call l] c = 0 from rfl, Nat.zero_add]
      exact ih m
    | tick d =>
      have hd : Note.ticks [.tick d] c = if c = d then 1 else 0 := by
        cases c <;> cases d <;> rfl
      have htick := ih (m.tick d)
      rw [get?_tick] at htick
      rw [hd, ← Nat.add_assoc]
      refine htick.trans ?_
      split <;> rfl

/-! ## Records take turns -/

/-- The first lines on the record of a stream: it gets one, loses it, and so on. -/
def Line.alternating (s : StreamId) (n : Nat) : List Line :=
  (List.range n).map fun i => if i % 2 = 0 then recordCreated s else recordRemoved s

namespace Line

theorem alternating_succ (s : StreamId) (n : Nat) :
    alternating s (n + 1) = alternating s n ++ [if n % 2 = 0 then recordCreated s else recordRemoved s] := by
  rw [alternating, List.range_succ, List.map_append]
  rfl

/-- A record is created one time more often than it is removed, if it was created last, and else as often. -/
theorem count_alternating (s : StreamId) (n : Nat) :
    (alternating s n).count (recordCreated s) = (alternating s n).count (recordRemoved s) + n % 2 := by
  induction n with
  | zero => rfl
  | succ n ih =>
    rw [alternating_succ, List.count_append, List.count_append, ih]
    rcases Nat.mod_two_eq_zero_or_one n with h | h
    · have hsucc : (n + 1) % 2 = 1 := by omega
      simp [h, hsucc]
    · have hsucc : (n + 1) % 2 = 0 := by omega
      simp [h, hsucc]

end Line

/-- Lines that read like one on the record of a stream are as many as there are of it among the lines on that record. -/
theorem Line.countP_text_eq {s : StreamId} {l : Line} (h : l.turns s = true) (lines : List Line) :
    lines.countP (·.text == l.text) = (lines.filter (turns s)).count l := by
  rw [List.count_filter h]
  apply List.countP_congr
  intro l' _
  rw [beq_iff_eq, beq_iff_eq]
  exact text_eq_iff_of_turns h

namespace Relay

/-- The lines on the record of a stream that had none take turns, and the last of them says whether it has one. -/
theorem turns_run {r : Relay} {s : StreamId} (h : r.records.contains s = false) (ops : List Op) :
    ∃ n, (Note.lines (r.journal ops)).filter (Line.turns s) = Line.alternating s n ∧
      (r.run ops).records.contains s = (n % 2 == 1) := by
  induction ops using List.reverseRecOn with
  | nil => exact ⟨0, rfl, h⟩
  | append_singleton ops op ih =>
    obtain ⟨n, hlines, hcontains⟩ := ih
    have hnotes : (r.run ops).journal [op] = ((r.run ops).step op).notes := List.append_nil _
    rw [journal_append, hnotes, Note.lines_append, List.filter_append, hlines, turns_step, run_concat]
    by_cases hs : op.stream = s
    · have hafter := (r.run ops).contains_step_self op
      rw [hs] at hafter
      rw [if_pos hs, hafter, hcontains]
      rcases Nat.mod_two_eq_zero_or_one n with hn | hn
      · -- Without a record, only parking changes anything.
        have hnext : (n + 1) % 2 = 1 := by omega
        cases hp : parks (r.run ops, op) with
        | true => exact ⟨n + 1, by simp [Line.alternating_succ, hn], by simp [hnext]⟩
        | false => exact ⟨n, by simp [hn], by simp [hn]⟩
      · -- With a record, only clearing changes anything, and what clears does not park.
        have hnext : (n + 1) % 2 = 0 := by omega
        cases hc : clears (r.run ops, op) with
        | true =>
          have hp : parks (r.run ops, op) = false := by
            refine Bool.eq_false_iff.mpr fun hp => ?_
            rw [clears_of_parks hp] at hc
            cases hc
          exact ⟨n + 1, by simp [Line.alternating_succ, hn], by simp [hp, hnext]⟩
        | false => exact ⟨n, by simp [hn], by simp [hn]⟩
    · rw [if_neg hs, List.append_nil, contains_step_of_ne _ hs]
      exact ⟨n, rfl, hcontains⟩

/-- One for every stream that has a record makes as many as there are records. -/
theorem finsum_contains (records : Records) : ∑ᶠ s, (if records.contains s then 1 else 0 : ℤ) = records.size := by
  have hsize : (records.size : ℕ∞) = {s | records.contains s = true}.encard := records.table.size_eq_encard
  have hfinite : {s | records.contains s = true}.Finite := Set.finite_of_encard_eq_coe hsize.symm
  have hcard : {s | records.contains s = true}.ncard = records.size := by
    rw [Set.ncard, ← hsize]
    rfl
  have hsum : ((∑ᶠ s ∈ {s | records.contains s = true}, 1 : ℕ) : ℤ) =
      ∑ᶠ s ∈ {s | records.contains s = true}, ((1 : ℕ) : ℤ) := Nat.cast_finsum_mem hfinite _
  rw [finsum_one, hcard] at hsum
  rw [hsum]
  apply finsum_congr
  intro s
  rw [finsum_eq_if]
  rfl

/-- A counter is ticked in a run as often as there are operations that tick it. -/
theorem ticks_journal (r : Relay) (ops : List Op) (c : Counter) :
    Note.ticks (r.journal ops) c = (r.met ops).countP c.counts := by
  refine count_journal rfl ?_ ?_ r ops
  · exact fun l l' => Note.ticks_append l l' c
  · exact fun r op => ticks_step r op c

/-- A new meter stands where the operations that tick a counter have put it. -/
theorem getD_record_journal (r : Relay) (ops : List Op) (c : Counter) :
    ((Meter.empty.record (r.journal ops)).get? c).getD 0 = (r.met ops).countP c.counts := by
  have hempty : (Meter.empty.get? c).getD 0 = 0 := by cases c <;> rfl
  rw [Meter.getD_record, hempty, Nat.zero_add, ticks_journal]

/-- Lines that a step notes exactly if it is of a kind are as many in a run as steps of that kind. -/
theorem countP_lines_journal {p : Line → Bool} {q : Relay × Op → Bool}
    (h : ∀ r op, (Note.lines (step r op).notes).countP p = (q (r, op)).toNat) (r : Relay) (ops : List Op) :
    (Note.lines (r.journal ops)).countP p = (r.met ops).countP q := by
  refine count_journal (f := fun l => (Note.lines l).countP p) rfl ?_ h r ops
  intro l l'
  rw [Note.lines_append, List.countP_append]

/-- The lines on the record of a stream that had none say once more that it was created if the stream has one in the end. -/
theorem balance_journal {r : Relay} {s : StreamId} (h : r.records.contains s = false) (ops : List Op) :
    ((Note.lines (r.journal ops)).countP (·.text == (Line.recordCreated s).text) : ℤ) -
        (Note.lines (r.journal ops)).countP (·.text == (Line.recordRemoved s).text) =
      if (r.run ops).records.contains s then 1 else 0 := by
  obtain ⟨n, hlines, hcontains⟩ := turns_run h ops
  rw [Line.countP_text_eq (Line.turns_recordCreated s), Line.countP_text_eq (Line.turns_recordRemoved s), hlines, hcontains,
    Line.count_alternating]
  rcases Nat.mod_two_eq_zero_or_one n with hn | hn
  · simp [hn]
  · simp [hn]

/-- What was noted along a run of a new relay, and where a new meter stands after it, agree with the state. The lines on the
record of a stream say by turns that it was created and that it was removed, once more the first if the stream has a record
and else as often; over all streams that is once for each record. What was parked, what was brought out by PRIORITY frames and
what failed for an unknown stream is counted each time, and the last two are as many as the lines that say so; what was brought
out is all that was made without a frame to open it. -/
theorem journal_balances (config : Config) (limit : Option SizeLimit) (refusesNew : Bool) (ops : List Op) :
    let r := new config limit refusesNew
    let q := r.run ops
    let lines := Note.lines (r.journal ops)
    let createdText (s : StreamId) := "DEBUG pending priority record created: stream=" ++ s.text
    let removedText (s : StreamId) := "DEBUG pending priority record removed: stream=" ++ s.text
    let balance (s : StreamId) : ℤ :=
      lines.countP (·.text == createdText s) - lines.countP (·.text == removedText s)
    let stands (c : Counter) := ((Meter.empty.record (r.journal ops)).get? c).getD 0
    (∀ s, balance s = if q.records.contains s then 1 else 0) ∧
      (∀ s, ∃ n, lines.filter (fun l => l.text == createdText s || l.text == removedText s) = Line.alternating s n) ∧
      ∑ᶠ s, balance s = q.records.size ∧
      stands .kept = (r.met ops).countP parks ∧
      (stands .synthesized = lines.countP (fun l => "DEBUG synthesized message".toList.isPrefixOf l.text.toList) ∧
        stands .synthesized = q.assembly.constructed ∧
        stands .synthesized = (r.met ops).countP surfaces) ∧
      stands .unknownStream = lines.countP (·.level == .warn) ∧
      stands .unknownStream = (r.met ops).countP misses := by
  intro r q lines createdText removedText balance stands
  have hstands : ∀ c, stands c = (r.met ops).countP c.counts := r.getD_record_journal ops
  have hbalance : ∀ s, balance s = if q.records.contains s then 1 else 0 := fun s => balance_journal rfl ops
  have hwarn : lines.countP (·.level == .warn) = (r.met ops).countP misses := countP_lines_journal countP_warn_step r ops
  have hsynthesized : lines.countP Line.isSynthesized = (r.met ops).countP surfaces :=
    countP_lines_journal countP_isSynthesized_step r ops
  have hconstructed : q.assembly.constructed = (r.met ops).countP surfaces := (r.constructed_run ops).trans (Nat.zero_add _)
  refine ⟨hbalance, ?_, ?_, hstands .kept, ⟨?_, ?_, hstands .synthesized⟩, ?_, hstands .unknownStream⟩
  · intro s
    obtain ⟨n, hn, -⟩ := turns_run (r := r) (s := s) rfl ops
    refine ⟨n, ?_⟩
    rw [← hn]
    exact List.filter_congr fun l _ => Line.text_beq_or s l
  · rw [finsum_congr hbalance]
    exact finsum_contains q.records
  · refine (hstands .synthesized).trans (hsynthesized.symm.trans ?_)
    apply List.countP_congr
    intro l _
    rw [Line.isSynthesized_iff, List.isPrefixOf_iff_prefix]
  · exact (hstands .synthesized).trans hconstructed.symm
  · exact (hstands .unknownStream).trans hwarn.symm

end Relay

end StreamPriority
