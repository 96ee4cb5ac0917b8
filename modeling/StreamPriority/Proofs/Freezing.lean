import StreamPriority.Proofs.Delivery
import StreamPriority.Proofs.Overlay

/-!
# Frozen fields

Once a message has content, the fields before it are settled. Whatever is read, told or announced from then on is laid over the
fields after the content, and more content only follows the content there is (`Message.GrewInto`). The one thing that still
reaches the fields before the content is a move of the stream to the root, or out of the tree: it strips both parts. So as long
as nobody takes the message away or puts another in its place, those fields lose what such moves strip, and nothing else
(`Relay.headers_frozen`).

Where further fields belong is asked again for every one of these operations; that the answer is always the same comes from the
content, which does not get less.
-/

namespace StreamPriority

/-- Whether an operation tells that a stream was moved to a place. -/
def Op.moves (s : StreamId) (p : Parent) : Op → Bool
  | .signal (.moved n _) => n.id == s && n.parent == p
  | _ => false

/-- The names that an operation strips off both parts of a message. -/
def Op.strips : Op → FieldName → Bool
  | .signal (.moved n _) => n.parent.strips
  | _ => fun _ => false

/-- Whether an operation takes the message of its stream away, or puts another in its place: it completes the stream, gives it
up, delivers on it, or goes past the relay. -/
def Relay.displaces (x : Relay × Op) : Bool :=
  match x.2 with
  | .remove _ => true
  | .deliver _ _ => true
  | .hold _ _ => true
  | _ => completes x

/-- What an operation strips off a stream is the dependency, if it moves the stream to the root or out of the tree, and the
weight, if it moves it out of the tree. -/
theorem Op.strips_eq (op : Op) (s : StreamId) (n : FieldName) :
    (op.stream == s && op.strips n) =
      (n == .dependency && (op.moves s .root || op.moves s .none) || n == .weight && op.moves s .none) := by
  cases op with
  | signal sig =>
    cases sig with
    | moved node old =>
      simp only [stream, Signal.stream, strips, moves]
      cases node.parent <;> cases node.id == s <;>
        simp [Parent.strips, FieldName.isPriority]
    | reweighted | frame => simp [strips, moves]
  | block | data | remove | announce | deliver | hold => simp [strips, moves]

/-! ## Messages with content -/

namespace Message

/-- A message became another that has the same head and the content there was, with more after it, and whose fields before the
content lost some names, and are the same otherwise. -/
structure GrewInto (m m' : Message) (lost : FieldName → Bool) : Prop where
  head : m'.head = m.head
  content : m.content <+: m'.content
  headers : m'.headers = m.headers.without lost

theorem GrewInto.refl (m : Message) : m.GrewInto m fun _ => false :=
  ⟨rfl, List.prefix_refl _, (Fields.without_eq_self fun _ _ => rfl).symm⟩

theorem GrewInto.trans {m m' m'' : Message} {lost lost' : FieldName → Bool} (h : m.GrewInto m' lost)
    (h' : m'.GrewInto m'' lost') : m.GrewInto m'' fun n => lost n || lost' n where
  head := h'.head.trans h.head
  content := h.content.trans h'.content
  headers := by rw [h'.headers, h.headers, Fields.without_or]

theorem GrewInto.content_ne_nil {m m' : Message} {lost : FieldName → Bool} (h : m.GrewInto m' lost)
    (hc : m.content ≠ []) : m'.content ≠ [] := by
  intro hnil
  have hprefix : m.content <+: [] := hnil ▸ h.content
  exact hc (List.prefix_nil.mp hprefix)

/-- With content, what is done to the active fields is done to those after it. -/
theorem grewInto_modifyActive {m : Message} (h : m.content ≠ []) (f : Fields → Fields) :
    m.GrewInto (m.modifyActive f) fun _ => false := by
  rw [modifyActive, activePart_of_content h]
  exact ⟨rfl, List.prefix_refl _, (GrewInto.refl m).headers⟩

theorem grewInto_append (m : Message) (data : List UInt8) : m.GrewInto (m.append data) fun _ => false where
  head := rfl
  content := List.prefix_append _ _
  headers := (GrewInto.refl m).headers

theorem grewInto_strippedAt (m : Message) (p : Parent) : m.GrewInto (m.modifyBoth (·.strippedAt p)) p.strips where
  head := rfl
  content := List.prefix_refl _
  headers := m.headers.strippedAt_eq_without p

end Message

/-! ## Single operations -/

namespace Strand

/-- What was taken and not delivered is under way. -/
theorem live_taken_of_delivered {k : Strand} {last : Bool} {m : Message} (h : (k.taken last m).delivered = none) :
    (k.taken last m).after.live = some m := by
  cases last with
  | true => cases h
  | false => rfl

/-- With a message that has content, an operation that neither delivers it nor gives it up nor goes past the relay lets it
grow, and strips what it strips. -/
theorem grewInto_step {k : Strand} {m : Message} (hm : k.live = some m) (hc : m.content ≠ []) (c : Setup) {op : Op}
    (hdelivered : (k.step c op).delivered = none) (hremove : op.isRemove = false) (hhold : op.isHold = false) :
    ∃ m', (k.step c op).after.live = some m' ∧ m.GrewInto m' op.strips := by
  cases op with
  | block s b last =>
    rcases k.step_block_cases c s b last with ⟨why, -, he⟩ | ⟨m', hm', he⟩
    · rw [he]
      exact ⟨m, hm, .refl m⟩
    · rw [he] at hdelivered ⊢
      obtain rfl : m.modifyActive (·.overlay b.fields) = m' := by
        rw [takeBlock, hm] at hm'
        exact Except.ok.inj hm'
      -- The fields of the block are laid over the active ones, and the record over those.
      have hread := Message.grewInto_modifyActive hc (·.overlay b.fields)
      have hdress := Message.grewInto_modifyActive (hread.content_ne_nil hc) k.layOver
      exact ⟨_, live_taken_of_delivered hdelivered, hread.trans hdress⟩
  | data s octets last =>
    rcases k.step_data_cases c s octets last with ⟨why, -, he⟩ | ⟨m', hm', -, he⟩
    · rw [he]
      exact ⟨m, hm, .refl m⟩
    · rw [he] at hdelivered ⊢
      obtain rfl : m = m' := Option.some.inj (hm.symm.trans hm')
      exact ⟨_, live_taken_of_delivered hdelivered, m.grewInto_append octets⟩
  | remove s => cases hremove
  | hold s m' => cases hhold
  | deliver s m' => cases hdelivered
  | announce s =>
    have hlive : k.announce.live = some (k.dress m) := by rw [announce_of_some hm]
    exact ⟨_, hlive, Message.grewInto_modifyActive hc k.layOver⟩
  | signal sig =>
    have htold : ∀ fs, ∃ m', (k.told fs).live = some m' ∧ m.GrewInto m' fun _ => false := by
      intro fs
      exact ⟨_, by rw [told, hm, Option.map_some], Message.grewInto_modifyActive hc (·.overlay fs)⟩
    have hstripped : ∀ p, ∃ m', (k.stripped p).live = some m' ∧ m.GrewInto m' p.strips := by
      intro p
      exact ⟨_, by rw [stripped, hm, Option.map_some], m.grewInto_strippedAt p⟩
    cases sig with
    | moved n old =>
      simp only [step, moved, Op.strips]
      cases n.parent with
      | none => exact hstripped .none
      | root => exact hstripped .root
      | stream d => exact htold (.ofDependency d)
    | reweighted n old => exact htold (.ofWeight n.weight)
    | frame f =>
      have hlive : k.live.isSome := by rw [hm, Option.isSome_some]
      simp only [step, after_readFrame, if_pos hlive]
      exact ⟨m, hm, .refl m⟩

end Strand

/-! ## Runs -/

namespace Relay

variable {s : StreamId}

/-- With a message under way, an operation that does not displace it neither delivers nor gives the stream up, nor goes past
the relay. -/
theorem of_displaces {r : Relay} {op : Op} (hlive : r.isLive op.stream = true) (h : displaces (r, op) = false) :
    delivers (r, op) = false ∧ op.isRemove = false ∧ op.isHold = false := by
  cases op with
  | block | data => exact ⟨h, rfl, rfl⟩
  | remove | deliver | hold => cases h
  | announce => exact ⟨rfl, rfl, rfl⟩
  | signal sig =>
    cases sig with
    | moved | reweighted => exact ⟨rfl, rfl, rfl⟩
    | frame f =>
      have hf : r.isLive f.stream = true := hlive
      refine ⟨?_, rfl, rfl⟩
      simp only [delivers, hf, Bool.not_true, Bool.false_and]

/-- An operation that does not displace the message of a stream lets it grow. -/
theorem grewInto_step {r : Relay} {m : Message} (hm : r.assembly.live.get? s = some m) (hc : m.content ≠ []) {op : Op}
    (hop : op.stream = s → displaces (r, op) = false) :
    ∃ m', (r.step op).after.assembly.live.get? s = some m' ∧ m.GrewInto m' fun n => op.stream == s && op.strips n := by
  have hlive : (r.strand s).live = some m := hm
  by_cases hs : op.stream = s
  · subst hs
    have hisLive : r.isLive op.stream = true := by rw [isLive_eq, hlive, Option.isSome_some]
    obtain ⟨hdelivers, hremove, hhold⟩ := of_displaces hisLive (hop rfl)
    rw [← isSome_delivered_step, Option.isSome_eq_false_iff, Option.isNone_iff_eq_none] at hdelivers
    obtain ⟨m', hm', hgrew⟩ := Strand.grewInto_step hlive hc r.setup hdelivers hremove hhold
    rw [← strand_step r rfl] at hm'
    refine ⟨m', hm', ?_⟩
    simpa using hgrew
  · have hkept := congrArg Strand.live (strand_step_of_ne r hs)
    refine ⟨m, hkept.trans hlive, ?_⟩
    have hne : (op.stream == s) = false := beq_eq_false_iff_ne.mpr hs
    simpa [hne] using Message.GrewInto.refl m

/-- So does a run of such operations. -/
theorem grewInto_run {r : Relay} {m : Message} (hm : r.assembly.live.get? s = some m) (hc : m.content ≠ []) {ops : List Op}
    (hops : ∀ x ∈ r.met ops, x.2.stream = s → displaces x = false) :
    ∃ m', (r.run ops).assembly.live.get? s = some m' ∧
      m.GrewInto m' fun n => ops.any fun op => op.stream == s && op.strips n := by
  induction ops generalizing r m with
  | nil => exact ⟨m, hm, .refl m⟩
  | cons op ops ih =>
    obtain ⟨m₁, hm₁, hgrew₁⟩ := grewInto_step hm hc (hops (r, op) List.mem_cons_self)
    obtain ⟨m₂, hm₂, hgrew₂⟩ := ih hm₁ (hgrew₁.content_ne_nil hc) fun x hx => hops x (List.mem_cons_of_mem _ hx)
    exact ⟨m₂, hm₂, hgrew₁.trans hgrew₂⟩

/-- Operations strip the dependency off a stream if one of them moves it to the root or out of the tree, and the weight if one
moves it out of the tree. -/
theorem any_strips (ops : List Op) (s : StreamId) (n : FieldName) :
    (ops.any fun op => op.stream == s && op.strips n) =
      (n == .dependency && ops.any (fun op => op.moves s .root || op.moves s .none) ||
        n == .weight && ops.any (·.moves s .none)) := by
  have hdistrib : ∀ a b p q p' q' : Bool, (a && p || b && q || (a && p' || b && q')) = (a && (p || p') || b && (q || q')) := by
    decide
  simp only [Op.strips_eq]
  induction ops with
  | nil => simp
  | cons op ops ih =>
    rw [List.any_cons, ih, List.any_cons, List.any_cons]
    exact hdistrib _ _ _ _ _ _

/-- Once there is content, the fields before it are frozen. Let a stream have a message with content, and let operations of any
kind follow, on this stream and on others, of which none takes that message away or puts another in its place. All along
the message stays, with its head and its content, to which more may be added, and further fields belong after the content.
The entries before the content stay in their order, all but these: those that name the stream depended on are gone once the
stream was moved to the root or out of the tree, and those that tell the weight once it was moved out of the tree. -/
theorem headers_frozen (r : Relay) (s : StreamId) (m : Message) (ops : List Op)
    (hm : r.assembly.live.get? s = some m) (hc : m.content ≠ [])
    (hops : ∀ x ∈ r.met ops, x.2.stream = s → displaces x = false) :
    ∀ before after, before ++ after = ops →
      let unplaced := before.any fun op => op.moves s .root || op.moves s .none
      let takenOut := before.any (·.moves s .none)
      ∃ m', (r.run before).assembly.live.get? s = some m' ∧
        m'.head = m.head ∧ m.content <+: m'.content ∧ m'.activePart = .trailing ∧
        m'.headers.entries =
          m.headers.entries.filter fun f => !(f.name == .dependency && unplaced || f.name == .weight && takenOut) := by
  rintro before after rfl unplaced takenOut
  have hbefore : ∀ x ∈ r.met before, x.2.stream = s → displaces x = false := by
    intro x hx
    apply hops
    rw [met_append]
    exact List.mem_append_left _ hx
  obtain ⟨m', hm', hgrew⟩ := grewInto_run hm hc hbefore
  refine ⟨m', hm', hgrew.head, hgrew.content, Message.activePart_of_content (hgrew.content_ne_nil hc), ?_⟩
  rw [hgrew.headers, Fields.entries_without]
  simp only [any_strips]
  rfl

/-- A message with content is sent fields after it, content that is refused and content that is not, and its stream is moved to
the root, out of the tree and back, and given a weight; another stream is given up. -/
def stormyRun : List Op :=
  let s : StreamId := ⟨3⟩
  [.block s (Block.plainRequest.build [.field "te" "late", .field "x-http2-stream-weight" "1"]) false, .data s [2, 3, 4] true,
    .signal (.moved { id := s, parent := .root } .none), .data s [2] false, .remove ⟨5⟩, .announce s,
    .signal (.moved { id := s, parent := .none } .root), .signal (.reweighted { id := s, weight := .max } .default),
    .signal (.frame { stream := s }), .signal (.moved { id := s, parent := .stream ⟨5⟩ } .none)]

/-- Of the fields before the content, the forged dependency goes with the move to the root, and the forged weights with the one
out of the tree. -/
theorem headers_frozen_stormyRun :
    let s : StreamId := ⟨3⟩
    let m : Message := {
      head := .request "GET" "/"
      headers := .ofList [("x-http2-stream-weight", "7"), ("te", "t"), ("X-HTTP2-Stream-Dependency-Id", "9"), ("accept", "a"),
        ("X-HTTP2-Stream-Weight", "8")]
      content := [1] }
    let r : Relay := {
      config := {}
      assembly := { live := Table.empty.insert s m, limit := SizeLimit.ofNat? 3 }
      records := ⟨Table.empty.insert s (.ofWeight .max)⟩ }
    r.assembly.live.get? s = some m ∧ m.content ≠ [] ∧
      (∀ x ∈ r.met stormyRun, x.2.stream = s → displaces x = false) ∧
      (∃ m', (r.run (stormyRun.take 4)).assembly.live.get? s = some m' ∧ m'.head = m.head ∧ m.content <+: m'.content ∧
        m'.activePart = .trailing ∧ m'.headers = .ofList [("x-http2-stream-weight", "7"), ("te", "t"), ("accept", "a"),
          ("x-http2-stream-weight", "8")]) ∧
      ∃ m', (r.run stormyRun).assembly.live.get? s = some m' ∧ m'.head = m.head ∧ m.content <+: m'.content ∧
        m'.activePart = .trailing ∧ m'.headers = .ofList [("te", "t"), ("accept", "a")] := by
  intro s m r
  have hm : r.assembly.live.get? s = some m := by decide
  have hc : m.content ≠ [] := by decide
  have hops : ∀ x ∈ r.met stormyRun, x.2.stream = s → displaces x = false := by decide
  have hfrozen := headers_frozen r s m stormyRun hm hc hops
  obtain ⟨m₁, hm₁, hhead₁, hcontent₁, hactive₁, hheaders₁⟩ := hfrozen _ _ (List.take_append_drop 4 stormyRun)
  obtain ⟨m₂, hm₂, hhead₂, hcontent₂, hactive₂, hheaders₂⟩ := hfrozen _ _ (List.append_nil stormyRun)
  refine ⟨hm, hc, hops, ⟨m₁, hm₁, hhead₁, hcontent₁, hactive₁, ?_⟩, m₂, hm₂, hhead₂, hcontent₂, hactive₂, ?_⟩
  · exact Fields.ext (hheaders₁.trans (by decide))
  · exact Fields.ext (hheaders₂.trans (by decide))

end Relay

end StreamPriority
