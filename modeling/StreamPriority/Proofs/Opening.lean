import StreamPriority.Proofs.Multimap
import StreamPriority.Proofs.Surfacing

/-!
# Which blocks open a message

A block opens a message if its pseudo-headers make a head and, where fields are checked, all its fields are valid; otherwise
the first of these that fails is what is reported. For a block that is put together step by step, that can be read off the
steps (`Message.opens_block`): a pseudo-header counts as it was given last, and fields as they are written, in any case. For
the placeholder block it hangs on the fields alone (`Message.opens_placeholder`), which come through as they are.
-/

namespace StreamPriority

/-! ## Fields as they are written -/

/-- A name that is a token of HTTP, and a value that keeps to its line, as they are written. -/
def WellWritten (p : String × String) : Prop :=
  p.1 ≠ "" ∧ (∀ c ∈ p.1.toList, c.isAlpha = true ∨ c.isDigit = true ∨ c ∈ tokenMarks) ∧
    ∀ c ∈ p.2.toList, c ≠ '\r' ∧ c ≠ '\n' ∧ c ≠ '\x00'

theorem isTokenChar_iff (c : Char) :
    isTokenChar c = true ↔ c.isAlpha = true ∨ c.isDigit = true ∨ c ∈ tokenMarks := by
  rw [isTokenChar, Char.isAlphanum, Bool.or_eq_true, Bool.or_eq_true, List.contains_iff_mem, or_assoc]

/-- A letter may stand in a token, be it capital or small. -/
theorem isTokenChar_toLower (c : Char) : isTokenChar c.toLower = isTokenChar c := by
  by_cases hup : c.isUpper = true
  · have hsmall : c.toLower.isLower = true := by
      have hnat := toNat_toLower c
      rw [if_pos hup] at hnat
      rw [isUpper_iff] at hup
      delta Char.isLower
      simp [UInt32.le_iff_toNat_le]
      omega
    have hletter : ∀ d : Char, d.isUpper = true ∨ d.isLower = true → isTokenChar d = true := by
      intro d hd
      exact (isTokenChar_iff d).mpr (Or.inl ((Bool.or_eq_true _ _).mpr hd))
    rw [hletter c (Or.inl hup), hletter c.toLower (Or.inr hsmall)]
  · have hsame : c.toLower = c := by
      have hfolded := folded_toLower c
      rwa [Folded, if_neg hup] at hfolded
    rw [hsame]

/-- A field is valid exactly if it is well written, in whatever case its name is spelled. -/
theorem Field.valid_iff_wellWritten (p : String × String) : Field.Valid ⟨.ofString p.1, p.2⟩ ↔ WellWritten p := by
  have hempty : foldCase p.1 = "" ↔ p.1 = "" := by
    rw [← String.toList_inj, toList_foldCase, ← String.toList_inj]
    exact List.map_eq_nil_iff
  have hname : (∀ c ∈ (foldCase p.1).toList, isTokenChar c = true) ↔
      ∀ c ∈ p.1.toList, c.isAlpha = true ∨ c.isDigit = true ∨ c ∈ tokenMarks := by
    simp only [← isTokenChar_iff, toList_foldCase, List.forall_mem_map, isTokenChar_toLower]
  have hvalue : ∀ c, (!isBreakChar c) = true ↔ c ≠ '\r' ∧ c ≠ '\n' ∧ c ≠ '\x00' := by
    intro c
    simp [isBreakChar, and_assoc]
  simp only [Valid, FieldName.text_ofString, ne_eq, hempty, hname, hvalue, WellWritten]

instance (p : String × String) : Decidable (WellWritten p) :=
  decidable_of_iff _ (Field.valid_iff_wellWritten p)

/-- The first field that is not valid comes after fields that are. -/
theorem Fields.firstInvalid?_eq_some_iff {fs : Fields} {f : Field} : fs.firstInvalid? = some f ↔
    ∃ before after, fs.entries = before ++ f :: after ∧ (∀ g ∈ before, g.Valid) ∧ ¬f.Valid := by
  have hinvalid : (!f.isValid) = true ↔ ¬f.Valid := by
    rw [Bool.not_eq_true', Bool.eq_false_iff, ne_eq, Field.isValid_iff]
  simp only [firstInvalid?, List.find?_eq_some_iff_append, hinvalid, Bool.not_not, Field.isValid_iff]
  constructor
  · rintro ⟨hf, before, after, hentries, hbefore⟩
    exact ⟨before, after, hentries, hbefore, hf⟩
  · rintro ⟨before, after, hentries, hbefore, hf⟩
    exact ⟨hf, before, after, hentries, hbefore⟩

theorem Fields.each_valid_ofList {l : List (String × String)} :
    (ofList l).Each Field.Valid ↔ ∀ p ∈ l, WellWritten p := by
  rw [Each, entries_ofList, List.forall_mem_map]
  simp only [Field.valid_iff_wellWritten]

/-- The first field that is not valid is the first that is not well written. -/
theorem Fields.firstInvalid?_ofList {before after : List (String × String)} {p : String × String}
    (hbefore : ∀ q ∈ before, WellWritten q) (hp : ¬WellWritten p) :
    (ofList (before ++ p :: after)).firstInvalid? = some ⟨.ofString p.1, p.2⟩ := by
  rw [firstInvalid?_eq_some_iff, Field.valid_iff_wellWritten, entries_ofList]
  refine ⟨_, _, List.map_append, ?_, hp⟩
  intro g hg
  obtain ⟨q, hq, rfl⟩ := List.mem_map.mp hg
  exact (Field.valid_iff_wellWritten q).mpr (hbefore q hq)

/-! ## What a block comes to -/

section

variable {s : StreamId} {b : Block} {validate : Bool}

/-- Without a head there is no message, whatever the fields are. -/
theorem Message.ofBlock_of_error {why : Rejection} (h : Head.ofBlock s b = .error why) :
    ofBlock s b validate = .error why := by
  rw [ofBlock, h]
  rfl

/-- With a head nothing is refused but the first field that is not valid, and only where fields are checked. -/
theorem Message.ofBlock_eq_error_iff {head : Head} (h : Head.ofBlock s b = .ok head) {why : Rejection} :
    ofBlock s b validate = .error why ↔
      validate = true ∧ ∃ f, b.fields.firstInvalid? = some f ∧ why = .invalidField s f.name.text := by
  cases validate with
  | false =>
    rw [ofBlock_of_valid h (Or.inl rfl)]
    simp
  | true =>
    cases hfirst : b.fields.firstInvalid? with
    | none =>
      rw [ofBlock_of_valid h (Or.inr (Fields.firstInvalid?_eq_none_iff.mp hfirst))]
      simp
    | some f =>
      have hrefused : b.fields.check s = .error (.invalidField s f.name.text) := by rw [Fields.check, hfirst]
      rw [ofBlock, h]
      simp [hrefused, eq_comm, bind, Except.bind]

/-- A block opens a message exactly if there is a head and nothing to refuse. -/
theorem Message.exists_ofBlock_iff : (∃ m, ofBlock s b validate = .ok m) ↔
    (∃ head, Head.ofBlock s b = .ok head) ∧ (validate = false ∨ b.fields.Each Field.Valid) := by
  constructor
  · rintro ⟨m, hm⟩
    obtain ⟨hhead, hcheck, -⟩ := ofBlock_eq_ok_iff.mp hm
    refine ⟨⟨m.head, hhead⟩, ?_⟩
    cases validate with
    | false => exact Or.inl rfl
    | true => exact Or.inr (Fields.check_eq_ok_iff.mp (hcheck rfl))
  · rintro ⟨⟨head, hhead⟩, hvalid⟩
    exact ⟨_, ofBlock_of_valid hhead hvalid⟩

/-- Which head the pseudo-headers make. -/
theorem Head.ofBlock_eq_ok_iff {head : Head} : ofBlock s b = .ok head ↔
    (∃ n, b.status = some n ∧ head = .response n) ∨
      (b.status = none ∧ ∃ v p, b.method = some v ∧ b.path = some p ∧ head = .request v p) := by
  obtain ⟨method, path, status, fields⟩ := b
  cases status <;> cases method <;> cases path <;> simp [ofBlock, eq_comm]

/-- The pseudo-headers make a head exactly if there is a status, or else both a method and a path. -/
theorem Head.exists_ofBlock_iff : (∃ head, ofBlock s b = .ok head) ↔
    b.status.isSome = true ∨ (b.method.isSome = true ∧ b.path.isSome = true) := by
  obtain ⟨method, path, status, fields⟩ := b
  cases status <;> cases method <;> cases path <;> simp [ofBlock]

end

/-! ## Blocks put together step by step -/

namespace Block

/-- The method that a step gives. -/
def Step.method? : Step → Option String
  | .method m => some m
  | _ => none

/-- The path that a step gives. -/
def Step.path? : Step → Option String
  | .path p => some p
  | _ => none

/-- The status that a step gives. -/
def Step.status? : Step → Option UInt16
  | .status n => some n
  | _ => none

/-- The field that a step puts in, as it is written. -/
def Step.field? : Step → Option (String × String)
  | .field n v => some (n, v)
  | _ => none

/-- What was given last of a kind. -/
def lastGiven {α : Type} (kind : Step → Option α) (steps : List Step) : Option α :=
  (steps.filterMap kind).getLast?

/-- The fields that are put in, in order, as they are written. -/
def written (steps : List Step) : List (String × String) :=
  steps.filterMap Step.field?

/-- One more step counts if it is of the kind. -/
theorem lastGiven_concat {α : Type} (kind : Step → Option α) (steps : List Step) (s : Step) :
    lastGiven kind (steps ++ [s]) = (kind s).or (lastGiven kind steps) := by
  rw [lastGiven, List.filterMap_append]
  cases h : kind s with
  | none => simp [h, lastGiven]
  | some a => simp [h]

/-- What a block has in the end: each pseudo-header as it was given last, and every field that was put in. -/
theorem build_empty (steps : List Step) :
    empty.build steps =
      { method := lastGiven Step.method? steps
        path := lastGiven Step.path? steps
        status := lastGiven Step.status? steps
        fields := .ofList (written steps) } := by
  induction steps using List.reverseRecOn with
  | nil => rfl
  | append_singleton steps s ih =>
    rw [build_append, ih]
    simp only [lastGiven_concat, written, List.filterMap_append, Fields.ofList, List.foldl_append]
    cases s <;> rfl

end Block

namespace Message

/-- Which blocks open a message, and what the others come to. Put together step by step, a block opens one exactly if there is
a status, or both a method and a path, and every field is well written where fields are checked. The message has the last
status for its head if there is any, whatever else is there, and otherwise the last method and path; the fields as they were
put in, with their names folded; and nothing else. Without a status, a missing method is reported first and then a missing
path; with a head, the first field in order that is not well written. To judge the octets of a field comes to the same as
to judge its characters. -/
theorem opens_block (s : StreamId) (steps : List Block.Step) (validate : Bool) :
    let method := Block.lastGiven Block.Step.method? steps
    let path := Block.lastGiven Block.Step.path? steps
    let status := Block.lastGiven Block.Step.status? steps
    let written := Block.written steps
    let complete := status.isSome = true ∨ (method.isSome = true ∧ path.isSome = true)
    let opened := ofBlock s (Block.empty.build steps) validate
    ((∃ m, opened = .ok m) ↔ complete ∧ (validate = false ∨ ∀ p ∈ written, WellWritten p)) ∧
      (∀ m, opened = .ok m →
        (∀ n, status = some n → m.head = .response n) ∧
          (status = none → ∃ v p, method = some v ∧ path = some p ∧ m.head = .request v p) ∧
          m.headers.toList = written.map (fun p => (foldCase p.1, p.2)) ∧ m.trailing = .empty ∧ m.content = []) ∧
      (status = none → method = none → opened = .error (.missingPseudo s ":method")) ∧
      (status = none → method.isSome = true → path = none → opened = .error (.missingPseudo s ":path")) ∧
      (complete → validate = true → ∀ before p after, written = before ++ p :: after →
        (∀ q ∈ before, WellWritten q) → ¬WellWritten p → opened = .error (.invalidField s (foldCase p.1))) ∧
      ∀ p : String × String, Field.isValid ⟨.ofString p.1, p.2⟩ = true ↔ WellWritten p := by
  intro method path status written complete opened
  have hblock : Block.empty.build steps = { method, path, status, fields := .ofList written } := Block.build_empty steps
  have hhead : (∃ head, Head.ofBlock s (Block.empty.build steps) = .ok head) ↔ complete := by
    rw [Head.exists_ofBlock_iff, hblock]
  refine ⟨?_, ?_, ?_, ?_, ?_, ?_⟩
  · rw [exists_ofBlock_iff, hhead, hblock, Fields.each_valid_ofList]
  · intro m hm
    obtain ⟨hmade, -, hm⟩ := ofBlock_eq_ok_iff.mp hm
    rw [hblock] at hmade hm
    refine ⟨?_, ?_, ?_, ?_, ?_⟩
    · intro n hstatus
      rw [hstatus] at hmade
      exact (Except.ok.inj hmade).symm
    · intro hstatus
      rw [hstatus, Head.ofBlock_eq_ok_iff] at hmade
      obtain ⟨n, hn, -⟩ | ⟨-, hrequest⟩ := hmade
      · cases hn
      · exact hrequest
    · rw [hm, Fields.toList, Fields.entries_ofList, List.map_map]
      rfl
    · rw [hm]
    · rw [hm]
  · intro hstatus hmethod
    apply ofBlock_of_error
    rw [hblock, hstatus, hmethod]
    rfl
  · intro hstatus hmethod hpath
    obtain ⟨v, hv⟩ := Option.isSome_iff_exists.mp hmethod
    apply ofBlock_of_error
    rw [hblock, hstatus, hv, hpath]
    rfl
  · intro hcomplete hcheck before p after hwritten hbefore hp
    obtain ⟨head, hmade⟩ := hhead.mpr hcomplete
    have hfirst : (Block.empty.build steps).fields.firstInvalid? = some ⟨.ofString p.1, p.2⟩ := by
      rw [hblock, hwritten]
      exact Fields.firstInvalid?_ofList hbefore hp
    exact (ofBlock_eq_error_iff hmade).mpr ⟨hcheck, _, hfirst, rfl⟩
  · intro p
    rw [Field.isValid_iff, Field.valid_iff_wellWritten]

/-- A method that is given twice, and two fields that are not well written, the first of them named like a pseudo-header. -/
def carelessSteps : List Block.Step :=
  [.method "GET", .field "Accept" "*/*", .path "/", .field ":Path" "/x", .method "PUT", .field "b" "1\r\n2"]

/-- A field that is named like a pseudo-header is no such thing: it comes through, or is refused as a field. -/
theorem opens_block_carelessSteps :
    let opened (steps : List Block.Step) := ofBlock ⟨1⟩ (Block.empty.build steps)
    (∃ m, opened carelessSteps false = .ok m ∧ m.head = .request "PUT" "/" ∧
        m.headers.toList = [("accept", "*/*"), (":path", "/x"), ("b", "1\r\n2")]) ∧
      opened carelessSteps true = .error (.invalidField ⟨1⟩ ":path") ∧
      (∃ m, opened (carelessSteps ++ [.status 204]) false = .ok m ∧ m.head = .response 204) ∧
      opened [.path "/", .field ":method" "GET"] true = .error (.missingPseudo ⟨1⟩ ":method") ∧
      opened [.method "GET", .field "b" "1\r\n2"] true = .error (.missingPseudo ⟨1⟩ ":path") := by
  intro opened
  obtain ⟨hopens, hmessage, -⟩ := opens_block ⟨1⟩ carelessSteps false
  obtain ⟨hresponds, hresponse, -⟩ := opens_block ⟨1⟩ (carelessSteps ++ [.status 204]) false
  obtain ⟨-, -, -, -, hrefused, -⟩ := opens_block ⟨1⟩ carelessSteps true
  obtain ⟨-, -, hmethod, -⟩ := opens_block ⟨1⟩ [.path "/", .field ":method" "GET"] true
  obtain ⟨-, -, -, hpath, -⟩ := opens_block ⟨1⟩ [.method "GET", .field "b" "1\r\n2"] true
  refine ⟨?_, ?_, ?_, hmethod rfl rfl, hpath rfl rfl rfl⟩
  · obtain ⟨m, hm⟩ := hopens.mpr ⟨Or.inr ⟨rfl, rfl⟩, Or.inl rfl⟩
    obtain ⟨-, hhead, hfields, -⟩ := hmessage m hm
    obtain ⟨v, p, hv, hp, hrequest⟩ := hhead rfl
    cases hv
    cases hp
    exact ⟨m, hm, hrequest, hfields.trans (by decide)⟩
  · exact hrefused (Or.inr ⟨rfl, rfl⟩) rfl [("Accept", "*/*")] (":Path", "/x") [("b", "1\r\n2")] rfl (by decide) (by decide)
  · obtain ⟨m, hm⟩ := hresponds.mpr ⟨Or.inl rfl, Or.inl rfl⟩
    exact ⟨m, hm, (hresponse m hm).1 204 rfl⟩

/-! ## Placeholder blocks -/

/-- What the placeholder block comes to with any fields put in. It has its two or one pseudo-headers and exactly these fields,
in their order, though some be named like pseudo-headers. It opens a message exactly if every field is valid where fields are
checked, and the fields of that message that further ones are laid over are these. Otherwise the first of them that is not
valid is reported, and nothing else ever is. -/
theorem opens_placeholder (role : Role) (fs : Fields) (s : StreamId) (validate : Bool) :
    let b := Block.synthetic role fs
    let opened := ofBlock s b validate
    (match role with
      | .server => b = { method := some "OPTIONS", path := some "", status := none, fields := fs }
      | .client => b = { method := none, path := none, status := some 200, fields := fs }) ∧
      ((∃ m, opened = .ok m) ↔ validate = false ∨ ∀ f ∈ fs.entries, f.Valid) ∧
      (∀ m, opened = .ok m → m.active = fs) ∧
      ∀ why, opened = .error why ↔ validate = true ∧ ∃ before f after, fs.entries = before ++ f :: after ∧
        (∀ g ∈ before, g.Valid) ∧ ¬f.Valid ∧ why = .invalidField s f.name.text := by
  intro b opened
  have hfields : b.fields = fs := Block.fields_synthetic role fs
  have hhead : Head.ofBlock s b = .ok (.placeholder role) := Head.ofBlock_synthetic s role fs
  have hopens : (∃ m, opened = .ok m) ↔ validate = false ∨ ∀ f ∈ fs.entries, f.Valid := by
    rw [exists_ofBlock_iff, hfields]
    exact and_iff_right ⟨_, hhead⟩
  refine ⟨?_, hopens, ?_, ?_⟩
  · have hb : b = { Block.placeholder role with fields := fs } := Block.synthetic_eq role fs
    cases role with
    | server => exact hb
    | client => exact hb
  · intro m hm
    obtain ⟨-, -, hm⟩ := ofBlock_eq_ok_iff.mp hm
    rw [hm]
    exact hfields
  · intro why
    rw [ofBlock_eq_error_iff hhead, hfields]
    refine and_congr_right fun _ => ?_
    constructor
    · rintro ⟨f, hfirst, hwhy⟩
      obtain ⟨before, after, hentries, hbefore, hf⟩ := Fields.firstInvalid?_eq_some_iff.mp hfirst
      exact ⟨before, f, after, hentries, hbefore, hf, hwhy⟩
    · rintro ⟨before, f, after, hentries, hbefore, hf, hwhy⟩
      exact ⟨f, Fields.firstInvalid?_eq_some_iff.mpr ⟨before, after, hentries, hbefore, hf⟩, hwhy⟩

/-- Fields with several values of a name, of which one is named like a pseudo-header and one has no name at all. -/
def oddFields : Fields :=
  .ofList [("Te", "trailers"), (":status", "200"), ("te", "x"), ("", "y")]

/-- For a client as for a server they all come through unchecked; checked, the second is the first to be refused. -/
theorem opens_placeholder_oddFields :
    (Block.synthetic .client oddFields).status = some 200 ∧ (Block.synthetic .client oddFields).fields = oddFields ∧
      (∃ m, ofBlock ⟨5⟩ (.synthetic .server oddFields) false = .ok m ∧ m.active = oddFields) ∧
      ofBlock ⟨5⟩ (.synthetic .client oddFields) true = .error (.invalidField ⟨5⟩ ":status") := by
  obtain ⟨hblock, -, -, hrefused⟩ := opens_placeholder .client oddFields ⟨5⟩ true
  obtain ⟨-, hopens, hactive, -⟩ := opens_placeholder .server oddFields ⟨5⟩ false
  refine ⟨?_, ?_, ?_, ?_⟩
  · rw [hblock]
  · rw [hblock]
  · obtain ⟨m, hm⟩ := hopens.mpr (Or.inl rfl)
    exact ⟨m, hm, hactive m hm⟩
  · refine (hrefused _).mpr ⟨rfl, [⟨.ofString "te", "trailers"⟩], ⟨.ofString ":status", "200"⟩, ?_⟩
    exact ⟨[⟨.ofString "te", "x"⟩, ⟨.ofString "", "y"⟩], by decide, by decide, by decide, rfl⟩

end Message

end StreamPriority
