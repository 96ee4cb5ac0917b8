import StreamPriority.Proofs.Coherence
import StreamPriority.Proofs.Omission

/-!
# The algebra of overlays

Whatever a relay does to fields, it lays some over others or strips them at a place. That the order of these does not matter
in several respects, or that one of them may be left out, comes from a few laws: overlays are associative, with no fields as
the unit; an overlay leaves no trace below another that has all its names; and stripping commutes with them. To dress a
message is such an overlay, of what is kept for its stream (`Strand.dress_eq_overlay_kept`).
-/

namespace StreamPriority

namespace Fields

/-- Fields may be laid over each other before they are laid over others. -/
theorem overlay_assoc (fs gs hs : Fields) : (fs.overlay gs).overlay hs = fs.overlay (gs.overlay hs) := by
  ext1
  simp only [entries_overlay, List.filter_append, List.filter_filter, contains_overlay, Bool.not_or, List.append_assoc]

/-- What is laid over fields leaves no trace once all its names are overlaid again. -/
theorem overlay_overlay_of_contains (fs : Fields) {gs hs : Fields}
    (h : ∀ n, gs.contains n = true → hs.contains n = true) : (fs.overlay gs).overlay hs = fs.overlay hs := by
  have hnone : gs.entries.filter (fun f => !hs.contains f.name) = [] := by
    rw [List.filter_eq_nil_iff]
    intro f hf
    have hg : gs.contains f.name = true := (contains_iff gs f.name).mpr ⟨f, hf, rfl⟩
    simp [h f.name hg]
  have hrest : ∀ f ∈ fs.entries, (!hs.contains f.name && !gs.contains f.name) = !hs.contains f.name := by
    intro f _
    cases hg : gs.contains f.name with
    | true => simp [h f.name hg]
    | false => simp
  ext1
  simp only [entries_overlay, List.filter_append, List.filter_filter, hnone, List.append_nil]
  rw [List.filter_congr hrest]

/-- The same with other fields in between, if all names are overlaid again by the last two. -/
theorem overlay_overlay_overlay_of_contains (fs : Fields) {gs hs ks : Fields}
    (h : ∀ n, gs.contains n = true → hs.contains n = true ∨ ks.contains n = true) :
    ((fs.overlay gs).overlay hs).overlay ks = (fs.overlay hs).overlay ks := by
  rw [overlay_assoc, overlay_assoc fs hs ks]
  apply overlay_overlay_of_contains
  intro n hn
  rw [contains_overlay, Bool.or_eq_true]
  exact (h n hn).symm

/-- Laying the same fields over others twice is laying them over once. -/
theorem overlay_overlay_self (fs gs : Fields) : (fs.overlay gs).overlay gs = fs.overlay gs :=
  fs.overlay_overlay_of_contains fun _ h => h

theorem overlay_empty (fs : Fields) : fs.overlay empty = fs := by
  ext1
  simp [entries_overlay, contains]

theorem empty_overlay (fs : Fields) : empty.overlay fs = fs := by
  ext1
  rw [entries_overlay]
  rfl

/-- What is laid over fields is not seen where all its names are left out. -/
theorem without_overlay_of_empty {p : FieldName → Bool} {gs : Fields} (h : gs.without p = empty) (fs : Fields) :
    (fs.overlay gs).without p = fs.without p := by
  rw [without_overlay, h, overlay_empty]

/-- Stripping may be done before or after an overlay. -/
theorem strippedAt_overlay (fs gs : Fields) (p : Parent) :
    (fs.overlay gs).strippedAt p = (fs.strippedAt p).overlay (gs.strippedAt p) := by
  simp only [strippedAt_eq_without, without_overlay]

theorem empty_strippedAt (p : Parent) : empty.strippedAt p = empty := by
  cases p <;> rfl

/-- Fields laid over some that they have all the names of are all that is left. -/
theorem overlay_eq_of_contains {fs gs : Fields} (h : ∀ n, fs.contains n = true → gs.contains n = true) :
    fs.overlay gs = gs := by
  have hempty := empty.overlay_overlay_of_contains h
  rwa [empty_overlay, empty_overlay] at hempty

/-- Fields laid over themselves are left as they are, with all values of a name that has more than one. -/
theorem overlay_self (fs : Fields) : fs.overlay fs = fs :=
  overlay_eq_of_contains fun _ h => h

/-- Fields that are laid over others on top of themselves might have been left out below. -/
theorem overlay_overlay_left (fs gs : Fields) : (fs.overlay gs).overlay fs = gs.overlay fs := by
  have hempty : ((empty.overlay fs).overlay gs).overlay fs = (empty.overlay gs).overlay fs :=
    empty.overlay_overlay_overlay_of_contains fun _ h => Or.inr h
  rwa [empty_overlay, empty_overlay] at hempty

/-- To drop a name is to leave it out. -/
theorem remove_eq_without (fs : Fields) (n : FieldName) : fs.remove n = fs.without (· == n) :=
  rfl

/-- A name may be dropped before or after an overlay. -/
theorem remove_overlay (fs gs : Fields) (n : FieldName) :
    (fs.overlay gs).remove n = (fs.remove n).overlay (gs.remove n) := by
  simp only [remove_eq_without, without_overlay]

/-- A name has no value exactly when every entry bears another. -/
theorem contains_eq_false_iff (fs : Fields) (n : FieldName) :
    fs.contains n = false ↔ ∀ f ∈ fs.entries, f.name ≠ n := by
  simp [contains]

/-- The algebra of overlays. Of the lower fields an overlay keeps exactly the entries whose name the upper ones do not have,
in their order and as often as they stand there, and all entries of the upper fields follow in theirs. So overlays are
associative, no fields are their unit on either side, and fields are left as they are when they are laid over themselves;
what is laid over again need not be below, and a name may be dropped from both sides instead of from the whole. -/
theorem overlay_algebra (fs gs hs : Fields) (n : FieldName) :
    (fs.overlay gs).entries = fs.entries.filter (fun f => ∀ g ∈ gs.entries, g.name ≠ f.name) ++ gs.entries ∧
      (fs.overlay gs).overlay hs = fs.overlay (gs.overlay hs) ∧
      fs.overlay empty = fs ∧ empty.overlay fs = fs ∧
      fs.overlay fs = fs ∧
      (fs.overlay gs).overlay fs = gs.overlay fs ∧
      (fs.overlay gs).remove n = (fs.remove n).overlay (gs.remove n) := by
  have hkept : ∀ f ∈ fs.entries, (!gs.contains f.name) = decide (∀ g ∈ gs.entries, g.name ≠ f.name) := by
    intro f _
    rw [Bool.eq_iff_iff, Bool.not_eq_true', contains_eq_false_iff, decide_eq_true_iff]
  refine ⟨?_, fs.overlay_assoc gs hs, fs.overlay_empty, fs.empty_overlay, fs.overlay_self, fs.overlay_overlay_left gs,
    fs.remove_overlay gs n⟩
  rw [entries_overlay, List.filter_congr hkept]

-- Values of one name that stand apart: both go, and those laid over follow in their order.
example :
    (ofList [("accept", "a"), ("host", "h"), ("Accept", "b")]).overlay (ofList [("ACCEPT", "x"), ("te", "t"), ("accept", "y")]) =
      ofList [("host", "h"), ("accept", "x"), ("te", "t"), ("accept", "y")] := by
  decide

end Fields

theorem Message.without_overlay_of_empty {p : FieldName → Bool} {fs : Fields} (h : fs.without p = .empty) (m : Message) :
    (m.modifyActive (·.overlay fs)).without p = m.without p := by
  rw [m.without_modifyActive (g := fun gs => gs) (Fields.without_overlay_of_empty h), modifyActive_id]

/-- Stripping both parts of a message may be done before or after an overlay of the active one. -/
theorem Message.strippedAt_overlay (m : Message) (fs : Fields) (p : Parent) :
    (m.modifyActive (·.overlay fs)).modifyBoth (·.strippedAt p) =
      (m.modifyBoth (·.strippedAt p)).modifyActive (·.overlay (fs.strippedAt p)) := by
  simp only [Fields.strippedAt_eq_without]
  exact m.without_overlay fs p.strips

/-! ## What is kept for a stream -/

namespace Strand

/-- What the record says; a missing record says nothing. -/
def kept (k : Strand) : Fields :=
  k.record.getD .empty

/-- Dressing lays over a message what is kept, if only nothing. -/
theorem dress_eq_overlay_kept (k : Strand) (m : Message) : k.dress m = m.modifyActive (·.overlay k.kept) := by
  cases hr : k.record with
  | some record => rw [dress_eq_overlay hr, kept, hr, Option.getD_some]
  | none =>
    have hid : (fun fs : Fields => fs.overlay .empty) = fun fs => fs := funext Fields.overlay_empty
    rw [dress_eq_self hr, kept, hr, Option.getD_none, hid, Message.modifyActive_id]

/-- Of a stripped strand what was kept is kept stripped. -/
theorem kept_stripped (k : Strand) (p : Parent) : (k.stripped p).kept = k.kept.strippedAt p := by
  cases hr : k.record with
  | some record => simp only [kept, stripped, hr, Option.map_some, Option.getD_some]
  | none => simp only [kept, stripped, hr, Option.map_none, Option.getD_none, Fields.empty_strippedAt]

/-- Dressing a message twice is dressing it once. -/
theorem dress_dress (k : Strand) (m : Message) : k.dress (k.dress m) = k.dress m := by
  simp only [dress_eq_overlay_kept, Message.modifyActive_modifyActive, Fields.overlay_overlay_self]

/-- A message that is dressed in the end need not be dressed before fields are laid over it. -/
theorem dress_overlay_dress (k : Strand) (m : Message) (fs : Fields) :
    k.dress ((k.dress m).modifyActive (·.overlay fs)) = k.dress (m.modifyActive (·.overlay fs)) := by
  have h : ∀ gs : Fields, ((gs.overlay k.kept).overlay fs).overlay k.kept = (gs.overlay fs).overlay k.kept :=
    fun gs => gs.overlay_overlay_overlay_of_contains fun _ hn => Or.inr hn
  simp only [dress_eq_overlay_kept, Message.modifyActive_modifyActive, h]

end Strand

end StreamPriority
