import StreamPriority.Tree

/-!
# Tables by stream

A table holds at most one thing for each stream, in ascending order of the streams. The order makes a table determined by
what it holds: two tables in which every stream looks up the same are equal (`Table.ext_get?`).
-/

namespace StreamPriority

/-- At most one `α` for each stream. -/
structure Table (α : Type) where
  entries : List (StreamId × α)
  sorted : entries.Pairwise fun a b => a.1 < b.1

namespace Table

variable {α : Type}

@[ext] theorem ext {t u : Table α} (h : t.entries = u.entries) : t = u := by
  cases t
  cases u
  simp_all

instance [DecidableEq α] : DecidableEq (Table α) := fun t u =>
  if h : t.entries = u.entries then isTrue (ext h) else isFalse fun he => h (he ▸ rfl)

/-- The table that holds nothing. -/
def empty : Table α := ⟨[], .nil⟩

/-- What the table holds for a stream. -/
def get? (t : Table α) (s : StreamId) : Option α :=
  (t.entries.find? (·.1 == s)).map (·.2)

/-- Whether the table holds anything for a stream. -/
def contains (t : Table α) (s : StreamId) : Bool :=
  (t.get? s).isSome

/-- The number of streams the table holds something for. -/
def size (t : Table α) : Nat :=
  t.entries.length

/-- Whether the table holds nothing at all. -/
def isEmpty (t : Table α) : Bool :=
  t.entries.isEmpty

/-- Forgets what is held for a stream. -/
def erase (t : Table α) (s : StreamId) : Table α :=
  ⟨t.entries.filter (·.1 != s), t.sorted.filter _⟩

/-- Puts an entry at its place among ascending ones, instead of any of the same stream. -/
def place (s : StreamId) (a : α) : List (StreamId × α) → List (StreamId × α)
  | [] => [(s, a)]
  | e :: l => if s < e.1 then (s, a) :: e :: l else if s = e.1 then (s, a) :: l else e :: place s a l

theorem mem_place {s : StreamId} {a : α} {l : List (StreamId × α)} {x : StreamId × α} (h : x ∈ place s a l) :
    x = (s, a) ∨ x ∈ l := by
  induction l with
  | nil => simpa [place] using h
  | cons e l ih =>
    unfold place at h
    split at h
    · simpa using h
    · split at h
      · rcases List.mem_cons.mp h with h | h
        · exact Or.inl h
        · exact Or.inr (List.mem_cons_of_mem e h)
      · rcases List.mem_cons.mp h with h | h
        · exact Or.inr (h ▸ List.mem_cons_self)
        · exact (ih h).imp_right (List.mem_cons_of_mem e)

/-- Placing an entry keeps the order. -/
theorem sorted_place (s : StreamId) (a : α) {l : List (StreamId × α)} (h : l.Pairwise fun a b => a.1 < b.1) :
    (place s a l).Pairwise fun a b => a.1 < b.1 := by
  induction l with
  | nil => simp [place]
  | cons e l ih =>
    have hl := List.pairwise_cons.mp h
    unfold place
    split
    · next hlt =>
      refine List.pairwise_cons.mpr ⟨fun x hx => ?_, h⟩
      rcases List.mem_cons.mp hx with rfl | hx
      · exact hlt
      · exact StreamId.lt_trans hlt (hl.1 x hx)
    · next hge =>
      split
      · next heq => exact List.pairwise_cons.mpr ⟨fun x hx => heq ▸ hl.1 x hx, hl.2⟩
      · next hne =>
        refine List.pairwise_cons.mpr ⟨fun x hx => ?_, ih hl.2⟩
        rcases mem_place hx with rfl | hx
        · exact (StreamId.lt_or_lt_of_ne hne).resolve_left hge
        · exact hl.1 x hx

/-- Holds something for a stream, instead of what was held before. -/
def insert (t : Table α) (s : StreamId) (a : α) : Table α :=
  ⟨place s a t.entries, sorted_place s a t.sorted⟩

/-- Changes what is held for a stream, if anything is. -/
def adjust (t : Table α) (s : StreamId) (f : α → α) : Table α :=
  match t.get? s with
  | some a => t.insert s (f a)
  | none => t

/-! ## Looking up -/

@[simp] theorem get?_empty (s : StreamId) : (empty : Table α).get? s = none :=
  rfl

theorem find?_place_self (s : StreamId) (a : α) (l : List (StreamId × α)) :
    (place s a l).find? (·.1 == s) = some (s, a) := by
  induction l with
  | nil => simp [place]
  | cons e l ih =>
    unfold place
    split
    · simp
    · split
      · simp
      · next hne =>
        have : (e.1 == s) = false := by simpa using fun he => hne he.symm
        simp [this, ih]

theorem find?_place_of_ne {s s' : StreamId} (h : s ≠ s') (a : α) (l : List (StreamId × α)) :
    (place s a l).find? (·.1 == s') = l.find? (·.1 == s') := by
  have hs : (s == s') = false := by simpa using h
  induction l with
  | nil => simp [place, hs]
  | cons e l ih =>
    unfold place
    split
    · simp [List.find?_cons, hs]
    · split
      · next heq =>
        have : (e.1 == s') = false := heq ▸ hs
        simp [hs, this]
      · simp [List.find?_cons, ih]

@[simp] theorem get?_insert_self (t : Table α) (s : StreamId) (a : α) : (t.insert s a).get? s = some a := by
  simp [get?, insert, find?_place_self]

theorem get?_insert_of_ne (t : Table α) {s s' : StreamId} (h : s ≠ s') (a : α) :
    (t.insert s a).get? s' = t.get? s' := by
  simp [get?, insert, find?_place_of_ne h]

theorem get?_insert (t : Table α) (s s' : StreamId) (a : α) :
    (t.insert s a).get? s' = if s = s' then some a else t.get? s' := by
  by_cases h : s = s'
  · subst h
    simp
  · rw [if_neg h, get?_insert_of_ne t h]

@[simp] theorem get?_erase_self (t : Table α) (s : StreamId) : (t.erase s).get? s = none := by
  simp [get?, erase]

theorem get?_erase_of_ne (t : Table α) {s s' : StreamId} (h : s ≠ s') : (t.erase s).get? s' = t.get? s' := by
  simp only [get?, erase, List.find?_filter]
  congr 2
  funext e
  by_cases he : e.1 = s'
  · have : s' ≠ s := fun hs => h hs.symm
    simp [he, this]
  · simp [he]

theorem get?_erase (t : Table α) (s s' : StreamId) :
    (t.erase s).get? s' = if s = s' then none else t.get? s' := by
  by_cases h : s = s'
  · subst h
    simp
  · rw [if_neg h, get?_erase_of_ne t h]

theorem get?_adjust (t : Table α) (s s' : StreamId) (f : α → α) :
    (t.adjust s f).get? s' = if s = s' then (t.get? s').map f else t.get? s' := by
  unfold adjust
  split
  · next a ha =>
    rw [get?_insert]
    by_cases h : s = s'
    · subst h
      simp [ha]
    · simp [h]
  · next hn =>
    by_cases h : s = s'
    · subst h
      simp [hn]
    · simp [h]

/-! ## A table is what it holds -/

/-- The entries of a table are what its streams look up. -/
theorem mem_entries_iff (t : Table α) (s : StreamId) (a : α) : (s, a) ∈ t.entries ↔ t.get? s = some a := by
  obtain ⟨l, hl⟩ := t
  simp only [get?]
  induction l with
  | nil => simp
  | cons e l ih =>
    have hc := List.pairwise_cons.mp hl
    by_cases he : e.1 = s
    · have hnot : (s, a) ∉ l := fun hm => by
        have hlt := hc.1 _ hm
        rw [he] at hlt
        exact StreamId.lt_irrefl s hlt
      have hbe : (e.1 == s) = true := by simpa using he
      simp only [List.mem_cons, hnot, or_false, List.find?_cons, hbe, Option.map_some, Option.some.injEq]
      constructor
      · intro h
        rw [← h]
      · intro h
        rw [← he, ← h]
    · have hbe : (e.1 == s) = false := by simpa using he
      have hne : (s, a) ≠ e := fun h => he (h ▸ rfl)
      simp only [List.mem_cons, hne, false_or, List.find?_cons, hbe]
      exact ih hc.2

/-- Ascending lists with the same members are equal. -/
theorem eq_of_sorted {l l' : List (StreamId × α)} (h : l.Pairwise fun a b => a.1 < b.1)
    (h' : l'.Pairwise fun a b => a.1 < b.1) (hm : ∀ x, x ∈ l ↔ x ∈ l') : l = l' := by
  induction l generalizing l' with
  | nil =>
    cases l' with
    | nil => rfl
    | cons e l' => exact absurd ((hm e).mpr List.mem_cons_self) (by simp)
  | cons e l ih =>
    cases l' with
    | nil => exact absurd ((hm e).mp List.mem_cons_self) (by simp)
    | cons e' l' =>
      have hc := List.pairwise_cons.mp h
      have hc' := List.pairwise_cons.mp h'
      have hee : e = e' := by
        rcases List.mem_cons.mp ((hm e).mp List.mem_cons_self) with he | he
        · exact he
        · rcases List.mem_cons.mp ((hm e').mpr List.mem_cons_self) with he' | he'
          · exact he'.symm
          · exact absurd (StreamId.lt_trans (hc.1 _ he') (hc'.1 _ he)) (StreamId.lt_irrefl _)
      subst hee
      congr 1
      apply ih hc.2 hc'.2
      intro x
      constructor
      · intro hx
        rcases List.mem_cons.mp ((hm x).mp (List.mem_cons_of_mem _ hx)) with he | hx'
        · exact absurd (he ▸ hc.1 x hx) (StreamId.lt_irrefl _)
        · exact hx'
      · intro hx
        rcases List.mem_cons.mp ((hm x).mpr (List.mem_cons_of_mem _ hx)) with he | hx'
        · exact absurd (he ▸ hc'.1 x hx) (StreamId.lt_irrefl _)
        · exact hx'

/-- Two tables in which every stream looks up the same are equal. -/
theorem ext_get? {t u : Table α} (h : ∀ s, t.get? s = u.get? s) : t = u := by
  apply ext
  apply eq_of_sorted t.sorted u.sorted
  rintro ⟨s, a⟩
  rw [mem_entries_iff, mem_entries_iff, h]

/-- What is held for a stream in the end is all that counts. -/
theorem insert_insert (t : Table α) (s : StreamId) (a b : α) : (t.insert s a).insert s b = t.insert s b := by
  apply ext_get?
  intro s'
  simp only [get?_insert]
  split <;> rfl

theorem adjust_insert (t : Table α) (s : StreamId) (a : α) (f : α → α) :
    (t.insert s a).adjust s f = t.insert s (f a) := by
  unfold adjust
  rw [get?_insert_self]
  exact insert_insert t s a (f a)

end Table

end StreamPriority
