/-!
# The priority tree, as far as it is told

Every stream hangs below another stream, below the root of the connection, or is out of the tree, and has a weight among
its siblings. The tree itself is kept elsewhere; here are the numbers and places it is told in.
-/

namespace StreamPriority

/-- The number of a stream. -/
structure StreamId where
  val : UInt32
deriving DecidableEq

namespace StreamId

/-- Streams are ordered by number. -/
instance : LT StreamId where
  lt a b := a.val < b.val

instance (a b : StreamId) : Decidable (a < b) :=
  inferInstanceAs (Decidable (a.val < b.val))

instance : Ord StreamId where
  compare a b := compare a.val b.val

theorem lt_irrefl (a : StreamId) : ¬a < a :=
  UInt32.lt_irrefl a.val

theorem lt_trans {a b c : StreamId} (h : a < b) (h' : b < c) : a < c :=
  UInt32.lt_trans h h'

/-- Two different streams are ordered one way or the other. -/
theorem lt_or_lt_of_ne {a b : StreamId} (h : a ≠ b) : a < b ∨ b < a := by
  have hv : a.val ≠ b.val := fun he => h (by cases a; cases b; simp_all)
  exact UInt32.lt_or_lt_of_ne hv

/-- The stream that stands for the whole connection. -/
def connection : StreamId := ⟨0⟩

/-- Whether a stream stands for the whole connection. -/
def isConnection (s : StreamId) : Bool :=
  s.val == 0

/-- A stream is written as its number, in decimal. -/
def text (s : StreamId) : String :=
  s.val.toNat.repr

end StreamId

/-- The share a stream has among its siblings: a number from 1 to 256. -/
structure Weight where
  val : Nat
  one_le : 1 ≤ val
  le_max : val ≤ 256
deriving DecidableEq

namespace Weight

/-- The least weight. -/
def min : Weight := ⟨1, by decide, by decide⟩

/-- The greatest weight. -/
def max : Weight := ⟨256, by decide, by decide⟩

/-- The weight of a stream that was given none. -/
def default : Weight := ⟨16, by decide, by decide⟩

instance : Inhabited Weight := ⟨default⟩

instance : Ord Weight where
  compare a b := compare a.val b.val

/-- The weight with the given value, if there is one. -/
def ofNat? (n : Nat) : Option Weight :=
  if h : 1 ≤ n ∧ n ≤ 256 then some ⟨n, h.1, h.2⟩ else none

/-- A frame carries a weight in one octet, less one. -/
def ofOctet (b : UInt8) : Weight :=
  ⟨b.toNat + 1, by omega, by have := b.toNat_lt; omega⟩

/-- A weight is written in decimal. -/
def text (w : Weight) : String :=
  w.val.repr

/-- A number was given as a weight and is none. -/
structure OutOfRange where
  value : Nat
deriving DecidableEq

/-- What is reported of a number that is no weight. -/
def OutOfRange.text (_ : OutOfRange) : String :=
  "weight must lie in 1..=256"

theorem ofNat?_eq_some_iff {n : Nat} {w : Weight} : ofNat? n = some w ↔ w.val = n := by
  constructor
  · intro h
    unfold ofNat? at h
    split at h
    · cases h; rfl
    · cases h
  · rintro rfl
    simp [ofNat?, w.one_le, w.le_max]

end Weight

/-- Where a stream hangs in the tree. -/
inductive Parent where
  /-- Taken out of the tree. -/
  | none
  /-- Directly below the root. -/
  | root
  /-- Below another stream. -/
  | stream (id : StreamId)
deriving DecidableEq

namespace Parent

/-- The place below a stream that is named by number, if it is named at all: the connection itself is the root. -/
def ofId : Option StreamId → Parent
  | Option.none => none
  | some s => if s.isConnection then root else stream s

/-- The stream that is depended on, if the place is below one. -/
def dependency : Parent → Option StreamId
  | none => Option.none
  | root => Option.none
  | stream s => some s

/-- A place that was found by number depends on no connection. -/
theorem dependency_ofId (s : Option StreamId) : (ofId s).dependency = s.filter (!·.isConnection) := by
  cases s with
  | none => rfl
  | some s => by_cases h : s.isConnection <;> simp [ofId, dependency, Option.filter, h]

end Parent

/-- One stream, as the tree shows it at the moment. -/
structure Node where
  id : StreamId
  parent : Parent := .root
  weight : Weight := .default
deriving DecidableEq

/-- The node with another weight, given as a number. -/
def Node.withWeight (n : Node) (value : Nat) : Except Weight.OutOfRange Node :=
  match Weight.ofNat? value with
  | some w => .ok { n with weight := w }
  | none => .error ⟨value⟩

/-- A node gets another weight exactly if the number is one, and keeps its stream and its place. -/
theorem Node.withWeight_eq_ok_iff {n n' : Node} {value : Nat} :
    n.withWeight value = .ok n' ↔ n'.weight.val = value ∧ n' = { n with weight := n'.weight } := by
  unfold withWeight
  cases h : Weight.ofNat? value with
  | none =>
    simp only [reduceCtorEq, false_iff, not_and]
    intro hvalue
    rw [Weight.ofNat?_eq_some_iff.mpr hvalue] at h
    cases h
  | some w =>
    have hw : w.val = value := Weight.ofNat?_eq_some_iff.mp h
    constructor
    · rintro ⟨⟩
      exact ⟨hw, rfl⟩
    · rintro ⟨hvalue, hn⟩
      obtain rfl : n'.weight = w := Option.some.inj ((Weight.ofNat?_eq_some_iff.mpr hvalue).symm.trans h)
      exact congrArg Except.ok hn.symm

end StreamPriority
