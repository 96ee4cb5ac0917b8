import Mathlib.Data.List.Induction
import StreamPriority.Proofs.Strand

/-!
# Streams do not interfere

What a relay does for a stream depends on what it heard of that stream since it was last torn down, and on nothing else:
neither on what it heard of other streams, nor on an earlier life under the same number. Both come from one step. An
operation sees nothing but the setup and the strand of its stream (`Relay.glimpse_eq`), and one that tears its stream down
leaves an empty strand (`Relay.strand_of_tearsDown`), which is what a new relay has.
-/

namespace StreamPriority

/-- What a stream shows of an operation on it. -/
structure Glimpse where
  failure : Option Failure
  after : Strand
  delivered : List Message
deriving DecidableEq

namespace Relay

/-- The operations of a run on a stream, each with the relay that met it. -/
def metOn (r : Relay) (s : StreamId) (ops : List Op) : List (Relay × Op) :=
  (r.met ops).filter fun x => x.2.stream == s

/-- What a stream shows of an operation: why it failed if it did, the message under way and the record afterwards, and the
messages delivered. -/
def glimpse (s : StreamId) (x : Relay × Op) : Glimpse where
  failure := (x.1.step x.2).failure
  after := (x.1.step x.2).after.strand s
  delivered := ((x.1.deliveries x.2).filter fun d => d.1 == s).map fun d => d.2

/-- Whether an operation tears its stream down: it delivers a message, gives the stream up, or is a PRIORITY frame that
meets no message under way. -/
def tearsDown (x : Relay × Op) : Bool :=
  !(x.1.deliveries x.2).isEmpty ||
    match x.2 with
    | .remove _ => true
    | .signal (.frame f) => !x.1.isLive f.stream
    | _ => false

/-- The operations on a stream since one last tore it down, or all if none did. -/
def life (r : Relay) (s : StreamId) (ops : List Op) : List (Relay × Op) :=
  ((r.metOn s ops).reverse.takeWhile fun x => !tearsDown x).reverse

/-! ## Operations met -/

theorem metOn_cons_self (r : Relay) {s : StreamId} {op : Op} (ops : List Op) (h : op.stream = s) :
    r.metOn s (op :: ops) = (r, op) :: (r.step op).after.metOn s ops := by
  simp [metOn, met, h]

theorem metOn_cons_of_ne (r : Relay) {s : StreamId} {op : Op} (ops : List Op) (h : op.stream ≠ s) :
    r.metOn s (op :: ops) = (r.step op).after.metOn s ops := by
  simp [metOn, met, h]

theorem metOn_concat_self (r : Relay) {s : StreamId} (ops : List Op) {op : Op} (h : op.stream = s) :
    r.metOn s (ops ++ [op]) = r.metOn s ops ++ [(r.run ops, op)] := by
  simp [metOn, met_append, met, h]

theorem metOn_concat_of_ne (r : Relay) {s : StreamId} (ops : List Op) {op : Op} (h : op.stream ≠ s) :
    r.metOn s (ops ++ [op]) = r.metOn s ops := by
  simp [metOn, met_append, met, h]

/-- A run of one more operation on a stream: its life is over, or longer by that operation. -/
theorem life_concat_self (r : Relay) {s : StreamId} (ops : List Op) {op : Op} (h : op.stream = s) :
    r.life s (ops ++ [op]) = if tearsDown (r.run ops, op) then [] else r.life s ops ++ [(r.run ops, op)] := by
  simp only [life, metOn_concat_self r ops h, List.reverse_append, List.reverse_singleton, List.singleton_append,
    List.takeWhile_cons]
  cases tearsDown (r.run ops, op) <;> simp

/-- A run of one more operation on another stream. -/
theorem life_concat_of_ne (r : Relay) {s : StreamId} (ops : List Op) {op : Op} (h : op.stream ≠ s) :
    r.life s (ops ++ [op]) = r.life s ops := by
  rw [life, life, metOn_concat_of_ne r ops h]

/-! ## One operation -/

/-- A stream shows of an operation on it what the effect on its strand is. -/
theorem glimpse_eq (r : Relay) {s : StreamId} {op : Op} (h : op.stream = s) :
    glimpse s (r, op) =
      let e := (r.strand s).step r.setup op
      ⟨e.failure, e.after, e.delivered.toList⟩ := by
  subst h
  simp only [glimpse, (r.step_shows op).failure, (r.step_shows op).became.own, deliveries_eq]
  cases ((r.strand op.stream).step r.setup op).delivered <;> simp

/-- What was taken leaves an empty strand if it is delivered. -/
theorem after_of_delivered_taken {k : Strand} {last : Bool} {m m' : Message}
    (h : (k.taken last m).delivered = some m') : (k.taken last m).after = {} := by
  obtain ⟨rfl, -⟩ := Strand.delivered_taken h
  rfl

/-- An operation that delivers leaves an empty strand. -/
theorem after_of_delivered {k : Strand} {c : Setup} {op : Op} {m : Message} (h : (k.step c op).delivered = some m) :
    (k.step c op).after = {} := by
  cases op with
  | block s b last =>
    rcases k.step_block_cases c s b last with ⟨why, -, he⟩ | ⟨m', -, he⟩ <;> rw [he] at h ⊢
    · cases h
    · exact after_of_delivered_taken h
  | data s octets last =>
    rcases k.step_data_cases c s octets last with ⟨why, -, he⟩ | ⟨m', -, -, he⟩ <;> rw [he] at h ⊢
    · cases h
    · exact after_of_delivered_taken h
  | remove s => cases h
  | announce s => cases h
  | deliver s m => rfl
  | hold s m => cases h
  | signal sig =>
    cases sig with
    | moved n old => cases h
    | reweighted n old => cases h
    | frame f =>
      have h' : (k.readFrame c f.stream).delivered = some m := h
      show (k.readFrame c f.stream).after = {}
      rcases k.readFrame_cases c f.stream with ⟨-, he⟩ | ⟨-, he⟩ | ⟨record, -, ⟨why, -, he⟩ | ⟨m', -, he⟩⟩ <;>
        rw [he] at h'
      · cases h'
      · cases h'
      · cases h'
      · rw [he]
        rfl

/-- An operation that tears its stream down leaves an empty strand. -/
theorem strand_of_tearsDown {r : Relay} {s : StreamId} {op : Op} (hs : op.stream = s) (h : tearsDown (r, op) = true) :
    (r.step op).after.strand s = {} := by
  subst hs
  rw [strand_step r rfl]
  rcases Bool.or_eq_true _ _ ▸ h with hd | ht
  · rw [deliveries_eq] at hd
    cases hm : ((r.strand op.stream).step r.setup op).delivered with
    | some m => exact after_of_delivered hm
    | none => simp [hm] at hd
  · cases op with
    | remove s => rfl
    | signal sig =>
      cases sig with
      | frame f =>
        have hl : (r.strand f.stream).live.isSome = false := by simpa [isLive_eq] using ht
        show ((r.strand f.stream).readFrame r.setup f.stream).after = {}
        rw [Strand.after_readFrame, hl]
        rfl
      | moved n old => cases ht
      | reweighted n old => cases ht
    | block s b last => cases ht
    | data s octets last => cases ht
    | announce s => cases ht
    | deliver s m => cases ht
    | hold s m => cases ht

/-! ## Runs -/

/-- Two relays with one setup and the same strand of a stream show the same of it, when one runs all operations and the
other only those on the stream. -/
theorem metOn_eq_of_strand_eq {r q : Relay} {s : StreamId} (hsetup : q.setup = r.setup) (hk : q.strand s = r.strand s)
    (ops : List Op) :
    (q.met (ops.filter fun op => op.stream == s)).map (glimpse s) = (r.metOn s ops).map (glimpse s) ∧
      (q.run (ops.filter fun op => op.stream == s)).strand s = (r.run ops).strand s := by
  induction ops generalizing r q with
  | nil => exact ⟨rfl, hk⟩
  | cons op ops ih =>
    by_cases hs : op.stream = s
    · have hb : (op.stream == s) = true := beq_iff_eq.mpr hs
      have hsetup' : (q.step op).after.setup = (r.step op).after.setup := by rw [setup_step, setup_step, hsetup]
      have hk' : (q.step op).after.strand s = (r.step op).after.strand s := by
        rw [strand_step q hs, strand_step r hs, hk, hsetup]
      have hg : glimpse s (q, op) = glimpse s (r, op) := by rw [glimpse_eq q hs, glimpse_eq r hs, hk, hsetup]
      obtain ⟨h₁, h₂⟩ := ih hsetup' hk'
      rw [metOn_cons_self r ops hs, List.filter_cons, if_pos hb, met, List.map_cons, List.map_cons, hg, h₁]
      exact ⟨rfl, h₂⟩
    · have hb : ¬(op.stream == s) = true := fun he => hs (beq_iff_eq.mp he)
      rw [metOn_cons_of_ne r ops hs, List.filter_cons, if_neg hb]
      exact ih (by rw [setup_step, hsetup]) (by rw [strand_step_of_ne r hs, hk])

/-- A new relay that hears only of the life of a stream shows the same of it. -/
theorem met_life {r : Relay} {s : StreamId} (h : r.strand s = {}) (ops : List Op) :
    (r.met ((r.life s ops).map (·.2))).map (glimpse s) = (r.life s ops).map (glimpse s) ∧
      (r.run ((r.life s ops).map (·.2))).strand s = (r.run ops).strand s := by
  induction ops using List.reverseRecOn with
  | nil => exact ⟨rfl, rfl⟩
  | append_singleton ops op ih =>
    obtain ⟨hmet, hk⟩ := ih
    by_cases hs : op.stream = s
    · rw [life_concat_self r ops hs, run_concat]
      split
      · next ht => exact ⟨rfl, by rw [strand_of_tearsDown hs ht]; exact h⟩
      · have hsetup : (r.run ((r.life s ops).map (·.2))).setup = (r.run ops).setup := by rw [setup_run, setup_run]
        rw [List.map_append, List.map_append, List.map_singleton, List.map_singleton, met_append, List.map_append, hmet,
          run_concat, strand_step _ hs, strand_step _ hs, hk, hsetup]
        refine ⟨?_, rfl⟩
        rw [met, met, List.map_singleton, glimpse_eq _ hs, glimpse_eq _ hs, hk, hsetup]
    · rw [life_concat_of_ne r ops hs, run_concat, strand_step_of_ne _ hs]
      exact ⟨hmet, hk⟩

/-- What a relay shows of a stream comes from the operations on it since it was last torn down. A new relay that runs
nothing but these, and whatever of the rest of the run is on the stream, shows the same step by step: the same failures,
the same message under way and record after each step, and the same messages delivered. -/
theorem life_alone (config : Config) (limit : Option SizeLimit) (refusesNew : Bool) (s : StreamId) (ops rest : List Op) :
    let r := new config limit refusesNew
    let alone := (r.life s ops).map (·.2) ++ rest.filter fun op => op.stream == s
    (r.met alone).map (glimpse s) = (r.life s ops ++ (r.run ops).metOn s rest).map (glimpse s) ∧
      (r.run alone).strand s = (r.run (ops ++ rest)).strand s := by
  intro r alone
  obtain ⟨hmet, hk⟩ := met_life (r := r) (strand_new config limit refusesNew s) ops
  have hsetup : (r.run ((r.life s ops).map (·.2))).setup = (r.run ops).setup := by rw [setup_run, setup_run]
  obtain ⟨hrest, hkrest⟩ := metOn_eq_of_strand_eq hsetup hk rest
  refine ⟨?_, ?_⟩
  · rw [met_append, List.map_append, List.map_append, hmet, hrest]
  · rw [run_append, run_append, hkrest]

end Relay

end StreamPriority
