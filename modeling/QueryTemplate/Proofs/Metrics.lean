import Mathlib.Algebra.Order.Ring.Nat
import QueryTemplate.Proofs.Lists
import QueryTemplate.Telemetry.Snapshot

/-!
# What metrics show

A snapshot is a list of series with their meters. What it shows of one series is read off by name, and
depends on the samples of that series alone:

* **`Series.countIn`**, **`Series.gaugeIn?`**, **`Series.distributionIn`**, **`Series.readingsIn`** — what a
  counter, a gauge, a distribution and a timer show after some signals,
* **`countIn_eq`** — a counter shows the sum of its samples, as far as 64 bits go,
* **`gaugeIn?_eq`** — a gauge shows its last sample, in double precision,
* **`distributionIn_eq`**, **`readingsIn_eq`** — a distribution shows all of them, and a timer how many there
  are,
* **`countIn_append`** and the lemmas after it — what each of them shows after more signals.
-/

namespace QueryTemplate

/-! ## Samples of a series -/

/-- The samples that `series` gets from some signals, oldest first. -/
def Series.samplesIn (series : Series) (signals : List Signal) : List Nat :=
  (((signals.filterMap Signal.measurement?).flatMap Measurement.samples).filter
    (·.1 = series)).map Prod.snd

namespace Series

variable (series : Series)

theorem samplesIn_append (signals signals' : List Signal) :
    series.samplesIn (signals ++ signals')
      = series.samplesIn signals ++ series.samplesIn signals' := by
  simp [samplesIn]

/-- Signals none of which gives a sample give no samples together. The induction is on the signals. -/
theorem samplesIn_eq_nil {signals : List Signal}
    (h : ∀ signal ∈ signals, series.samplesIn [signal] = []) : series.samplesIn signals = [] := by
  induction signals with
  | nil => rfl
  | cons signal signals ih =>
    have hsplit : signal :: signals = [signal] ++ signals := rfl
    rw [hsplit, samplesIn_append, h signal (by simp), List.nil_append]
    exact ih fun other hother => h other (by simp [hother])

end Series

/-- **Numbers of at most 53 bits are held as they are.** The unit of the last place is one for them, so
that nothing is rounded, and they are far below the 64 bits that are shown. -/
theorem heldValue_of_lt {n : Nat} (h : n < Nat.pow 2 53) : heldValue n = n := by
  -- at most 53 significant bits leave no bit to be cut off
  have hlog : n.log2 - 52 = 0 := by
    rcases Nat.eq_zero_or_pos n with rfl | hpos
    · rfl
    · have hlt : n.log2 < 53 := (Nat.log2_lt (by omega)).mpr h
      omega
  -- with a unit of one, the number is its own quotient and there is no remainder
  have hdouble : Number.inDouble n = n := by
    unfold Number.inDouble Number.roundDiv
    rw [hlog]
    show (if 2 * (n % 1) < 1 ∨ _ then n / 1 else n / 1 + 1) * 1 = n
    rw [if_pos (Or.inl (by omega))]
    omega
  have hbits : Nat.pow 2 53 ≤ UInt64.size - 1 := by decide
  unfold heldValue
  rw [hdouble]
  exact Nat.min_eq_left (by omega)

/-! ## What a series shows -/

namespace Series

variable (series : Series)

/-- What the series shows in the snapshot of some signals, if it is in it. -/
def shownIn? (signals : List Signal) : Option Meter :=
  (snapshot (signals.filterMap Signal.measurement?)).lookup series

/-- What a counter shows. One that was never touched stands at zero. -/
def countIn (signals : List Signal) : UInt64 :=
  match series.shownIn? signals with
  | some (.total n) => n
  | _ => 0

/-- What a gauge shows, if it was ever set. -/
def gaugeIn? (signals : List Signal) : Option Nat :=
  match series.shownIn? signals with
  | some (.last n) => some n
  | _ => none

/-- What a distribution shows. -/
def distributionIn (signals : List Signal) : List Nat :=
  match series.shownIn? signals with
  | some (.samples ns) => ns
  | _ => []

/-- How many times a timer has been read. -/
def readingsIn (signals : List Signal) : Nat :=
  match series.shownIn? signals with
  | some (.count n) => n
  | _ => 0

/-- The sum of the samples of the series, however large. -/
def sumIn (signals : List Signal) : Nat := (series.samplesIn signals).sum

/-- **What a snapshot shows of a series.** A series without samples is not in it; any other one shows what
its kind makes of its samples, and the samples of other series do not matter. -/
theorem shownIn?_eq (signals : List Signal) :
    series.shownIn? signals
      = if series.samplesIn signals = [] then none
        else some (series.kind.meter (series.samplesIn signals)) := by
  unfold shownIn? snapshot
  dsimp only
  rw [lookup_map_pair]
  by_cases h : series.samplesIn signals = []
  · rw [if_pos h, if_neg]
    -- a series that was touched would have a sample
    intro hmem
    obtain ⟨sample, hsample, rfl⟩ := List.mem_map.mp (List.mem_eraseDups.mp hmem)
    have hin : sample.2 ∈ sample.1.samplesIn signals :=
      List.mem_map.mpr ⟨sample, List.mem_filter.mpr ⟨hsample, decide_eq_true rfl⟩, rfl⟩
    rw [h] at hin
    exact absurd hin List.not_mem_nil
  · rw [if_neg h, if_pos]
    · rfl
    · -- a series with a sample was touched
      obtain ⟨n, hn⟩ := List.exists_mem_of_ne_nil _ h
      obtain ⟨sample, hsample, -⟩ := List.mem_map.mp hn
      obtain ⟨hsample, hseries⟩ := List.mem_filter.mp hsample
      exact List.mem_eraseDups.mpr (List.mem_map.mpr ⟨sample, hsample, of_decide_eq_true hseries⟩)

/-- A series with samples is in the snapshot, and shows these samples. What is found by its name is one of
the entries. -/
theorem mem_snapshot {signals : List Signal} (h : series.samplesIn signals ≠ []) :
    (series, series.kind.meter (series.samplesIn signals))
      ∈ snapshot (signals.filterMap Signal.measurement?) := by
  have hshown : series.shownIn? signals = some (series.kind.meter (series.samplesIn signals)) := by
    rw [shownIn?_eq, if_neg h]
  obtain ⟨before, rest, hsplit, -⟩ := List.lookup_eq_some_iff.mp hshown
  rw [hsplit]
  exact List.mem_append_right before List.mem_cons_self

/-- Adding up in 64 bits is adding up and then cutting off: the wrapping of a counter can be left to the
end. -/
theorem foldr_ofNat_add (ns : List Nat) :
    ns.foldr (fun n total => UInt64.ofNat n + total) 0 = UInt64.ofNat ns.sum := by
  induction ns with
  | nil => rfl
  | cons n ns ih => rw [List.foldr_cons, ih, List.sum_cons, UInt64.ofNat_add]

/-- A counter shows the sum of its samples, as far as 64 bits go. One that was never touched shows zero,
which is the sum of none. -/
theorem countIn_eq {series : Series} (h : series.kind = .counter) (signals : List Signal) :
    series.countIn signals = UInt64.ofNat (series.sumIn signals) := by
  unfold countIn sumIn
  rw [shownIn?_eq, h]
  by_cases hnil : series.samplesIn signals = []
  · rw [if_pos hnil, hnil]
    rfl
  · rw [if_neg hnil]
    exact foldr_ofNat_add _

/-- A gauge shows its last sample in double precision, and nothing before the first one. -/
theorem gaugeIn?_eq {series : Series} (h : series.kind = .gauge) (signals : List Signal) :
    series.gaugeIn? signals = (series.samplesIn signals).getLast?.map heldValue := by
  unfold gaugeIn?
  rw [shownIn?_eq, h]
  cases hlast : (series.samplesIn signals).getLast? with
  | none =>
    rw [if_pos (List.getLast?_eq_none_iff.mp hlast)]
    rfl
  | some n =>
    -- a last sample is a sample
    have hne : series.samplesIn signals ≠ [] := by
      intro hnil
      simp [hnil] at hlast
    rw [if_neg hne]
    show some (heldValue ((series.samplesIn signals).getLastD 0)) = some (heldValue n)
    rw [List.getLastD_eq_getLast?, hlast]
    rfl

/-- A distribution shows every sample in double precision, oldest first. -/
theorem distributionIn_eq {series : Series} (h : series.kind = .distribution) (signals : List Signal) :
    series.distributionIn signals = (series.samplesIn signals).map heldValue := by
  unfold distributionIn
  rw [shownIn?_eq, h]
  by_cases hnil : series.samplesIn signals = []
  · rw [if_pos hnil, hnil]
    rfl
  · rw [if_neg hnil]
    rfl

theorem readingsIn_eq {series : Series} (h : series.kind = .timer) (signals : List Signal) :
    series.readingsIn signals = (series.samplesIn signals).length := by
  unfold readingsIn
  rw [shownIn?_eq, h]
  by_cases hnil : series.samplesIn signals = []
  · rw [if_pos hnil, hnil]
    rfl
  · rw [if_neg hnil]
    rfl

/-! ## More signals -/

theorem sumIn_append (signals signals' : List Signal) :
    series.sumIn (signals ++ signals') = series.sumIn signals + series.sumIn signals' := by
  unfold sumIn
  rw [samplesIn_append, List.sum_append]

/-- A counter goes up by the sum of the new samples, also when it wraps. -/
theorem countIn_append {series : Series} (h : series.kind = .counter) (signals signals' : List Signal) :
    series.countIn (signals ++ signals')
      = series.countIn signals + UInt64.ofNat (series.sumIn signals') := by
  rw [countIn_eq h, countIn_eq h, sumIn_append, UInt64.ofNat_add]

theorem distributionIn_append {series : Series} (h : series.kind = .distribution)
    (signals signals' : List Signal) :
    series.distributionIn (signals ++ signals')
      = series.distributionIn signals ++ (series.samplesIn signals').map heldValue := by
  rw [distributionIn_eq h, distributionIn_eq h, samplesIn_append, List.map_append]

theorem readingsIn_append {series : Series} (h : series.kind = .timer) (signals signals' : List Signal) :
    series.readingsIn (signals ++ signals')
      = series.readingsIn signals + (series.samplesIn signals').length := by
  rw [readingsIn_eq h, readingsIn_eq h, samplesIn_append, List.length_append]

/-- Signals without a sample of a series do not change what it shows, whatever its kind. -/
theorem shownIn?_append_of_samplesIn_eq_nil {series : Series} {signals' : List Signal}
    (h : series.samplesIn signals' = []) (signals : List Signal) :
    series.shownIn? (signals ++ signals') = series.shownIn? signals := by
  rw [shownIn?_eq, shownIn?_eq, samplesIn_append, h, List.append_nil]

end Series

end QueryTemplate
