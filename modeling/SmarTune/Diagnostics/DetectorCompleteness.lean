import SmarTune.Diagnostics.JournalDetector
import SmarTune.Diagnostics.SmartuneDetector
import SmarTune.Library.Runs

/-!
# Every record is reported once

Records are written, scans run and services restart in any order.  While every
step is clear, each record from the initial cursor on has one event after the
next scan, and never more.
-/

namespace SmarTune

/-- In every run whose steps are clear, both detectors report every record from
the initial cursor on once. -/
theorem detectors_report_once (initial saved : ℚ) :
    (∀ labels,
      Runs.EveryStep SmartuneDetector.step (SmartuneDetector.Clear initial)
          (.init initial saved) labels →
        Runs.EveryStep SmartuneDetector.step
          (SmartuneDetector.ReportsOnce initial) (.init initial saved) labels) ∧
      ∀ faultOf labels, Runs.EveryStep (JournalDetector.step faultOf)
            (JournalDetector.Clear faultOf initial) (.init initial saved)
              labels →
          Runs.EveryStep (JournalDetector.step faultOf)
            (JournalDetector.ReportsOnce faultOf initial)
              (.init initial saved) labels := by
  constructor
  · intro labels clear
    apply Runs.everyStep_of_guarded (SmartuneDetector.Tracks initial) _ _ _ clear
    · intro detector label tracks clear
      exact tracks.step clear
    · intro detector label tracks clear
      exact tracks.reportsOnce clear
    · exact SmartuneDetector.tracks_init initial saved
  · intro faultOf labels clear
    apply Runs.everyStep_of_guarded (JournalDetector.Tracks faultOf initial)
      _ _ _ clear
    · intro detector label tracks clear
      exact tracks.step clear
    · intro detector label tracks clear
      exact tracks.reportsOnce clear
    · exact JournalDetector.tracks_init initial saved

/-- An error of one logger. -/
def errorAt (tsEpoch : ℚ) : LogRecord where
  tsEpoch := tsEpoch
  tsIso := "2026-01-01T00:00:00.000+00:00"
  level := "ERROR"
  logger := "balancer"
  message := "limit failed"

/-- A scan in which the store and the cursor are written. -/
def plainScan : SmartuneStep := .scan (fun _ => false) true

def hangAt (tsEpoch : ℚ) : JournalEntry where
  tsEpoch := tsEpoch
  tsIso := "2026-01-01T00:00:00+00:00"
  kernel := true
  logger := "kernel"
  message := "i915: GPU HANG"
  cursor := some "s=1;i=1"

/-- What the patterns find in that message. -/
def hangOf (message : String) : Option JournalFault :=
  if message = "i915: GPU HANG" then some .gpuHang else none

/-- A scan of the journal without failures. -/
def plainJournalScan (now : ℚ) : JournalScan :=
  ⟨now, true, true, fun _ => false, true⟩

theorem detectors_report_once_witness :
    Runs.EveryStep SmartuneDetector.step (SmartuneDetector.ReportsOnce 100)
        (.init 100 0) [.append 0 (errorAt 100), plainScan, .restart true 130,
          plainScan] ∧
      Runs.EveryStep (JournalDetector.step hangOf)
        (JournalDetector.ReportsOnce hangOf 100) (.init 100 0)
          [.append 0 (hangAt 100), .scan (plainJournalScan 130)] := by
  constructor
  · apply (detectors_report_once 100 0).1
    refine ⟨fun _ => ⟨by decide, fun _ => le_rfl, ?_⟩,
      ⟨?_, fun _ _ _ _ => rfl⟩, ?_, ⟨?_, fun _ _ _ _ => rfl⟩, trivial⟩
    · intro other member
      cases member
    · intro record left
      rw [List.drop_eq_nil_of_le (by decide)] at left
      cases left
    · intro record member _ _
      obtain rfl : record = errorAt 100 := List.mem_singleton.mp member
      decide
    · intro record left
      rw [List.drop_eq_nil_of_le (by decide)] at left
      cases left
  · apply (detectors_report_once 100 0).2
    refine ⟨⟨fun _ => by decide, ?_⟩,
      ⟨?_, ?_, fun _ _ _ _ => rfl⟩, trivial⟩
    · intro other member
      cases member
    · rintro entry (⟨_, left⟩ | ⟨contradiction, _⟩)
      · have read : JournalDetector.leftOut true 100 130 [hangAt 100] = [] := by
          decide
        have isLeft : entry ∈ JournalDetector.leftOut true 100 ⌊(130 : ℚ)⌋
          [hangAt 100] := left
        rw [show ⌊(130 : ℚ)⌋ = 130 by decide, read] at isLeft
        cases isLeft
      · cases contradiction
    · intro zero
      exact absurd zero (by decide)

/-- Two errors of one millisecond make one event; an error that is written
behind the cursor makes none, and neither does one whose event is not stored. -/
theorem detectors_lose_records :
    ¬ Runs.EveryStep SmartuneDetector.step (SmartuneDetector.ReportsOnce 100)
        (.init 100 0) [.append 0 (errorAt 100), .append 0 (errorAt 100),
          plainScan] ∧
      ¬ Runs.EveryStep SmartuneDetector.step
          (SmartuneDetector.ReportsOnce 100) (.init 100 0)
            [.append 0 (errorAt (1101 / 10)), plainScan,
              .append 0 (errorAt 110), plainScan] ∧
        ¬ Runs.EveryStep SmartuneDetector.step
            (SmartuneDetector.ReportsOnce 100) (.init 100 0)
              [.append 0 (errorAt 100), .scan (fun _ => true) true,
                plainScan] := by
  refine ⟨?_, ?_, ?_⟩
  · rintro ⟨_, _, once, _⟩
    have one := (once (errorAt 100) (by decide +kernel) le_rfl).2
    dsimp only [plainScan] at one
    revert one
    decide +kernel
  · rintro ⟨_, _, _, once, _⟩
    have one := (once (errorAt 110) (by decide +kernel) (by decide +kernel)).2
    dsimp only [plainScan] at one
    revert one
    decide +kernel
  · rintro ⟨_, _, once, _⟩
    have one := (once (errorAt 100) (by decide +kernel) le_rfl).2
    dsimp only [plainScan] at one
    revert one
    decide +kernel

end SmarTune
