import SmarTune.Library.Runs
import Mathlib.Algebra.Group.Nat.Defs
import Mathlib.Data.List.Sublists

/-!
# The log stream of a job

The pump of a running job reads what has been written to the log since its
last read and publishes it with its absolute offsets.  Once the job is over, it
reads on until a read finds nothing, 64 times at most.  A client subscribes,
takes a snapshot of the tail of the log and splices the deltas onto it; those
published while its queue is full are lost to it.
-/

namespace SmarTune
namespace LogStream

abbrev Bytes := List UInt8

/-- `_MAX_BACKLOG` -/
def maxBacklog : Nat := 256

/-- `_SNAPSHOT_TAIL_BYTES` -/
def snapshotTailBytes : Nat := 64 * 1024

/-- What `read_log` reads at most, unless it is told otherwise. -/
def maxBytes : Nat := 256 * 1024

/-- How often the pump reads at most after the stop. -/
def finalDrains : Nat := 64

/-! ## Decoding -/

/-- The bounds of the bytes that continue a character, by its first byte. -/
def continuations (lead : UInt8) : List (UInt8 × UInt8) :=
  if 0xC2 ≤ lead ∧ lead ≤ 0xDF then [(0x80, 0xBF)]
  else if lead = 0xE0 then [(0xA0, 0xBF), (0x80, 0xBF)]
  else if lead = 0xED then [(0x80, 0x9F), (0x80, 0xBF)]
  else if 0xE1 ≤ lead ∧ lead ≤ 0xEF then [(0x80, 0xBF), (0x80, 0xBF)]
  else if lead = 0xF0 then [(0x90, 0xBF), (0x80, 0xBF), (0x80, 0xBF)]
  else if 0xF1 ≤ lead ∧ lead ≤ 0xF3 then
    [(0x80, 0xBF), (0x80, 0xBF), (0x80, 0xBF)]
  else if lead = 0xF4 then [(0x80, 0x8F), (0x80, 0xBF), (0x80, 0xBF)]
  else []

/-- How many of the bytes continue the character. -/
def continued : List (UInt8 × UInt8) → Bytes → Nat
  | (low, high) :: bounds, byte :: rest =>
    if low ≤ byte ∧ byte ≤ high then continued bounds rest + 1 else 0
  | _, _ => 0

/-- The character of a first byte and of those that continue it. -/
def codePoint (lead : UInt8) (rest : Bytes) : Char :=
  Char.ofNat (rest.foldl (fun value byte => value * 64 + byte.toNat % 64)
    (lead.toNat % 2 ^ (6 - rest.length)))

/-- `bytes.decode("utf-8", errors="replace")`: the longest part of a character
that is not one is replaced as a whole. -/
def decodeReplace : Bytes → List Char
  | [] => []
  | lead :: rest =>
    let bounds := continuations lead
    let count := continued bounds rest
    (if lead < 0x80 then Char.ofNat lead.toNat
      else if bounds ≠ [] ∧ count = bounds.length then
        codePoint lead (rest.take count)
      else '\uFFFD') :: decodeReplace (rest.drop count)
termination_by bytes => bytes.length
decreasing_by
  rw [List.length_drop, List.length_cons]
  omega

theorem decodeReplace_eq_nil_iff (bytes : Bytes) :
    decodeReplace bytes = [] ↔ bytes = [] := by
  cases bytes with
  | nil => simp [decodeReplace]
  | cons lead rest => simp [decodeReplace]

example : decodeReplace [0x41, 0xC3, 0xA9, 0xE2, 0x82] =
    ['A', 'é', '\uFFFD'] := by
  decide +kernel

/-! ## Reading the log -/

/-- The answer of `read_log`. -/
structure LogRead where
  chunk : List Char
  offset : Nat
  size : Nat

/-- `read_log`, of a log with the size that its stat shows and the bytes that
are there when it is opened, either of which can fail. -/
def readLog (statted : Option Nat) (content : Option Bytes)
    (offset maxBytes : Nat) : LogRead :=
  match statted with
  | none => { chunk := [], offset, size := 0 }
  | some size =>
    -- A log that was truncated or created anew is read from its start.
    let offset := if offset > size then 0 else offset
    match content with
    | none => { chunk := [], offset, size }
    | some bytes =>
      let raw := (bytes.drop offset).take maxBytes
      { chunk := decodeReplace raw, offset := offset + raw.length, size }

/-- `tail_offset` -/
def tailOffset (statted : Option Nat) (maxBytes : Nat) : Nat :=
  match statted with
  | none => 0
  | some size => size - maxBytes

/-- The bytes from one offset to another. -/
def span (file : Bytes) (start end_ : Nat) : Bytes :=
  (file.drop start).take (end_ - start)

/-- Where a read of a log ends that has grown since its stat. -/
def readEnd (file : Bytes) (offset : Nat) : Nat :=
  min (offset + maxBytes) file.length

theorem readEnd_le (file : Bytes) (offset : Nat) :
    readEnd file offset ≤ file.length :=
  Nat.min_le_right _ _

theorem readLog_of_le {statted offset : Nat} {file : Bytes}
    (within : offset ≤ statted) (grown : statted ≤ file.length) :
    readLog (some statted) (some file) offset maxBytes =
      { chunk := decodeReplace (span file offset (readEnd file offset))
        offset := readEnd file offset
        size := statted } := by
  have reached : offset + min maxBytes (file.length - offset) =
      readEnd file offset := by
    unfold readEnd
    omega
  have taken : (file.drop offset).take maxBytes =
      span file offset (readEnd file offset) := by
    rw [span, ← reached, Nat.add_sub_cancel_left, ← List.length_drop,
      ← List.take_eq_take_min]
  simp only [readLog, if_neg (Nat.not_lt.mpr within), taken]
  congr 1
  rw [← taken, List.length_take, List.length_drop, reached]

theorem span_append {file : Bytes} {start end_ : Nat}
    (within : end_ ≤ file.length) (more : Bytes) :
    span (file ++ more) start end_ = span file start end_ := by
  unfold span
  by_cases inside : start ≤ file.length
  · rw [List.drop_append_of_le_length inside, List.take_append_of_le_length]
    rw [List.length_drop]
    omega
  · rw [Nat.sub_eq_zero_of_le (by omega)]
    simp

theorem span_eq_nil_iff {file : Bytes} {start end_ : Nat}
    (within : end_ ≤ file.length) :
    span file start end_ = [] ↔ end_ ≤ start := by
  rw [span, ← List.length_eq_zero_iff, List.length_take, List.length_drop]
  omega

/-! ## The stream -/

/-- A `log` event of the pump. -/
structure Delta where
  start : Nat
  end_ : Nat
  chunk : List Char

/-- The `log` of a snapshot. -/
structure Snapshot where
  start : Nat
  end_ : Nat
  chunk : List Char
  truncated : Bool

/-- A subscribed client: the deltas published since it subscribed, each with
whether there was room for it in its queue, and its snapshot. -/
structure Client where
  offered : List (Delta × Bool)
  snapshot : Option Snapshot

/-- The log of a job, the offset of its pump, what the pump has published, and
a client. -/
structure Stream where
  file : Bytes
  offset : Nat
  published : List Delta
  client : Option Client

def Stream.start : Stream :=
  { file := [], offset := 0, published := [], client := none }

/-- The job writes to its log. -/
def Stream.append (stream : Stream) (bytes : Bytes) : Stream :=
  { stream with file := stream.file ++ bytes }

/-- `publish`, with the size of the client's queue. -/
def Stream.publish (stream : Stream) (qsize : Nat) (delta : Delta) : Stream :=
  { stream with
    published := stream.published ++ [delta]
    client := stream.client.map fun client =>
      { client with
        offered := client.offered ++
          [(delta, !decide (qsize ≥ maxBacklog))] } }

/-- `_LogPump._drain`, where the log grows between the stat and the read. -/
def Stream.drain (stream : Stream) (late : Bytes) (qsize : Nat) : Stream :=
  let grown := stream.append late
  let read := readLog (some stream.file.length) (some grown.file)
    stream.offset maxBytes
  if read.chunk = [] then { grown with offset := read.offset }
  else
    { grown.publish qsize
        { start := stream.offset
          end_ := read.offset
          chunk := read.chunk } with
      offset := read.offset }

/-- `subscribe` -/
def Stream.subscribe (stream : Stream) : Stream :=
  { stream with client := some { offered := [], snapshot := none } }

/-- The log of `snapshot`, where the log grows between the stat of
`tail_offset`, that of `read_log` and the read. -/
def Stream.takeSnapshot (stream : Stream) (early late : Bytes) : Stream :=
  let offset := tailOffset (some stream.file.length) snapshotTailBytes
  let statted := stream.append early
  let grown := statted.append late
  let read := readLog (some statted.file.length) (some grown.file) offset
    maxBytes
  let snapshot : Snapshot :=
    { start := offset
      end_ := read.offset
      chunk := read.chunk
      truncated := decide (offset > 0) }
  { grown with
    client := grown.client.map fun client =>
      { client with snapshot := some snapshot } }

/-- What happens while the job runs. -/
inductive Moment where
  | append (bytes : Bytes)
  | poll (late : Bytes) (qsize : Nat)
  | subscribe
  | takeSnapshot (early late : Bytes)

def Stream.step (stream : Stream) : Moment → Stream
  | .append bytes => stream.append bytes
  | .poll late qsize => stream.drain late qsize
  | .subscribe => stream.subscribe
  | .takeSnapshot early late => stream.takeSnapshot early late

/-- What a client does once the job is over. -/
inductive Visit where
  | subscribe
  | takeSnapshot

def Stream.visit (stream : Stream) : Visit → Stream
  | .subscribe => stream.subscribe
  | .takeSnapshot => stream.takeSnapshot [] []

/-- What surrounds a read of the final drain: what the client does before it,
and the size of its queue. -/
structure Round where
  visits : List Visit
  qsize : Nat

/-- The final drain, with the number of reads that are left. -/
def finalDrain (rounds : Nat → Round) : Nat → Stream → Stream
  | 0, stream => stream
  | left + 1, stream =>
    let before := Runs.run Stream.visit stream (rounds left).visits
    let after := before.drain [] (rounds left).qsize
    if after.offset = before.offset then after
    else finalDrain rounds left after

/-- A job, from its start to its stop, to the end of the final drain and on.
The exit line is written before the stop, and nothing is after it. -/
structure JobRun where
  moments : List Moment
  rounds : Nat → Round
  afterwards : List Visit

namespace JobRun

variable (run : JobRun)

/-- When the pump finds that it is to stop. -/
def atStop : Stream := Runs.run Stream.step .start run.moments

def drained : Stream := finalDrain run.rounds finalDrains run.atStop

def atEnd : Stream := Runs.run Stream.visit run.drained run.afterwards

end JobRun

/-! ## What is claimed of it -/

/-- The deltas follow one another from one offset to another. -/
def Contiguous : Nat → List Delta → Nat → Prop
  | first, [], last => first = last
  | first, delta :: deltas, last =>
    delta.start = first ∧ first < delta.end_ ∧ Contiguous delta.end_ deltas last

/-- What a client holds: up to which offset, and whether it saw a gap. -/
structure Held where
  end_ : Nat
  gap : Bool

/-- A client splices a delta onto what it holds. -/
def Held.splice (held : Held) (delta : Delta) : Held :=
  if delta.end_ ≤ held.end_ then held
  else if delta.start ≤ held.end_ then { held with end_ := delta.end_ }
  else { held with gap := true }

/-- The deltas that there was room for. -/
def receivedOf (offered : List (Delta × Bool)) : List Delta :=
  (offered.filter (·.2)).map (·.1)

namespace Client

/-- What the client holds in the end of what it received. -/
def held (client : Client) (snapshot : Snapshot) : Held :=
  (receivedOf client.offered).foldl Held.splice
    { end_ := snapshot.end_, gap := false }

/-- For each delta that goes on where the snapshot ends, whether there was room
for it. -/
def rooms (client : Client) (snapshot : Snapshot) : List Bool :=
  (client.offered.filter fun offer =>
    decide (snapshot.end_ < offer.1.end_)).map (·.2)

end Client

/-- The deltas are contiguous and show what the log holds there, they cover it
in the end, and a client with a snapshot of its tail holds it from there on or
saw a gap. -/
structure JobRun.Delivers (run : JobRun) : Prop where
  contiguous : ∃ last, Contiguous 0 run.atEnd.published last
  texts : ∀ delta ∈ run.atEnd.published, delta.chunk =
      decodeReplace (span run.atEnd.file delta.start delta.end_)
  covers : Contiguous 0 run.atEnd.published run.atEnd.file.length
  holds : ∀ client snapshot, run.atEnd.client = some client →
    client.snapshot = some snapshot →
    snapshot.chunk =
        decodeReplace (span run.atEnd.file snapshot.start snapshot.end_) ∧
      ((client.held snapshot).gap = true ∨
        (client.held snapshot).end_ = run.atEnd.file.length)

/-! ## Contiguous deltas -/

theorem contiguous_append (first last : Nat) (before after : List Delta) :
    Contiguous first (before ++ after) last ↔
      ∃ middle, Contiguous first before middle ∧
        Contiguous middle after last := by
  induction before generalizing first with
  | nil => simp [Contiguous]
  | cons delta deltas ih => simp [Contiguous, ih, and_assoc]

theorem Contiguous.concat {first last : Nat} {deltas : List Delta}
    (contiguous : Contiguous first deltas last) {delta : Delta}
    (starts : delta.start = last) (nonempty : last < delta.end_) :
    Contiguous first (deltas ++ [delta]) delta.end_ :=
  (contiguous_append _ _ _ _).mpr ⟨last, contiguous, starts, nonempty, rfl⟩

theorem Contiguous.le {first last : Nat} {deltas : List Delta}
    (contiguous : Contiguous first deltas last) :
    first ≤ last := by
  induction deltas generalizing first with
  | nil => exact Nat.le_of_eq contiguous
  | cons delta deltas ih => exact contiguous.2.1.le.trans (ih contiguous.2.2)

theorem Contiguous.last_unique {first last other : Nat} {deltas : List Delta}
    (contiguous : Contiguous first deltas last)
    (also : Contiguous first deltas other) :
    last = other := by
  induction deltas generalizing first with
  | nil => exact contiguous.symm.trans also
  | cons delta deltas ih => exact ih contiguous.2.2 also.2.2

theorem Contiguous.forall_lt {first last : Nat} {deltas : List Delta}
    (contiguous : Contiguous first deltas last) :
    ∀ delta ∈ deltas, first ≤ delta.start ∧ first < delta.end_ := by
  induction deltas generalizing first with
  | nil => exact fun _ member => by cases member
  | cons delta deltas ih =>
    intro later member
    obtain ⟨starts, nonempty, rest⟩ := contiguous
    rcases List.mem_cons.mp member with rfl | member
    · exact ⟨starts.ge, nonempty⟩
    · have beyond := ih rest later member
      omega

/-! ## What every step keeps -/

/-- The deltas published since a client subscribed start nowhere after the end
of its snapshot, which shows what the log holds there. -/
structure Client.Sound (client : Client) (file : Bytes) (offset : Nat) :
    Prop where
  contiguous : ∃ first, Contiguous first (client.offered.map (·.1)) offset ∧
    ∀ snapshot, client.snapshot = some snapshot →
      first ≤ snapshot.end_ ∧ snapshot.end_ ≤ file.length ∧ snapshot.chunk =
          decodeReplace (span file snapshot.start snapshot.end_)

/-- What is published is contiguous up to the offset of the pump and shows what
the log holds there. -/
structure Stream.Sound (stream : Stream) : Prop where
  within : stream.offset ≤ stream.file.length
  contiguous : Contiguous 0 stream.published stream.offset
  texts : ∀ delta ∈ stream.published, delta.end_ ≤ stream.offset ∧
    delta.chunk = decodeReplace (span stream.file delta.start delta.end_)
  client : ∀ client, stream.client = some client →
    client.Sound stream.file stream.offset

theorem Stream.sound_start : Stream.start.Sound where
  within := Nat.zero_le _
  contiguous := rfl
  texts := fun _ member => by cases member
  client := fun _ same => by cases same

section Steps

variable {stream : Stream}

theorem Client.Sound.append {client : Client} {file : Bytes} {offset : Nat}
    (sound : client.Sound file offset) (more : Bytes) :
    client.Sound (file ++ more) offset := by
  obtain ⟨first, contiguous, shown⟩ := sound.contiguous
  refine ⟨first, contiguous, fun snapshot same => ?_⟩
  obtain ⟨starts, within, text⟩ := shown snapshot same
  refine ⟨starts, ?_, ?_⟩
  · rw [List.length_append]
    omega
  · rw [span_append within, text]

theorem Stream.Sound.append (sound : stream.Sound) (bytes : Bytes) :
    (stream.append bytes).Sound where
  within := by
    have within := sound.within
    simp only [Stream.append, List.length_append]
    omega
  contiguous := sound.contiguous
  texts := by
    intro delta member
    obtain ⟨within, text⟩ := sound.texts delta member
    refine ⟨within, ?_⟩
    rw [text, Stream.append, span_append (within.trans sound.within)]
  client := fun client same => (sound.client client same).append bytes

theorem Stream.drain_eq (within : stream.offset ≤ stream.file.length)
    (late : Bytes) (qsize : Nat) :
    stream.drain late qsize =
      let grown := stream.append late
      let last := readEnd grown.file stream.offset
      if last = stream.offset then grown
      else
        { grown.publish qsize
            { start := stream.offset
              end_ := last
              chunk := decodeReplace (span grown.file stream.offset last) } with
          offset := last } := by
  have grown : stream.file.length ≤ (stream.append late).file.length := by
    simp [Stream.append]
  have empty : decodeReplace (span (stream.append late).file stream.offset
        (readEnd (stream.append late).file stream.offset)) = [] ↔
      readEnd (stream.append late).file stream.offset = stream.offset := by
    rw [decodeReplace_eq_nil_iff, span_eq_nil_iff (readEnd_le _ _)]
    unfold readEnd
    omega
  rw [Stream.drain]
  simp only [readLog_of_le within grown, empty]
  by_cases same : readEnd (stream.append late).file stream.offset =
      stream.offset
  · rw [if_pos same, if_pos same, same]
    rfl
  · rw [if_neg same, if_neg same]

theorem Stream.Sound.drain (sound : stream.Sound) (late : Bytes) (qsize : Nat) :
    (stream.drain late qsize).Sound := by
  have grown := sound.append late
  rw [Stream.drain_eq sound.within]
  simp only
  generalize read : readEnd (stream.append late).file stream.offset = last
  have within : last ≤ (stream.append late).file.length :=
    read ▸ readEnd_le _ _
  have onward : stream.offset ≤ last := by
    have before : stream.offset ≤ (stream.append late).file.length :=
      grown.within
    rw [← read, readEnd]
    omega
  split
  · exact grown
  next moved =>
  have beyond : stream.offset < last := by omega
  refine ⟨within, sound.contiguous.concat rfl beyond, ?_, ?_⟩
  · intro delta member
    rcases List.mem_append.mp member with member | member
    · obtain ⟨before, text⟩ := grown.texts delta member
      exact ⟨before.trans onward, text⟩
    · obtain rfl := List.mem_singleton.mp member
      exact ⟨le_rfl, rfl⟩
  · intro client same
    obtain ⟨earlier, was, rfl⟩ := Option.map_eq_some_iff.mp same
    obtain ⟨first, contiguous, shown⟩ :=
      (grown.client earlier was).contiguous
    refine ⟨first, ?_, shown⟩
    rw [List.map_append]
    exact contiguous.concat rfl beyond

theorem Stream.Sound.subscribe (sound : stream.Sound) :
    stream.subscribe.Sound where
  within := sound.within
  contiguous := sound.contiguous
  texts := sound.texts
  client := by
    intro client same
    obtain rfl := Option.some.inj same
    exact ⟨stream.offset, rfl, fun _ same => by cases same⟩

/-- A snapshot ends where the log did when it was begun, or later. -/
theorem Stream.Sound.takeSnapshot (sound : stream.Sound) (early late : Bytes) :
    (stream.takeSnapshot early late).Sound := by
  have grown := (sound.append early).append late
  refine ⟨grown.within, grown.contiguous, grown.texts, ?_⟩
  intro client same
  obtain ⟨earlier, was, rfl⟩ := Option.map_eq_some_iff.mp same
  obtain ⟨first, contiguous, -⟩ := (grown.client earlier was).contiguous
  refine ⟨first, contiguous, fun snapshot taken => ?_⟩
  obtain rfl := Option.some.inj taken
  have starts : tailOffset (some stream.file.length) snapshotTailBytes ≤
      (stream.append early).file.length := by
    simp only [tailOffset, Stream.append, List.length_append]
    omega
  have later : (stream.append early).file.length ≤
      ((stream.append early).append late).file.length := by
    simp [Stream.append]
  rw [readLog_of_le starts later]
  refine ⟨?_, readEnd_le _ _, rfl⟩
  have before := contiguous.le
  have within := sound.within
  simp only [Stream.append] at before
  simp only [readEnd, tailOffset, snapshotTailBytes, maxBytes, Stream.append,
    List.length_append]
  omega

theorem Stream.Sound.step (sound : stream.Sound) (moment : Moment) :
    (stream.step moment).Sound := by
  cases moment with
  | append bytes => exact sound.append bytes
  | poll late qsize => exact sound.drain late qsize
  | subscribe => exact sound.subscribe
  | takeSnapshot early late => exact sound.takeSnapshot early late

theorem Stream.Sound.visit (sound : stream.Sound) (visit : Visit) :
    (stream.visit visit).Sound := by
  cases visit with
  | subscribe => exact sound.subscribe
  | takeSnapshot => exact sound.takeSnapshot [] []

/-- A client changes neither the log nor what the pump has read of it. -/
theorem visits_keep (stream : Stream) (visits : List Visit) :
    (Runs.run Stream.visit stream visits).file = stream.file ∧
      (Runs.run Stream.visit stream visits).offset = stream.offset := by
  refine Runs.run_of_preserved (fun state : Stream =>
      state.file = stream.file ∧ state.offset = stream.offset)
    ?_ ⟨rfl, rfl⟩ visits
  intro state visit same
  cases visit with
  | subscribe => exact same
  | takeSnapshot =>
    simpa [Stream.visit, Stream.takeSnapshot, Stream.append] using same

theorem Stream.Sound.visits (sound : stream.Sound) (visits : List Visit) :
    (Runs.run Stream.visit stream visits).Sound :=
  Runs.run_of_preserved Stream.Sound
    (fun _ visit sound => sound.visit visit) sound visits

end Steps

/-! ## The final drain -/

section FinalDrain

variable {stream : Stream}

theorem Stream.drain_keeps (within : stream.offset ≤ stream.file.length)
    (qsize : Nat) :
    (stream.drain [] qsize).file = stream.file ∧
      (stream.drain [] qsize).offset = readEnd stream.file stream.offset := by
  have same : stream.append [] = stream := by simp [Stream.append]
  rw [Stream.drain_eq within, same]
  simp only
  split
  · next last => exact ⟨rfl, last.symm⟩
  · exact ⟨rfl, rfl⟩

/-- The reads that are left go over as many bytes as they can, or to the end of
the log. -/
theorem finalDrain_keeps (rounds : Nat → Round) (left : Nat)
    (sound : stream.Sound) :
    (finalDrain rounds left stream).Sound ∧
      (finalDrain rounds left stream).file = stream.file ∧
      (finalDrain rounds left stream).offset =
        min (stream.offset + left * maxBytes) stream.file.length := by
  induction left generalizing stream with
  | zero =>
    refine ⟨sound, rfl, ?_⟩
    rw [finalDrain, Nat.zero_mul, Nat.add_zero, Nat.min_eq_left sound.within]
  | succ left ih =>
    rw [finalDrain]
    obtain ⟨sameFile, sameOffset⟩ :=
      visits_keep stream (rounds left).visits
    have soundBefore := sound.visits (rounds left).visits
    generalize Runs.run Stream.visit stream (rounds left).visits = before at *
    obtain ⟨kept, reached⟩ :=
      Stream.drain_keeps soundBefore.within (rounds left).qsize
    have soundAfter := soundBefore.drain [] (rounds left).qsize
    generalize before.drain [] (rounds left).qsize = after at *
    have within := sound.within
    have positive : 0 < maxBytes := by decide
    rw [sameFile, sameOffset, readEnd] at reached
    split
    · next idle =>
      refine ⟨soundAfter, kept.trans sameFile, ?_⟩
      rw [Nat.succ_mul]
      omega
    · obtain ⟨sound, file, offset⟩ := ih soundAfter
      refine ⟨sound, file.trans (kept.trans sameFile), ?_⟩
      rw [offset, kept, sameFile, reached, Nat.succ_mul]
      omega

end FinalDrain

namespace JobRun

variable (run : JobRun)

theorem sound_atStop : run.atStop.Sound :=
  Runs.run_of_preserved Stream.Sound
    (fun _ moment sound => sound.step moment) Stream.sound_start run.moments

theorem sound_atEnd : run.atEnd.Sound :=
  (finalDrain_keeps run.rounds finalDrains run.sound_atStop).1.visits
    run.afterwards

/-- What the log holds at the stop beyond the offset of the pump is no more than
the final drain reads. -/
def InReach : Prop :=
  run.atStop.file.length - run.atStop.offset ≤ finalDrains * maxBytes

theorem offset_atEnd_iff :
    run.atEnd.offset = run.atEnd.file.length ↔ run.InReach := by
  obtain ⟨sound, file, offset⟩ :=
    finalDrain_keeps run.rounds finalDrains run.sound_atStop
  obtain ⟨sameFile, sameOffset⟩ :=
    visits_keep run.drained run.afterwards
  rw [atEnd, sameFile, sameOffset, drained, file, offset, InReach]
  have within := run.sound_atStop.within
  omega

/-- The deltas cover the log exactly when the pump ends at its end. -/
theorem covers_iff :
    Contiguous 0 run.atEnd.published run.atEnd.file.length ↔ run.InReach := by
  rw [← offset_atEnd_iff]
  have contiguous := run.sound_atEnd.contiguous
  constructor
  · exact contiguous.last_unique
  · exact fun same => same ▸ contiguous

end JobRun

/-! ## Splicing -/

/-- A gap stays, and what is received beyond it does not change what is held
before it. -/
theorem splice_of_gap (deltas : List Delta) (held : Held)
    (gap : held.gap = true) :
    (deltas.foldl Held.splice held).gap = true := by
  induction deltas generalizing held with
  | nil => exact gap
  | cons delta deltas ih =>
    apply ih
    unfold Held.splice
    split
    · exact gap
    split
    · exact gap
    · rfl

/-- A client that misses what comes next sees a gap as soon as it receives
something. -/
theorem splice_of_missed {held : Held} (whole : held.gap = false)
    {offered : List (Delta × Bool)} {first last : Nat}
    (contiguous : Contiguous first (offered.map (·.1)) last)
    (missed : held.end_ < first) :
    ((receivedOf offered).foldl Held.splice held).gap = true ∨
        ((receivedOf offered).foldl Held.splice held).end_ = last ↔
      true ∈ offered.map (·.2) := by
  induction offered generalizing first with
  | nil =>
    obtain rfl : first = last := contiguous
    simp [receivedOf, whole, missed.ne]
  | cons offer offered ih =>
    obtain ⟨delta, room⟩ := offer
    obtain ⟨starts, nonempty, rest⟩ := contiguous
    cases room with
    | false =>
      have later := ih rest (by simp only at *; omega)
      simpa [receivedOf] using later
    | true =>
      have gap : (held.splice delta).gap = true := by
        simp only at starts nonempty
        rw [Held.splice, if_neg (by omega), if_neg (by omega)]
      have stays := splice_of_gap (receivedOf offered) _ gap
      simp only [receivedOf] at stays
      simp [receivedOf, stays]

theorem filter_beyond {offered : List (Delta × Bool)} {first last bound : Nat}
    (contiguous : Contiguous first (offered.map (·.1)) last)
    (before : bound ≤ first) :
    offered.filter (fun offer => decide (bound < offer.1.end_)) =
      offered := by
  apply List.filter_eq_self.mpr
  intro offer member
  have beyond := contiguous.forall_lt offer.1 (List.mem_map_of_mem member)
  exact decide_eq_true (by omega)

/-- A client sees a gap or ends up with all of the log, unless from some delta
on there was no room for any. -/
theorem splice_iff (held : Held) (whole : held.gap = false)
    {offered : List (Delta × Bool)} {first last : Nat}
    (contiguous : Contiguous first (offered.map (·.1)) last)
    (reaches : first ≤ held.end_) (within : held.end_ ≤ last) :
    let rooms := (offered.filter fun offer =>
      decide (held.end_ < offer.1.end_)).map (·.2)
    ((receivedOf offered).foldl Held.splice held).gap = true ∨
        ((receivedOf offered).foldl Held.splice held).end_ = last ↔
      false ∉ rooms ∨ [false, true].Sublist rooms := by
  induction offered generalizing held first with
  | nil =>
    have same : first = last := contiguous
    simp [receivedOf, whole]
    omega
  | cons offer offered ih =>
    obtain ⟨delta, room⟩ := offer
    obtain ⟨starts, nonempty, rest⟩ := contiguous
    simp only at starts nonempty rest
    by_cases known : delta.end_ ≤ held.end_
    · have later := ih held whole rest known within
      have spliced : held.splice delta = held := if_pos known
      cases room <;>
        simpa [receivedOf, spliced, Nat.not_lt.mpr known] using later
    · have beyond : held.end_ < delta.end_ := Nat.lt_of_not_le known
      have all := filter_beyond rest beyond.le
      cases room with
      | false =>
        have later := splice_of_missed whole rest beyond
        simp only [receivedOf] at later ⊢
        simp [beyond, all, later]
      | true =>
        have spliced : held.splice delta =
            { held with end_ := delta.end_ } := by
          rw [Held.splice, if_neg known, if_pos (by omega)]
        have later := ih
          { held with end_ := delta.end_ } whole rest le_rfl rest.le
        have allLater := filter_beyond rest (le_refl delta.end_)
        simp only [receivedOf, allLater] at later ⊢
        simp [beyond, all, spliced, later, List.cons_sublist_cons']

/-! ## What clients are left with -/

/-- No delta that goes on where the snapshot ends finds the queue full, or one
that does is followed by one that does not. -/
def Client.LossShows (client : Client) (snapshot : Snapshot) : Prop :=
  false ∉ client.rooms snapshot ∨ [false, true].Sublist (client.rooms snapshot)

theorem Client.held_iff {client : Client} {snapshot : Snapshot} {file : Bytes}
    (sound : client.Sound file file.length)
    (taken : client.snapshot = some snapshot) :
    (client.held snapshot).gap = true ∨
        (client.held snapshot).end_ = file.length ↔
      client.LossShows snapshot := by
  obtain ⟨first, contiguous, shown⟩ := sound.contiguous
  obtain ⟨reaches, within, -⟩ := shown snapshot taken
  exact splice_iff { end_ := snapshot.end_, gap := false } rfl contiguous
    reaches within

namespace JobRun

/-- The stream delivers the log exactly when what is left of it at the stop is
in reach of the final drain, and no client loses all deltas from one on. -/
theorem delivers_iff (run : JobRun) :
    run.Delivers ↔ run.InReach ∧
        ∀ client snapshot, run.atEnd.client = some client →
          client.snapshot = some snapshot → client.LossShows snapshot := by
  have sound := run.sound_atEnd
  constructor
  · intro delivers
    have reach := run.covers_iff.mp delivers.covers
    refine ⟨reach, fun client snapshot same taken => ?_⟩
    have soundClient := sound.client client same
    rw [run.offset_atEnd_iff.mpr reach] at soundClient
    exact (Client.held_iff soundClient taken).mp
      (delivers.holds client snapshot same taken).2
  · rintro ⟨reach, shows⟩
    refine ⟨⟨_, sound.contiguous⟩, fun delta member =>
      (sound.texts delta member).2, run.covers_iff.mpr reach, ?_⟩
    intro client snapshot same taken
    have soundClient := sound.client client same
    obtain ⟨first, contiguous, shown⟩ := soundClient.contiguous
    refine ⟨(shown snapshot taken).2.2, ?_⟩
    rw [run.offset_atEnd_iff.mpr reach] at soundClient
    exact (Client.held_iff soundClient taken).mpr
      (shows client snapshot same taken)

/-- What a job writes at once before its stop is in reach when the final drain
reads as much. -/
theorem inReach_append_iff (bytes : Bytes) (rounds : Nat → Round)
    (afterwards : List Visit) :
    InReach { moments := [.append bytes], rounds, afterwards } ↔
      bytes.length ≤ finalDrains * maxBytes :=
  Iff.rfl

/-- A job that writes one byte more than the final drain reads, all of it since
the last poll. -/
def burst : JobRun where
  moments := [.append (List.replicate (finalDrains * maxBytes + 1) 0x2E)]
  rounds := fun _ => { visits := [], qsize := 0 }
  afterwards := []

/-- The last byte of the burst is never published. -/
theorem burst_is_cut : ¬ burst.Delivers := by
  intro delivers
  have reach := (inReach_append_iff _ _ _).mp
    (burst.covers_iff.mp delivers.covers)
  rw [List.length_replicate] at reach
  exact Nat.not_succ_le_self _ reach

end JobRun

end LogStream
end SmarTune
