import SyncAudio.Lib.LabelledRun
import SyncAudio.Ios.AudioPlaybackController
import SyncAudio.Ios.QueueArithmetic

/-!
# The player of the phone

`AudioPlaybackController` takes packets, clock estimates and room actions on its queue and
calls `pump`, which hands buffers to the audio engine. All of its integers are checked by
Swift. The packets come from the network, so it matters whether one can stop the player.

## Implementation notes

A step that traps has no value. The calls of the system are inputs of `pump`: its readings
of the clocks, the output latency before and after the engine is set up, and whether the
engine and each buffer can be set up. `prepare` is what a call does before its `pump`. The
texts of the snapshot and the numbers in it that are computed without integers are left
out, and so are the calls that change nothing else.
-/

namespace SyncAudio.Ios

open Checked LabelledRun PlaybackTiming

structure Playback where
  control : AudioPlaybackController := {}
  packets : PacketPlaybackQueue := {}
  stagedPackets : PacketPlaybackQueue := {}
  formatted : Bool := false
  clockEstimate : Option ClockOffset := none
  primed : Bool := false
  scheduledHostTime : Option Nat := none
  queuedFrames : Int := 0
  generation : Int := 0
  receivedPackets : Int := 0
  latePackets : Int := 0
  underruns : Int := 0
  concealedFrames : Int := 0
  targetBufferMilliseconds : Binary64 := .ofInt 180

/-- What one call of `pump` gets from the system. -/
structure PumpInput where
  actionNow : UInt64 := 0
  discardNow : UInt64 := 0
  startNow : UInt64 := 0
  actionLead : OutputLead
  outputLead : OutputLead
  configured : Bool := true
  converted : Nat → Bool := fun _ => true
  machAbsoluteTime : UInt64 := 0
  machAbsoluteTime_lt : machAbsoluteTime.toNat < 2 ^ 61
  renderTime : Option UInt64 := none

namespace Playback

/-- `Double(now)` plus the offset of the estimate. -/
def hostTime (now : UInt64) (offset : ClockOffset) : Binary64 :=
  (Binary64.ofInt now.toNat).add (.finite offset.offset)

def resetStream (s : Playback) : Option Playback := do
  let generation ← addSigned s.generation 1
  some { s with
    generation
    queuedFrames := 0
    primed := false
    packets := {}
    receivedPackets := 0
    scheduledHostTime := none }

def resetIf (s : Playback) (condition : Prop) [Decidable condition] : Option Playback :=
  if condition then s.resetStream else some s

/-- The start of `pump`: the scheduled action, if it is due. -/
def takeAction (s : Playback) (input : PumpInput) : Option Playback :=
  match s.control.scheduledRoomAction, s.clockEstimate with
  | some action, some offset =>
      let hostNow := hostTime input.actionNow offset
      let outputLead := Binary64.finite input.actionLead.lead
      let control := (s.control.pump hostNow outputLead).2
      if action.isDue hostNow outputLead then
        if action.name = "PAUSE".toList ∨ action.name = "STOP".toList then
          s.resetStream.map fun s => { s with control }
        else if action.isSeek then
          s.resetStream.map fun s =>
            { s with control, packets := s.stagedPackets, stagedPackets := {} }
        else some { s with control }
      else some { s with control }
  | _, _ => some s

/-- The guards of `pump`, with the values that they unwrap. -/
def ready (s : Playback) (input : PumpInput) : Option (UInt32 × ClockOffset) :=
  if s.control.roomPaused || !s.control.active then none
  else
    match s.packets.sampleRate, s.clockEstimate with
    | some sampleRate, some offset =>
        if s.formatted || (s.packets.firstPacket.isSome && input.configured) then
          some (sampleRate, offset)
        else none
    | _, _ => none

/-- Before it starts, the player drops the packets that it could not play in time. -/
def discardLate (s : Playback) (offset : ClockOffset) (input : PumpInput) : Playback :=
  if !s.primed && s.queuedFrames = 0 && !s.control.allowImmediateStart then
    { s with
      packets := s.packets.discard
        ((minimumPacketTimestamp offset input.outputLead input.discardNow).larger
          (.ofInt (s.control.minimumHostStartNanoseconds.getD 0).toNat)) }
  else s

/-- `snapshot.concealedFrames += frames`, for silence. -/
def conceal (concealedFrames : Int) : PlaybackItem → Option Int
  | .packet _ => some concealedFrames
  | .silence count => addSigned concealedFrames count

/-- The body of the loop over the items of the queue, and whether the loop goes on. -/
def queueItem (s : Playback) (converted : Bool) : Option (Playback × Bool) := do
  let (item, packets) ← s.packets.popChecked
  match item with
  | none => some ({ s with packets }, false)
  | some item => do
      let concealedFrames ← conceal s.concealedFrames item
      if converted then do
        let queuedFrames ← addSigned s.queuedFrames item.frames
        some ({ s with packets, concealedFrames, queuedFrames }, true)
      else some ({ s with packets, concealedFrames }, false)

/-- The loop. `index` counts the buffers. -/
def fill (targetFrames : Int) (converted : Nat → Bool) : Nat → Nat → Playback → Option Playback
  | 0, _, s => some s
  | fuel + 1, index, s =>
      if s.queuedFrames < targetFrames then do
        let (s, goesOn) ← s.queueItem (converted index)
        if goesOn then fill targetFrames converted fuel (index + 1) s else some s
      else some s

/-- The start of the player, and whether `pump` goes on behind it. -/
def begin (clock : HostClock) (s : Playback) (offset : ClockOffset) (input : PumpInput)
    (firstPacket : Option AudioPacket) (prebufferFrames : Int) : Option (Playback × Bool) :=
  if !s.primed && prebufferFrames ≤ s.queuedFrames then
    match firstPacket with
    | none => some (s, false)
    | some packet =>
        let delay := startDelayNanoseconds packet.presentationTimestampNanoseconds offset
          input.outputLead input.startNow
        if Binary64.zero.lt delay then do
          let hostTime ← startTime clock input.machAbsoluteTime delay
          some ({ s with
            scheduledHostTime := some hostTime
            primed := true
            control := { s.control with allowImmediateStart := false } }, true)
        else s.resetStream.map fun s => (s, false)
  else some (s, true)

def countUnderrun (s : Playback) : Option Playback :=
  if s.primed && s.queuedFrames = 0 then do
    let underruns ← addSigned s.underruns 1
    { s with
      underruns
      targetBufferMilliseconds := raiseTarget s.targetBufferMilliseconds }.resetStream
  else some s

/-- The difference of host times in `updateSyncError`. -/
def tickDifference (s : Playback) (input : PumpInput) : Option Nat :=
  match s.scheduledHostTime, input.renderTime with
  | some scheduled, some render =>
      if render.toNat ≥ scheduled then sub64 render.toNat scheduled
      else sub64 scheduled render.toNat
  | _, _ => some 0

/-- `pump` behind its check of the prebuffer. -/
def play (clock : HostClock) (s : Playback) (offset : ClockOffset) (input : PumpInput)
    (prebufferFrames targetFrames : Int) : Option Playback := do
  let firstPacket := s.packets.firstPacket
  let s ← fill targetFrames input.converted (targetFrames - s.queuedFrames).toNat 0 s
  let (s, goesOn) ← s.begin clock offset input firstPacket prebufferFrames
  if goesOn then do
    let s ← s.countUnderrun
    let _ ← s.tickDifference input
    some s
  else some s

/-- An unprimed player goes on only with enough frames. -/
def checkPrebuffer (clock : HostClock) (s : Playback) (offset : ClockOffset) (input : PumpInput)
    (prebufferFrames targetFrames : Int) : Option Playback :=
  if s.primed then s.play clock offset input prebufferFrames targetFrames
  else do
    let buffered ← s.packets.bufferedFrames
    let buffered ← toSigned buffered
    if buffered < prebufferFrames then some s
    else s.play clock offset input prebufferFrames targetFrames

def pump (clock : HostClock) (s : Playback) (input : PumpInput) : Option Playback := do
  let s ← s.takeAction input
  match s.ready input with
  | none => some s
  | some (sampleRate, offset) => do
      let prebufferFrames ← framesFor sampleRate s.targetBufferMilliseconds
      let targetFrames ← framesFor sampleRate (s.targetBufferMilliseconds.add (.ofInt 70))
      { s.discardLate offset input with formatted := true }.checkPrebuffer clock offset input
        prebufferFrames targetFrames

def stopCurrent (s : Playback) : Playback :=
  { s with
    control := {}
    packets := {}
    stagedPackets := {}
    formatted := false
    clockEstimate := none
    primed := false
    scheduledHostTime := none
    queuedFrames := 0 }

/-- `PlaybackSnapshot()`. -/
def newSnapshot (s : Playback) : Playback :=
  { s with
    latePackets := 0
    underruns := 0
    concealedFrames := 0
    targetBufferMilliseconds := .ofInt 180 }

/-- The packet belongs to the stream behind a scheduled SEEK. -/
def stages (s : Playback) (packet : AudioPacket) : Bool :=
  s.control.scheduledRoomAction.any fun action =>
    action.isSeek && packet.streamID = action.nextStreamID

/-- `snapshot.latePackets += 1`, for a packet that the queue refuses. -/
def countLate (s : Playback) (inserted : Bool) : Option Int :=
  if inserted then some s.latePackets else addSigned s.latePackets 1

/-- `receive` before its `pump`. -/
def store (s : Playback) (packet : AudioPacket) (input : PumpInput) :
    Option (Playback × Option PumpInput) :=
  if !s.control.active || packet.channels > 2 || packet.sampleRate < 8000 ||
      packet.sampleRate > 192000 then some (s, none)
  else if s.stages packet then
    some ({ s with stagedPackets := (s.stagedPackets.insert packet).2 }, none)
  else if s.control.roomPaused then some (s, none)
  else do
    let s ← s.resetIf (s.packets.sessionID.isSome ∧ s.packets.Foreign packet)
    let receivedPackets ← addSigned s.receivedPackets 1
    let (inserted, packets) := s.packets.insert packet
    let latePackets ← s.countLate inserted
    some ({ s with packets, receivedPackets, latePackets }, some input)

/-- The calls on the queue of the player. -/
inductive Event where
  | start
  | stop
  | receive (received : ReceivedPacket) (input : PumpInput)
  | tick (input : PumpInput)
  | completed (generation : Int) (frames : UInt16)
  | updateClock (estimate : Option ClockOffset) (input : PumpInput)
  | scheduleRoomAction (action : ScheduledHostAction) (now : UInt64) (input : PumpInput)
  | updateRoomSyncPoint (hostTimestampNanoseconds : UInt64) (input : PumpInput)
  | updateTargetBuffer (milliseconds : Binary64)
  | setManualCalibration
  | interruptionEnded
  | routeChanged

/-- A call up to its `pump`, if it makes one. -/
def prepare (s : Playback) : Event → Option (Playback × Option PumpInput)
  | .start => do
      let generation ← addSigned s.generation 1
      some ({ ({ s with generation } : Playback).stopCurrent.newSnapshot with
        control := .start }, none)
  | .stop => do
      let generation ← addSigned s.generation 1
      some (({ s with generation } : Playback).stopCurrent.newSnapshot, none)
  | .receive received input => s.store received.packet input
  | .tick input => some (s, some input)
  | .completed generation frames =>
      if s.generation = generation then do
        let queuedFrames ← subSigned s.queuedFrames frames.toNat
        some ({ s with queuedFrames := max 0 queuedFrames }, none)
      else some (s, none)
  | .updateClock clockEstimate input => some ({ s with clockEstimate }, some input)
  | .scheduleRoomAction action now input => do
      let hostNow := (Binary64.ofInt now.toNat).add
        ((s.clockEstimate.map fun estimate => .finite estimate.offset).getD .zero)
      if s.control.accepts hostNow action then
        let control := s.control.scheduleRoomAction hostNow action
        let s ← s.resetIf (action.name = "PLAY".toList)
        some ({ s with control }, some input)
      else some (s, none)
  | .updateRoomSyncPoint hostTimestampNanoseconds input =>
      some ({ s with control := { s.control with
        minimumHostStartNanoseconds := some hostTimestampNanoseconds } }, some input)
  | .updateTargetBuffer milliseconds =>
      some ({ s with targetBufferMilliseconds := clampTarget milliseconds }, none)
  | .setManualCalibration => s.resetStream.map fun s => (s, none)
  | .interruptionEnded =>
      if s.control.active then do
        let generation ← addSigned s.generation 1
        some ({ s with
          generation
          formatted := false
          packets := {}
          queuedFrames := 0
          primed := false
          scheduledHostTime := none }, none)
      else some (s, none)
  | .routeChanged =>
      if s.control.active then do
        let generation ← addSigned s.generation 1
        let s ← ({ s with generation, formatted := false } : Playback).resetStream
        some (s, none)
      else some (s, none)

def step (clock : HostClock) : Step Playback Event := fun s event =>
  (s.prepare event).bind fun next =>
    match next.2 with
    | none => some next.1
    | some input => next.1.pump clock input

end Playback

end SyncAudio.Ios
