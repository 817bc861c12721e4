import PlhrFirmware.Acquisition.Overwrite
import PlhrFirmware.Pipeline.Delivery

/-! # From the converter to the message

The DMA channel and the threads over the memory they share.  The channel writes one sample at a
time into the buffer of its active structure; a pass of `thread_downsampling` reads its buffer
one word at a time, while the channel goes on, and hands the 800 words to the packing at its
end.  `Acquisition` decides which buffers these are, `Pipeline` what becomes of a pass.
-/

namespace PlhrFirmware.Telemetry

open PlhrFirmware.Lib PlhrFirmware.Acquisition PlhrFirmware.Pipeline

/-- `dma_buffer` by ring index, the words of the transfer under way (`position`), the words that
the pass under way has read (`taken`), and all samples so far. -/
structure State where
  acquisition : Acquisition.State
  pipeline : Pipeline.State
  dmaBuffer : Nat → DmaBuffer
  position : Nat
  bufferDownsampling : DmaBuffer
  taken : Nat
  samples : List UInt16

inductive Event where
  | sample (value : UInt16)
  | complete
  | activate
  | isr
  | pend
  | read
  | finish
  | other (event : Pipeline.Event)

def writeWord (memory : Nat → DmaBuffer) (index : Nat) (position : Fin dmaBuffSize) (value : UInt16) :
    Nat → DmaBuffer :=
  Function.update memory index (Function.update (memory index) position value)

def State.channel (state : State) (event : Acquisition.Event) : Option State :=
  (Acquisition.step state.acquisition event).map fun acquisition =>
    { state with acquisition := acquisition }

def State.threads (state : State) (event : Pipeline.Event) : Option State :=
  (Pipeline.step state.pipeline event).map fun pipeline => { state with pipeline := pipeline }

def step (state : State) : Event → Option State
  | .sample value =>
    if room : state.position < dmaBuffSize then
      if state.acquisition.activeControl.Armed then
        some { state with
          dmaBuffer := writeWord state.dmaBuffer state.acquisition.activeControl.buffer
            ⟨state.position, room⟩ value
          position := state.position + 1
          samples := state.samples ++ [value] }
      else none
    else none
  -- a structure stops when its `DMA_BUFF_SIZE` items are transferred
  | .complete =>
    if state.position = dmaBuffSize then { state with position := 0 }.channel .complete else none
  | .activate => state.channel .activate
  | .isr => state.channel .isr
  | .pend => { state with taken := 0 }.channel .pend
  | .read =>
    if more : state.taken < dmaBuffSize then
      if state.acquisition.busy then
        some { state with
          bufferDownsampling := Function.update state.bufferDownsampling ⟨state.taken, more⟩
            (state.dmaBuffer state.acquisition.cntBufferIn ⟨state.taken, more⟩)
          taken := state.taken + 1 }
      else none
    else none
  | .finish =>
    if state.taken = dmaBuffSize then
      { state with
        pipeline := threadDownsampling state.bufferDownsampling state.pipeline }.channel .finish
    else none
  | .other event =>
    match event with
    | .pass _ => none
    | event => state.threads event

def initial : State :=
  { acquisition := Acquisition.initial
    pipeline := Pipeline.initial
    dmaBuffer := fun _ _ => 0
    position := 0
    bufferDownsampling := fun _ => 0
    taken := 0
    samples := [] }

/-- The interrupt serves every completion before the next one, the backlog of buffers stays
below the lag when it does, and at most nine messages are unsent. -/
structure Keeping (state : State) (event : Event) : Prop where
  prompt : event = .complete → state.acquisition.doneFlag = false
  backlog : event = .isr → state.acquisition.outstanding < lag state.acquisition.wraps
  messages : state.pipeline.posted.length ≤ state.pipeline.published.length + (Message.nMsgDataMax - 1)

/-! ## What one step does -/

/-- The step of each event, with the step of the channel or of the threads that it contains. -/
inductive Moved (state : State) : Event → State → Prop where
  | sample (value : UInt16) (room : state.position < dmaBuffSize)
      (armed : state.acquisition.activeControl.Armed) :
    Moved state (.sample value) { state with
      dmaBuffer := writeWord state.dmaBuffer state.acquisition.activeControl.buffer
        ⟨state.position, room⟩ value
      position := state.position + 1
      samples := state.samples ++ [value] }
  | complete (acquisition : Acquisition.State) (full : state.position = dmaBuffSize)
      (stepped : Acquisition.step state.acquisition .complete = some acquisition) :
    Moved state .complete { state with acquisition := acquisition, position := 0 }
  | activate (acquisition : Acquisition.State)
      (stepped : Acquisition.step state.acquisition .activate = some acquisition) :
    Moved state .activate { state with acquisition := acquisition }
  | isr (acquisition : Acquisition.State)
      (stepped : Acquisition.step state.acquisition .isr = some acquisition) :
    Moved state .isr { state with acquisition := acquisition }
  | pend (acquisition : Acquisition.State)
      (stepped : Acquisition.step state.acquisition .pend = some acquisition) :
    Moved state .pend { state with acquisition := acquisition, taken := 0 }
  | read (more : state.taken < dmaBuffSize) (busy : state.acquisition.busy = true) :
    Moved state .read { state with
      bufferDownsampling := Function.update state.bufferDownsampling ⟨state.taken, more⟩
        (state.dmaBuffer state.acquisition.cntBufferIn ⟨state.taken, more⟩)
      taken := state.taken + 1 }
  | finish (acquisition : Acquisition.State) (whole : state.taken = dmaBuffSize)
      (stepped : Acquisition.step state.acquisition .finish = some acquisition) :
    Moved state .finish { state with
      acquisition := acquisition
      pipeline := threadDownsampling state.bufferDownsampling state.pipeline }
  | other (event : Pipeline.Event) (pipeline : Pipeline.State)
      (noPass : ∀ bufferDownsampling, event ≠ .pass bufferDownsampling)
      (stepped : Pipeline.step state.pipeline event = some pipeline) :
    Moved state (.other event) { state with pipeline := pipeline }

theorem channel_eq_some {state result : State} {event : Acquisition.Event} :
    state.channel event = some result ↔
      ∃ acquisition, Acquisition.step state.acquisition event = some acquisition ∧
        { state with acquisition := acquisition } = result :=
  Option.map_eq_some_iff

theorem threads_eq_some {state result : State} {event : Pipeline.Event} :
    state.threads event = some result ↔
      ∃ pipeline, Pipeline.step state.pipeline event = some pipeline ∧
        { state with pipeline := pipeline } = result :=
  Option.map_eq_some_iff

theorem step_moved {state result : State} {event : Event} (ran : step state event = some result) :
    Moved state event result := by
  cases event with
  | sample value =>
    simp only [step, Option.dite_none_right_eq_some, Option.ite_none_right_eq_some,
      Option.some.injEq] at ran
    obtain ⟨room, armed, rfl⟩ := ran
    exact .sample value room armed
  | complete =>
    simp only [step, Option.ite_none_right_eq_some, channel_eq_some] at ran
    obtain ⟨full, acquisition, stepped, rfl⟩ := ran
    exact .complete acquisition full stepped
  | activate =>
    obtain ⟨acquisition, stepped, rfl⟩ := channel_eq_some.mp ran
    exact .activate acquisition stepped
  | isr =>
    obtain ⟨acquisition, stepped, rfl⟩ := channel_eq_some.mp ran
    exact .isr acquisition stepped
  | pend =>
    obtain ⟨acquisition, stepped, rfl⟩ := channel_eq_some.mp ran
    exact .pend acquisition stepped
  | read =>
    simp only [step, Option.dite_none_right_eq_some, Option.ite_none_right_eq_some,
      Option.some.injEq] at ran
    obtain ⟨more, busy, rfl⟩ := ran
    exact .read more busy
  | finish =>
    simp only [step, Option.ite_none_right_eq_some, channel_eq_some] at ran
    obtain ⟨whole, acquisition, stepped, rfl⟩ := ran
    exact .finish acquisition whole stepped
  | other event =>
    cases event with
    | pass bufferDownsampling => cases ran
    | _ =>
      obtain ⟨pipeline, stepped, rfl⟩ := threads_eq_some.mp ran
      exact .other _ pipeline (by intro _ impossible; cases impossible) stepped

/-! ## Projections -/

/-- The channel goes through a prompt run with a backlog below the lag. -/
def KeepsUp (state : Acquisition.State) (event : Acquisition.Event) : Prop :=
  Prompt state event ∧ (event = .isr → state.outstanding < lag state.wraps)

theorem keepsUp_quiet {state : Acquisition.State} {event : Acquisition.Event}
    (noComplete : event ≠ .complete) (noInterrupt : event ≠ .isr) : KeepsUp state event :=
  ⟨fun complete => absurd complete noComplete, fun interrupt => absurd interrupt noInterrupt⟩

theorem reachable_acquisition {state : State} (reached : Reachable step Keeping initial state) :
    Reachable Acquisition.step KeepsUp Acquisition.initial state.acquisition := by
  induction reached with
  | start => exact .start
  | next _ keeping ran inductionHypothesis =>
    cases step_moved ran with
    | complete _ _ stepped =>
      refine .next inductionHypothesis ⟨fun _ => keeping.prompt rfl, ?_⟩ stepped
      intro impossible
      cases impossible
    | isr _ stepped =>
      refine .next inductionHypothesis ⟨?_, fun _ => keeping.backlog rfl⟩ stepped
      intro impossible
      cases impossible
    | activate _ stepped | pend _ stepped | finish _ _ stepped =>
      exact .next inductionHypothesis (keepsUp_quiet (by decide) (by decide)) stepped
    | sample | read | other => exact inductionHypothesis

theorem reachable_pipeline {state : State} (reached : Reachable step Keeping initial state) :
    Reachable Pipeline.step SmallBacklog Pipeline.initial state.pipeline := by
  induction reached with
  | start => exact .start
  | next _ keeping ran inductionHypothesis =>
    cases step_moved ran with
    | finish =>
      exact .next inductionHypothesis keeping.messages
        (show Pipeline.step _ (.pass _) = some _ from rfl)
    | other _ _ _ stepped => exact .next inductionHypothesis keeping.messages stepped
    | sample | complete | activate | isr | pend | read => exact inductionHypothesis

end PlhrFirmware.Telemetry
