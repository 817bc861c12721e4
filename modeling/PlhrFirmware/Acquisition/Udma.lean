import PlhrFirmware.Lib.Reachable

/-! # The ping-pong DMA channel of the ADC and its interrupt

`udma_user.c` and the acquisition part of `empty.c`.  The uDMA driver's channel table is
modelled by the mode and the destination of the two control structures of the channel; a
destination is the index of a buffer in `dma_buffer`.

* `dmaStopModeGet`, `dmaTransferSet` — the two helpers of `udma_user.c`.
* `isrDmaDone` — the interrupt routine.
* `mainThreadDmaSetup` — the transfers `mainThread` arms before it starts the interrupt.
* `ringAdvance` — the read index of `thread_downsampling` at the end of a pass.
* `step` — the hardware, the interrupt and the reading thread, interleaved.
-/

namespace PlhrFirmware.Acquisition

open PlhrFirmware.Lib

abbrev dmaNumBuffers : Nat := 30

/-! ## `udma_user.c` -/

inductive Half where
  | pri
  | alt
  deriving DecidableEq, Repr

def Half.other : Half → Half
  | .pri => .alt
  | .alt => .pri

inductive UdmaMode where
  | stop
  | basic
  | pingpong
  deriving DecidableEq, Repr

structure ControlStruct where
  mode : UdmaMode
  buffer : Nat
  deriving DecidableEq, Repr

def ControlStruct.Armed (control : ControlStruct) : Prop := control.mode ≠ .stop

instance (control : ControlStruct) : Decidable control.Armed :=
  inferInstanceAs (Decidable (_ ≠ _))

structure Udma where
  pri : ControlStruct
  alt : ControlStruct
  deriving DecidableEq, Repr

def Udma.get (udma : Udma) : Half → ControlStruct
  | .pri => udma.pri
  | .alt => udma.alt

def Udma.set (udma : Udma) (half : Half) (control : ControlStruct) : Udma :=
  match half with
  | .pri => { udma with pri := control }
  | .alt => { udma with alt := control }

inductive DmaStopMode where
  | pri
  | alt
  | basic
  | none
  deriving DecidableEq, Repr

inductive DmaSetMode where
  | pri
  | alt
  | basic
  | none
  deriving DecidableEq, Repr

def dmaStopModeGet (udma : Udma) : DmaStopMode :=
  if (udma.get .pri).mode = .stop then .pri
  else if (udma.get .alt).mode = .stop then .alt
  else .none

def dmaTransferSet (udma : Udma) (dmaSetMode : DmaSetMode) (buffer : Nat) : Udma :=
  match dmaSetMode with
  | .pri => udma.set .pri ⟨.pingpong, buffer⟩
  | .alt => udma.set .alt ⟨.pingpong, buffer⟩
  -- `UDMA_CHANNEL_SELECT` without a selector names the primary structure
  | .basic => udma.set .pri ⟨.basic, buffer⟩
  | .none => udma

/-! ## `empty.c` -/

structure Globals where
  udma : Udma
  dmaCntInterrupts : UInt32
  dmaFinished : Bool
  cntDmaWrite : UInt16
  dmaStopMode : DmaStopMode
  dwsSemaphore : Nat
  deriving DecidableEq, Repr

def semaphorePost (globals : Globals) : Globals :=
  { globals with dwsSemaphore := globals.dwsSemaphore + 1 }

/-- The two ping-pong cases of the interrupt's `switch`. -/
def rearm (dmaSetMode : DmaSetMode) (globals : Globals) : Globals :=
  let globals := { globals with cntDmaWrite := globals.cntDmaWrite + 1 }
  let globals := { globals with
    udma := dmaTransferSet globals.udma dmaSetMode (globals.cntDmaWrite.toNat % dmaNumBuffers) }
  semaphorePost globals

def isrDmaDone (globals : Globals) : Globals :=
  let globals := { globals with dmaStopMode := dmaStopModeGet globals.udma }
  if globals.dmaFinished = false then
    let globals := { globals with dmaCntInterrupts := globals.dmaCntInterrupts + 1 }
    match globals.dmaStopMode with
    | .pri => rearm .pri globals
    | .alt => rearm .alt globals
    | .basic => { globals with
        udma := dmaTransferSet globals.udma .basic (globals.cntDmaWrite.toNat % dmaNumBuffers) }
    | .none => globals
  else globals

def resetGlobals : Globals :=
  { udma := ⟨⟨.stop, 0⟩, ⟨.stop, 0⟩⟩
    dmaCntInterrupts := 0
    dmaFinished := false
    cntDmaWrite := 0
    dmaStopMode := .none
    dwsSemaphore := 0 }

def mainThreadDmaSetup (globals : Globals) : Globals :=
  let globals := { globals with cntDmaWrite := 0 }
  let globals := { globals with
    udma := dmaTransferSet globals.udma .pri globals.cntDmaWrite.toNat }
  let globals := { globals with cntDmaWrite := 1 }
  let globals := { globals with
    udma := dmaTransferSet globals.udma .alt globals.cntDmaWrite.toNat }
  let globals := { globals with
    cntDmaWrite := UInt16.ofNat ((globals.cntDmaWrite.toNat + 1) % dmaNumBuffers) }
  { globals with dmaCntInterrupts := 0, dmaFinished := false }

/-- The end of a pass of `thread_downsampling` over `dma_num_buffers` buffers. -/
def ringAdvance (cntBufferIn : Nat) : Nat := (cntBufferIn + 1) % dmaNumBuffers

/-! ## Interleaving -/

/-- The globals, the state of the channel, the reading thread, and what happened so far:
`completed` and `processed` are the ring indices of the finished transfers and of the
passes begun, `merged` counts the completions that found the done flag still raised. -/
structure State where
  globals : Globals
  active : Half
  doneFlag : Bool
  cntBufferIn : Nat
  busy : Bool
  completed : List Nat
  processed : List Nat
  merged : Nat
  deriving DecidableEq, Repr

inductive Event where
  | complete
  | activate
  | isr
  | pend
  | finish
  deriving DecidableEq, Repr

def State.activeControl (state : State) : ControlStruct := state.globals.udma.get state.active

def State.idleControl (state : State) : ControlStruct := state.globals.udma.get state.active.other

def step (state : State) : Event → Option State
  -- the active structure stops, raises the flag and hands over to the other one if it is armed
  | .complete =>
    if state.activeControl.Armed then
      some { state with
        globals := { state.globals with
          udma := state.globals.udma.set state.active { state.activeControl with mode := .stop } }
        active := if state.idleControl.Armed then state.active.other else state.active
        doneFlag := true
        completed := state.completed ++ [state.activeControl.buffer]
        merged := if state.doneFlag then state.merged + 1 else state.merged }
    else none
  -- a channel that ran dry resumes with the structure that was armed meanwhile
  | .activate =>
    if ¬ state.activeControl.Armed ∧ state.idleControl.Armed then
      some { state with active := state.active.other }
    else none
  | .isr =>
    if state.doneFlag then
      some { state with globals := isrDmaDone state.globals, doneFlag := false }
    else none
  | .pend =>
    if ¬ state.busy ∧ 0 < state.globals.dwsSemaphore then
      some { state with
        globals := { state.globals with dwsSemaphore := state.globals.dwsSemaphore - 1 }
        busy := true
        processed := state.processed ++ [state.cntBufferIn] }
    else none
  | .finish =>
    if state.busy then
      some { state with cntBufferIn := ringAdvance state.cntBufferIn, busy := false }
    else none

/-- The state in which `mainThread` starts the interrupt. -/
def initial : State :=
  { globals := mainThreadDmaSetup resetGlobals
    active := .pri
    doneFlag := false
    cntBufferIn := 0
    busy := false
    completed := []
    processed := []
    merged := 0 }

/-- The interrupt runs once for each completion: none completes while one is unserved. -/
def Prompt (state : State) (event : Event) : Prop :=
  event = .complete → state.doneFlag = false

instance (state : State) (event : Event) : Decidable (Prompt state event) :=
  inferInstanceAs (Decidable (_ → _))

def State.posts (state : State) : Nat := state.globals.dwsSemaphore + state.processed.length

/-! ## What one step does -/

@[simp] theorem Half.other_other (half : Half) : half.other.other = half := by
  cases half <;> rfl

@[simp] theorem Udma.get_set (udma : Udma) (half : Half) (control : ControlStruct) :
    (udma.set half control).get half = control := by
  cases half <;> rfl

@[simp] theorem Udma.get_set_other (udma : Udma) (half : Half) (control : ControlStruct) :
    (udma.set half control).get half.other = udma.get half.other := by
  cases half <;> rfl

@[simp] theorem Udma.get_other_set (udma : Udma) (half : Half) (control : ControlStruct) :
    (udma.set half.other control).get half = udma.get half := by
  cases half <;> rfl

theorem pingpong_armed (buffer : Nat) : (ControlStruct.mk .pingpong buffer).Armed := by
  intro stopped
  cases stopped

structure SameChannel (state result : State) : Prop where
  udma : result.globals.udma = state.globals.udma
  cntDmaWrite : result.globals.cntDmaWrite = state.globals.cntDmaWrite
  dmaFinished : result.globals.dmaFinished = state.globals.dmaFinished
  active : result.active = state.active
  doneFlag : result.doneFlag = state.doneFlag
  completed : result.completed = state.completed
  posts : result.posts = state.posts
  merged : result.merged = state.merged

theorem step_pend {state result : State} (stepped : step state .pend = some result) :
    SameChannel state result := by
  simp only [step, Option.ite_none_right_eq_some, Option.some.injEq] at stepped
  obtain ⟨⟨_, posted⟩, rfl⟩ := stepped
  refine ⟨rfl, rfl, rfl, rfl, rfl, rfl, ?_, rfl⟩
  -- the post that is taken from the semaphore is the one of the pass begun
  simp only [State.posts, List.length_append, List.length_singleton]
  omega

theorem step_finish {state result : State} (stepped : step state .finish = some result) :
    SameChannel state result := by
  simp only [step, Option.ite_none_right_eq_some, Option.some.injEq] at stepped
  obtain ⟨_, rfl⟩ := stepped
  exact ⟨rfl, rfl, rfl, rfl, rfl, rfl, rfl, rfl⟩

def Half.stopMode : Half → DmaStopMode
  | .pri => .pri
  | .alt => .alt

/-- The interrupt serves one stopped structure: the primary one if it has stopped, and the
alternate one otherwise. -/
theorem isrDmaDone_stopped {globals : Globals} (half : Half) (live : globals.dmaFinished = false)
    (stopped : (globals.udma.get half).mode = .stop)
    (first : half = .alt → (globals.udma.get .pri).Armed) :
    isrDmaDone globals = { globals with
      dmaStopMode := half.stopMode
      dmaCntInterrupts := globals.dmaCntInterrupts + 1
      cntDmaWrite := globals.cntDmaWrite + 1
      udma := globals.udma.set half
        ⟨.pingpong, (globals.cntDmaWrite + 1).toNat % dmaNumBuffers⟩
      dwsSemaphore := globals.dwsSemaphore + 1 } := by
  cases half with
  | pri =>
    have mode : dmaStopModeGet globals.udma = .pri := if_pos stopped
    simp [isrDmaDone, live, mode, rearm, dmaTransferSet, semaphorePost, Half.stopMode]
  | alt =>
    have mode : dmaStopModeGet globals.udma = .alt := by
      rw [dmaStopModeGet, if_neg (first rfl), if_pos stopped]
    simp [isrDmaDone, live, mode, rearm, dmaTransferSet, semaphorePost, Half.stopMode]

example : initial.globals.cntDmaWrite = 2 ∧
    initial.globals.udma = ⟨⟨.pingpong, 0⟩, ⟨.pingpong, 1⟩⟩ := by
  decide

end PlhrFirmware.Acquisition
