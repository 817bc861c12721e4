import PlhrFirmware.Mqtt.Identity

/-! # Assigning identities to many devices

All devices listen on one command topic.  Each asks for its id in the loop of `ask_for_id`,
which names its MAC address and reads `id_device` once a round; what the broker brings, to whom
and how often, is the environment's.  `Serves` is all that is asked of it: no payload is cut off,
and an id response gives the device that it names the id of that device.
-/

namespace PlhrFirmware.Mqtt.Assignment

open PlhrFirmware.Lib PlhrFirmware.Message

/-! ## Devices -/

inductive Phase where
  | starting
  | asking
  | returned
  deriving DecidableEq, Repr

/-- `id_device`, the place in `ask_for_id`, and what its loop has read so far. -/
structure Node where
  idDevice : UInt16
  phase : Phase
  idReads : List UInt16

inductive Action where
  | start
  | round
  | deliver (payload : List UInt8)

/-- A round of the loop publishes and goes on, or finds that the id has changed; a payload that
`cmd_zero` over-reads has no successor. -/
def Node.step (macAddress : Memory sizeMacAddr) (node : Node) : Action → Option Node
  | .start =>
    match node.phase with
    | .starting => some { node with idDevice := 255, phase := .asking }
    | .asking | .returned => none
  | .round =>
    match node.phase with
    | .asking => some { node with
        phase := if node.idDevice = 255 then .asking else .returned
        idReads := node.idReads ++ [node.idDevice] }
    | .starting | .returned => none
  | .deliver payload =>
    match cmdZero macAddress (received payload) node.idDevice with
    | .ok idDevice => some { node with idDevice := idDevice }
    | .error _ => none

/-- What is on the topic: ids as `assign` gives them to MAC addresses, never cut off. -/
def Served (assign : List UInt8 → UInt16) : Action → Prop
  | .deliver payload => 14 ≤ payload.length ∧
    (ServerCommand (received payload) → IsRespId (received payload) →
      (respId (received payload)).cmdRespId = assign (respId (received payload)).macAddr)
  | .start | .round => True

instance (assign : List UInt8 → UInt16) (action : Action) : Decidable (Served assign action) :=
  match action with
  | .deliver _ => inferInstanceAs (Decidable (_ ∧ (_ → _ → _)))
  | .start | .round => inferInstanceAs (Decidable True)

section Network

variable {Device : Type*} [DecidableEq Device]

/-- Any device takes its next step, or any payload reaches any device. -/
def step (macAddress : Device → Memory sizeMacAddr) (state : Device → Node) (event : Device × Action) :
    Option (Device → Node) :=
  ((state event.1).step (macAddress event.1) event.2).map (Function.update state event.1)

def initial : Device → Node := fun _ => ⟨0, .starting, []⟩

def Serves (assign : List UInt8 → UInt16) (_ : Device → Node) (event : Device × Action) : Prop :=
  Served assign event.2

/-! ## One device -/

/-- Where a device is: it has asked in every round so far, and has its own id when it has
returned. -/
structure Known (own : UInt16) (node : Node) : Prop where
  starting : node.phase = .starting → node.idReads = []
  asking : node.phase = .asking → (node.idDevice = 255 ∨ node.idDevice = own) ∧
    node.idReads = List.replicate node.idReads.length 255
  returned : node.phase = .returned → node.idDevice = own ∧ own ≠ 255 ∧
    ∃ rounds, node.idReads = List.replicate rounds 255 ++ [own]

theorem known_initial (own : UInt16) : Known own ⟨0, .starting, []⟩ where
  starting := fun _ => rfl
  asking := by intro phase; cases phase
  returned := by intro phase; cases phase

/-- What a payload leaves in `id_device`. -/
theorem deliver_cases {macAddress : Memory sizeMacAddr} {assign : List UInt8 → UInt16}
    {node result : Node} {payload : List UInt8}
    (served : Served assign (.deliver payload))
    (stepped : node.step macAddress (.deliver payload) = some result) :
    result.phase = node.phase ∧ result.idReads = node.idReads ∧
      (result.idDevice = node.idDevice ∨ result.idDevice = assign macAddress.toList) := by
  cases parsed : cmdZero macAddress (received payload) node.idDevice with
  | error fault => simp [Node.step, parsed] at stepped
  | ok idDevice =>
    simp only [Node.step, parsed, Option.some.injEq] at stepped
    subst result
    refine ⟨rfl, rfl, ?_⟩
    have taken := cmdZero_acceptedId parsed
    rw [acceptedId] at taken
    split at taken
    · rename_i accepted
      obtain ⟨command, isRespId, mine⟩ := accepted
      rw [Option.getD_some, served.2 command isRespId, mine] at taken
      exact .inr taken
    · exact .inl taken

theorem Known.preserved {macAddress : Memory sizeMacAddr} {assign : List UInt8 → UInt16}
    {node result : Node} {action : Action} (known : Known (assign macAddress.toList) node)
    (served : Served assign action) (stepped : node.step macAddress action = some result) :
    Known (assign macAddress.toList) result := by
  obtain ⟨starting, asking, returned⟩ := known
  cases action with
  | start =>
    cases phase : node.phase with
    | asking | returned => simp [Node.step, phase] at stepped
    | starting =>
      simp only [Node.step, phase, Option.some.injEq] at stepped
      subst result
      refine ⟨(by intro impossible; cases impossible), fun _ => ⟨.inl rfl, ?_⟩,
        by intro impossible; cases impossible⟩
      simp [starting phase]
  | round =>
    cases phase : node.phase with
    | starting | returned => simp [Node.step, phase] at stepped
    | asking =>
      simp only [Node.step, phase, Option.some.injEq] at stepped
      subst result
      obtain ⟨value, reads⟩ := asking phase
      by_cases same : node.idDevice = 255
      · simp only [same, if_true]
        refine ⟨(by intro impossible; cases impossible), fun _ => ⟨.inl rfl, ?_⟩,
          by intro impossible; cases impossible⟩
        rw [reads]
        simp [List.replicate_succ']
      -- the loop leaves with the id that it has just read
      · have own := value.resolve_left same
        simp only [if_neg same]
        refine ⟨(by intro impossible; cases impossible), (by intro impossible; cases impossible),
          fun _ => ⟨own, own ▸ same, node.idReads.length, ?_⟩⟩
        rw [own, ← reads]
  | deliver payload =>
    obtain ⟨phase, reads, value⟩ := deliver_cases served stepped
    refine ⟨by rw [phase, reads]; exact starting, ?_, ?_⟩
    · rw [phase, reads]
      intro asks
      refine ⟨?_, (asking asks).2⟩
      cases value with
      | inl same =>
        rw [same]
        exact (asking asks).1
      | inr own => exact .inr own
    · rw [phase, reads]
      intro has
      obtain ⟨own, other, rounds⟩ := returned has
      refine ⟨?_, other, rounds⟩
      cases value with
      | inl same => rw [same, own]
      | inr again => exact again

/-! ## All devices -/

variable {macAddress : Device → Memory sizeMacAddr} {assign : List UInt8 → UInt16}
  {state : Device → Node}

theorem step_own {device : Device} {action : Action} {node : Node}
    (stepped : (state device).step (macAddress device) action = some node) :
    step macAddress state (device, action) = some (Function.update state device node) := by
  rw [step, stepped, Option.map_some]

theorem reachable_known (reached : Reachable (step macAddress) (Serves assign) initial state)
    (device : Device) : Known (assign (macAddress device).toList) (state device) := by
  induction reached with
  | start => exact known_initial _
  | @next middle result event _ serves ran inductionHypothesis =>
    obtain ⟨node, stepped, rfl⟩ := Option.map_eq_some_iff.mp ran
    by_cases same : device = event.1
    · subst same
      rw [Function.update_self]
      exact inductionHypothesis.preserved serves stepped
    · rw [Function.update_of_ne same]
      exact inductionHypothesis

/-- The publications of `ask_for_id` up to its return. -/
def asked (macAddress : Memory sizeMacAddr) (node : Node) (stack : Stack) : List Publication :=
  (askForId macAddress node.idReads stack).publications

/-- A response for the device sets its id while it asks. -/
theorem deliver_accepted {macAddress : Memory sizeMacAddr} {node : Node} {payload : List UInt8}
    (accepts : Accepts macAddress payload) : node.step macAddress (.deliver payload) =
      some { node with idDevice := UInt16.ofNat (leValue (slice payload 12 2)) } := by
  obtain ⟨long, command, isRespId, mine⟩ := accepts
  obtain ⟨mac, id⟩ := @respId_received payload (by omega)
  have header : sizeofMsgHeader ≤ (received payload).length := by
    simp [sizeofMsgHeader]
    omega
  have cmdHeader : offsetCmdHeader + sizeofCmdHeader ≤ (received payload).length := by
    simp [offsetCmdHeader, sizeofMsgHeader, sizeofCmdHeader]
    omega
  have whole : offsetCmdRespId + sizeofCmdRespId ≤ (received payload).length := by
    simp [offsetCmdRespId, sizeofMsgHeader, sizeofCmdHeader, sizeofCmdRespId, sizeMacAddr]
    omega
  have parsed : cmdZero macAddress (received payload) node.idDevice =
      .ok (UInt16.ofNat (leValue (slice payload 12 2))) := by
    rw [cmdZero_command header ((serverCommand_received (by omega)).mpr command),
      cmdZeroCmd_respId cmdHeader ((isRespId_received (by omega)).mpr isRespId) whole,
      if_pos (by rw [mac, mine]), id long]
  simp only [Node.step, parsed]

/-- Each device that has returned from `ask_for_id` has its own id, whatever arrived since, after
one publication for each round but the last; two of them have one id only if they were assigned
one; and a response for a device that asks ends its loop. -/
theorem identities_assigned
    (reached : Reachable (step macAddress) (Serves assign) initial state) :
    (∀ device, (state device).phase = .returned →
      (state device).idDevice = assign (macAddress device).toList ∧
        ∀ stack, (asked (macAddress device) (state device) stack).length + 1 =
          (state device).idReads.length) ∧
    (∀ first second, (state first).phase = .returned → (state second).phase = .returned →
      (state first).idDevice = (state second).idDevice →
        assign (macAddress first).toList = assign (macAddress second).toList) ∧
    ∀ device payload, (state device).phase = .asking → Accepts (macAddress device) payload →
      UInt16.ofNat (leValue (slice payload 12 2)) ≠ 255 →
        ∃ result, exec (step macAddress) state [(device, .deliver payload), (device, .round)] =
          some result ∧ (result device).phase = .returned := by
  refine ⟨?_, ?_, ?_⟩
  · intro device returned
    obtain ⟨own, other, rounds, reads⟩ := (reachable_known reached device).returned returned
    refine ⟨own, fun stack => ?_⟩
    simp only [asked, askForId, List.length_map, reads]
    rw [List.takeWhile_append_of_pos (by simp)]
    simp [other]
  · intro first second firstReturned secondReturned same
    rw [← ((reachable_known reached first).returned firstReturned).1,
      ← ((reachable_known reached second).returned secondReturned).1, same]
  · intro device payload asks accepts other
    have delivered := step_own (@deliver_accepted _ (state device) _ accepts)
    have left := @step_own _ _ macAddress (Function.update state device
      { state device with idDevice := UInt16.ofNat (leValue (slice payload 12 2)) }) device .round
      { idDevice := UInt16.ofNat (leValue (slice payload 12 2))
        phase := .returned
        idReads := (state device).idReads ++ [UInt16.ofNat (leValue (slice payload 12 2))] }
      (by simp only [Function.update_self, Node.step, asks, if_neg other])
    refine ⟨_, (exec_cons delivered _).trans ((exec_cons left []).trans rfl), ?_⟩
    rw [Function.update_self]

/-- Two devices that ask and are answered in the other order. -/
def macOf (device : Fin 2) : Memory sizeMacAddr := Vector.ofFn fun i => UInt8.ofNat (i + device)

/-- The last byte of the address, as the id. -/
def lastByte (macAddress : List UInt8) : UInt16 := (macAddress.getD 5 0).toUInt16

def response (device : Fin 2) : List UInt8 :=
  [0, 1, 14, 0, 2, 0] ++ (macOf device).toList ++ leBytes 2 (lastByte (macOf device).toList).toNat

def twoAsk : List (Fin 2 × Action) :=
  [(0, .start), (1, .start), (0, .round), (0, .deliver (response 1)), (1, .deliver (response 1)),
    (1, .round), (0, .deliver (response 0)), (0, .round)]

theorem identities_assigned_two : ∃ state : Fin 2 → Node,
    Reachable (step macOf) (Serves lastByte) initial state ∧
      (state 0).idDevice = lastByte (macOf 0).toList ∧
      (state 1).idDevice = lastByte (macOf 1).toList := by
  have served : ∀ event ∈ twoAsk, Served lastByte event.2 := by decide
  have along : Along (step macOf) (Serves lastByte) initial twoAsk :=
    .of_forall fun event member _ => served event member
  obtain ⟨state, ran⟩ : ∃ state, exec (step macOf) initial twoAsk = some state := ⟨_, rfl⟩
  have reached := Reachable.of_exec twoAsk along ran
  have assigned := identities_assigned reached
  have returned : ∀ device, (state device).phase = .returned := by
    have phases : (exec (step macOf) initial twoAsk).map
        (fun state => ((state 0).phase, (state 1).phase)) = some (.returned, .returned) := by decide
    rw [ran, Option.map_some, Option.some.injEq, Prod.mk.injEq] at phases
    exact Fin.forall_fin_two.mpr phases
  exact ⟨state, reached, (assigned.1 0 (returned 0)).1, (assigned.1 1 (returned 1)).1⟩

end Network

end PlhrFirmware.Mqtt.Assignment
