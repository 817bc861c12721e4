import PlhrFirmware.Pipeline.TimeReference

/-! # Failed time requests

A request that fails resets the RTC, stores the timestamp 0 and raises the flag like one that
succeeds.  `Harmless` is what a failure should leave unchanged, on a whole run; `Fresh` is the
guard on the passes under which it does: no pass runs between a failed request and the next
successful one, and no timestamp is from before the epoch.
-/

namespace PlhrFirmware.Pipeline

open PlhrFirmware.Lib PlhrFirmware.Message

/-! ## The law -/

def Succeeds (state : State) (event : Event) : Prop :=
  ∃ stamp, event = .softtimer (some stamp) ∧ state.requesting

/-- The iteration of `softtimer` had the request not been made. -/
def withoutRequest (state : State) : State := softtimerCount (softtimerRssi state)

def references (messages : List MsgData) : List (UInt64 × UInt64) :=
  messages.map fun message => (message.p.h.corrBufferId, message.p.h.rtcValue)

/-- The value was computed from the answer of a server, without an underflow. -/
def Capture.Sound (capture : Capture) : Prop :=
  capture.answered = true ∧ AfterEpoch capture.timeSynchro capture.rtcTimer

/-- In the run of `events` from the start, up to the next success after a failed request the
messages have the references that they have without it, and every captured value is sound. -/
structure Harmless (events : List Event) : Prop where
  unnoticed : ∀ (before after rest : List Event) (state result : State),
    events = before ++ .softtimer none :: (after ++ rest) →
    exec step initial before = some state → state.requesting →
    Along step (fun state event => ¬ Succeeds state event) (softtimer none state) after →
    exec step (softtimer none state) after = some result →
    ∃ other, exec step (withoutRequest state) after = some other ∧
      references result.posted = references other.posted ∧
      references result.published = references other.published
  sound : ∀ final, exec step initial events = some final →
    ∀ capture ∈ final.captures, capture.Sound

/-- A pass that finds the flag raised finds that the last request has succeeded, and the
seconds of its timestamp and of the RTC are not before the epoch. -/
def Fresh (state : State) (event : Event) : Prop :=
  ∀ bufferDownsampling, event = .pass bufferDownsampling → state.statusTimeSync ≠ 0 →
    state.answered = true ∧ AfterEpoch state.sntpTime (clockGettime state.rtc)

/-! ## Captured values -/

theorem captures_cases {state result : State} {event : Event}
    (stepped : step state event = some result) :
    result.captures = state.captures ∨
      (∃ bufferDownsampling, event = .pass bufferDownsampling) ∧ state.statusTimeSync ≠ 0 ∧
        result.captures = state.captures ++
          [⟨state.passes, state.sntpTime, clockGettime state.rtc, state.answered⟩] := by
  obtain ⟨bufferDownsampling, isPass, passed⟩ | ⟨_, sent⟩ | elsewhere := step_cases stepped
  · by_cases quiet : state.statusTimeSync = 0
    · exact .inl (passed.synchronized.quiet quiet).2.2.1
    · exact .inr ⟨⟨bufferDownsampling, isPass⟩, quiet, (passed.synchronized.pending quiet).2.2.1⟩
  · exact .inl sent.sent.captures
  · exact .inl elsewhere.captures

theorem fresh_sound {state : State} (reached : Reachable step Fresh initial state) :
    ∀ capture ∈ state.captures, capture.Sound := by
  apply reached.invariant (fun state => ∀ capture ∈ state.captures, capture.Sound)
  · intro capture member
    cases member
  · intro state event result sound fresh stepped capture member
    obtain same | ⟨⟨bufferDownsampling, isPass⟩, raised, log⟩ := captures_cases stepped
    · rw [same] at member
      exact sound capture member
    · rw [log] at member
      rcases List.mem_append.mp member with old | isNew
      · exact sound capture old
      · rw [List.mem_singleton.mp isNew]
        exact fresh bufferDownsampling isPass raised

theorem captures_subset {events : List Event} {state final : State}
    (ran : exec step state events = some final) : state.captures ⊆ final.captures := by
  induction events generalizing state with
  | nil => cases ran; exact fun _ member => member
  | cons event events inductionHypothesis =>
    obtain ⟨next, stepped, rest⟩ := Option.bind_eq_some_iff.mp ran
    intro capture member
    apply inductionHypothesis rest
    obtain same | ⟨_, _, log⟩ := captures_cases stepped
    · rw [same]; exact member
    · rw [log]; exact List.mem_append_left _ member

theorem along_fresh {events : List Event} {state final : State}
    (ran : exec step state events = some final)
    (sound : ∀ capture ∈ final.captures, capture.Sound) : Along step Fresh state events := by
  induction events generalizing state with
  | nil => trivial
  | cons event events inductionHypothesis =>
    obtain ⟨next, stepped, rest⟩ := Option.bind_eq_some_iff.mp ran
    constructor
    · rintro bufferDownsampling rfl raised
      cases stepped
      have passed := threadDownsampling_passed bufferDownsampling state
      -- what this pass captured is in the log to the end, so it is sound
      have log := (passed.synchronized.pending raised).2.2.1
      have captured := captures_subset rest (log ▸ List.mem_append_right _ (List.mem_singleton.mpr rfl))
      exact sound _ captured
    · intro next' stepped'
      rw [stepped] at stepped'
      cases stepped'
      exact inductionHypothesis rest

/-! ## A run with the failed request and one without it -/

/-- The two states differ only in what a time request writes. -/
def SameButTime (state other : State) : Prop :=
  ∃ statusTimeSync sntpTime rtc answered, other = { state with
    statusTimeSync := statusTimeSync
    sntpTime := sntpTime
    rtc := rtc
    answered := answered }

/-- The last request has failed, and no pass has seen it. -/
def Unseen (state : State) : Prop := state.statusTimeSync ≠ 0 ∧ state.answered = false

theorem timeSyncOn_ne_zero (statusTimeSync : UInt64) : timeSyncOn statusTimeSync ≠ 0 := by
  intro zero
  have value := congrArg UInt64.toNat zero
  simp [timeSyncOn] at value

theorem softtimerSntp_requesting {state : State} {answer : Option UInt64}
    (requesting : state.requesting) :
    softtimerSntp answer state = { state with
      rtc := 0
      answered := answer.isSome
      sntpTime := answer.getD 0
      statusTimeSync := timeSyncOn state.statusTimeSync } :=
  if_pos requesting

theorem softtimerSntp_idle {state : State} {answer : Option UInt64} (idle : ¬ state.requesting) :
    softtimerSntp answer state = state :=
  if_neg idle

theorem softtimer_failed {state : State} (requesting : state.requesting) :
    Unseen (softtimer none state) ∧ SameButTime (softtimer none state) (withoutRequest state) := by
  have still : (softtimerRssi state).requesting := by
    unfold softtimerRssi
    split <;> exact requesting
  rw [softtimer, softtimerSntp_requesting still]
  exact ⟨⟨timeSyncOn_ne_zero _, rfl⟩, _, _, _, _, rfl⟩

theorem softtimer_idle {state : State} (idle : ¬ state.requesting) (answer : Option UInt64)
    (unseen : Unseen state) : Unseen (softtimer answer state) := by
  have still : ¬ (softtimerRssi state).requesting ∧ Unseen (softtimerRssi state) := by
    unfold softtimerRssi
    split <;> exact ⟨idle, unseen⟩
  rw [softtimer, softtimerSntp_idle still.1]
  exact still.2

theorem SameButTime.softtimerRssi {state other : State} (same : SameButTime state other) :
    SameButTime (softtimerRssi state) (softtimerRssi other) := by
  obtain ⟨statusTimeSync, sntpTime, rtc, answered, rfl⟩ := same
  unfold Pipeline.softtimerRssi
  split <;> split
  · exact ⟨statusTimeSync, sntpTime, rtc, answered, rfl⟩
  · rename_i due notDue; exact absurd due notDue
  · rename_i notDue due; exact absurd due notDue
  · exact ⟨statusTimeSync, sntpTime, rtc, answered, rfl⟩

theorem SameButTime.softtimerSntp {state other : State} (same : SameButTime state other)
    (answer : Option UInt64) :
    SameButTime (softtimerSntp answer state) (softtimerSntp answer other) := by
  obtain ⟨statusTimeSync, sntpTime, rtc, answered, rfl⟩ := same
  by_cases requesting : state.requesting
  · rw [softtimerSntp_requesting requesting, softtimerSntp_requesting (by exact requesting)]
    exact ⟨_, _, _, _, rfl⟩
  · rw [softtimerSntp_idle requesting, softtimerSntp_idle (by exact requesting)]
    exact ⟨_, _, _, _, rfl⟩

theorem SameButTime.testWifi {state other : State} (same : SameButTime state other) :
    SameButTime (testWifi state) (testWifi other) := by
  obtain ⟨statusTimeSync, sntpTime, rtc, answered, rfl⟩ := same
  unfold Pipeline.testWifi
  by_cases reconnecting : state.reconnecting
  · simp only [if_pos reconnecting]
    exact ⟨_, _, _, _, rfl⟩
  · simp only [if_neg reconnecting]
    split <;> split
    · exact ⟨_, _, _, _, rfl⟩
    · rename_i connected not; exact absurd connected not
    · rename_i not connected; exact absurd connected not
    · exact ⟨_, _, _, _, rfl⟩

theorem SameButTime.step {state other next : State} {event : Event} (same : SameButTime state other)
    (notPass : ∀ bufferDownsampling, event ≠ .pass bufferDownsampling)
    (stepped : Pipeline.step state event = some next) :
    ∃ next', Pipeline.step other event = some next' ∧ SameButTime next next' := by
  cases event with
  | pass bufferDownsampling => exact absurd rfl (notPass bufferDownsampling)
  | sendData =>
    obtain ⟨statusTimeSync, sntpTime, rtc, answered, rfl⟩ := same
    cases sendData_sendStep stepped with
    | pend idle posted => exact ⟨_, SendStep.step (.pend idle posted), _, _, _, _, rfl⟩
    | header taken => exact ⟨_, SendStep.step (.header taken), _, _, _, _, rfl⟩
    | wait waiting stopped => exact ⟨_, SendStep.step (.wait waiting stopped), _, _, _, _, rfl⟩
    | poll waiting started => exact ⟨_, SendStep.step (.poll waiting started), _, _, _, _, rfl⟩
    | call calling => exact ⟨_, SendStep.step (.call calling), _, _, _, _, rfl⟩
    | publish publishing => exact ⟨_, SendStep.step (.publish publishing), _, _, _, _, rfl⟩
  | softtimer answer =>
    cases stepped
    obtain ⟨statusTimeSync, sntpTime, rtc, answered, shape⟩ :=
      same.softtimerRssi.softtimerSntp answer
    exact ⟨_, rfl, _, _, _, _, congrArg softtimerCount shape⟩
  | testWifi => cases stepped; exact ⟨_, rfl, same.testWifi⟩
  | wlan | elapse | assign =>
    obtain ⟨statusTimeSync, sntpTime, rtc, answered, rfl⟩ := same
    cases stepped
    exact ⟨_, rfl, _, _, _, _, rfl⟩

theorem Unseen.preserved {state next : State} {event : Event} (unseen : Unseen state)
    (notPass : ∀ bufferDownsampling, event ≠ .pass bufferDownsampling)
    (failing : ¬ Succeeds state event) (stepped : step state event = some next) : Unseen next := by
  obtain ⟨raised, failed⟩ := unseen
  cases event with
  | pass bufferDownsampling => exact absurd rfl (notPass bufferDownsampling)
  | sendData =>
    cases sendData_sendStep stepped with
    | pend | header | wait | poll | call | publish => exact ⟨raised, failed⟩
  | softtimer answer =>
    cases stepped
    -- a request that succeeds is ruled out, one that fails leaves the state unseen again
    by_cases requesting : state.requesting
    · cases answer with
      | none => exact (softtimer_failed requesting).1
      | some stamp => exact absurd ⟨stamp, rfl, requesting⟩ failing
    · exact softtimer_idle requesting answer ⟨raised, failed⟩
  | testWifi =>
    cases stepped
    unfold testWifi
    split
    · exact ⟨raised, failed⟩
    · split <;> exact ⟨raised, failed⟩
  | wlan | elapse | assign => cases stepped; exact ⟨raised, failed⟩

/-- Until a request succeeds, the run with the failed request and the run without it make the
same steps: the guard lets no pass see the difference. -/
theorem unseen_run {events : List Event} {state other result : State} (unseen : Unseen state)
    (same : SameButTime state other) (fresh : Along step Fresh state events)
    (failing : Along step (fun state event => ¬ Succeeds state event) state events)
    (ran : exec step state events = some result) :
    ∃ other', exec step other events = some other' ∧ SameButTime result other' := by
  induction events generalizing state other with
  | nil => cases ran; exact ⟨other, rfl, same⟩
  | cons event events inductionHypothesis =>
    obtain ⟨next, stepped, rest⟩ := Option.bind_eq_some_iff.mp ran
    have notPass : ∀ bufferDownsampling, event ≠ .pass bufferDownsampling := by
      intro bufferDownsampling isPass
      have answered := (fresh.1 bufferDownsampling isPass unseen.1).1
      rw [unseen.2] at answered
      cases answered
    -- both runs make the step, and neither state says how the request went
    obtain ⟨next', stepped', same'⟩ := same.step notPass stepped
    obtain ⟨other', ran', result'⟩ := inductionHypothesis
      (unseen.preserved notPass failing.1 stepped) same' (fresh.2 next stepped)
      (failing.2 next stepped) rest
    exact ⟨other', by rw [exec, stepped']; exact ran', result'⟩

/-! ## When a failure is harmless -/

theorem harmless_iff {events : List Event} {final : State}
    (ran : exec step initial events = some final) :
    Harmless events ↔ Along step Fresh initial events := by
  constructor
  · intro harmless
    exact along_fresh ran (harmless.sound final ran)
  · intro fresh
    constructor
    · rintro before after rest state result rfl reached requesting failing ranAfter
      have later := (fresh.right reached).2 _ rfl
      obtain ⟨unseen, same⟩ := softtimer_failed requesting
      obtain ⟨other, ranOther, _, _, _, _, rfl⟩ :=
        unseen_run unseen same later.left failing ranAfter
      exact ⟨_, ranOther, rfl, rfl⟩
    · intro final' ran'
      exact fresh_sound (.of_exec events fresh ran')

def stamp2019 : UInt64 := 0xE0000000_80000000

theorem not_requesting {state : State} {count : Nat} (cnt : state.cntSofttimerThread = Int64.ofNat count)
    (positive : 0 < count) (small : count < 1800) : ¬ state.requesting := by
  intro requesting
  rw [State.requesting, cnt] at requesting
  have value := congrArg Int64.toInt requesting
  rw [Int64.toInt_mod, Int64.toInt_ofNat_of_lt (by omega)] at value
  have divides : (count : Int).tmod 1800 = 0 := value
  rw [Int.tmod_eq_emod_of_nonneg (Int.natCast_nonneg count)] at divides
  omega

/-- Iterations of `softtimer` without a request, while the WLAN is up. -/
theorem exec_ticks {state : State} {count : Nat} (connected : state.wlanConnected = true)
    (cnt : state.cntSofttimerThread = Int64.ofNat 1) (small : count < 1800) :
    exec step state (List.replicate count (.softtimer none)) =
      some { state with cntSofttimerThread := Int64.ofNat (count + 1) } := by
  induction count with
  | zero =>
    rw [Nat.zero_add, ← cnt]
    rfl
  | succ count inductionHypothesis =>
    have idle : ¬ State.requesting { state with cntSofttimerThread := Int64.ofNat (count + 1) } :=
      not_requesting rfl (Nat.succ_pos count) small
    rw [List.replicate_succ', exec_append, inductionHypothesis (by omega), Option.bind_some]
    have quiet : softtimerRssi { state with cntSofttimerThread := Int64.ofNat (count + 1) } =
        { state with cntSofttimerThread := Int64.ofNat (count + 1) } :=
      if_neg (by simp [testWifiConnection, connected])
    simp only [exec, step, softtimer, quiet, softtimerSntp_idle idle, softtimerCount, Option.bind_some]
    rw [Int64.ofNat_add (count + 1) 1]
    rfl

/-- The first request fails, the next one succeeds, and a pass follows. -/
def requestedAgain : List Event :=
  [.wlan true, .softtimer none] ++ List.replicate 1799 (.softtimer none) ++
    [.softtimer (some stamp2019), .pass silence]

theorem harmless_iff_again : ∃ final, exec step initial requestedAgain = some final ∧
    final.captures = [⟨0, stamp2019, ⟨0, 0⟩, true⟩] ∧ Harmless requestedAgain := by
  obtain ⟨failed, first, connected, cnt, none⟩ : ∃ failed,
      exec step initial [.wlan true, .softtimer none] = some failed ∧ failed.wlanConnected = true ∧
      failed.cntSofttimerThread = Int64.ofNat 1 ∧ failed.captures = [] ∧ failed.inputs = [] :=
    ⟨_, rfl, rfl, rfl, rfl, rfl⟩
  have ticks := exec_ticks connected cnt (show 1799 < 1800 by decide)
  -- 1800 seconds after the first request
  have requesting : State.requesting { failed with cntSofttimerThread := Int64.ofNat (1799 + 1) } :=
    show Int64.ofNat (1799 + 1) % secondsToNtpSync = 0 by decide
  obtain ⟨answered, second, raised, captured⟩ : ∃ answered,
      step { failed with cntSofttimerThread := Int64.ofNat (1799 + 1) } (.softtimer (some stamp2019)) =
        some answered ∧ answered.statusTimeSync ≠ 0 ∧
      answered.captures ++ [⟨answered.passes, answered.sntpTime, clockGettime answered.rtc,
        answered.answered⟩] = [⟨0, stamp2019, ⟨0, 0⟩, true⟩] := by
    have quiet : softtimerRssi { failed with cntSofttimerThread := Int64.ofNat (1799 + 1) } =
        { failed with cntSofttimerThread := Int64.ofNat (1799 + 1) } :=
      if_neg (by simp [testWifiConnection, connected])
    refine ⟨_, rfl, ?_, ?_⟩
    · rw [softtimer, quiet, softtimerSntp_requesting requesting]
      exact timeSyncOn_ne_zero _
    · rw [softtimer, quiet, softtimerSntp_requesting requesting]
      simp [softtimerCount, State.passes, none.1, none.2]
      rfl
  have passed := threadDownsampling_passed silence answered
  have captures := (passed.synchronized.pending raised).2.2.1
  rw [captured] at captures
  have ran : exec step initial requestedAgain = some (threadDownsampling silence answered) := by
    rw [requestedAgain, exec_append, exec_append, first, Option.bind_some, ticks, Option.bind_some,
      exec_cons second]
    rfl
  refine ⟨_, ran, captures, (harmless_iff ran).mpr (along_fresh ran ?_)⟩
  intro capture member
  rw [captures, List.mem_singleton] at member
  subst member
  exact ⟨rfl, by decide⟩

/-- The first request fails and 78 passes follow: the message is posted with the wrapped-around
value of `0 - EPOCH_OFFSET` seconds in nanoseconds. -/
theorem failed_request_is_sent : ∃ final message,
    exec step initial (.softtimer none :: List.replicate 78 (.pass silence)) = some final ∧
      final.posted[0]? = some message ∧ message.p.h.rtcValue = 16237755273709551616 ∧
      ¬ Harmless (.softtimer none :: List.replicate 78 (.pass silence)) := by
  have begin : Reachable step always initial initial := .start
  have failed := begin.next trivial (show step initial (.softtimer none) = some _ from rfl)
  have synchronised := failed.next trivial (show step _ (.pass silence) = some _ from rfl)
  have passed := threadDownsampling_passed silence (softtimer none initial)
  obtain ⟨_, _, log, cleared⟩ := passed.synchronized.pending (by decide)
  obtain ⟨final, ran, reached, _, passes, quiet⟩ := reachable_passes synchronised 77
    fun _ _ _ _ => trivial
  have captures : final.captures = [⟨0, 0, ⟨0, 0⟩, false⟩] :=
    (quiet (cleared.trans (by decide))).2.trans log
  have member : ⟨0, 0, ⟨0, 0⟩, false⟩ ∈ final.captures := by
    rw [captures]
    exact List.mem_singleton.mpr rfl
  have kept := reachable_timeKept reached
  have bound : 0 < final.posted.length := by
    rw [kept.counted.posted, passes, State.passes, passed.inputs]
    decide
  have posted : final.posted[0]? = some final.posted[0] := List.getElem?_eq_getElem bound
  have whole : exec step initial (.softtimer none :: List.replicate 78 (.pass silence)) =
      some final := by
    rw [exec_cons (show step initial (.softtimer none) = some _ from rfl), List.replicate_succ,
      exec_cons (show step _ (.pass silence) = some _ from rfl), ran]
  refine ⟨final, _, whole, posted, ?_, ?_⟩
  · obtain ⟨capture, latest, _, rtc⟩ | ⟨nothing, _⟩ := (kept.posted 0 _ posted).reference
    · have only := latest.mem
      rw [captures] at only
      rw [rtc, List.mem_singleton.mp only]
      decide
    · exact absurd (nothing _ member) (by decide)
  · intro harmless
    cases (harmless.sound final whole _ member).1

end PlhrFirmware.Pipeline
