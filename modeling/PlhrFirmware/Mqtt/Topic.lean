import PlhrFirmware.Lib.Bytes

/-! # The topics of `mqtt_publish`

`mqtt_publish` renders `id_device` in decimal and builds the topic in an array on its stack.
Every copy is checked against the declared size of the array it goes to, so a write that leaves
the array is a `Fault`.  The sizes are those that the code computes with `sizeof`.
-/

namespace PlhrFirmware.Mqtt

open PlhrFirmware.Lib

/-! ## Sizes -/

def defaultIdDevice : List UInt8 := ascii "255"

def topicPubCmdPrefix : List UInt8 := ascii "CC32xx/cmd/d2s/"

def topicPubDataPrefix : List UInt8 := ascii "CC32xx/data/"

/-- `sizeof` of a string literal counts its NUL. -/
def sizeofLiteral (text : List UInt8) : Nat := text.length + 1

def sizeofIdDevice : Nat := 2

/-! ## Publishing -/

inductive PublishType where
  | cmdDefaultId
  | dataDefaultId
  | cmd
  | data
  deriving DecidableEq, Repr

def PublishType.code : PublishType → UInt16
  | .cmdDefaultId => 0
  | .dataDefaultId => 1
  | .cmd => 2
  | .data => 3

/-- The arrays of `mqtt_publish` as it finds them on its stack. -/
structure TopicArrays where
  idDeviceString : Memory sizeofIdDevice
  topicPubCmdDefault : Memory (sizeofLiteral topicPubCmdPrefix + sizeofLiteral defaultIdDevice - 2)
  topicPubDataDefault :
    Memory (sizeofLiteral topicPubDataPrefix + sizeofLiteral defaultIdDevice - 2)
  topicPubCmd : Memory (sizeofLiteral topicPubCmdPrefix + sizeofIdDevice - 2)
  topicPubData : Memory (sizeofLiteral topicPubDataPrefix + sizeofIdDevice - 2)

structure PublishCall where
  topic : List UInt8
  payload : List UInt8
  payloadLen : UInt16
  flags : Nat
  deriving DecidableEq, Repr

def mqttQos0 : Nat := 0

/-- `strcpy` of the fixed part of a topic, then `strcat` of the id. -/
def buildTopic {size : Nat} (topic : Memory size) (fixed id : List UInt8) :
    Except Fault (List UInt8) := do
  let topic ← strcpy topic fixed
  let topic ← strcat topic id
  pure topic.string

/-- The call of `MQTT_IF_Publish` that `mqtt_publish` makes; none for an unknown type. -/
def mqttPublish (arrays : TopicArrays) (idDevice typePublish : UInt16) (payload : List UInt8)
    (len : UInt16) : Except Fault (Option PublishCall) := do
  let idDeviceString ← sprintfD arrays.idDeviceString idDevice.toNat
  let publish (topic : List UInt8) : Option PublishCall := some ⟨topic, payload, len, mqttQos0⟩
  if typePublish = PublishType.cmdDefaultId.code then
    let topic ← buildTopic arrays.topicPubCmdDefault topicPubCmdPrefix defaultIdDevice
    pure (publish topic)
  else if typePublish = PublishType.dataDefaultId.code then
    let topic ← buildTopic arrays.topicPubDataDefault topicPubDataPrefix defaultIdDevice
    pure (publish topic)
  else if typePublish = PublishType.cmd.code then
    let topic ← buildTopic arrays.topicPubCmd topicPubCmdPrefix idDeviceString.string
    pure (publish topic)
  else if typePublish = PublishType.data.code then
    let topic ← buildTopic arrays.topicPubData topicPubDataPrefix idDeviceString.string
    pure (publish topic)
  else
    pure none

/-! ## Overflows -/

/-- The fixed part fits and the id does not: `strcat` is the copy that leaves the array. -/
theorem buildTopic_overflows {size : Nat} (topic : Memory size) {fixed id : List UInt8}
    (text : ∀ byte ∈ fixed, byte ≠ 0) (fits : fixed.length < size)
    (overflows : size ≤ fixed.length + id.length) :
    buildTopic topic fixed id = .error ⟨fixed.length, id.length + 1, size⟩ := by
  obtain ⟨copy, copied, _, length⟩ := @strcpy_string _ topic _ fits text
  have tooLong : size < fixed.length + (id ++ [0]).length := by
    simp only [List.length_append, List.length_singleton]
    omega
  have appended : strcat copy id = .error ⟨fixed.length, id.length + 1, size⟩ := by
    rw [strcat, length, ok_bind, store_overflows tooLong]
    simp
  rw [buildTopic, copied, ok_bind, appended, error_bind]

/-- In an array with room for both and the NUL, the topic is the fixed part and the id. -/
theorem buildTopic_fits {size : Nat} (topic : Memory size) {fixed id : List UInt8}
    (text : ∀ byte ∈ fixed, byte ≠ 0) (idText : ∀ byte ∈ id, byte ≠ 0)
    (fits : fixed.length + id.length < size) : buildTopic topic fixed id = .ok (fixed ++ id) := by
  obtain ⟨copy, copied, string, length⟩ := @strcpy_string _ topic _ (by omega) text
  have room : fixed.length + (id ++ [0]).length ≤ size := by
    simp only [List.length_append, List.length_singleton]
    omega
  have front : copy.toList.take fixed.length = fixed := by
    have start : copy.toList.takeWhile (· ≠ 0) <+: copy.toList := List.takeWhile_prefix _
    rw [← Memory.string, string] at start
    exact (List.prefix_iff_eq_take.mp start).symm
  have all : ∀ byte ∈ fixed ++ id, byte ≠ 0 := by
    intro byte member
    cases List.mem_append.mp member with
    | inl left => exact text byte left
    | inr right => exact idText byte right
  rw [buildTopic, copied, ok_bind, strcat, length, ok_bind, store_fits room, ok_bind]
  -- the id begins over the NUL of the fixed part
  rw [Memory.string, Memory.put_toList _ _ _ room, front, ← List.append_assoc, ← List.append_assoc,
    List.append_assoc, List.takeWhile_append_of_pos (by simpa using all)]
  simp
  rfl

theorem topicPrefix_text :
    (∀ byte ∈ topicPubCmdPrefix, byte ≠ 0) ∧ ∀ byte ∈ topicPubDataPrefix, byte ≠ 0 := by
  have cmd : (0 : UInt8) ∉ topicPubCmdPrefix := by decide
  have data : (0 : UInt8) ∉ topicPubDataPrefix := by decide
  exact ⟨fun byte member zero => cmd (zero ▸ member), fun byte member zero => data (zero ▸ member)⟩

theorem mqttPublish_large_id (arrays : TopicArrays) {idDevice : UInt16} (typePublish : UInt16)
    (payload : List UInt8) (len : UInt16) (large : ¬ idDevice < 10) :
    mqttPublish arrays idDevice typePublish payload len =
      .error ⟨0, (decimal idDevice.toNat).length + 1, sizeofIdDevice⟩ := by
  have digits : ¬ (decimal idDevice.toNat).length ≤ 1 := by
    rw [decimal_length_le_iff _ 1 (by decide)]
    exact large
  have rendered : sprintfD arrays.idDeviceString idDevice.toNat =
      .error ⟨0, (decimal idDevice.toNat).length + 1, sizeofIdDevice⟩ :=
    strcpy_overflows (Nat.lt_of_not_le digits)
  rw [mqttPublish, rendered, error_bind]

/-- The id is one digit, but the array of every topic is too small for its prefix, an id of
any length and the NUL. -/
theorem mqttPublish_known_type (arrays : TopicArrays) {idDevice : UInt16} (type : PublishType)
    (payload : List UInt8) (len : UInt16) (small : idDevice < 10) :
    ∃ fault, mqttPublish arrays idDevice type.code payload len = .error fault := by
  have fits : (decimal idDevice.toNat).length < sizeofIdDevice :=
    Nat.lt_succ_of_le ((decimal_length_le_iff _ 1 (by decide)).mpr small)
  obtain ⟨idString, rendered, string, _⟩ :=
    @strcpy_string _ arrays.idDeviceString _ fits (decimal_text _)
  have positive := decimal_length_pos idDevice.toNat
  rw [← string] at positive
  rw [mqttPublish, sprintfD, rendered, ok_bind]
  -- in every branch the prefix is copied and the id overflows
  cases type with
  | cmdDefaultId =>
    rw [if_pos rfl, buildTopic_overflows _ topicPrefix_text.1 (by decide) (by decide), error_bind]
    exact ⟨_, rfl⟩
  | dataDefaultId =>
    rw [if_neg (by decide), if_pos rfl,
      buildTopic_overflows _ topicPrefix_text.2 (by decide) (by decide), error_bind]
    exact ⟨_, rfl⟩
  | cmd =>
    have full : sizeofLiteral topicPubCmdPrefix + sizeofIdDevice - 2 ≤
        topicPubCmdPrefix.length + idString.string.length := Nat.add_le_add_left positive _
    rw [if_neg (by decide), if_neg (by decide), if_pos rfl,
      buildTopic_overflows _ topicPrefix_text.1 (by decide) full, error_bind]
    exact ⟨_, rfl⟩
  | data =>
    have full : sizeofLiteral topicPubDataPrefix + sizeofIdDevice - 2 ≤
        topicPubDataPrefix.length + idString.string.length := Nat.add_le_add_left positive _
    rw [if_neg (by decide), if_neg (by decide), if_neg (by decide), if_pos rfl,
      buildTopic_overflows _ topicPrefix_text.2 (by decide) full, error_bind]
    exact ⟨_, rfl⟩

theorem mqttPublish_unknown_type (arrays : TopicArrays) {idDevice typePublish : UInt16}
    (payload : List UInt8) (len : UInt16) (small : idDevice < 10)
    (unknown : ∀ type : PublishType, typePublish ≠ type.code) :
    mqttPublish arrays idDevice typePublish payload len = .ok none := by
  have fits : (decimal idDevice.toNat).length < sizeofIdDevice :=
    Nat.lt_succ_of_le ((decimal_length_le_iff _ 1 (by decide)).mpr small)
  obtain ⟨_, rendered, _⟩ := @strcpy_string _ arrays.idDeviceString _ fits (decimal_text _)
  rw [mqttPublish, sprintfD, rendered, ok_bind]
  rw [if_neg (unknown .cmdDefaultId), if_neg (unknown .dataDefaultId), if_neg (unknown .cmd),
    if_neg (unknown .data)]
  rfl

/-! ## When the copies stay in bounds -/

/-- No copy leaves its array, and the topic of a command or data message is its prefix followed
by the digits of the id. -/
def TopicSafe (arrays : TopicArrays) (idDevice typePublish : UInt16) (payload : List UInt8)
    (len : UInt16) : Prop :=
  ∃ call, mqttPublish arrays idDevice typePublish payload len = .ok call ∧
    (typePublish = PublishType.cmd.code → call.map PublishCall.topic =
      some (topicPubCmdPrefix ++ decimal idDevice.toNat)) ∧
    (typePublish = PublishType.data.code → call.map PublishCall.topic =
      some (topicPubDataPrefix ++ decimal idDevice.toNat))

theorem topicSafe_iff (arrays : TopicArrays) (idDevice typePublish : UInt16)
    (payload : List UInt8) (len : UInt16) :
    TopicSafe arrays idDevice typePublish payload len ↔
      idDevice < 10 ∧ ∀ type : PublishType, typePublish ≠ type.code := by
  constructor
  · rintro ⟨call, safe, _⟩
    by_cases small : idDevice < 10
    · refine ⟨small, ?_⟩
      rintro type rfl
      obtain ⟨fault, overflow⟩ := mqttPublish_known_type arrays type payload len small
      rw [overflow] at safe
      cases safe
    · rw [mqttPublish_large_id arrays typePublish payload len small] at safe
      cases safe
  · rintro ⟨small, unknown⟩
    exact ⟨none, mqttPublish_unknown_type arrays payload len small unknown,
      fun known => absurd known (unknown .cmd), fun known => absurd known (unknown .data)⟩

def zeroArrays : TopicArrays :=
  ⟨Vector.replicate _ 0, Vector.replicate _ 0, Vector.replicate _ 0, Vector.replicate _ 0,
    Vector.replicate _ 0⟩

/-- Device 7 publishes a command: the digit and the NUL go to offset 15 of an array of 16. -/
theorem command_topic_overflows :
    mqttPublish zeroArrays 7 PublishType.cmd.code [] 0 = .error ⟨15, 2, 16⟩ ∧
      ¬ TopicSafe zeroArrays 7 PublishType.cmd.code [] 0 := by
  have overflow : mqttPublish zeroArrays 7 PublishType.cmd.code [] 0 = .error ⟨15, 2, 16⟩ := by
    decide
  refine ⟨overflow, ?_⟩
  rintro ⟨call, safe, _⟩
  rw [overflow] at safe
  cases safe

end PlhrFirmware.Mqtt
