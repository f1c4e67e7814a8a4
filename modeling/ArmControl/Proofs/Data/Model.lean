import ArmControl.Data.Wire
import ArmControl.Proofs.Data.Edits

/-!
# The written form of every type

What is written of a value is read back as that value, and it still is after any edits of its
records, at any depth. `DataType` names the types of the data model, and `DataType.shape` says of
each where its records are, with their fields in order and those among them that may hold nothing.
`edited_values_are_read` is the main theorem. The fields of a variant are an exception, as
`listed_guiding_mode_is_refused` shows: no list of their values is read.
-/

namespace ArmControl

open Codec Fields

/-- Places of fields that have to be there and in whose values there is no record. -/
def plainPlaces (names : List String) : Places := names.map fun name => (name, false, .plain)

/-! ## Modes -/

theorem ReportedMode.codec_sound : ReportedMode.codec.Sound .plain :=
  named_sound fun mode => by cases mode <;> rfl

theorem ControllerMode.codec_sound : ControllerMode.codec.Sound .plain :=
  named_sound fun mode => by cases mode <;> rfl

theorem RobotMode.codec_sound : RobotMode.codec.Sound .plain :=
  named_sound fun mode => by cases mode <;> rfl

theorem GeneratorMode.codec_sound : GeneratorMode.codec.Sound .plain :=
  named_sound fun mode => by cases mode <;> rfl

theorem Realtime.codec_sound : Realtime.codec.Sound .plain :=
  named_sound fun choice => by cases choice <;> rfl

/-! ## States -/

theorem floats_sound (n : Nat) : (floats n).Sound .plain := vector_sound n float_sound.round_trip

namespace Duration

theorem secs_lt (d : Duration) : d.secs < UInt64.size := by
  have := d.isLt
  unfold secs
  omega

theorem subsecNanos_lt (d : Duration) : d.subsecNanos < UInt32.size :=
  Nat.lt_trans (Nat.mod_lt _ (Nat.succ_pos 999999999)) (by decide)

/-- The seconds and the rest make up the duration. -/
theorem secs_subsecNanos (d : Duration) :
    ofNanos? (d.secs * 1000000000 + d.subsecNanos) = some d := by
  have hsum : d.secs * 1000000000 + d.subsecNanos = d.nanos := by
    unfold secs subsecNanos
    omega
  unfold ofNanos?
  rw [hsum, dif_pos d.isLt]

theorem decodeNanos_int {n : Nat} (h : n < UInt32.size) :
    decodeNanos (.int n) = some (UInt32.ofNat n) := if_pos h

theorem decodeParts_int {secs nanos : Nat} (hsecs : secs < UInt64.size)
    (hnanos : nanos < UInt32.size) :
    decodeParts (.int secs) (.int nanos) = ofNanos? (secs * 1000000000 + nanos) := by
  have hparts : ofParts? (UInt64.ofNat secs) (UInt32.ofNat nanos) =
      ofNanos? (secs * 1000000000 + nanos) := by
    unfold ofParts?
    rw [UInt64.toNat_ofNat_of_lt' hsecs, UInt32.toNat_ofNat_of_lt' hnanos]
  unfold decodeParts
  -- The binds are rewritten away, since checking them by `rfl` would unfold the limits.
  rw [word64_decode_int hsecs, decodeNanos_int hnanos, Option.bind_eq_bind, Option.bind_some,
    Option.bind_eq_bind, Option.bind_some, hparts]

theorem codec_decode_record (secs nanos : Tree) :
    codec.decode (.record [("secs", secs), ("nanos", nanos)]) = decodeParts secs nanos := rfl

theorem codec_encode (d : Duration) :
    codec.encode d = .record [("secs", .int d.secs), ("nanos", .int d.subsecNanos)] := rfl

theorem codec_sound : codec.Sound .plain := .plain fun d => by
  rw [codec_encode, codec_decode_record, decodeParts_int d.secs_lt d.subsecNanos_lt,
    secs_subsecNanos]

end Duration

/-- The places of a state. -/
def ArmState.shape : Shape :=
  .record true (plainPlaces
    ["message_id", "time", "o_t_ee", "o_t_ee_d", "f_t_ee", "ee_t_k", "elbow", "elbow_d", "q", "q_d",
      "dq", "dq_d", "tau_j", "tau_j_d", "dtau_j", "tau_ext_hat_filtered", "o_f_ext_hat_k",
      "controller_mode", "robot_mode", "motion_generator_mode", "control_command_success_rate"])

theorem ArmState.codec_sound : ArmState.codec.Sound ArmState.shape := by
  have hfields : ArmState.fields.Shaped _ :=
    .field word64_sound (by decide) <| .field Duration.codec_sound (by decide) <|
    .field (floats_sound 16) (by decide) <| .field (floats_sound 16) (by decide) <|
    .field (floats_sound 16) (by decide) <| .field (floats_sound 16) (by decide) <|
    .field (floats_sound 2) (by decide) <| .field (floats_sound 2) (by decide) <|
    .field (floats_sound 7) (by decide) <| .field (floats_sound 7) (by decide) <|
    .field (floats_sound 7) (by decide) <| .field (floats_sound 7) (by decide) <|
    .field (floats_sound 7) (by decide) <| .field (floats_sound 7) (by decide) <|
    .field (floats_sound 7) (by decide) <| .field (floats_sound 7) (by decide) <|
    .field (floats_sound 6) (by decide) <| .field ReportedMode.codec_sound (by decide) <|
    .field RobotMode.codec_sound (by decide) <| .field GeneratorMode.codec_sound (by decide) <|
    .field float_sound (by decide) .nil
  exact hfields.sound.map fun _ => rfl

/-! ## Commands -/

/-- The places of the motion part of a command. -/
def Motion.shape : Shape :=
  .record true (plainPlaces
    ["mode", "q_c", "dq_c", "o_t_ee_c", "o_dp_ee_c", "elbow_c", "valid_elbow"])

theorem Motion.codec_sound : Motion.codec.Sound Motion.shape :=
  Sound.map (Shaped.sound <|
    .field GeneratorMode.codec_sound (by decide) <| .field (floats_sound 7) (by decide) <|
    .field (floats_sound 7) (by decide) <| .field (floats_sound 16) (by decide) <|
    .field (floats_sound 6) (by decide) <| .field (floats_sound 2) (by decide) <|
    .field bool_sound (by decide) .nil) fun _ => rfl

/-- A record with one field. -/
def soleShape (name : String) : Shape := .record true (plainPlaces [name])

theorem Torques.commandCodec_sound : Torques.commandCodec.Sound (soleShape "tau_j_d") :=
  Sound.map (Shaped.sound <| .field (floats_sound 7) (by decide) .nil) fun _ => rfl

/-- The places of a command; either part may be left out. -/
def Command.shape : Shape :=
  .record true [("message_id", false, .plain), ("motion", true, Motion.shape),
    ("control", true, soleShape "tau_j_d"), ("motion_finished", false, .plain),
    ("last_cycle", false, .plain)]

theorem Command.codec_sound : Command.codec.Sound Command.shape :=
  Sound.map (Shaped.sound <|
    .field word64_sound (by decide) <| .optional Motion.codec_sound rfl (by decide) <|
    .optional Torques.commandCodec_sound rfl (by decide) <| .field bool_sound (by decide) <|
    .field bool_sound (by decide) .nil) fun _ => rfl

/-! ## Torques and targets -/

theorem Torques.codec_sound : Torques.codec.Sound (soleShape "tau_j") :=
  Sound.map (Shaped.sound <| .field (floats_sound 7) (by decide) .nil) fun _ => rfl

theorem jointPositionsCodec_sound : jointPositionsCodec.Sound (soleShape "q") :=
  Sound.map (Shaped.sound <| .field (floats_sound 7) (by decide) .nil) fun _ => rfl

theorem jointVelocitiesCodec_sound : jointVelocitiesCodec.Sound (soleShape "dq") :=
  Sound.map (Shaped.sound <| .field (floats_sound 7) (by decide) .nil) fun _ => rfl

/-- The places of a target of the end effector; the elbow may be left out. -/
def cartesianShape (name : String) : Shape :=
  .record true [(name, false, .plain), ("elbow", true, .plain)]

theorem CartesianPose.codec_sound : CartesianPose.codec.Sound (cartesianShape "o_t_ee") :=
  Sound.map (Shaped.sound <|
    .field (floats_sound 16) (by decide) <| .optional (floats_sound 2) rfl (by decide) .nil)
    fun _ => rfl

theorem CartesianVelocity.codec_sound :
    CartesianVelocity.codec.Sound (cartesianShape "o_dp_ee") :=
  Sound.map (Shaped.sound <|
    .field (floats_sound 6) (by decide) <| .optional (floats_sound 2) rfl (by decide) .nil)
    fun _ => rfl

/-! ## Requests -/

/-- The places of collision thresholds. -/
def CollisionThresholds.shape : Shape :=
  .record true (plainPlaces
    ["lower_torque_acceleration", "upper_torque_acceleration", "lower_torque_nominal",
      "upper_torque_nominal", "lower_force_acceleration", "upper_force_acceleration",
      "lower_force_nominal", "upper_force_nominal"])

theorem CollisionThresholds.codec_sound :
    CollisionThresholds.codec.Sound CollisionThresholds.shape :=
  Sound.map (Shaped.sound <|
    .field (floats_sound 7) (by decide) <| .field (floats_sound 7) (by decide) <|
    .field (floats_sound 7) (by decide) <| .field (floats_sound 7) (by decide) <|
    .field (floats_sound 6) (by decide) <| .field (floats_sound 6) (by decide) <|
    .field (floats_sound 6) (by decide) <| .field (floats_sound 6) (by decide) .nil) fun _ => rfl

/-- The places of a load. -/
def Load.shape : Shape := .record true (plainPlaces ["mass", "f_x_cload", "inertia"])

theorem Load.codec_sound : Load.codec.Sound Load.shape :=
  Sound.map (Shaped.sound <|
    .field float_sound (by decide) <| .field (floats_sound 3) (by decide) <|
    .field (floats_sound 9) (by decide) .nil) fun _ => rfl

/-- The places of what may be moved by hand. -/
def guidingShape (listed : Bool) : Shape := .record listed (plainPlaces ["axes", "elbow"])

theorem guidingCodec_sound : guidingCodec.Sound (guidingShape false) :=
  Sound.map (Shaped.record_sound <|
    .field (vector_sound 6 bool_sound.round_trip) (by decide) <|
    .field bool_sound (by decide) .nil) fun _ => rfl

/-- The payloads of requests that are records. `listed` is about the fields of a variant. -/
def Request.shape (listed : Bool) : Shape :=
  .variant [("SetCollisionBehavior", CollisionThresholds.shape),
    ("SetGuidingMode", guidingShape listed), ("SetLoad", Load.shape)]

/-- No payload is null. -/
theorem Request.write_ne_null (q : Request) : q.write.2 ≠ some .null := by
  cases q <;> exact nofun

theorem Request.read_write (q : Request) : Request.read q.write.1 q.write.2 = some q := by
  cases q with
  | setControllerMode mode =>
      exact congrArg (Option.map _) (ControllerMode.codec_sound.round_trip mode)
  | setCollisionBehavior thresholds =>
      exact congrArg (Option.map _) (CollisionThresholds.codec_sound.round_trip thresholds)
  | setJointImpedance stiffness =>
      exact congrArg (Option.map _) ((floats_sound 7).round_trip stiffness)
  | setCartesianImpedance stiffness =>
      exact congrArg (Option.map _) ((floats_sound 6).round_trip stiffness)
  | setGuidingMode axes elbow =>
      exact congrArg (Option.map _) (guidingCodec_sound.round_trip (axes, elbow))
  | setStiffnessFrame frame =>
      exact congrArg (Option.map _) ((floats_sound 16).round_trip frame)
  | setEndEffectorFrame frame =>
      exact congrArg (Option.map _) ((floats_sound 16).round_trip frame)
  | setLoad load => exact congrArg (Option.map _) (Load.codec_sound.round_trip load)
  | getCartesianLimit id => exact congrArg (Option.map _) (int32_sound.round_trip id)
  | automaticErrorRecovery => rfl

theorem Request.codec_sound : Request.codec.Sound (Request.shape false) :=
  tagged_sound Request.read_write Request.write_ne_null fun name s t t' hpayload hedit => by
    simp only [List.mem_cons, List.not_mem_nil, or_false, Prod.mk.injEq] at hpayload
    obtain ⟨rfl, rfl⟩ | ⟨rfl, rfl⟩ | ⟨rfl, rfl⟩ := hpayload
    · exact congrArg (Option.map _) (CollisionThresholds.codec_sound.edited hedit)
    · exact congrArg (Option.map _) (guidingCodec_sound.edited hedit)
    · exact congrArg (Option.map _) (Load.codec_sound.edited hedit)

/-! ## Responses -/

/-- The places of a wall. -/
def Wall.shape : Shape :=
  .record true (plainPlaces ["id", "active", "object_world_size", "p_frame"])

theorem Wall.codec_sound : Wall.codec.Sound Wall.shape :=
  Sound.map (Shaped.sound <|
    .field int32_sound (by decide) <| .field bool_sound (by decide) <|
    .field (floats_sound 3) (by decide) <| .field (floats_sound 16) (by decide) .nil) fun _ => rfl

/-- The payload of a reply that is a record. -/
def Reply.shape : Shape := .variant [("VirtualWall", Wall.shape)]

theorem Reply.codec_sound : Reply.codec.Sound Reply.shape :=
  tagged_sound
    (fun reply => by
      cases reply with
      | done => rfl
      | wall w => exact congrArg (Option.map _) (Wall.codec_sound.round_trip w))
    (fun reply => by cases reply <;> exact nofun)
    fun name s t t' hpayload hedit => by
      obtain ⟨rfl, rfl⟩ := Prod.mk.inj (List.mem_singleton.mp hpayload)
      exact congrArg (Option.map _) (Wall.codec_sound.edited hedit)

theorem Refusal.codec_sound : Refusal.codec.Sound (.variant []) :=
  tagged_sound (fun reason => by cases reason <;> rfl)
    (fun reason => by cases reason <;> exact nofun) nofun

/-- The payload of a response that holds a record. -/
def Response.shape : Shape := .variant [("Success", Reply.shape)]

theorem Response.codec_sound : Response.codec.Sound Response.shape :=
  tagged_sound
    (fun response => by
      cases response with
      | success reply => exact congrArg (Option.map _) (Reply.codec_sound.round_trip reply)
      | rejected reason => exact congrArg (Option.map _) (Refusal.codec_sound.round_trip reason))
    (fun response => by
      cases response with
      | success reply =>
          exact fun h => Reply.codec_sound.encode_ne_null rfl reply (Option.some.inj h)
      | rejected reason =>
          exact fun h => Refusal.codec_sound.encode_ne_null rfl reason (Option.some.inj h))
    fun name s t t' hpayload hedit => by
      obtain ⟨rfl, rfl⟩ := Prod.mk.inj (List.mem_singleton.mp hpayload)
      exact congrArg (Option.map _) (Reply.codec_sound.edited hedit)

/-! ## Configuration -/

/-- The places of times. -/
def Timing.shape : Shape :=
  .record true (plainPlaces ["control_period_us", "jitter_tolerance_us", "request_timeout_ms"])

theorem Timing.codec_sound : Timing.codec.Sound Timing.shape :=
  Sound.map (Shaped.sound <|
    .defaulted 1000 word64_sound (by decide) <| .defaulted 1000 word64_sound (by decide) <|
    .defaulted 5000 word64_sound (by decide) .nil) fun _ => rfl

/-- The places of settings. -/
def Settings.shape : Shape :=
  .record true [("driver", false, Timing.shape), ("realtime", false, .plain),
    ("enforce_implied_mode", false, .plain)]

theorem Settings.codec_sound : Settings.codec.Sound Settings.shape :=
  Sound.map (Shaped.sound <|
    .defaulted ({} : Timing) Timing.codec_sound (by decide) <|
    .defaulted Realtime.enforce Realtime.codec_sound (by decide) <|
    .defaulted true bool_sound (by decide) .nil) fun _ => rfl

/-! ## The whole data model -/

/-- The types of the data model. -/
inductive DataType
  | reportedMode | controllerMode | robotMode | generatorMode | realtime
  | state | motion | torqueCommand | command
  | torques | jointPositions | jointVelocities | cartesianPose | cartesianVelocity
  | thresholds | load | request | wall | reply | refusal | response
  | timing | settings

namespace DataType

/-- The values of a type. -/
def Value : DataType → Type
  | reportedMode => ReportedMode
  | controllerMode => ControllerMode
  | robotMode => RobotMode
  | generatorMode => GeneratorMode
  | realtime => Realtime
  | state => ArmState
  | motion => Motion
  | torqueCommand => Torques
  | command => Command
  | torques => Torques
  | jointPositions => Joints
  | jointVelocities => Joints
  | cartesianPose => CartesianPose
  | cartesianVelocity => CartesianVelocity
  | thresholds => CollisionThresholds
  | load => Load
  | request => Request
  | wall => Wall
  | reply => Reply
  | refusal => Refusal
  | response => Response
  | timing => Timing
  | settings => Settings

/-- How the values of a type are written and read. -/
def codec : (d : DataType) → Codec d.Value
  | reportedMode => ReportedMode.codec
  | controllerMode => ControllerMode.codec
  | robotMode => RobotMode.codec
  | generatorMode => GeneratorMode.codec
  | realtime => Realtime.codec
  | state => ArmState.codec
  | motion => Motion.codec
  | torqueCommand => Torques.commandCodec
  | command => Command.codec
  | torques => Torques.codec
  | jointPositions => jointPositionsCodec
  | jointVelocities => jointVelocitiesCodec
  | cartesianPose => CartesianPose.codec
  | cartesianVelocity => CartesianVelocity.codec
  | thresholds => CollisionThresholds.codec
  | load => Load.codec
  | request => Request.codec
  | wall => Wall.codec
  | reply => Reply.codec
  | refusal => Refusal.codec
  | response => Response.codec
  | timing => Timing.codec
  | settings => Settings.codec

/-- Where the trees of a type hold records. `listed` says whether the list of its values may stand
for the fields of a variant, as it may for any other record. -/
def shape (listed : Bool) : DataType → Shape
  | reportedMode | controllerMode | robotMode | generatorMode | realtime => .plain
  | state => ArmState.shape
  | motion => Motion.shape
  | torqueCommand => soleShape "tau_j_d"
  | command => Command.shape
  | torques => soleShape "tau_j"
  | jointPositions => soleShape "q"
  | jointVelocities => soleShape "dq"
  | cartesianPose => cartesianShape "o_t_ee"
  | cartesianVelocity => cartesianShape "o_dp_ee"
  | thresholds => CollisionThresholds.shape
  | load => Load.shape
  | request => Request.shape listed
  | wall => Wall.shape
  | reply => Reply.shape
  | refusal => .variant []
  | response => Response.shape
  | timing => Timing.shape
  | settings => Settings.shape

theorem codec_sound (d : DataType) : d.codec.Sound (d.shape false) :=
  match d with
  | reportedMode => ReportedMode.codec_sound
  | controllerMode => ControllerMode.codec_sound
  | robotMode => RobotMode.codec_sound
  | generatorMode => GeneratorMode.codec_sound
  | realtime => Realtime.codec_sound
  | state => ArmState.codec_sound
  | motion => Motion.codec_sound
  | torqueCommand => Torques.commandCodec_sound
  | command => Command.codec_sound
  | torques => Torques.codec_sound
  | jointPositions => jointPositionsCodec_sound
  | jointVelocities => jointVelocitiesCodec_sound
  | cartesianPose => CartesianPose.codec_sound
  | cartesianVelocity => CartesianVelocity.codec_sound
  | thresholds => CollisionThresholds.codec_sound
  | load => Load.codec_sound
  | request => Request.codec_sound
  | wall => Wall.codec_sound
  | reply => Reply.codec_sound
  | refusal => Refusal.codec_sound
  | response => Response.codec_sound
  | timing => Timing.codec_sound
  | settings => Settings.codec_sound

/-- What is written of a value is read as that value, whatever edits its records undergo. -/
theorem edited_values_are_read (d : DataType) (v : d.Value) :
    d.codec.decode (d.codec.encode v) = some v ∧
      ∀ t, Relation.ReflTransGen (Edit (d.shape false)) (d.codec.encode v) t →
        d.codec.decode t = some v := by
  have hread := d.codec_sound.round_trip v
  exact ⟨hread, fun t hedits => (d.codec_sound.edits hedits).symm.trans hread⟩

/-- A command without motion, which is left out, whose torques are listed, two of whose entries
change places and which has one entry more. -/
theorem edited_command_is_read :
    Command.codec.decode (.record [("checksum", .int 7),
      ("control", .list [.list (List.replicate 7 (.float 0))]), ("message_id", .int 1),
      ("motion_finished", .bool false), ("last_cycle", .bool true)]) =
      some { messageId := 1, motion := none, control := some ⟨.replicate 7 0⟩,
             motionFinished := false, lastCycle := true } := by
  refine (edited_values_are_read .command _).2 _ ?_
  let torques : Tree := .list (List.replicate 7 (.float 0))
  let rest : Entries := [("motion_finished", .bool false), ("last_cycle", .bool true)]
  have left_out : Edit Command.shape
      (.record (("message_id", .int 1) :: ("motion", .null) ::
        ("control", .record [("tau_j_d", torques)]) :: rest))
      (.record (("message_id", .int 1) :: ("control", .record [("tau_j_d", torques)]) :: rest)) :=
    .leaveOut [("message_id", .int 1)] _ "motion" Motion.shape rfl (by decide)
  have listed : Edit Command.shape
      (.record (("message_id", .int 1) :: ("control", .record [("tau_j_d", torques)]) :: rest))
      (.record (("message_id", .int 1) :: ("control", .list [torques]) :: rest)) :=
    .entry [("message_id", .int 1)] _ "control" true _ _ _ rfl (.enlist _ rfl)
  have swapped : Edit Command.shape
      (.record (("message_id", .int 1) :: ("control", .list [torques]) :: rest))
      (.record (("control", .list [torques]) :: ("message_id", .int 1) :: rest)) :=
    .permute _ _ (by decide) (.swap _ _ _)
  have added : Edit Command.shape
      (.record (("control", .list [torques]) :: ("message_id", .int 1) :: rest))
      (.record (("checksum", .int 7) :: ("control", .list [torques]) :: ("message_id", .int 1) ::
        rest)) :=
    .add _ _ _ (by decide) (by decide)
  exact .tail (.tail (.tail (.single left_out) listed) swapped) added

/-- The fields of a variant are not read from the list of their values. -/
theorem listed_guiding_mode_is_refused :
    ¬ ∀ (d : DataType) (v : d.Value) (t : Tree),
      Relation.ReflTransGen (Edit (d.shape true)) (d.codec.encode v) t →
        d.codec.decode t = some v := by
  intro h
  have hplace : ("SetGuidingMode", guidingShape true) ∈
      [("SetCollisionBehavior", CollisionThresholds.shape), ("SetGuidingMode", guidingShape true),
        ("SetLoad", Load.shape)] := .tail _ (.head _)
  have hlisted := h .request (.setGuidingMode (.replicate 6 true) false)
    (.record [("SetGuidingMode", .list [.list (List.replicate 6 (.bool true)), .bool false])])
    (.single (.payload _ (guidingShape true) _ _ hplace (.enlist _ rfl)))
  cases hlisted

end DataType

end ArmControl
