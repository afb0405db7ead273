import CanGateway.Wire

/-!
# The channel configurations

`can_configs` records, for each CAN channel, what was configured and whether it is open.
-/

namespace CanGateway

inductive CanState where
  | closed
  | opened
  deriving DecidableEq, Repr

structure CanDeviceConfig where
  canId : UInt8
  baudRate : UInt32
  mode : UInt8
  canType : UInt8
  valid : UInt8
  state : CanState
  deriving DecidableEq, Repr

/-- `can_configs`, indexed by the channel. -/
abbrev CanConfigs := UInt8 → CanDeviceConfig

/-- The configuration of one channel replaced. -/
def CanConfigs.set (configs : CanConfigs) (ch : UInt8) (config : CanDeviceConfig) : CanConfigs :=
  fun c => if c = ch then config else configs c

@[simp] theorem CanConfigs.set_self (configs : CanConfigs) (ch : UInt8)
    (config : CanDeviceConfig) : configs.set ch config ch = config := if_pos rfl

theorem CanConfigs.set_other (configs : CanConfigs) (config : CanDeviceConfig) {ch c : UInt8}
    (h : c ≠ ch) : configs.set ch config c = configs c := if_neg h

/-- A channel as `main` leaves it before any request. -/
def initialConfig (id : UInt8) : CanDeviceConfig where
  canId := id
  baudRate := 500000
  mode := zmuavXcanModeLoopback
  canType := initMode
  valid := 1
  state := .closed

end CanGateway
