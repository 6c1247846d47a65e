import BluetoothFramework.Library.OrderedMap
import BluetoothFramework.Uuid.Conversion

/-!
# Data types the IPC layer shares

Byte strings, the maps of BLE data and remote devices. Maps keyed by numbers are ordered
by the numbers. Maps keyed by UUIDs are trees without a promise: the comparison they use
is not an order.
-/

namespace BluetoothFramework

open SearchTree

/-- A `std::string` is its bytes. -/
abbrev ByteString : Type :=
  List UInt8

/-- `std::less<uint16_t>` -/
def lessUint16 (a b : UInt16) : Bool :=
  a < b

/-- `std::less<uint8_t>` -/
def lessUint8 (a b : UInt8) : Bool :=
  a < b

instance : StrictOrder lessUint16 where
  laws := {
    irreflexive := fun a _ => by simp [lessUint16]
    asymmetric := fun a b _ _ less => by
      simp only [lessUint16, decide_eq_true_eq, decide_eq_false_iff_not, UInt16.lt_iff_toNat_lt] at less ⊢
      omega
    transitive := fun a b c _ _ _ less greater => by
      simp only [lessUint16, decide_eq_true_eq, UInt16.lt_iff_toNat_lt] at less greater ⊢
      omega
    separates := fun a b _ _ notLess notGreater => by
      simp only [lessUint16, decide_eq_false_iff_not, UInt16.lt_iff_toNat_lt] at notLess notGreater
      exact UInt16.toNat_inj.mp (by omega) }

instance : StrictOrder lessUint8 where
  laws := {
    irreflexive := fun a _ => by simp [lessUint8]
    asymmetric := fun a b _ _ less => by
      simp only [lessUint8, decide_eq_true_eq, decide_eq_false_iff_not, UInt8.lt_iff_toNat_lt] at less ⊢
      omega
    transitive := fun a b c _ _ _ less greater => by
      simp only [lessUint8, decide_eq_true_eq, UInt8.lt_iff_toNat_lt] at less greater ⊢
      omega
    separates := fun a b _ _ notLess notGreater => by
      simp only [lessUint8, decide_eq_false_iff_not, UInt8.lt_iff_toNat_lt] at notLess notGreater
      exact UInt8.toNat_inj.mp (by omega) }

/-- `std::map<uint16_t, std::string>` -/
abbrev ManufacturerData : Type :=
  OrderedMap lessUint16 ByteString

/-- `std::map<uint8_t, std::string>` -/
abbrev AdvertisingData : Type :=
  OrderedMap lessUint8 ByteString

/-- `std::map<Uuid, std::string>`. The comparison of its keys is not a strict order, so
the tree carries no promise about them. -/
abbrev ServiceData : Type :=
  ColorTree Uuid ByteString

/-- `BtErrCode`, the codes that the modelled functions return. -/
inductive BtErrCode where
  | noError
  | bleAdvDataExceedLimit
deriving DecidableEq, Repr

/-- `BT_NO_ERROR` -/
def btNoError : Int32 := 0

/-- `BT_ERR_INVALID_PARAM` -/
def btErrInvalidParam : Int32 := 401

/-- `BT_ERR_SERVICE_DISCONNECTED` -/
def btErrServiceDisconnected : Int32 := 2900001

/-- `BT_ERR_INVALID_STATE` -/
def btErrInvalidState : Int32 := 2900003

/-- `BT_ERR_OPERATION_BUSY` -/
def btErrOperationBusy : Int32 := 2900011

/-- `BT_ERR_SPP_CONNECT_FAILED` -/
def btErrSppConnectFailed : Int32 := 2900012

/-- `BT_ERR_SPP_IO` -/
def btErrSppIo : Int32 := 2901054

/-- `BT_ERR_INTERNAL_ERROR` -/
def btErrInternalError : Int32 := 2900099

/-- `BT_ERR_GATT_CONNECTION_NOT_ESTABILISHED` -/
def btErrGattConnectionNotEstabilished : Int32 := 2901003

/-- `BT_ERR_INVALID_PARAM_ERROR` -/
def btErrInvalidParamError : Int32 := -1010

/-- `BT_ERR_GATT_CONNECT_STATE_ERROR` -/
def btErrGattConnectStateError : Int32 := -1021

/-- `BT_ERR_ADDRESS_OR_TRANSPORT_ERROR` -/
def btErrAddressOrTransportError : Int32 := -1023

/-- `BT_ERR_DEVICE_HAS_CONNECTED` -/
def btErrDeviceHasConnected : Int32 := -1026

/-- `BT_ERR_OBJECT_NULL` -/
def btErrObjectNull : Int32 := -1030

/-- `BtStatus::BT_SUCCESS` -/
def btSuccess : Int32 := 0

/-- `BtStatus::BT_FAILURE` -/
def btFailure : Int32 := -1

/-- `GATT_SUCCESS` -/
def gattSuccess : Int32 := 0

/-- `GattStatus::GATT_FAILURE` -/
def gattFailure : Int32 := -1

/-- `GattStatus::REQUEST_NOT_SUPPORT` -/
def requestNotSupport : Int32 := -18

/-! ## Remote devices -/

/-- `BTConnectState::CONNECTED` -/
def btConnectStateConnected : Int32 := 1

/-- `BTConnectState::DISCONNECTED` -/
def btConnectStateDisconnected : Int32 := 3

/-- `BT_TRANSPORT_NONE` -/
def btTransportNone : Int32 := -1

/-- `BT_TRANSPORT_BREDR` -/
def btTransportBredr : Int32 := 0

/-- `BT_TRANSPORT_BLE` -/
def btTransportBle : Int32 := 1

/-- `GATT_TRANSPORT_TYPE_LE` -/
def gattTransportTypeLe : UInt8 := 1

/-- `GATT_TRANSPORT_TYPE_CLASSIC` -/
def gattTransportTypeClassic : UInt8 := 2

/-- `ADDRESS_LENGTH` -/
def addressLength : Nat := 17

/-- `ADDRESS_SEPARATOR_UNIT` -/
def addressSeparatorUnit : Nat := 3

/-- What `IsValidBluetoothAddr` asks of the character at an index. -/
def isAddressCharacter (i : Nat) (c : UInt8) : Bool :=
  if i % addressSeparatorUnit < 2 then (0x30 ≤ c && c ≤ 0x39) || (0x41 ≤ c && c ≤ 0x46)
  else c = 0x3A

/-- `BluetoothHost::IsValidBluetoothAddr` -/
def isValidBluetoothAddr (addr : ByteString) : Bool :=
  addr.length = addressLength && addr.zipIdx.all fun character => isAddressCharacter character.2 character.1

/-- `BluetoothRemoteDevice` -/
structure BluetoothRemoteDevice where
  address : ByteString := []
  transport : Int32 := btTransportNone
deriving DecidableEq, Repr

/-- `IsValidBluetoothRemoteDevice` -/
def BluetoothRemoteDevice.isValidBluetoothRemoteDevice (device : BluetoothRemoteDevice) : Bool :=
  isValidBluetoothAddr device.address &&
    (device.transport = btTransportBredr || device.transport = btTransportBle ||
      device.transport = btTransportNone)

end BluetoothFramework
