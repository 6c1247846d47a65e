import BluetoothFramework.CAdapter.AddressText

/-!
# Addresses in scripts

`IsValidAddress` takes an address with digits of either case, `IsValidBluetoothAddr` of the inner
framework one with capital digits. The first two digits tell whether a random address is static.
-/

namespace BluetoothFramework.Napi

open CAdapter Hexadecimal

/-- `AddressType` -/
def virtualAddress : UInt8 := 1
def realAddress : UInt8 := 2

/-- `RawAddressType`, with `unsetAddress` for `UNSET_RAW_ADDRESS`. -/
def publicAddress : UInt8 := 0
def randomAddress : UInt8 := 1

/-- What `IsValidAddress` asks of the character at an index. -/
def isScriptCharacter (i : Nat) (c : UInt8) : Bool :=
  if i % addressSeparatorUnit < 2 then IsDigit c else c = colon

/-- `IsValidAddress` -/
def isValidAddress (bdaddr : ByteString) : Bool :=
  bdaddr.length = addressLength &&
    bdaddr.zipIdx.all fun character => isScriptCharacter character.2 character.1

/-- `std::from_chars` in base 16 for a `uint8_t`, which `ConvertStrToDigit` expects to take the
whole text. -/
def convertStrToDigit (str : ByteString) : Option UInt8 :=
  let number := str.foldl (fun number c => 16 * number + value c) 0
  if str ≠ [] ∧ str.all (fun c => IsDigit c) = true ∧ number < 256 then some (UInt8.ofNat number) else none

/-- `IsRandomStaticAddress` -/
def isRandomStaticAddress (address : ByteString) : Bool :=
  if !isValidAddress address then false
  else match convertStrToDigit (address.take 2) with
    | none => false
    | some firstByteUint => firstByteUint &&& 0xC0 = 0xC0

end BluetoothFramework.Napi
