import BluetoothFramework.Advertisement.Structures
import BluetoothFramework.Library.Folds

/-!
# What the structures of an advertisement announce

`Contents` lists what AD structures contribute to each member of the device. Over a whole
advertisement the members then divide into those that keep the last contribution, those that
collect distinct ones, and those that keep the first for each key. Manufacturer data belongs
to the last kind only while no structure is too short to hold an identifier and data: such a
structure clears it.
-/

namespace BluetoothFramework.BlePeripheralDevice

open Folds

/-- A UUID and the data behind it. -/
def keyed (width : Nat) (convert : List UInt8 → Uuid) (data : ByteString) :
    List (Uuid × ByteString) :=
  if data.length < width then [] else [(convert (data.take width), data.drop width)]

/-- An identifier and the data behind it. -/
def identified : ByteString → List (UInt16 × ByteString)
  | low :: high :: first :: rest => [(low.toUInt16 ||| (high.toUInt16 <<< 8), first :: rest)]
  | _ => []

/-- Contributions to the members of a device, each in order. -/
@[ext] structure Contents where
  flags : List UInt8 := []
  appearances : List UInt16 := []
  txPowers : List Int8 := []
  names : List ByteString := []
  uuids : List Uuid := []
  serviceData : List (Uuid × ByteString) := []
  manufacturers : List (UInt16 × ByteString) := []

/-- Contributions one after another. -/
def Contents.concat (parts : List Contents) : Contents where
  flags := parts.flatMap flags
  appearances := parts.flatMap appearances
  txPowers := parts.flatMap txPowers
  names := parts.flatMap names
  uuids := parts.flatMap uuids
  serviceData := parts.flatMap serviceData
  manufacturers := parts.flatMap manufacturers

/-- What a structure contributes. -/
def contentsOf (frame : Frames.Frame) : Contents :=
  match adKind frame.1 with
  | .name => { names := [frame.2] }
  | .txPower => { txPowers := [(frame.2.headD 0).toInt8] }
  | .appearance => { appearances := [UInt16.ofNat (LittleEndian.decode (frame.2.take 2))] }
  | .flag => { flags := [frame.2.headD 0] }
  | .serviceUuid16 => { uuids := (Frames.chunks bleUuidLen16 frame.2).map uuidOf16 }
  | .serviceUuid32 => { uuids := (Frames.chunks bleUuidLen32 frame.2).map uuidOf32 }
  | .serviceUuid128 => { uuids := (Frames.chunks bleUuidLen128 frame.2).map uuidOf128 }
  | .manufacturer => { manufacturers := identified frame.2 }
  | .serviceData16 => { serviceData := keyed bleUuidLen16 uuidOf16 frame.2 }
  | .serviceData32 => { serviceData := keyed bleUuidLen32 uuidOf32 frame.2 }
  | .serviceData128 => { serviceData := keyed bleUuidLen128 uuidOf128 frame.2 }
  | .other => {}

/-- What structures contribute together. -/
def contents (frames : List Frames.Frame) : Contents :=
  Contents.concat (frames.map contentsOf)

/-- Structures listed part by part contribute part by part. -/
theorem contents_flatMap {α : Type} (parts : List α) (frames : α → List Frames.Frame) :
    contents (parts.flatMap frames) =
      Contents.concat (parts.map fun part => contents (frames part)) := by
  apply Contents.ext <;>
    simp only [contents, Contents.concat, List.map_flatMap, List.flatMap_assoc, List.flatMap_map]

/-- A contribution of all structures is the concatenation of theirs. -/
theorem flatMap_contentsOf {α : Type} (frames : List Frames.Frame) (field : Contents → List α) :
    (frames.map contentsOf).flatMap field = frames.flatMap fun frame => field (contentsOf frame) :=
  List.flatMap_map _ _ _

/-- The structure does not clear the manufacturer data. -/
def KeepsManufacturers (frame : Frames.Frame) : Prop :=
  adKind frame.1 = .manufacturer → 2 < frame.2.length

/-! ## One structure -/

/-- All members after a structure with service UUIDs. -/
theorem receiveUUIDs_eq (width : Nat) (convert : List UInt8 → Uuid) (data : ByteString)
    (device : BlePeripheralDevice) :
    receiveUUIDs width convert data device =
      { device with
        isServiceUUID := device.isServiceUUID || !((Frames.chunks width data).map convert).isEmpty
        serviceUUIDs := ((Frames.chunks width data).map convert).foldl addNew device.serviceUUIDs } := by
  rw [receiveUUIDs]
  induction (Frames.chunks width data).map convert generalizing device with
  | nil => simp
  | cons uuid rest inductionHypothesis =>
    rw [List.foldl_cons, inductionHypothesis]
    simp [setServiceUUID, addNew]

/-- All members after a structure with service data. -/
theorem receiveServiceData_eq (width : Nat) (convert : List UInt8 → Uuid) (data : ByteString)
    (device : BlePeripheralDevice) :
    receiveServiceData width convert data device =
      { device with
        isServiceData := device.isServiceData || !(keyed width convert data).isEmpty
        serviceDataUUIDs :=
          ((keyed width convert data).foldl putNew (device.serviceDataUUIDs, device.serviceData)).1
        serviceData :=
          ((keyed width convert data).foldl putNew (device.serviceDataUUIDs, device.serviceData)).2 } := by
  rw [receiveServiceData, keyed]
  by_cases short : data.length < width
  · simp [short]
  · by_cases known : convert (data.take width) ∈ device.serviceDataUUIDs
    · simp [short, setServiceDataUUID, putNew, known]
    · simp [short, setServiceDataUUID, putNew, known]

/-- Insert data of an identifier that has none. -/
def putManufacturer (map : ManufacturerData) (entry : UInt16 × ByteString) : ManufacturerData :=
  if (map.find entry.1).isNone then map.emplace entry.1 entry.2 else map

/-- All members after a structure with manufacturer data. -/
theorem setManufacturerData_eq (device : BlePeripheralDevice) (data : ByteString) :
    device.setManufacturerData data =
      { device with
        isManufacturerData := !(identified data).isEmpty
        manufacturerData :=
          if (identified data).isEmpty then ∅
          else (identified data).foldl putManufacturer device.manufacturerData } := by
  match data with
  | [] | [_] | [_, _] | _ :: _ :: _ :: _ => rfl

/-- All members after a structure, as functions of what the structure contains. With it a whole
packet can be treated as the contents of its structures, put together in their order. -/
theorem receive_eq (device : BlePeripheralDevice) (frame : Frames.Frame) :
    device.receive frame =
      { device with
        adFlag := (contentsOf frame).flags.foldl (fun _ flag => flag) device.adFlag
        appearance := (contentsOf frame).appearances.foldl (fun _ appearance => appearance) device.appearance
        isAppearance := device.isAppearance || !(contentsOf frame).appearances.isEmpty
        txPower := (contentsOf frame).txPowers.foldl (fun _ txPower => txPower) device.txPower
        isTXPower := device.isTXPower || !(contentsOf frame).txPowers.isEmpty
        name := (contentsOf frame).names.foldl (fun _ name => name) device.name
        isName := device.isName || !(contentsOf frame).names.isEmpty
        serviceUUIDs := (contentsOf frame).uuids.foldl addNew device.serviceUUIDs
        isServiceUUID := device.isServiceUUID || !(contentsOf frame).uuids.isEmpty
        serviceDataUUIDs :=
          ((contentsOf frame).serviceData.foldl putNew (device.serviceDataUUIDs, device.serviceData)).1
        serviceData :=
          ((contentsOf frame).serviceData.foldl putNew (device.serviceDataUUIDs, device.serviceData)).2
        isServiceData := device.isServiceData || !(contentsOf frame).serviceData.isEmpty
        manufacturerData :=
          if adKind frame.1 = .manufacturer ∧ (identified frame.2).isEmpty then ∅
          else (contentsOf frame).manufacturers.foldl putManufacturer device.manufacturerData
        isManufacturerData :=
          if adKind frame.1 = .manufacturer then !(identified frame.2).isEmpty
          else device.isManufacturerData
        advertisingData := device.advertisingData.emplace frame.1 frame.2
        isAdvertisingData := true } := by
  rw [receive, contentsOf]
  cases adKind frame.1 <;>
    simp [addAdvertisingData, setName, setTXPower, setAppearance, setAdFlag, setManufacturerData_eq,
      receiveUUIDs_eq, receiveServiceData_eq]

/-! ## All structures -/

variable (device : BlePeripheralDevice) (frames : List Frames.Frame)

/-- A member that each structure overwrites keeps the last contribution. -/
theorem last_receiveAll {α : Type} (member : BlePeripheralDevice → α) (field : Contents → List α)
    (follows : ∀ device frame, member (device.receive frame) =
      (field (contentsOf frame)).foldl (fun _ value => value) (member device)) :
    member (frames.foldl receive device) =
      ((frames.map contentsOf).flatMap field).getLastD (member device) := by
  rw [flatMap_contentsOf]
  exact foldl_last member receive (fun frame => field (contentsOf frame)) follows frames device

/-- The flags after all structures are those of the last one that has flags, or the old ones.
One pass over the frames keeps the last value of a field. -/
theorem adFlag_receiveAll :
    (frames.foldl receive device).adFlag = (contents frames).flags.getLastD device.adFlag :=
  last_receiveAll device frames adFlag Contents.flags fun _ _ => by rw [receive_eq]

/-- The appearance after all structures is the last that was announced. -/
theorem appearance_receiveAll :
    (frames.foldl receive device).appearance =
      (contents frames).appearances.getLastD device.appearance :=
  last_receiveAll device frames appearance Contents.appearances fun _ _ => by rw [receive_eq]

/-- The power after all structures is the last that was announced. -/
theorem txPower_receiveAll :
    (frames.foldl receive device).txPower = (contents frames).txPowers.getLastD device.txPower :=
  last_receiveAll device frames txPower Contents.txPowers fun _ _ => by rw [receive_eq]

/-- The name after all structures is the last that was announced, be it the short or the full
one. -/
theorem name_receiveAll :
    (frames.foldl receive device).name = (contents frames).names.getLastD device.name :=
  last_receiveAll device frames name Contents.names fun _ _ => by rw [receive_eq]

/-- Each service UUID counts once. -/
theorem serviceUUIDs_receiveAll (fresh : device.serviceUUIDs = []) :
    (frames.foldl receive device).serviceUUIDs = (contents frames).uuids.eraseDups := by
  have followed := foldl_part serviceUUIDs receive (fun frame => (contentsOf frame).uuids) addNew frames
    (fun device frame _ => by rw [receive_eq]) device
  rw [followed, fresh, foldl_addNew, ← flatMap_contentsOf frames Contents.uuids]
  rfl

/-- The first service data of each UUID counts. -/
theorem serviceData_receiveAll (noKeys : device.serviceDataUUIDs = [])
    (noData : device.serviceData = []) :
    FirstValues (contents frames).serviceData (frames.foldl receive device).serviceDataUUIDs
      (frames.foldl receive device).serviceData := by
  have followed := foldl_part (fun device => (device.serviceDataUUIDs, device.serviceData)) receive
    (fun frame => (contentsOf frame).serviceData) putNew frames
    (fun device frame _ => by rw [receive_eq]) device
  obtain ⟨keys, data⟩ := Prod.mk.inj followed
  rw [keys, data, noKeys, noData, ← flatMap_contentsOf frames Contents.serviceData]
  exact firstValues_foldl [] _ ([], []) firstValues_nil

/-- An entry that is put does not replace one with its id. `emplace` leaves the older entry in
its place. -/
theorem find_putManufacturer (map : ManufacturerData) (entry : UInt16 × ByteString) (id : UInt16) :
    (putManufacturer map entry).find id =
      (map.find id).or (if entry.1 = id then some entry else none) := by
  rw [putManufacturer]
  by_cases absent : (map.find entry.1).isNone
  · rw [if_pos absent, SearchTree.OrderedMap.find_emplace]
  · rw [if_neg absent]
    by_cases same : entry.1 = id
    · subst same
      obtain ⟨present, found⟩ := Option.ne_none_iff_exists'.mp (mt Option.isNone_iff_eq_none.mpr absent)
      rw [found, Option.some_or]
    · rw [if_neg same, Option.or_none]

/-- Of the entries that are put one after another the first with an id is found, unless the map
had one before. The induction is on the entries, each by the rule for one. -/
theorem find_foldl_putManufacturer (map : ManufacturerData) (entries : List (UInt16 × ByteString))
    (id : UInt16) :
    (entries.foldl putManufacturer map).find id =
      (map.find id).or (entries.find? fun entry => entry.1 = id) := by
  induction entries generalizing map with
  | nil => rw [List.foldl_nil, List.find?_nil, Option.or_none]
  | cons entry rest inductionHypothesis =>
    rw [List.foldl_cons, inductionHypothesis, find_putManufacturer, Option.or_assoc, List.find?_cons]
    by_cases same : entry.1 = id
    · simp [same]
    · simp [same]

/-- The first manufacturer data of each identifier counts. Later data of the same identifier is
not put over it, and no structure of these frames clears the map. -/
theorem manufacturerData_receiveAll (fresh : device.manufacturerData = ∅)
    (keep : ∀ frame ∈ frames, KeepsManufacturers frame) (id : UInt16) :
    (frames.foldl receive device).manufacturerData.find id =
      (contents frames).manufacturers.find? fun entry => entry.1 = id := by
  have followed := foldl_part manufacturerData receive (fun frame => (contentsOf frame).manufacturers)
    putManufacturer frames
    (fun device frame member => by
      have long : ¬ (adKind frame.1 = .manufacturer ∧ (identified frame.2).isEmpty) := by
        rintro ⟨kind, short⟩
        have enough := keep frame member kind
        match data : frame.2 with
        | [] | [_] | [_, _] => simp [data] at enough
        | _ :: _ :: _ :: _ => simp [data, identified] at short
      rw [receive_eq]
      exact if_neg long) device
  rw [followed, fresh, find_foldl_putManufacturer, SearchTree.OrderedMap.find_empty, Option.none_or,
    ← flatMap_contentsOf frames Contents.manufacturers]
  rfl

end BluetoothFramework.BlePeripheralDevice
