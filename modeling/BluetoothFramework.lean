import BluetoothFramework.Library.Runs
import BluetoothFramework.Switch.Module
import BluetoothFramework.Switch.System
import BluetoothFramework.Switch.RequestOrder
import BluetoothFramework.Switch.CachedRequests
import BluetoothFramework.Switch.Timeouts
import BluetoothFramework.Switch.Completions
import BluetoothFramework.Library.OrderedMap
import BluetoothFramework.Library.OrderedSet
import BluetoothFramework.Switch.Draining
import BluetoothFramework.Uuid.Conversion
import BluetoothFramework.Uuid.KeyOrder
import BluetoothFramework.Uuid.KeyListing
import BluetoothFramework.Library.Fifo
import BluetoothFramework.Parcel.Parcel
import BluetoothFramework.Parcel.BleFields
import BluetoothFramework.Parcel.BleScanResult
import BluetoothFramework.Parcel.BleAdvertiserData
import BluetoothFramework.Advertisement.PeripheralDevice
import BluetoothFramework.Advertisement.Structures
import BluetoothFramework.Advertisement.ParseBounds
import BluetoothFramework.Advertisement.AdvertiserData
import BluetoothFramework.Advertisement.Announced
import BluetoothFramework.Advertisement.RoundTrip
import BluetoothFramework.Advertisement.KeptEntries
import BluetoothFramework.Gatt.GattData
import BluetoothFramework.Parcel.GattService
import BluetoothFramework.Library.Exits
import BluetoothFramework.Parcel.GattDepth
import BluetoothFramework.Common.ObjectMap
import BluetoothFramework.Advertisement.TotalBytes
import BluetoothFramework.Advertisement.ObserverMap
import BluetoothFramework.Advertisement.AdvertiserCallbacks
import BluetoothFramework.Library.Hexadecimal
import BluetoothFramework.Uuid.Text
import BluetoothFramework.Parcel.BleScanFilter
import BluetoothFramework.Library.Nodes
import BluetoothFramework.Gatt.Attributes
import BluetoothFramework.Gatt.Server
import BluetoothFramework.Gatt.Answers
import BluetoothFramework.Gatt.PendingRequests
import BluetoothFramework.Gatt.ConnectedDevices
import BluetoothFramework.Gatt.ServiceRemoval
import BluetoothFramework.Gatt.AddedServices
import BluetoothFramework.Gatt.Client
import BluetoothFramework.Gatt.ClientRequests
import BluetoothFramework.Gatt.ClientSession
import BluetoothFramework.Gatt.FailedCalls
import BluetoothFramework.Library.Accounts
import BluetoothFramework.Gatt.ServiceGraph
import BluetoothFramework.Library.Handles
import BluetoothFramework.Socket.Descriptors
import BluetoothFramework.Socket.ClientSocket
import BluetoothFramework.Socket.ServerSocket
import BluetoothFramework.Socket.DescriptorLives
import BluetoothFramework.Socket.WriteLoop
import BluetoothFramework.Switch.NoAutoConnect
import BluetoothFramework.Switch.CallArguments
import BluetoothFramework.Switch.FailedStarts
import BluetoothFramework.Library.Expiry
import BluetoothFramework.CAdapter.AdvAddresses
import BluetoothFramework.Library.Strides
import BluetoothFramework.CAdapter.AddressText
import BluetoothFramework.Host.ProfileRemotes
import BluetoothFramework.CAdapter.GattServer
import BluetoothFramework.CAdapter.GattServerChanges
import BluetoothFramework.CAdapter.ConnectionIds
import BluetoothFramework.CAdapter.ServerSlots
import BluetoothFramework.Library.Places
import BluetoothFramework.CAdapter.AttributeBook
import BluetoothFramework.CAdapter.AttributeHandles
import BluetoothFramework.CAdapter.GattClient
import BluetoothFramework.CAdapter.ClientCallbacks
import BluetoothFramework.Library.Tenants
import BluetoothFramework.CAdapter.Advertising
import BluetoothFramework.CAdapter.AdvertisingSlots
import BluetoothFramework.Library.Mutexes
import BluetoothFramework.Host.Observers
import BluetoothFramework.Host.ObserverLocks
import BluetoothFramework.Host.BleCentralManager
import BluetoothFramework.Host.ScannerRegistration
import BluetoothFramework.Host.ProfileRegistrations
import BluetoothFramework.Host.ServiceLoading
import BluetoothFramework.Host.BatteryObserver
import BluetoothFramework.Napi.AsyncWork
import BluetoothFramework.Napi.Settlement
import BluetoothFramework.Napi.SettlementCauses
import BluetoothFramework.Napi.Subscriptions
import BluetoothFramework.Ipc.Proxy
import BluetoothFramework.Ipc.BleProxies
import BluetoothFramework.Ipc.ProfileProxies
import BluetoothFramework.Ipc.ReportedFailures
import BluetoothFramework.Library.Descents
import BluetoothFramework.Library.Fronts
import BluetoothFramework.Napi.JsValues
import BluetoothFramework.Napi.GattObjects
import BluetoothFramework.Napi.GattParsing
import BluetoothFramework.Napi.GattRoundTrip
import BluetoothFramework.Napi.GattNesting
import BluetoothFramework.Napi.GattLookup
import BluetoothFramework.Napi.AddedObjects
import BluetoothFramework.Napi.SppSockets
import BluetoothFramework.Napi.SppReading
import BluetoothFramework.Ipc.PlainRecords
import BluetoothFramework.Ipc.LimitedRecords
import BluetoothFramework.Napi.GattRequests
import BluetoothFramework.Napi.OwnAnswers
import BluetoothFramework.Library.Meanings
import BluetoothFramework.Napi.OptionalParams
import BluetoothFramework.Napi.Addresses
import BluetoothFramework.Napi.ScanFilters
import BluetoothFramework.Napi.ScanRequests
import BluetoothFramework.Napi.ScanStart
