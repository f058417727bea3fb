import Gattlib.State
import Gattlib.Library.Transition
import Gattlib.Library.Maps
import Gattlib.Library.Locks
import Gattlib.Library.Deadlock
import Gattlib.Registry
import Gattlib.RegistryFacts
import Gattlib.RegistryMap
import Gattlib.Events
import Gattlib.Effects
import Gattlib.Changes
import Gattlib.Invariants
import Gattlib.StateMachine
import Gattlib.ConnectionSlots
import Gattlib.ConnectionResources
import Gattlib.Attempts
import Gattlib.Scan
import Gattlib.Connection
import Gattlib.Adapters
import Gattlib.Frames
import Gattlib.SystemInvariants
import Gattlib.ScanFacts
import Gattlib.ScanFinality
import Gattlib.ScanEnding
import Gattlib.Lifetime
import Gattlib.Uuids
import Gattlib.Library.Text
import Gattlib.UuidText
import Gattlib.AdapterNames
import Gattlib.DiscoveryCallbacks
import Gattlib.ScannerExclusion
import Gattlib.ScannerLifetime
import Gattlib.Notifications
import Gattlib.Subscriptions
import Gattlib.NotificationFacts
import Gattlib.NotificationKinds
import Gattlib.NotificationOrder
import Gattlib.Client
import Gattlib.ClientContexts
import Gattlib.ClientReconnect
import Gattlib.ClientDisconnect
import Gattlib.LockedCalls
import Gattlib.LockDiscipline
import Gattlib.SignalLocks
import Gattlib.ContextLocks
import Gattlib.LockedEffects
import Gattlib.ScannerShutdown
import Gattlib.ClientDiscovery
import Gattlib.OwningScanner
import Gattlib.PythonNotifications
import Gattlib.DevicePaths
import Gattlib.AddressAgreement
import Gattlib.DeviceReferences
import Gattlib.FailedConnects
import Gattlib.WaitingDisconnect
import Gattlib.BluezObjects
import Gattlib.PrimaryServices
import Gattlib.CharacteristicLookup
import Gattlib.Library.References
import Gattlib.AdvertisementData
import Gattlib.CharacteristicOperations
import Gattlib.ClosingScans
import Gattlib.FailedStarts
import Gattlib.ObjectPaths
import Gattlib.ServiceRanges
import Gattlib.CharacteristicDiscovery
import Gattlib.CharacteristicHandles
import Gattlib.ConnectedContexts
import Gattlib.CustomScans
import Gattlib.ConnectOutcomes
import Gattlib.Library.Bits
import Gattlib.ConnectionOptions
import Gattlib.DbusErrors
import Gattlib.Library.Fields
import Gattlib.AdvertisingNames
import Gattlib.Timeouts
import Gattlib.Library.LetterCase
import Gattlib.UuidKeys
import Gattlib.MainLoopManager
import Gattlib.MainLoop
import Gattlib.DisconnectResult
import Gattlib.TimedScans
import Gattlib.ScanContexts
import Gattlib.ScanVerdicts
import Gattlib.ScanReturns
import Gattlib.ScanAborts
import Gattlib.Library.Buffers
import Gattlib.PathConstruction
import Gattlib.Library.Records
import Gattlib.AttPdus
import Gattlib.PduRoundTrips
import Gattlib.GattDatabase
import Gattlib.Library.Spans
import Gattlib.ServiceOrder
import Gattlib.DatabaseLayout
import Gattlib.DatabaseQueries
import Gattlib.GattServer
import Gattlib.Library.Dialogue
import Gattlib.GattDiscovery
import Gattlib.DiscoveryTermination
import Gattlib.DiscoveryReads
import Gattlib.PrimaryDiscovery
import Gattlib.CharacteristicSearch
import Gattlib.DescriptorSearch
import Gattlib.Library.FirstMatch
import Gattlib.AttributeUpdates
import Gattlib.GattValues
import Gattlib.LongReads
import Gattlib.LongWrites
import Gattlib.ServerRuns
import Gattlib.AccessControl
import Gattlib.AttributeMaps
import Gattlib.HiddenValues
import Gattlib.ValueComparison
import Gattlib.AttEdits
import Gattlib.AttOperations
import Gattlib.AttOrder
import Gattlib.MultipleReads
import Gattlib.AttDialogues
import Gattlib.TransportProcedures
