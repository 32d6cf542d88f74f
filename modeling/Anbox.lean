import Anbox.Android.IpConfigBuilder
import Anbox.Application.LauncherFiles
import Anbox.Application.LauncherStorage
import Anbox.Audio.AudioDevice
import Anbox.Audio.AudioSink
import Anbox.Audio.DeviceSelection
import Anbox.Audio.PcmLifecycle
import Anbox.Audio.PositionAccounting
import Anbox.Audio.Rerouting
import Anbox.Bridge.ApplicationList
import Anbox.Bridge.LaunchRequest
import Anbox.Bridge.StubCalls
import Anbox.Bridge.StubReturns
import Anbox.Common.ListRefinement
import Anbox.Common.SmallVector
import Anbox.Common.VectorMethods
import Anbox.Common.VectorPrograms
import Anbox.Common.VectorStorage
import Anbox.Dbus.ApplicationManager
import Anbox.Evs.BufferAccounting
import Anbox.Evs.CaptureBuffers
import Anbox.Evs.CaptureInvariants
import Anbox.Evs.FrameAccounting
import Anbox.Evs.FrameSharing
import Anbox.Foundation.ByteFields
import Anbox.Foundation.Counting
import Anbox.Foundation.CyclicSearch
import Anbox.Foundation.Fallible
import Anbox.Foundation.FixedNumerals
import Anbox.Foundation.Footprint
import Anbox.Foundation.Framing
import Anbox.Foundation.HandleLog
import Anbox.Foundation.Interruptible
import Anbox.Foundation.JsonText
import Anbox.Foundation.LastMaximum
import Anbox.Foundation.LowestSlot
import Anbox.Foundation.ObjectMemory
import Anbox.Foundation.OrderedMap
import Anbox.Foundation.Ownership
import Anbox.Foundation.PathResolution
import Anbox.Foundation.RingBuffer
import Anbox.Foundation.Runs
import Anbox.Foundation.ScannedNumber
import Anbox.Foundation.SeparatedText
import Anbox.Foundation.Simulation
import Anbox.Foundation.SlotTable
import Anbox.Foundation.TerminatedText
import Anbox.Foundation.WordBits
import Anbox.Graphics.BufferQueue
import Anbox.Graphics.ColorBufferLedger
import Anbox.Graphics.ColorBufferReferences
import Anbox.Graphics.ConfigChoice
import Anbox.Graphics.ConfigList
import Anbox.Graphics.HandleFreshness
import Anbox.Graphics.LayerComposer
import Anbox.Graphics.ReadBuffer
import Anbox.Graphics.Renderer
import Anbox.Graphics.StreamInput
import Anbox.Graphics.StreamOutput
import Anbox.Graphics.StreamShutdown
import Anbox.Graphics.ThreadCleanup
import Anbox.Input.Device
import Anbox.Json.Reader
import Anbox.Json.Value
import Anbox.Lxc.ConfigurationMessage
import Anbox.Lxc.DeviceNames
import Anbox.Lxc.DeviceNodes
import Anbox.Lxc.EntryLines
import Anbox.Lxc.LxcContainer
import Anbox.Lxc.ManagementApi
import Anbox.Lxc.MountEntries
import Anbox.Lxc.PathNames
import Anbox.Lxc.RestartConfiguration
import Anbox.Lxc.StartEntries
import Anbox.Qemu.AdbMessageProcessor
import Anbox.Qemu.AdbSession
import Anbox.Qemu.AtParser
import Anbox.Qemu.HeaderSize
import Anbox.Qemu.QemudMessageProcessor
import Anbox.Qemud.ChannelNumbers
import Anbox.Qemud.Multiplexing
import Anbox.Qemud.OutgoingPackets
import Anbox.Qemud.SerialPort
import Anbox.Qemud.SerialReception
import Anbox.Qemud.Switchboard
import Anbox.Qemud.SwitchboardRefinement
import Anbox.Rpc.BufferBounds
import Anbox.Rpc.Channel
import Anbox.Rpc.FrameRoundTrip
import Anbox.Rpc.MessageProcessor
import Anbox.Rpc.PendingCallCache
import Anbox.Rpc.SocketConnection
import Anbox.Sdl.TouchSlots
import Anbox.Sdl.TrackingIds
import Anbox.SensorHal.Activation
import Anbox.SensorHal.EventQueue
import Anbox.SensorHal.PayloadConversion
import Anbox.SensorHal.Reporting
import Anbox.SensorHal.SensorTables
import Anbox.SensorHal.TimerLoop
import Anbox.SensorHal.TimerPace
import Anbox.SensorHal.TimerSleep
import Anbox.Utils.EnvironmentFile
import Anbox.Utils.ProgramLookup
import Anbox.Vehicle.ClientSubscriptions
import Anbox.Vehicle.EventDelivery
import Anbox.Vehicle.EventDispatch
import Anbox.Vehicle.LedgerInvariants
import Anbox.Vehicle.PropertyMapping
import Anbox.Vehicle.PropertyStore
import Anbox.Vehicle.PropertyText
import Anbox.Vehicle.PropertyValue
import Anbox.Vehicle.ServedSubscriptions
import Anbox.Vehicle.SetProperty
import Anbox.Vehicle.SubscriptionLedger
import Anbox.Vehicle.SubscriptionRefinement
import Anbox.Vehicle.ValueUpdates
import Anbox.Vehicle.VehicleHalManager
import Anbox.Vis.Bookkeeping
import Anbox.Vis.Completion
import Anbox.Vis.Flattening
import Anbox.Vis.FrameSurvival
import Anbox.Vis.Messages
import Anbox.Vis.RequestMatching
import Anbox.Vis.Requests
import Anbox.Vis.Session
import Anbox.Vis.SingleSubscription
import Anbox.Vis.Subscriptions
import Anbox.Vis.ValueFreshness
import Anbox.Vis.VisClient
import Anbox.Vis.VisVehicleHal
import Anbox.Wm.MultiWindowManager
import Anbox.Wm.NativeWindows
