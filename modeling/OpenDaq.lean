import OpenDaq.AccessControl.Manager
import OpenDaq.ComponentTree.InTune
import OpenDaq.ComponentTree.Muting
import OpenDaq.ConfigProtocol.Handshake
import OpenDaq.ConfigProtocol.PropertyNames
import OpenDaq.ConfigProtocol.SignalMirrors
import OpenDaq.Connection.Counters
import OpenDaq.Connection.Notify
import OpenDaq.Device.AllOrNothing
import OpenDaq.EvalValue.Acceptance
import OpenDaq.EvalValue.Clone
import OpenDaq.NativeStreaming.ExclusiveControl
import OpenDaq.NativeStreaming.Framing
import OpenDaq.NativeStreaming.SessionRegistry
import OpenDaq.NativeStreaming.StreamingManager
import OpenDaq.NativeStreaming.Subscriptions
import OpenDaq.CoreTypes.RoundTrip
import OpenDaq.PacketBuffer.Reclaim
import OpenDaq.PacketStreaming.Fidelity
import OpenDaq.PropertyObject.Batches
import OpenDaq.PropertyObject.Writes
import OpenDaq.Reader.Block
import OpenDaq.Reader.Stream
import OpenDaq.Reader.Tail
import OpenDaq.Signal.Descriptors
import OpenDaq.Signal.Views
import OpenDaq.MultiReader.Alignment
import OpenDaq.MultiReader.CommonStart
import OpenDaq.Scheduler.Stopping
import OpenDaq.CoreObjects.Model
import OpenDaq.CoreObjects.Meaning
import OpenDaq.CoreObjects.Laws
import OpenDaq.MultiReader.CommonRate
import OpenDaq.PacketBuffer.Availability
import OpenDaq.Connection.Batches
import OpenDaq.Connection.Gaps
import OpenDaq.WebsocketStreaming.OutputSignal
import OpenDaq.WebsocketStreaming.OutputTime
import OpenDaq.Infra.SortedMap
import OpenDaq.WebsocketStreaming.InputSignal
import OpenDaq.WebsocketStreaming.ConstantSignals
import OpenDaq.WebsocketStreaming.ConstantRuns
import OpenDaq.Streaming.Keys
import OpenDaq.Streaming.Availability
import OpenDaq.Streaming.MirroredSignal
import OpenDaq.Streaming.Subscriptions
import OpenDaq.Streaming.MirroredDescriptors
import OpenDaq.Streaming.Listeners
import OpenDaq.MultiReader.ReferenceDomain
import OpenDaq.MultiReader.EpochOffset
import OpenDaq.MultiReader.EventMerging
import OpenDaq.Reader.History
import OpenDaq.Infra.While
import OpenDaq.Signal.ConstantBounds
import OpenDaq.Reader.StreamRounds
import OpenDaq.Reader.BlockRounds
import OpenDaq.Reader.BlockMemory
import OpenDaq.Reader.Waiting
import OpenDaq.Reader.TailReads
import OpenDaq.Infra.Blocks
import OpenDaq.Reader.BlockAvailability
import OpenDaq.NativeStreaming.ClientSignals
import OpenDaq.NativeStreaming.BatchDelivery
import OpenDaq.Signal.PacketSizes
import OpenDaq.Signal.Reuse
import OpenDaq.Infra.Asking
import OpenDaq.PropertyObject.References
import OpenDaq.ConfigProtocol.FindComponent
import OpenDaq.NativeStreaming.UntrustedPackets
import OpenDaq.NativeStreaming.SafeReception
import OpenDaq.PropertyObject.Conversions
import OpenDaq.PropertyObject.TextValues
import OpenDaq.ConfigServer.RemoteWrites
import OpenDaq.PropertyObject.CoreEvents
import OpenDaq.PropertyObject.UpdatedProperties
import OpenDaq.CoreTypes.Events
import OpenDaq.CoreTypes.Ratios
import OpenDaq.PropertyObject.IndexedReads
import OpenDaq.CoreTypes.JsonLists
import OpenDaq.EvalValue.ArgumentReferences
import OpenDaq.PropertyObject.AddProperty
import OpenDaq.EvalValue.CurrentState
import OpenDaq.PropertyObject.Inheritance
import OpenDaq.EvalValue.Printing
import OpenDaq.ModuleManager.AddressSelection
import OpenDaq.NativeStreaming.StreamingLimits
import OpenDaq.ComponentTree.Attributes
import OpenDaq.ComponentTree.RecursiveSearch
import OpenDaq.ComponentTree.StatusContainer
import OpenDaq.Connection.Order
import OpenDaq.Device.OthersCalls
