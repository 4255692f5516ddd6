import OpenDaq.Signal.Descriptors

/-!
# The descriptors of mirrored signals

A mirrored signal remembers its own descriptor and that of its domain signal. The events of the active streaming
change them, and an event is forwarded to the listeners only when it has changed something. An event for the
value signal that brings another domain descriptor changes the domain signal as well.
-/

namespace OpenDaq.MirroredSignals

open Infra Signals

/-- A connection, with the packets that have been enqueued. -/
structure Listener where
  id : Nat
  enqueued : List Packet

structure MirroredSignalBase where
  mirroredDataDescriptor : Option DataDescriptor
  mirroredDomainDataDescriptor : Option DataDescriptor
  /-- What `onGetDescriptor` returns where it does not return the mirrored descriptor. -/
  dataDescriptor : Option (Option DataDescriptor)
  active : Bool
  connections : List Listener

variable (eventPacket : EventPacket) (fails : Nat → Bool)

namespace MirroredSignalBase

variable (s : MirroredSignalBase)

/-- The descriptors that a listener should know. -/
def current : Known := (s.mirroredDataDescriptor, s.mirroredDomainDataDescriptor)

def onGetDescriptor : Option DataDescriptor :=
  s.dataDescriptor.getD s.mirroredDataDescriptor

/-- The signal after an event, whether the event is forwarded, and the event for the mirrored domain signal. -/
def onTriggerEvent :
    MirroredSignalBase × Bool × Option EventPacket :=
  if eventPacket.eventId = .dataDescriptorChanged then
    let parsed := parseDataDescriptorEventPacket eventPacket
    let valueChanged := parsed.valueDescriptorChanged && parsed.newValueDescriptor != s.mirroredDataDescriptor
    let domainChanged :=
      parsed.domainDescriptorChanged && s.mirroredDomainDataDescriptor != parsed.newDomainDescriptor
    ({ s with
        mirroredDataDescriptor := if valueChanged then parsed.newValueDescriptor else s.mirroredDataDescriptor
        mirroredDomainDataDescriptor :=
          if domainChanged then parsed.newDomainDescriptor else s.mirroredDomainDataDescriptor },
      valueChanged || domainChanged,
      if domainChanged then some (dataDescriptorChangedEventPacket parsed.newDomainDescriptor none) else none)
  else (s, true, none)

/-- The loop ends at a port that cannot be notified, when its connection has the packet. -/
def enqueuePacketToConnections (packet : Packet) : List Listener → List Listener
  | [] => []
  | l :: rest =>
    { l with enqueued := l.enqueued ++ [packet] } ::
      if fails l.id then rest else enqueuePacketToConnections packet rest

def sendPacket (packet : Packet) : MirroredSignalBase :=
  if s.active then { s with connections := enqueuePacketToConnections fails packet s.connections } else s

/-- The event that a new listener is told first. -/
def descriptorEvent : EventPacket :=
  dataDescriptorChangedEventPacket (some (Net.descriptorToEventPacketParam s.mirroredDataDescriptor))
    (some (Net.descriptorToEventPacketParam s.mirroredDomainDataDescriptor))

/--
The descriptors are taken from the configuration where they are not known yet. The descriptor that is set in the
domain signal is returned. The event itself is `descriptorEvent` of the signal that results.
-/
def createDataDescriptorChangedEventPacket (domainDescriptor : Option DataDescriptor) :
    MirroredSignalBase × Option (Option DataDescriptor) :=
  let fromConfig := parseDataDescriptorEventPacket (dataDescriptorChangedEventPacket
    (some (Net.descriptorToEventPacketParam s.onGetDescriptor))
    (some (Net.descriptorToEventPacketParam domainDescriptor)))
  if s.mirroredDataDescriptor = none then
    let s' := { s with mirroredDataDescriptor := fromConfig.newValueDescriptor }
    if s.mirroredDomainDataDescriptor = none then
      ({ s' with mirroredDomainDataDescriptor := fromConfig.newDomainDescriptor },
        some fromConfig.newDomainDescriptor)
    else (s', none)
  else (s, none)

/-- A listener is connected. The first one may fail when the signal is to be subscribed. -/
def listenerConnected (domainDescriptor : Option DataDescriptor) (id : Nat)
    (subscribeFails : Bool) : MirroredSignalBase × Option (Option DataDescriptor) :=
  if s.connections.any fun l => l.id = id then (s, none)
  else
    let r := s.createDataDescriptorChangedEventPacket domainDescriptor
    if s.connections.isEmpty && subscribeFails then r
    else ({ r.1 with connections := r.1.connections ++ [⟨id, [.event r.1.descriptorEvent]⟩] }, r.2)

def listenerDisconnected (id : Nat) : MirroredSignalBase :=
  { s with connections := s.connections.filter fun l => l.id ≠ id }

/-- `handleEventPacket` of a streaming, for the signal itself. -/
def handleEventPacket : MirroredSignalBase :=
  let r := s.onTriggerEvent eventPacket
  if r.2.1 then r.1.sendPacket fails (.event eventPacket) else r.1

end MirroredSignalBase

/-- What has been told last about a descriptor. -/
def lastTold (before : Option (Option DataDescriptor)) (eventPacket : EventPacket)
    (param : Option DataDescriptor) : Option (Option DataDescriptor) :=
  if eventPacket.eventId = .dataDescriptorChanged ∧ param.isSome then some (assignedDescriptor param) else before

structure Mirrored where
  value : MirroredSignalBase
  domain : MirroredSignalBase
  /-- The domain signal has been set by `setMirroredDomainSignal`. -/
  hasMirroredDomainSignal : Bool
  /-- The domain descriptor that the events of the value signal have told last. -/
  toldForValue : Option (Option DataDescriptor)
  /-- The descriptor that the events of the domain signal have told last. -/
  toldForDomain : Option (Option DataDescriptor)

namespace Mirrored

variable (m : Mirrored)

def handleValueEvent : Mirrored :=
  { m with
    value := m.value.handleEventPacket eventPacket fails
    domain :=
      match (m.value.onTriggerEvent eventPacket).2.2 with
      | some domainSignalEventPacket =>
        -- nothing is sent to the listeners of the domain signal
        if m.hasMirroredDomainSignal then (m.domain.onTriggerEvent domainSignalEventPacket).1 else m.domain
      | none => m.domain
    toldForValue := lastTold m.toldForValue eventPacket eventPacket.domainDataDescriptor }

def handleDomainEvent : Mirrored :=
  { m with
    domain := m.domain.handleEventPacket eventPacket fails
    toldForDomain := lastTold m.toldForDomain eventPacket eventPacket.dataDescriptor }

def connectValue (id : Nat) (subscribeFails : Bool) : Mirrored :=
  let r := m.value.listenerConnected m.domain.onGetDescriptor id subscribeFails
  { m with
    value := r.1
    domain :=
      match r.2 with
      | some descriptor => { m.domain with mirroredDataDescriptor := descriptor }
      | none => m.domain }

/-- The domain signal has no domain signal itself. -/
def connectDomain (id : Nat) (subscribeFails : Bool) : Mirrored :=
  { m with domain := (m.domain.listenerConnected none id subscribeFails).1 }

end Mirrored

end OpenDaq.MirroredSignals
