import BiBeam.Coordinator.InviteAdmission

namespace BiBeam

def fieldPeerId : String := "peer_id"

def fieldIp : String := "ip"

def redactionAuditTarget : String := "bibeam.redaction"

def sentinelDebugShape : String := "<debug-shape>"

/-- A field's value as the visitor gets it: a plain string, or the text of a
value given with % or ?. -/
inductive Recorded
  | str (value : String)
  | debug (text : String)
deriving DecidableEq

structure Field where
  name : String
  value : Recorded
deriving DecidableEq

structure Event where
  target : String
  fields : List Field
deriving DecidableEq

inductive Pii
  | peer (peerId : PeerId)
  | ip (ip : IpAddr)
deriving DecidableEq

/-- How the identifier and address types read a text. -/
structure PiiTexts where
  peerIdFromStr : String → Option PeerId
  ipFromStr : String → Option IpAddr

variable (libs : AdmissionLibs) (texts : PiiTexts) (key : RedactionKey)

def redactPeerId (peerId : PeerId) : String :=
  redactBytes libs key peerId.ulid.toBytes

def redact : Pii → String
  | .peer peerId => redactPeerId libs key peerId
  | .ip ip => redactIp libs key ip

structure AuditVisitor where
  leakedPeerId : Option String
  leakedIp : Option String

namespace AuditVisitor

def recordDebug (visitor : AuditVisitor) (name _value : String) : AuditVisitor :=
  if name = fieldPeerId then { visitor with leakedPeerId := some sentinelDebugShape }
  else if name = fieldIp then { visitor with leakedIp := some sentinelDebugShape }
  else visitor

def recordStr (visitor : AuditVisitor) (name value : String) : AuditVisitor :=
  if name = fieldPeerId then
    match texts.peerIdFromStr value with
    | some parsed => { visitor with leakedPeerId := some (redactPeerId libs key parsed) }
    | none => visitor
  else if name = fieldIp then
    match texts.ipFromStr value with
    | some addr => { visitor with leakedIp := some (redactIp libs key addr) }
    | none => visitor
  else visitor

def record (visitor : AuditVisitor) (field : Field) : AuditVisitor :=
  match field.value with
  | .debug text => visitor.recordDebug field.name text
  | .str value => visitor.recordStr libs texts key field.name value

end AuditVisitor

/-- A warning of the layer, as the macro builds it: the message first. -/
def warnLeak (message name token : String) : Event where
  target := redactionAuditTarget
  fields := [⟨"message", .debug message⟩, ⟨name, .str token⟩]

def warnPeerId (token : String) : Event :=
  warnLeak "raw peer_id leaked into a tracing event; correlate by token" "redacted_peer_id" token

def warnIp (token : String) : Event :=
  warnLeak "raw ip leaked into a tracing event; correlate by token" "redacted_ip" token

/-- The events that the layer emits on an event. -/
def onEvent (event : Event) : List Event :=
  if event.target = redactionAuditTarget then
    []
  else
    let visitor := event.fields.foldl (AuditVisitor.record libs texts key) ⟨none, none⟩
    (visitor.leakedPeerId.map warnPeerId).toList ++ (visitor.leakedIp.map warnIp).toList

end BiBeam
