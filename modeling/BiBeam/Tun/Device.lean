import BiBeam.Lib.Channel

namespace BiBeam

/-- The I/O cases of a device's errors; `TunError` has the one of a malformed packet. -/
inductive DeviceError
  | open_ (text : String)
  | read (text : String)
  | write (text : String)
deriving DecidableEq

/-- The packets the driver took so far, and how it answers the next one after them. -/
structure TunDevice where
  driver : List (List UInt8) → List UInt8 → Except String Nat
  written : List (List UInt8)

def TunDevice.writePacket (device : TunDevice) (buf : List UInt8) : Except DeviceError Nat × TunDevice :=
  match device.driver device.written buf with
  | .ok count => (.ok count, { device with written := device.written ++ [buf] })
  | .error text => (.error (.write text), device)

def defaultChannelBound : Nat := 1024

def boundedPacketChannel : Channel (List UInt8) :=
  Channel.new _ defaultChannelBound

/-- Write a packet if it is accepted and pass over it if not. -/
def TunDevice.egress {ε : Type} (accepts : List UInt8 → Bool) (wrap : DeviceError → ε) (device : TunDevice)
    (buf : List UInt8) : TunDevice × Option ε :=
  if accepts buf then
    match device.writePacket buf with
    | (.ok _, device) => (device, none)
    | (.error error, device) => (device, some (wrap error))
  else
    (device, none)

end BiBeam
