import BiBeam.Lib.OnesComplement

namespace BiBeam

inductive TunError
  | packet (text : String)
deriving DecidableEq

def tcpMinHeaderLen : Nat := 20

def tcpOptEol : UInt8 := 0

def tcpOptNop : UInt8 := 1

def tcpOptMss : UInt8 := 2

def tcpOptMssLen : UInt8 := 4

def tcpFlagSyn : UInt8 := 2

def tcpFlagsOffset : Nat := 13

def tcpDataOffsetByte : Nat := 12

def tcpChecksumOffset : Nat := 16

def onesComplementAdd (left right : UInt16) : UInt16 :=
  let sum : UInt32 := left.toUInt32 + right.toUInt32
  let folded : UInt32 := (sum &&& (0xffff : UInt32)) + (sum >>> 16)
  folded.toUInt16

def incrementalUpdate (oldCheck oldValue newValue : UInt16) : UInt16 :=
  let part := onesComplementAdd (~~~oldCheck) (~~~oldValue)
  let part := onesComplementAdd part newValue
  ~~~part

/-- The byte at an index of a packet, which the caller has checked to be inside. -/
def byteAt (packet : List UInt8) (i : Nat) : UInt8 :=
  packet.getD i 0

def u16FromBeBytes (high low : UInt8) : UInt16 :=
  UInt16.ofNat (256 * high.toNat + low.toNat)

def highByte (word : UInt16) : UInt8 :=
  UInt8.ofNat (word.toNat / 256)

def lowByte (word : UInt16) : UInt8 :=
  UInt8.ofNat word.toNat

/-- The value and the checksum of an MSS option at the cursor rewritten in place. -/
def rewriteMss (packet : List UInt8) (targetMss : UInt16) (cursor : Nat) : List UInt8 :=
  let currentMss := u16FromBeBytes (byteAt packet (cursor + 2)) (byteAt packet (cursor + 3))
  let oldCheck := u16FromBeBytes (byteAt packet tcpChecksumOffset) (byteAt packet (tcpChecksumOffset + 1))
  let newCheck := incrementalUpdate oldCheck currentMss targetMss
  let packet := packet.set (cursor + 2) (highByte targetMss)
  let packet := packet.set (cursor + 3) (lowByte targetMss)
  let packet := packet.set tcpChecksumOffset (highByte newCheck)
  packet.set (tcpChecksumOffset + 1) (lowByte newCheck)

/-- The walk over the options from the cursor on. -/
def walkOptions (packet : List UInt8) (targetMss : UInt16) (headerLen cursor : Nat) :
    Except TunError Bool × List UInt8 :=
  if cursor < headerLen then
    let kind := byteAt packet cursor
    if kind = tcpOptEol then
      (.ok false, packet)
    else if kind = tcpOptNop then
      walkOptions packet targetMss headerLen (cursor + 1)
    else if headerLen ≤ cursor + 1 then
      (.error (.packet "TCP option missing length byte"), packet)
    else
      let optLen := (byteAt packet (cursor + 1)).toNat
      if optLen < 2 ∨ headerLen < cursor + optLen then
        (.error (.packet s!"TCP option length {optLen} overruns options region"), packet)
      else if kind = tcpOptMss then
        if optLen ≠ tcpOptMssLen.toNat then
          (.error (.packet s!"TCP MSS option has wrong length {optLen}"), packet)
        else
          let currentMss := u16FromBeBytes (byteAt packet (cursor + 2)) (byteAt packet (cursor + 3))
          if currentMss ≤ targetMss then (.ok false, packet) else (.ok true, rewriteMss packet targetMss cursor)
      else
        walkOptions packet targetMss headerLen (cursor + optLen)
  else
    (.ok false, packet)
termination_by headerLen - cursor
decreasing_by all_goals omega

/-- The result of the call and the packet it leaves. -/
def clampTcpMss (packet : List UInt8) (targetMss : UInt16) : Except TunError Bool × List UInt8 :=
  if packet.length < tcpMinHeaderLen then
    (.error (.packet s!"TCP segment too short ({packet.length} < {tcpMinHeaderLen})"), packet)
  else
    let flags := byteAt packet tcpFlagsOffset
    if flags &&& tcpFlagSyn = 0 then
      (.ok false, packet)
    else
      let dataOffsetWords := (byteAt packet tcpDataOffsetByte >>> 4).toNat
      let headerLen := dataOffsetWords * 4
      if headerLen < tcpMinHeaderLen ∨ packet.length < headerLen then
        (.error (.packet s!"TCP data-offset {dataOffsetWords} (= {headerLen} bytes) out of range for segment of {packet.length} bytes"),
          packet)
      else
        walkOptions packet targetMss headerLen tcpMinHeaderLen

end BiBeam
