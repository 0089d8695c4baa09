import BiBeam.Core.Ids
import BiBeam.Lib.Slice

namespace BiBeam

/-- The failures of reading a response. -/
inductive StunError
  | responseMalformed (text : String)
  | transactionMismatch
deriving DecidableEq

def SocketAddr.new : IpAddr → BitVec 16 → SocketAddr
  | .v4 ip, port => .v4 ip port
  | .v6 ip, port => .v6 ip port 0 0

namespace Stun

def magicCookie : BitVec 32 := 0x2112A442

def messageTypeBindingSuccess : BitVec 16 := 0x0101

def attrXorMappedAddress : BitVec 16 := 0x0020

def stunHeaderLen : Nat := 20

abbrev TxnId := Vector UInt8 12

def cookieBytes : List UInt8 :=
  BigEndian.bytes 4 magicCookie.toNat

/-- The high half of the cookie. -/
def cookiePort : BitVec 16 :=
  BitVec.ofNat 16 (magicCookie.toNat >>> 16)

/-- The big-endian word at an index. Here and below nothing is what comes of an
access outside the bytes. -/
def wordAt (width : Nat) (bytes : List UInt8) (i : Nat) : Option (BitVec (8 * width)) :=
  (Slice.get bytes i (i + width)).map fun digits => BitVec.ofNat (8 * width) (BigEndian.value digits)

/-- The bytes from an index on, each combined with a byte of the mask. -/
def xorAt (value : List UInt8) : Nat → List UInt8 → Option (List UInt8)
  | _, [] => some []
  | i, mask :: rest => do
    let byte ← value[i]?
    let octets ← xorAt value (i + 1) rest
    some ((byte ^^^ mask) :: octets)

def parseHeader (bytes : List UInt8) (expectedTxnId : TxnId) : Option (Except StunError (Nat × List UInt8)) :=
  if bytes.length < stunHeaderLen then
    some (.error (.responseMalformed "buffer shorter than STUN header"))
  else do
    let msgType ← wordAt 2 bytes 0
    if msgType ≠ messageTypeBindingSuccess then
      some (.error (.responseMalformed "message type is not Binding Success"))
    else do
      let msgLen ← wordAt 2 bytes 2
      let cookie ← wordAt 4 bytes 4
      if cookie ≠ magicCookie then
        some (.error (.responseMalformed "magic cookie mismatch"))
      else do
        let txnId ← Slice.get bytes 8 20
        if txnId ≠ expectedTxnId.toList then
          some (.error .transactionMismatch)
        else do
          let body ← Slice.get bytes stunHeaderLen bytes.length
          some (.ok (msgLen.toNat, body))

/-- The scan of the attributes from the cursor on. -/
def findFrom (body : List UInt8) (cursor : Nat) : Option (Except StunError (List UInt8)) :=
  if cursor + 4 ≤ body.length then do
    let attrType ← wordAt 2 body cursor
    let attrLen ← wordAt 2 body (cursor + 2)
    let valueStart := cursor + 4
    let valueEnd := valueStart + attrLen.toNat
    if body.length < valueEnd then
      some (.error (.responseMalformed "attribute extends past body"))
    else if attrType = attrXorMappedAddress then do
      let value ← Slice.get body valueStart valueEnd
      some (.ok value)
    else
      findFrom body (valueEnd + (4 - attrLen.toNat % 4) % 4)
  else
    some (.error (.responseMalformed "XOR-MAPPED-ADDRESS attribute missing"))
termination_by body.length - cursor
decreasing_by omega

def findXorMappedAddress (body : List UInt8) : Option (Except StunError (List UInt8)) :=
  findFrom body 0

def parseXorAddressIpv4 (value : List UInt8) (port : BitVec 16) : Option (Except StunError SocketAddr) :=
  if value.length < 8 then
    some (.error (.responseMalformed "XOR-MAPPED-ADDRESS v4 too short"))
  else do
    let octets ← xorAt value 4 cookieBytes
    some (.ok (.new (.v4 (BitVec.ofNat 32 (BigEndian.value octets))) port))

def parseXorAddressIpv6 (value : List UInt8) (port : BitVec 16) (txnId : TxnId) :
    Option (Except StunError SocketAddr) :=
  if value.length < 20 then
    some (.error (.responseMalformed "XOR-MAPPED-ADDRESS v6 too short"))
  else do
    let cookiePart ← xorAt value 4 cookieBytes
    let txnPart ← xorAt value 8 txnId.toList
    some (.ok (.new (.v6 (BitVec.ofNat 128 (BigEndian.value (cookiePart ++ txnPart)))) port))

def parseXorMappedAddress (value : List UInt8) (txnId : TxnId) : Option (Except StunError SocketAddr) :=
  if value.length < 4 then
    some (.error (.responseMalformed "XOR-MAPPED-ADDRESS too short"))
  else do
    let family ← value[1]?
    let portXored ← wordAt 2 value 2
    let port := portXored ^^^ cookiePort
    if family = 1 then
      parseXorAddressIpv4 value port
    else if family = 2 then
      parseXorAddressIpv6 value port txnId
    else
      some (.error (.responseMalformed "XOR-MAPPED-ADDRESS unknown family"))

def parseBindingResponse (bytes : List UInt8) (expectedTxnId : TxnId) : Option (Except StunError SocketAddr) := do
  match ← parseHeader bytes expectedTxnId with
  | .error error => some (.error error)
  | .ok (headerMsgLen, body) =>
    if body.length < headerMsgLen then
      some (.error (.responseMalformed "body shorter than declared length"))
    else do
      let body ← Slice.get body 0 headerMsgLen
      match ← findXorMappedAddress body with
      | .error error => some (.error error)
      | .ok value => parseXorMappedAddress value expectedTxnId

end Stun

end BiBeam
